import QueryAudit.Document.Checked
import Mathlib.Data.List.Forall2

/-!
# Results of several steps

A result that is put together from several steps, of which each may fail. It is there exactly when
every step has its result, and a failure of all is a failure of one.
-/

namespace QueryAudit

variable {ε α β : Type}

/-! ## Related lists -/

section Related

variable {R : α → β → Prop} {items : List α} {results : List β}

/-- What is related to an item is related to it as one of the results. -/
theorem exists_of_mem_left (h : List.Forall₂ R items results) {item : α} (hitem : item ∈ items) :
    ∃ result ∈ results, R item result := by
  induction h with
  | nil => cases hitem
  | cons hfirst _ ih =>
    rcases List.mem_cons.mp hitem with rfl | hmem
    · exact ⟨_, List.mem_cons_self, hfirst⟩
    · obtain ⟨result, hresult, hrelated⟩ := ih hmem
      exact ⟨result, List.mem_cons_of_mem _ hresult, hrelated⟩

theorem exists_of_mem_right (h : List.Forall₂ R items results) {result : β}
    (hresult : result ∈ results) : ∃ item ∈ items, R item result :=
  exists_of_mem_left h.flip hresult

/-- What is read off related items is the same when it is the same for each two of them. -/
theorem map_eq_map_of_related {γ : Type} (h : List.Forall₂ R items results) {f : α → γ} {g : β → γ}
    (hsame : ∀ item result, R item result → f item = g result) :
    items.map f = results.map g := by
  induction h with
  | nil => rfl
  | cons hfirst _ ih => rw [List.map_cons, List.map_cons, hsame _ _ hfirst, ih]

/-- Two runs over alike items, of which alike ones give what looks the same, give lists that look
the same. -/
theorem map_eq_map_of_runs {γ δ : Type} {R' : α → β → Prop} {items' : List α} {results' : List β}
    (look : α → γ) (halike : items.map look = items'.map look) (h : List.Forall₂ R items results)
    (h' : List.Forall₂ R' items' results') {f : β → δ}
    (hsame : ∀ item result item' result', look item = look item' → R item result →
      R' item' result' → f result = f result') : results.map f = results'.map f := by
  induction h generalizing items' results' with
  | nil =>
    obtain rfl := List.map_eq_nil_iff.mp halike.symm
    cases h'
    rfl
  | cons hfirst _ ih =>
    cases h' with
    | nil => cases halike
    | cons hfirst' hrest' =>
      obtain ⟨hlook, hlooks⟩ := List.cons.inj halike
      rw [List.map_cons, List.map_cons, hsame _ _ _ _ hlook hfirst hfirst', ih hlooks hrest']

/-- A list is related to some list when each of its items is related to something. -/
theorem exists_related_iff :
    (∃ results, List.Forall₂ R items results) ↔ ∀ item ∈ items, ∃ result, R item result := by
  constructor
  · rintro ⟨results, h⟩ item hitem
    obtain ⟨result, -, hresult⟩ := exists_of_mem_left h hitem
    exact ⟨result, hresult⟩
  · intro h
    induction items with
    | nil => exact ⟨[], .nil⟩
    | cons item rest ih =>
      obtain ⟨result, hresult⟩ := h item List.mem_cons_self
      obtain ⟨others, hothers⟩ := ih fun other hother => h other (List.mem_cons_of_mem _ hother)
      exact ⟨result :: others, .cons hresult hothers⟩

end Related

/-! ## Steps that end at the first failure -/

section Except

theorem bind_eq_ok_iff {x : Except ε α} {next : α → Except ε β} {b : β} :
    x >>= next = .ok b ↔ ∃ a, x = .ok a ∧ next a = .ok b := by
  cases x with
  | error e => simp [bind, Except.bind]
  | ok a => simp [bind, Except.bind]

theorem map_eq_ok_iff {f : α → β} {x : Except ε α} {b : β} :
    f <$> x = .ok b ↔ ∃ a, x = .ok a ∧ f a = b := by
  cases x with
  | error e => simp [Functor.map, Except.map]
  | ok a => simp [Functor.map, Except.map]

theorem map_eq_error_iff {f : α → β} {x : Except ε α} {e : ε} :
    f <$> x = .error e ↔ x = .error e := by
  cases x with
  | error e' => simp [Functor.map, Except.map]
  | ok a => simp [Functor.map, Except.map]

theorem exists_map_iff {f : α → β} {x : Except ε α} :
    (∃ b, f <$> x = .ok b) ↔ ∃ a, x = .ok a := by
  simp only [map_eq_ok_iff]
  constructor
  · rintro ⟨_, a, hx, -⟩
    exact ⟨a, hx⟩
  · rintro ⟨a, hx⟩
    exact ⟨_, a, hx, rfl⟩

variable {step : α → Except ε β} {items : List α}

/-- The steps over a list give a list when each item gives an element of it. -/
theorem mapM_eq_ok_iff {results : List β} :
    items.mapM step = .ok results ↔
      List.Forall₂ (fun item result => step item = .ok result) items results := by
  induction items generalizing results with
  | nil =>
    rw [List.mapM_nil, List.forall₂_nil_left_iff]
    exact ⟨fun h => (Except.ok.inj h).symm, fun h => h ▸ rfl⟩
  | cons item rest ih =>
    rw [List.mapM_cons, bind_eq_ok_iff, List.forall₂_cons_left_iff]
    constructor
    · rintro ⟨result, hitem, hrest⟩
      obtain ⟨others, hothers, hresults⟩ := bind_eq_ok_iff.mp hrest
      exact ⟨result, others, hitem, ih.mp hothers, (Except.ok.inj hresults).symm⟩
    · rintro ⟨result, others, hitem, hothers, rfl⟩
      exact ⟨result, hitem, bind_eq_ok_iff.mpr ⟨others, ih.mpr hothers, rfl⟩⟩

theorem exists_mapM_iff :
    (∃ results, items.mapM step = .ok results) ↔
      ∀ item ∈ items, ∃ result, step item = .ok result := by
  simp only [mapM_eq_ok_iff]
  exact exists_related_iff

/-- The failure over a list is that of an item. -/
theorem exists_of_mapM_eq_error {e : ε} (h : items.mapM step = .error e) :
    ∃ item ∈ items, step item = .error e := by
  induction items with
  | nil => cases h
  | cons item rest ih =>
    rw [List.mapM_cons] at h
    cases hitem : step item with
    | error e' =>
      rw [hitem] at h
      exact ⟨item, List.mem_cons_self, by rw [hitem]; exact congrArg _ (Except.error.inj h)⟩
    | ok result =>
      cases hrest : rest.mapM step with
      | ok others =>
        rw [hitem, hrest] at h
        cases h
      | error e' =>
        rw [hitem, hrest] at h
        obtain ⟨other, hother, hfails⟩ := ih (hrest.trans (congrArg _ (Except.error.inj h)))
        exact ⟨other, List.mem_cons_of_mem _ hother, hfails⟩

end Except

/-! ## Checks that are made independently -/

namespace Checked

variable {f : α → β} {x : Checked α} {b : β}

theorem map_eq_ok_iff : f <$> x = .ok b ↔ ∃ a, x = .ok a ∧ f a = b := by
  cases x with
  | ok a => simp
  | bad issues =>
    constructor
    · intro h
      cases h
    · rintro ⟨a, h, -⟩
      cases h

theorem seq_eq_ok_iff {g : Checked (α → β)} :
    g <*> x = .ok b ↔ ∃ f a, g = .ok f ∧ x = .ok a ∧ f a = b := by
  cases g with
  | ok f =>
    cases x with
    | ok a => simp
    | bad issues =>
      constructor
      · intro h
        cases h
      · rintro ⟨f, a, -, h, -⟩
        cases h
  | bad issues =>
    constructor
    · intro h
      cases x <;> cases h
    · rintro ⟨f, a, h, -⟩
      cases h

theorem below_eq_ok_iff {step : Step} {a : α} : below step x = .ok a ↔ x = .ok a := by
  cases x with
  | ok value => exact Iff.rfl
  | bad issues =>
    constructor
    · intro h
      cases h
    · intro h
      cases h

theorem andThen_eq_ok_iff {next : α → Checked β} :
    andThen x next = .ok b ↔ ∃ a, x = .ok a ∧ next a = .ok b := by
  cases x with
  | ok a => simp
  | bad issues =>
    constructor
    · intro h
      cases h
    · rintro ⟨a, h, -⟩
      cases h

/-- The items of a list pass when each of them passes. -/
theorem itemsFrom_eq_ok_iff {check : α → Checked β} {items : List α} {results : List β}
    (start : Nat) :
    itemsFrom check start items = .ok results ↔
      List.Forall₂ (fun item result => check item = .ok result) items results := by
  induction items generalizing start results with
  | nil =>
    rw [itemsFrom, List.forall₂_nil_left_iff]
    exact ⟨fun h => (Checked.ok.inj h).symm, fun h => h ▸ rfl⟩
  | cons item rest ih =>
    rw [itemsFrom, seq_eq_ok_iff, List.forall₂_cons_left_iff]
    constructor
    · rintro ⟨first, others, hfirst, hothers, rfl⟩
      obtain ⟨result, hresult, rfl⟩ := map_eq_ok_iff.mp hfirst
      exact ⟨result, others, below_eq_ok_iff.mp hresult, (ih _).mp hothers, rfl⟩
    · rintro ⟨result, others, hitem, hothers, rfl⟩
      exact ⟨_, others, map_eq_ok_iff.mpr ⟨result, below_eq_ok_iff.mpr hitem, rfl⟩,
        (ih _).mpr hothers, rfl⟩

theorem exists_itemsFrom_iff {check : α → Checked β} {items : List α} (start : Nat) :
    (∃ results, itemsFrom check start items = .ok results) ↔
      ∀ item ∈ items, ∃ result, check item = .ok result := by
  simp only [itemsFrom_eq_ok_iff]
  exact exists_related_iff

end Checked

end QueryAudit
