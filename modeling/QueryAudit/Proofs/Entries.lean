import QueryAudit.Entries
import Mathlib.Data.Finset.Card
import Mathlib.Data.List.Induction

/-!
# The laws of entries

The first value of every key is what looking the key up in the written pairs finds. These lemmas say
which entries are kept, in which place each stands, and how many there are.
-/

namespace QueryAudit.Entries

variable {κ α : Type} [BEq κ]

/-! ## Writing new keys -/

theorem mem_putNew {entries : Entries κ α} {key : κ} {value : α} {entry : κ × α}
    (h : entry ∈ entries.putNew key value) : entry ∈ entries ∨ entry = (key, value) := by
  unfold putNew at h
  split at h
  · exact Or.inl h
  · simpa using h

theorem firsts_append_singleton (pairs : List (κ × α)) (pair : κ × α) :
    firsts (pairs ++ [pair]) = (firsts pairs).putNew pair.1 pair.2 := by
  rw [firsts, List.foldl_append, List.foldl_cons, List.foldl_nil, ← firsts]

/-- The entries are among the pairs that were written. -/
theorem mem_of_mem_firsts {pairs : List (κ × α)} {entry : κ × α} (h : entry ∈ firsts pairs) :
    entry ∈ pairs := by
  induction pairs using List.reverseRecOn with
  | nil => exact h
  | append_singleton pairs pair ih =>
    rw [firsts_append_singleton] at h
    rcases mem_putNew h with hold | rfl
    · exact List.mem_append_left _ (ih hold)
    · simp

/-- The entries with their values changed. -/
abbrev mapValues {β : Type} (change : α → β) (entries : Entries κ α) : Entries κ β :=
  entries.map fun entry => (entry.1, change entry.2)

theorem get?_map {β : Type} (change : α → β) (entries : Entries κ α) (key : κ) :
    get? (entries.map fun entry => (entry.1, change entry.2)) key =
      (entries.get? key).map change := by
  induction entries with
  | nil => rfl
  | cons entry rest ih =>
    rw [get?, get?] at ih
    rw [get?, get?, List.map_cons, List.lookup_cons, List.lookup_cons, ih]
    cases key == entry.1 <;> rfl

/-- What is found has been entered. -/
theorem exists_of_get? {entries : Entries κ α} {key : κ} {value : α}
    (h : entries.get? key = some value) : ∃ entry ∈ entries, key == entry.1 ∧ entry.2 = value := by
  induction entries with
  | nil => cases h
  | cons entry rest ih =>
    rw [get?, List.lookup_cons] at h
    cases hkey : key == entry.1 with
    | true =>
      rw [hkey] at h
      exact ⟨entry, List.mem_cons_self, hkey, Option.some.inj h⟩
    | false =>
      rw [hkey] at h
      obtain ⟨other, hother, hfound⟩ := ih h
      exact ⟨other, List.mem_cons_of_mem _ hother, hfound⟩

theorem mem_put {entries : Entries κ α} {key : κ} {value : α} {entry : κ × α}
    (h : entry ∈ entries.put key value) : entry ∈ entries ∨ entry.2 = value := by
  induction entries with
  | nil =>
    obtain rfl := List.mem_singleton.mp h
    exact Or.inr rfl
  | cons first rest ih =>
    rw [put] at h
    split at h
    · rcases List.mem_cons.mp h with rfl | hrest
      · exact Or.inr rfl
      · exact Or.inl (List.mem_cons_of_mem _ hrest)
    · rcases List.mem_cons.mp h with rfl | hrest
      · exact Or.inl List.mem_cons_self
      · exact (ih hrest).imp_left (List.mem_cons_of_mem _)

section Values

variable {β : Type} {change : α → β}

omit [BEq κ] in
theorem keys_mapValues (entries : Entries κ α) :
    (mapValues change entries).keys = entries.keys := by
  rw [keys, List.map_map]
  rfl

/-! Entries that are the same when their values are changed. -/

theorem exists_get?_of_mapValues_eq {γ : Type} {other : β → γ} {look : α → γ}
    {entries : Entries κ α} {entries' : Entries κ β}
    (h : mapValues look entries = mapValues other entries') {key : κ} {value : α}
    (hvalue : entries.get? key = some value) :
    ∃ value', entries'.get? key = some value' ∧ look value = other value' := by
  have hget := congrArg (get? · key) h
  rw [get?_map, get?_map, hvalue] at hget
  obtain ⟨value', hvalue', hsame⟩ := Option.map_eq_some_iff.mp hget.symm
  exact ⟨value', hvalue', hsame.symm⟩

theorem get?_eq_none_of_mapValues_eq {γ : Type} {other : β → γ} {look : α → γ}
    {entries : Entries κ α} {entries' : Entries κ β}
    (h : mapValues look entries = mapValues other entries') {key : κ}
    (hvalue : entries.get? key = none) : entries'.get? key = none := by
  have hget := congrArg (get? · key) h
  rw [get?_map, get?_map, hvalue] at hget
  exact Option.map_eq_none_iff.mp hget.symm

/-- Changing the values and writing do not get into each other's way. -/
theorem mapValues_put (entries : Entries κ α) (key : κ) (value : α) :
    mapValues change (entries.put key value) =
      (mapValues change entries).put key (change value) := by
  induction entries with
  | nil => rfl
  | cons entry rest ih =>
    rw [mapValues, mapValues] at ih
    cases hkey : entry.1 == key with
    | true => simp [put, hkey]
    | false => simp [put, hkey, ih]

theorem mapValues_ofList (pairs : List (κ × α)) :
    mapValues change (ofList pairs) = ofList (mapValues change pairs) := by
  rw [ofList, ofList, List.foldl_map]
  exact (List.foldl_hom (mapValues change) fun entries pair =>
    (mapValues_put entries pair.1 pair.2).symm).symm

theorem mapValues_update {step : α → α} {changed : β → β}
    (h : ∀ value, change (step value) = changed (change value)) (entries : Entries κ α) (key : κ)
    (start : α) :
    mapValues change (entries.update key start step) =
      (mapValues change entries).update key (change start) changed := by
  rw [update, mapValues_put, h, update, get?_map, Option.getD_map]

theorem mapValues_group (pairs : List (κ × α)) :
    mapValues (List.map change) (group pairs) = group (mapValues change pairs) := by
  rw [group, group, List.foldl_map]
  refine (List.foldl_hom (mapValues (List.map change)) fun entries pair => ?_).symm
  exact (mapValues_update (fun values => by simp) entries pair.1 []).symm

end Values

/-- The values that are written under a key, in order. -/
def valuesAt (pairs : List (κ × α)) (key : κ) : List α :=
  (pairs.filter fun pair => key == pair.1).map Prod.snd

theorem mem_valuesAt {pairs : List (κ × α)} {key : κ} {value : α} :
    value ∈ valuesAt pairs key ↔ ∃ pair ∈ pairs, key == pair.1 ∧ pair.2 = value := by
  simp [valuesAt, and_assoc]

/-! ## Keys that are alike -/

section Alike

variable [EquivBEq κ]

/-- One value is found under alike keys. -/
theorem get?_congr (entries : Entries κ α) {key other : κ} (h : key == other) :
    entries.get? key = entries.get? other := by
  induction entries with
  | nil => rfl
  | cons entry rest ih =>
    rw [get?, get?] at ih
    rw [get?, get?, List.lookup_cons, List.lookup_cons, BEq.congr_left h, ih]

/-- Writing a key changes what is found under it, and nothing else. -/
theorem get?_put (entries : Entries κ α) (key : κ) (value : α) (other : κ) :
    (entries.put key value).get? other =
      if other == key then some value else entries.get? other := by
  induction entries with
  | nil =>
    rw [put, get?, get?, List.lookup_cons, List.lookup_nil]
    cases other == key <;> rfl
  | cons entry rest ih =>
    rw [get?, get?] at ih
    rw [put, get?, get?]
    cases hentry : entry.1 == key with
    | true =>
      rw [if_pos rfl, List.lookup_cons, List.lookup_cons, BEq.congr_right hentry]
      cases other == key <;> rfl
    | false =>
      rw [if_neg Bool.false_ne_true, List.lookup_cons, List.lookup_cons, ih]
      cases hother : other == entry.1 with
      | true =>
        rw [BEq.congr_left hother, hentry]
        rfl
      | false => rfl

theorem get?_update (entries : Entries κ α) (key : κ) (start : α) (change : α → α) (other : κ) :
    (entries.update key start change).get? other =
      if other == key then some (change ((entries.get? key).getD start))
      else entries.get? other :=
  get?_put _ _ _ _

/-- A key that has been written keeps its place, and a new one goes to the end. -/
theorem keys_put (entries : Entries κ α) (key : κ) (value : α) :
    (entries.put key value).keys =
      if (entries.get? key).isSome then entries.keys else entries.keys ++ [key] := by
  induction entries with
  | nil => rfl
  | cons entry rest ih =>
    rw [get?] at ih
    rw [put, get?, List.lookup_cons, BEq.comm (a := key)]
    cases hentry : entry.1 == key with
    | true => rfl
    | false =>
      rw [if_neg Bool.false_ne_true, keys, List.map_cons, ← keys, ih]
      dsimp only
      split <;> rfl

/-- Of the keys that are new before a write those are new after it that are not written. -/
theorem filter_new_put (entries : Entries κ α) (key : κ) (value : α) (keys : List κ) :
    (keys.filter fun other => !((entries.put key value).get? other).isSome) =
      (keys.filter fun other => !(entries.get? other).isSome).filter fun other => !other == key := by
  rw [List.filter_filter]
  refine List.filter_congr fun other _ => ?_
  rw [get?_put]
  cases other == key <;> simp

/-! Writing many pairs one after the other. -/

section Writing

variable {β : Type} (keyOf : β → κ) (start : α) (change : β → α → α)

/-- What is found under a key is what the items with that key have made of it. -/
theorem getD_get?_foldl_update (items : List β) (entries : Entries κ α) (key : κ) :
    ((items.foldl (fun entries item => entries.update (keyOf item) start (change item))
        entries).get? key).getD start =
      (items.filter fun item => key == keyOf item).foldl (fun value item => change item value)
        ((entries.get? key).getD start) := by
  induction items generalizing entries with
  | nil => rfl
  | cons item rest ih =>
    rw [List.foldl_cons, ih, List.filter_cons, get?_update]
    cases hkey : key == keyOf item with
    | true =>
      rw [if_pos rfl, if_pos rfl, List.foldl_cons, get?_congr entries hkey, Option.getD_some]
    | false => rfl

theorem isSome_get?_foldl_update (items : List β) (entries : Entries κ α) (key : κ) :
    ((items.foldl (fun entries item => entries.update (keyOf item) start (change item))
        entries).get? key).isSome =
      ((entries.get? key).isSome || items.any fun item => key == keyOf item) := by
  induction items generalizing entries with
  | nil => simp
  | cons item rest ih =>
    rw [List.foldl_cons, ih, get?_update, List.any_cons]
    cases key == keyOf item <;> simp

/-- Old keys keep their places, and new ones follow in the order of their first items. -/
theorem keys_foldl_update (items : List β) (entries : Entries κ α) :
    (items.foldl (fun entries item => entries.update (keyOf item) start (change item))
        entries).keys =
      entries.keys ++
        ((items.map keyOf).filter fun key => !(entries.get? key).isSome).eraseDups := by
  induction items generalizing entries with
  | nil => simp
  | cons item rest ih =>
    rw [List.foldl_cons, ih, update, filter_new_put, keys_put, List.map_cons, List.filter_cons]
    cases hitem : (entries.get? (keyOf item)).isSome with
    | true =>
      have hother : ∀ key ∈ (rest.map keyOf).filter fun key => !(entries.get? key).isSome,
          (!key == keyOf item) = true := by
        intro key hkey
        cases halike : key == keyOf item with
        | false => rfl
        | true =>
          have hnew := (List.mem_filter.mp hkey).2
          rw [get?_congr entries halike, hitem] at hnew
          cases hnew
      rw [if_pos rfl, Bool.not_true, if_neg Bool.false_ne_true, List.filter_eq_self.mpr hother]
    | false =>
      rw [if_neg Bool.false_ne_true, Bool.not_false, if_pos rfl, List.eraseDups_cons,
        List.append_assoc, List.singleton_append]

end Writing

/-- A group holds the values of its key. -/
theorem getD_get?_group (pairs : List (κ × α)) (key : κ) :
    ((group pairs).get? key).getD [] = valuesAt pairs key := by
  have happend (items : List (κ × α)) (values : List α) :
      items.foldl (fun values item => values ++ [item.2]) values =
        values ++ items.map Prod.snd := by
    induction items generalizing values with
    | nil => simp
    | cons item rest ih => simp [ih]
  rw [group, getD_get?_foldl_update Prod.fst [] fun pair values => values ++ [pair.2], happend]
  rfl

theorem get?_foldl_put (pairs : List (κ × α)) (entries : Entries κ α) (key : κ) :
    (pairs.foldl (fun entries pair => entries.put pair.1 pair.2) entries).get? key =
      (valuesAt pairs key).getLast?.or (entries.get? key) := by
  induction pairs using List.reverseRecOn with
  | nil => rfl
  | append_singleton pairs pair ih =>
    rw [List.foldl_append, List.foldl_cons, List.foldl_nil, get?_put, ih, valuesAt, valuesAt,
      List.filter_append, List.map_append, List.getLast?_append]
    cases hkey : key == pair.1 <;> simp [hkey]

/-- Of the values that are written under a key the last one counts. -/
theorem get?_ofList (pairs : List (κ × α)) (key : κ) :
    (ofList pairs).get? key = (valuesAt pairs key).getLast? := by
  rw [ofList, get?_foldl_put]
  exact Option.or_none

theorem isSome_get?_ofList {pairs : List (κ × α)} {key : κ} :
    ((ofList pairs).get? key).isSome = true ↔ ∃ pair ∈ pairs, key == pair.1 := by
  rw [get?_ofList, Option.isSome_iff_ne_none, ne_eq, List.getLast?_eq_none_iff]
  simp [valuesAt]

/-! No two keys alike. -/

/-- No two keys are alike. -/
def Distinct (entries : Entries κ α) : Prop :=
  entries.keys.Pairwise fun key other => (key == other) = false

/-- A dictionary: no two keys are alike, and all values have the property. -/
structure Dictionary (P : α → Prop) (entries : Entries κ α) : Prop where
  /-- No two keys are alike. -/
  distinct : Distinct entries
  /-- The values have the property. -/
  values : ∀ entry ∈ entries, P entry.2

/-- Where no two keys are alike, an entry is found under its key. -/
theorem Distinct.get?_of_mem {entries : Entries κ α} (h : Distinct entries) {entry : κ × α}
    (hentry : entry ∈ entries) {key : κ} (hkey : key == entry.1) :
    entries.get? key = some entry.2 := by
  rw [get?_congr entries hkey]
  induction entries with
  | nil => cases hentry
  | cons first rest ih =>
    obtain ⟨hfirst, hrest⟩ := List.pairwise_cons.mp h
    rw [get?, List.lookup_cons]
    rcases List.mem_cons.mp hentry with rfl | hmem
    · rw [BEq.rfl]
    · rw [BEq.comm, hfirst entry.1 (List.mem_map_of_mem hmem)]
      exact ih hrest hmem

/-- Where no two keys are alike, the order of the entries does not count. -/
theorem Distinct.get?_of_perm {entries others : Entries κ α} (h : Distinct entries)
    (hperm : entries.Perm others) (key : κ) : others.get? key = entries.get? key := by
  have hothers : Distinct others :=
    ((hperm.map Prod.fst).pairwise_iff fun {key other} hne => by rwa [BEq.comm]).mp h
  cases hfound : others.get? key with
  | some value =>
    obtain ⟨entry, hentry, hkey, rfl⟩ := exists_of_get? hfound
    exact (h.get?_of_mem (hperm.mem_iff.mpr hentry) hkey).symm
  | none =>
    cases hown : entries.get? key with
    | none => rfl
    | some value =>
      obtain ⟨entry, hentry, hkey, rfl⟩ := exists_of_get? hown
      have hother := hothers.get?_of_mem (hperm.mem_iff.mp hentry) hkey
      rw [hfound] at hother
      cases hother

theorem mem_keys_put {entries : Entries κ α} {key other : κ} {value : α}
    (h : other ∈ (entries.put key value).keys) : other ∈ entries.keys ∨ other = key := by
  rw [keys_put] at h
  split at h
  · exact Or.inl h
  · simpa using h

theorem distinct_put {entries : Entries κ α} (h : Distinct entries) (key : κ) (value : α) :
    Distinct (entries.put key value) := by
  rw [Distinct, keys_put]
  split
  · exact h
  · rename_i hnew
    refine List.pairwise_append.mpr ⟨h, List.pairwise_singleton _ _, ?_⟩
    rintro old hold other hother
    obtain rfl := List.mem_singleton.mp hother
    obtain ⟨entry, hentry, rfl⟩ := List.mem_map.mp hold
    cases halike : entry.1 == other with
    | false => rfl
    | true =>
      have hnone := Option.not_isSome_iff_eq_none.mp hnew
      have hbne := List.lookup_eq_none_iff.mp hnone entry hentry
      rw [bne, BEq.comm, halike] at hbne
      cases hbne

/-- Writing a value with the property makes a dictionary of a dictionary. -/
theorem Dictionary.put {P : α → Prop} {entries : Entries κ α} (h : Dictionary P entries) (key : κ)
    {value : α} (hvalue : P value) : Dictionary P (entries.put key value) := by
  refine ⟨distinct_put h.distinct key value, fun entry hentry => ?_⟩
  rcases mem_put hentry with hold | hnew
  · exact h.values entry hold
  · rwa [hnew]

section Writing

variable {β : Type} {keyOf : β → κ} {valueOf : Entries κ α → β → α} (items : List β)
  {entries : Entries κ α}

/-- However the values are found, writing makes no two keys alike. -/
theorem distinct_foldl_put (h : Distinct entries) :
    Distinct (items.foldl (fun entries item => entries.put (keyOf item) (valueOf entries item))
      entries) := by
  induction items generalizing entries with
  | nil => exact h
  | cons item rest ih => exact ih (distinct_put h _ _)

/-- The keys are old ones and those that are written. -/
theorem mem_keys_foldl_put {key : κ}
    (h : key ∈ (items.foldl (fun entries item => entries.put (keyOf item) (valueOf entries item))
      entries).keys) : key ∈ entries.keys ∨ key ∈ items.map keyOf := by
  induction items generalizing entries with
  | nil => exact Or.inl h
  | cons item rest ih =>
    rw [List.map_cons, List.mem_cons]
    rcases ih h with hput | hrest
    · exact (mem_keys_put hput).imp_right Or.inl
    · exact Or.inr (Or.inr hrest)

end Writing

theorem distinct_ofList (pairs : List (κ × α)) : Distinct (ofList pairs) :=
  distinct_foldl_put pairs List.Pairwise.nil

theorem mem_keys_ofList {pairs : List (κ × α)} {key : κ} (h : key ∈ (ofList pairs).keys) :
    key ∈ pairs.map Prod.fst :=
  (mem_keys_foldl_put pairs h).resolve_left List.not_mem_nil

/-- The values are among those that are written. -/
theorem mem_values_of_mem_ofList {pairs : List (κ × α)} {entry : κ × α} (h : entry ∈ ofList pairs) :
    entry.2 ∈ pairs.map Prod.snd := by
  have hfound := (distinct_ofList pairs).get?_of_mem h BEq.rfl
  rw [get?_ofList] at hfound
  obtain ⟨pair, hpair, -, hvalue⟩ := mem_valuesAt.mp (List.mem_of_getLast? hfound)
  exact List.mem_map.mpr ⟨pair, hpair, hvalue⟩

/-- A new key goes to the end. -/
theorem put_of_get?_eq_none {entries : Entries κ α} {key : κ} (h : entries.get? key = none)
    (value : α) : entries.put key value = entries ++ [(key, value)] := by
  induction entries with
  | nil => rfl
  | cons entry rest ih =>
    rw [get?, List.lookup_cons] at h
    cases hkey : key == entry.1 with
    | true => simp [hkey] at h
    | false =>
      rw [hkey] at h
      rw [put, BEq.comm, hkey, if_neg Bool.false_ne_true, ih h, List.cons_append]

/-- Pairs of which no two have alike keys stay as they are written. -/
theorem ofList_eq_self {pairs : List (κ × α)} (h : Distinct pairs) : ofList pairs = pairs := by
  induction pairs using List.reverseRecOn with
  | nil => rfl
  | append_singleton pairs pair ih =>
    rw [Distinct, keys, List.map_append, List.pairwise_append] at h
    obtain ⟨hpairs, -, hnew⟩ := h
    have hold := ih hpairs
    rw [ofList] at hold
    rw [ofList, List.foldl_append, hold, List.foldl_cons, List.foldl_nil]
    refine put_of_get?_eq_none ?_ pair.2
    refine List.lookup_eq_none_iff.mpr fun other hother => ?_
    have hne := hnew other.1 (List.mem_map_of_mem hother) pair.1 (by simp)
    rw [bne, BEq.comm, hne]
    rfl

end Alike

variable [LawfulBEq κ]

/-- A key is found when it has been written. -/
theorem isSome_get?_iff {entries : Entries κ α} {key : κ} :
    (entries.get? key).isSome = true ↔ key ∈ entries.keys := by
  rw [get?, List.lookup_isSome_iff, keys, List.mem_map]
  constructor
  · rintro ⟨entry, hmem, hkey⟩
    exact ⟨entry, hmem, (eq_of_beq hkey).symm⟩
  · rintro ⟨entry, hmem, rfl⟩
    exact ⟨entry, hmem, beq_self_eq_true _⟩

/-- A new key is one more key. -/
theorem length_put_of_get?_eq_none {entries : Entries κ α} {key : κ}
    (h : entries.get? key = none) (value : α) :
    (entries.put key value).length = entries.length + 1 := by
  rw [put_of_get?_eq_none h, List.length_append, List.length_singleton]

theorem putNew_of_mem {entries : Entries κ α} {key : κ} (value : α) (h : key ∈ entries.keys) :
    entries.putNew key value = entries := by
  rw [putNew, if_pos (isSome_get?_iff.mpr h)]

theorem putNew_of_not_mem {entries : Entries κ α} {key : κ} (value : α) (h : key ∉ entries.keys) :
    entries.putNew key value = entries ++ [(key, value)] := by
  rw [putNew, if_neg (mt isSome_get?_iff.mp h)]

/-- A key that has been written is found, and what was found before is found still. -/
theorem mem_keys_putNew {entries : Entries κ α} {key other : κ} {value : α} :
    other ∈ (entries.putNew key value).keys ↔ other ∈ entries.keys ∨ other = key := by
  by_cases h : key ∈ entries.keys
  · rw [putNew_of_mem value h]
    constructor
    · exact Or.inl
    · rintro (hother | rfl)
      · exact hother
      · exact h
  · rw [putNew_of_not_mem value h]
    simp [keys]

/-- Every key that was written is found. -/
theorem mem_keys_firsts {pairs : List (κ × α)} {key : κ} :
    key ∈ (firsts pairs).keys ↔ key ∈ pairs.map Prod.fst := by
  induction pairs using List.reverseRecOn with
  | nil => exact Iff.rfl
  | append_singleton pairs pair ih =>
    rw [firsts_append_singleton, mem_keys_putNew, ih]
    simp

theorem firsts_append_singleton_of_mem {pairs : List (κ × α)} {pair : κ × α}
    (h : pair.1 ∈ pairs.map Prod.fst) : firsts (pairs ++ [pair]) = firsts pairs := by
  rw [firsts_append_singleton, putNew_of_mem _ (mem_keys_firsts.mpr h)]

theorem firsts_append_singleton_of_not_mem {pairs : List (κ × α)} {pair : κ × α}
    (h : pair.1 ∉ pairs.map Prod.fst) : firsts (pairs ++ [pair]) = firsts pairs ++ [pair] := by
  rw [firsts_append_singleton, putNew_of_not_mem _ (mt mem_keys_firsts.mp h)]

/-! ## One entry for each key -/

/-- A key is not entered a second time. -/
theorem nodup_keys_putNew {entries : Entries κ α} (h : entries.keys.Nodup) (key : κ) (value : α) :
    (entries.putNew key value).keys.Nodup := by
  by_cases hkey : key ∈ entries.keys
  · rwa [putNew_of_mem value hkey]
  · rw [putNew_of_not_mem value hkey, keys, List.map_append, List.map_singleton]
    exact List.nodup_append'.mpr
      ⟨h, List.nodup_singleton _, List.disjoint_singleton.mpr hkey⟩

theorem nodup_keys_firsts (pairs : List (κ × α)) : (firsts pairs).keys.Nodup := by
  induction pairs using List.reverseRecOn with
  | nil => exact List.nodup_nil
  | append_singleton pairs pair ih =>
    rw [firsts_append_singleton]
    exact nodup_keys_putNew ih pair.1 pair.2

/-- The keys stand in the order in which they were first written. -/
theorem keys_firsts (pairs : List (κ × α)) :
    (firsts pairs).keys = (pairs.map Prod.fst).eraseDups := by
  induction pairs using List.reverseRecOn with
  | nil => rfl
  | append_singleton pairs pair ih =>
    rw [List.map_append, List.map_singleton, List.eraseDups_append, ← ih]
    by_cases h : pair.1 ∈ pairs.map Prod.fst
    · have hold : [pair.1].removeAll (pairs.map Prod.fst) = [] := by simpa [List.removeAll] using h
      rw [firsts_append_singleton_of_mem h, hold, List.eraseDups_nil, List.append_nil]
    · have hnew : [pair.1].removeAll (pairs.map Prod.fst) = [pair.1] := by
        simpa [List.removeAll] using h
      rw [firsts_append_singleton_of_not_mem h, hnew, keys, List.map_append]
      rfl

/-- Pairs of which no two have one key are all kept. -/
theorem firsts_eq_self {pairs : List (κ × α)} (h : (pairs.map Prod.fst).Nodup) :
    firsts pairs = pairs := by
  induction pairs using List.reverseRecOn with
  | nil => rfl
  | append_singleton pairs pair ih =>
    rw [List.map_append, List.nodup_append'] at h
    obtain ⟨hpairs, -, hnew⟩ := h
    rw [firsts_append_singleton_of_not_mem (List.disjoint_singleton.mp hnew), ih hpairs]

/-- A search by key finds any element with that key when no other has it. -/
theorem find?_key_eq_some_iff {key : α → κ} {elements : List α}
    (h : (elements.map key).Nodup) {k : κ} {x : α} :
    (elements.find? fun y => key y == k) = some x ↔ x ∈ elements ∧ key x = k := by
  constructor
  · intro hfind
    have hkey := List.find?_some hfind
    exact ⟨List.mem_of_find?_eq_some hfind, eq_of_beq hkey⟩
  · rintro ⟨hmem, rfl⟩
    cases hfind : elements.find? fun y => key y == key x with
    | none => simpa using List.find?_eq_none.mp hfind x hmem
    | some y =>
      have hkey := List.find?_some hfind
      rw [List.inj_on_of_nodup_map h (List.mem_of_find?_eq_some hfind) hmem (eq_of_beq hkey)]

/-- Where every key has one entry, a value is found exactly when it is entered. -/
theorem get?_eq_some_iff {entries : Entries κ α} (h : entries.keys.Nodup) {key : κ} {value : α} :
    entries.get? key = some value ↔ (key, value) ∈ entries := by
  induction entries with
  | nil => simp [get?]
  | cons entry rest ih =>
    obtain ⟨hnew, hrest⟩ := List.nodup_cons.mp h
    rw [get?, List.lookup_cons, List.mem_cons]
    cases hkey : key == entry.1 with
    | true =>
      obtain rfl := eq_of_beq hkey
      have hnot : (entry.1, value) ∉ rest := fun hmem =>
        hnew (List.mem_map.mpr ⟨(entry.1, value), hmem, rfl⟩)
      constructor
      · intro hvalue
        exact Or.inl (Prod.ext rfl (Option.some.inj hvalue).symm)
      · rintro (heq | hmem)
        · rw [← heq]
        · exact absurd hmem hnot
    | false =>
      have hne : (key, value) ≠ entry := by
        rintro rfl
        simp at hkey
      rw [← get?, ih hrest]
      simp [hne]

/-- The entry of a key is the first pair that was written for it. -/
theorem get?_firsts (pairs : List (κ × α)) (key : κ) :
    (firsts pairs).get? key = pairs.lookup key := by
  induction pairs using List.reverseRecOn with
  | nil => rfl
  | append_singleton pairs pair ih =>
    rw [get?] at ih
    by_cases h : pair.1 ∈ pairs.map Prod.fst
    · rw [firsts_append_singleton_of_mem h, get?, ih, List.lookup_append]
      cases hkey : key == pair.1 with
      | true =>
        obtain rfl := eq_of_beq hkey
        exact (Option.or_of_isSome (isSome_get?_iff.mpr h)).symm
      | false => rw [List.lookup_cons, hkey, List.lookup_nil, Option.or_none]
    · rw [firsts_append_singleton_of_not_mem h, get?, List.lookup_append, List.lookup_append, ih]

/-- A pair is kept exactly when looking up its key finds it. -/
theorem mem_firsts_iff {pairs : List (κ × α)} {key : κ} {value : α} :
    (key, value) ∈ firsts pairs ↔ pairs.lookup key = some value := by
  rw [← get?_firsts, get?_eq_some_iff (nodup_keys_firsts pairs)]

/-- Of values that are entered under keys of their own, the first one with a key is found. -/
theorem get?_firsts_map (key : α → κ) (values : List α) (k : κ) :
    (firsts (values.map fun value => (key value, value))).get? k =
      values.find? fun value => key value == k := by
  rw [get?_firsts]
  induction values with
  | nil => rfl
  | cons value rest ih =>
    rw [List.map_cons, List.lookup_cons, List.find?_cons, ih, BEq.comm]

theorem mem_keys_firsts_map {key : α → κ} {values : List α} {k : κ} :
    k ∈ (firsts (values.map fun value => (key value, value))).keys ↔ k ∈ values.map key := by
  rw [mem_keys_firsts, List.map_map]
  rfl

/-- The first pair stays in front, and later pairs with its key are dropped. -/
theorem firsts_cons (pair : κ × α) (rest : List (κ × α)) :
    firsts (pair :: rest) = pair :: (firsts rest).filter fun entry => !(entry.1 == pair.1) := by
  induction rest using List.reverseRecOn with
  | nil => rfl
  | append_singleton rest last ih =>
    rw [← List.cons_append]
    by_cases hrest : last.1 ∈ rest.map Prod.fst
    · rw [firsts_append_singleton_of_mem hrest, firsts_append_singleton_of_mem, ih]
      exact List.mem_cons_of_mem _ hrest
    · rw [firsts_append_singleton_of_not_mem hrest, List.filter_append]
      by_cases hpair : last.1 = pair.1
      · rw [firsts_append_singleton_of_mem, ih]
        · simp [hpair]
        · simp [hpair]
      · rw [firsts_append_singleton_of_not_mem, ih]
        · simp [hpair]
        · simp only [List.map_cons, List.mem_cons, not_or]
          exact ⟨hpair, hrest⟩

/-- Among keys that are not yet known, the first pair is new or known, and its key is known to the
later pairs. -/
theorem filter_firsts_cons (pair : κ × α) (rest : List (κ × α)) (known : List κ) :
    (firsts (pair :: rest)).filter (fun entry => entry.1 ∉ known) =
      (if pair.1 ∈ known then [] else [pair]) ++
        (firsts rest).filter fun entry => entry.1 ∉ pair.1 :: known := by
  have hrest : ((firsts rest).filter fun entry => !(entry.1 == pair.1)).filter
      (fun entry => entry.1 ∉ known) =
        (firsts rest).filter fun entry => entry.1 ∉ pair.1 :: known := by
    rw [List.filter_filter]
    refine List.filter_congr fun entry _ => ?_
    rw [decide_not, decide_not, ← Bool.not_or, List.decide_mem_cons, Bool.or_comm]
  rw [firsts_cons, List.filter_cons, hrest]
  by_cases h : pair.1 ∈ known <;> simp [h]

/-! ## Places -/

/-- Later pairs leave the entries in their places. -/
theorem firsts_prefix (before after : List (κ × α)) :
    firsts before <+: firsts (before ++ after) := by
  induction after using List.reverseRecOn with
  | nil => rw [List.append_nil]
  | append_singleton after pair ih =>
    rw [← List.append_assoc]
    by_cases h : pair.1 ∈ (before ++ after).map Prod.fst
    · rw [firsts_append_singleton_of_mem h]
      exact ih
    · rw [firsts_append_singleton_of_not_mem h]
      exact ih.trans (List.prefix_append _ _)

/-- The place of an entry is behind the entries of the pairs before it. -/
theorem getElem?_firsts {before : List (κ × α)} {entry : κ × α} (after : List (κ × α))
    (h : entry.1 ∉ before.map Prod.fst) :
    (firsts (before ++ entry :: after))[(firsts before).length]? = some entry := by
  have hprefix := firsts_prefix (before ++ [entry]) after
  rw [firsts_append_singleton_of_not_mem h, List.append_assoc, List.singleton_append] at hprefix
  obtain ⟨rest, hrest⟩ := hprefix
  rw [← hrest, List.append_assoc, List.getElem?_append_right (Nat.le_refl _), Nat.sub_self]
  rfl

/-- An entry is in a place exactly when it is the first pair of its key and the pairs before it have
as many entries. -/
theorem getElem?_firsts_eq_some_iff {pairs : List (κ × α)} {entry : κ × α} {i : Nat} :
    (firsts pairs)[i]? = some entry ↔ ∃ before after, pairs = before ++ entry :: after ∧
      entry.1 ∉ before.map Prod.fst ∧ (firsts before).length = i := by
  constructor
  · intro h
    have hlookup := mem_firsts_iff.mp (List.mem_of_getElem? h)
    obtain ⟨before, after, hpairs, hnew⟩ := List.lookup_eq_some_iff.mp hlookup
    have hfirst : entry.1 ∉ before.map Prod.fst := by
      intro hmem
      obtain ⟨other, hother, hkey⟩ := List.mem_map.mp hmem
      simpa [hkey] using hnew other hother
    refine ⟨before, after, hpairs, hfirst, ?_⟩
    have hplace := getElem?_firsts after hfirst
    rw [← hpairs, ← h] at hplace
    have hlength := (List.getElem?_eq_some_iff.mp h).1
    exact ((List.getElem?_inj hlength (nodup_keys_firsts pairs).of_map).mp hplace.symm).symm
  · rintro ⟨before, after, rfl, hfirst, rfl⟩
    exact getElem?_firsts after hfirst

/-- There are as many entries as distinct keys. -/
theorem length_firsts [DecidableEq κ] (pairs : List (κ × α)) :
    (firsts pairs).length = (pairs.map Prod.fst).toFinset.card := by
  have hkeys : (firsts pairs).keys.toFinset = (pairs.map Prod.fst).toFinset := by
    ext key
    rw [List.mem_toFinset, List.mem_toFinset, mem_keys_firsts]
  rw [← hkeys, List.toFinset_card_of_nodup (nodup_keys_firsts pairs), keys, List.length_map]

/-! ## Sorting by key -/

section Sorting

variable {β : Type}

/-- Places count up. -/
theorem pairwise_zipIdx (elements : List β) (start : Nat) :
    (elements.zipIdx start).Pairwise fun a b => a.2 < b.2 := by
  refine List.pairwise_map.mp ?_
  rw [List.zipIdx_map_snd]
  exact List.pairwise_lt_range'

/-- Sorting by key puts no larger key before a smaller one. -/
theorem pairwise_le_mergeSort (entries : Entries Nat β) :
    (entries.mergeSort fun a b => decide (a.1 ≤ b.1)).Pairwise fun a b => a.1 ≤ b.1 := by
  have htrans : ∀ a b c : Nat × β, decide (a.1 ≤ b.1) = true → decide (b.1 ≤ c.1) = true →
      decide (a.1 ≤ c.1) = true := by
    intro a b c hab hbc
    simp only [decide_eq_true_eq] at hab hbc ⊢
    omega
  have htotal : ∀ a b : Nat × β, (decide (a.1 ≤ b.1) || decide (b.1 ≤ a.1)) = true := by
    intro a b
    simp only [Bool.or_eq_true, decide_eq_true_eq]
    omega
  have hsorted := List.pairwise_mergeSort htrans htotal entries
  exact hsorted.imp fun h => of_decide_eq_true h

/-- Where every key has one entry, the sorted keys increase. -/
theorem pairwise_lt_mergeSort {entries : Entries Nat β} (h : entries.keys.Nodup) :
    (entries.mergeSort fun a b => decide (a.1 ≤ b.1)).Pairwise fun a b => a.1 < b.1 := by
  have hperm := (List.mergeSort_perm entries fun a b => decide (a.1 ≤ b.1)).map Prod.fst
  have hdistinct := List.pairwise_map.mp (hperm.nodup_iff.mpr h)
  refine ((pairwise_le_mergeSort entries).and hdistinct).imp ?_
  rintro a b ⟨hle, hne⟩
  omega

/-- Entries are sorted in one way only when their keys increase. -/
theorem mergeSort_eq_of_perm {entries sorted : Entries Nat β} (h : entries.Perm sorted)
    (hsorted : sorted.Pairwise fun a b => a.1 < b.1) :
    (entries.mergeSort fun a b => decide (a.1 ≤ b.1)) = sorted := by
  have hkeys : sorted.keys.Nodup := by
    refine List.pairwise_map.mpr (hsorted.imp ?_)
    intro a b hlt
    omega
  have hentries : entries.keys.Nodup := (h.map Prod.fst).nodup_iff.mpr hkeys
  refine List.Perm.eq_of_pairwise ?_ (pairwise_lt_mergeSort hentries) hsorted
    ((List.mergeSort_perm entries _).trans h)
  intro a b _ _ hlt hgt
  omega

end Sorting

end QueryAudit.Entries
