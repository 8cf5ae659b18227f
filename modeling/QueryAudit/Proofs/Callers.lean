import Mathlib.Algebra.Order.BigOperators.Group.Finset
import QueryAudit.Callers
import QueryAudit.Proofs.Entries

/-!
# Callers that share the results

Whatever the order of the steps, the callers of one text come to the inner describer one after the
other, and the first answer is the last: all callers that have not ended by then return it. The
invariant ties the table of locks, the holders and the results to the places of the callers. A step
touches the place of one caller only, so each part of the invariant is checked for that caller and,
where something shared has changed, for the callers of the same text.
-/

namespace QueryAudit.Callers

variable {ι : Type}

/-! ## Places -/

namespace Point

/-- Whether the caller has the guard. -/
def isFetching : Point → Bool
  | fetching _ => true
  | _ => false

/-- The lock that the caller has. -/
def held? : Point → Option Nat
  | holding lock _ => some lock
  | _ => none

/-- The lock that the caller has found for its text. -/
def lock? : Point → Option Nat
  | fetching (.found lock) => some lock
  | waiting lock => some lock
  | holding lock _ => some lock
  | _ => none

/-- What the place of a caller says about the result that is kept for its text. -/
def Agrees (stored : Option Described) : Point → Prop
  | holding _ .missed => stored = none
  | holding _ .asking => stored = none
  | holding _ (.answered _) => stored = none
  | holding _ .ready => stored.isSome = true
  | holding _ (.returning (.ok value)) => stored = some value
  | holding _ (.returning (.error _)) => stored = none
  | _ => True

theorem lock?_of_held? {point : Point} {lock : Nat} (h : point.held? = some lock) :
    point.lock? = some lock := by
  cases point <;> simp_all [held?, lock?]

end Point

namespace State

variable (s : State ι)

@[simp] theorem guard_setGuard (holder : Option ι) : (s.setGuard holder).guard = holder := rfl

@[simp] theorem guard_addLock (text : String) : (s.addLock text).guard = s.guard := rfl

@[simp] theorem guard_setHolder (lock : Nat) (holder : Option ι) :
    (s.setHolder lock holder).guard = s.guard := rfl

@[simp] theorem guard_keep (text : String) (result : Described) :
    (s.keep text result).guard = s.guard := rfl

@[simp] theorem holders_setGuard (holder : Option ι) :
    (s.setGuard holder).holders = s.holders := rfl

@[simp] theorem holders_addLock (text : String) : (s.addLock text).holders = s.holders := rfl

@[simp] theorem holders_setHolder (lock other : Nat) (holder : Option ι) :
    (s.setHolder lock holder).holders other = if other = lock then holder else s.holders other :=
  rfl

@[simp] theorem results_setHolder (lock : Nat) (holder : Option ι) :
    (s.setHolder lock holder).results = s.results := rfl

@[simp] theorem results_keep (text : String) (result : Described) :
    (s.keep text result).results = s.results.put text result := rfl

@[simp] theorem holders_keep (text : String) (result : Described) :
    (s.keep text result).holders = s.holders := rfl

end State

variable {texts : ι → String} {s s' : State ι} {c d : ι} {act : Act} {text : String}
  {value : Described} {lock : Nat}

/-! ## The invariant -/

/-- The places of the callers agree with what they share. -/
structure Sound (texts : ι → String) (s : State ι) : Prop where
  /-- The guard is with the caller that is fetching its lock. -/
  guard_iff : ∀ c, s.guard = some c ↔ (s.points c).isFetching = true
  /-- A lock is with the caller that holds it. -/
  holder_iff : ∀ lock c, s.holders lock = some c ↔ (s.points c).held? = some lock
  /-- A caller finds its text without a lock only as long as there is none. -/
  missing : ∀ c, s.points c = .fetching .missing → s.locks.get? (texts c) = none
  /-- The lock of a caller is that of its text. -/
  known : ∀ c lock, (s.points c).lock? = some lock → s.locks.get? (texts c) = some lock
  /-- The locks are counted. -/
  bounded : ∀ text lock, s.locks.get? text = some lock → lock < s.locks.length
  /-- Different texts have different locks. -/
  separate : ∀ text other lock, s.locks.get? text = some lock →
    s.locks.get? other = some lock → text = other
  /-- The results are as the callers have found them. -/
  agrees : ∀ c, (s.points c).Agrees (s.results.get? (texts c))

theorem sound_start : Sound texts start where
  guard_iff := by simp [start, Point.isFetching]
  holder_iff := by simp [start, Point.held?]
  missing := by simp [start]
  known := by simp [start, Point.lock?]
  bounded := by simp [start, Entries.get?]
  separate := by simp [start, Entries.get?]
  agrees := fun _ => trivial

namespace Sound

/-- At most one caller has the guard. -/
theorem fetching_unique (h : Sound texts s) (hc : (s.points c).isFetching = true)
    (hd : (s.points d).isFetching = true) : c = d :=
  Option.some.inj (((h.guard_iff c).mpr hc).symm.trans ((h.guard_iff d).mpr hd))

/-- At most one of the callers of a text has its lock. -/
theorem holding_unique (h : Sound texts s) {lock other : Nat}
    (hc : (s.points c).held? = some lock) (hd : (s.points d).held? = some other)
    (htexts : texts c = texts d) : c = d := by
  have hlock := h.known c lock (Point.lock?_of_held? hc)
  have hother := h.known d other (Point.lock?_of_held? hd)
  rw [htexts, hother] at hlock
  obtain rfl := Option.some.inj hlock
  have hholder := (h.holder_iff _ _).mpr hc
  rw [(h.holder_iff _ _).mpr hd] at hholder
  exact (Option.some.inj hholder).symm

/-- The holder of a lock is a caller of the text that the lock belongs to. -/
theorem texts_eq_of_holder (h : Sound texts s) (hlock : (s.points c).lock? = some lock)
    (hholder : s.holders lock = some d) : texts d = texts c := by
  have hheld := (h.holder_iff lock d).mp hholder
  exact h.separate _ _ lock (h.known d lock (Point.lock?_of_held? hheld)) (h.known c lock hlock)

end Sound

/-! ## Settled texts -/

/-- The inner describer has answered for a text: the answer is kept, or it is about to be. -/
def Settled (texts : ι → String) (text : String) (value : Described) (s : State ι) : Prop :=
  s.results.get? text = some value ∨
    ∃ c lock, texts c = text ∧ s.points c = .holding lock (.answered value)

/-- The caller that has the lock of a settled text is about to keep the answer, unless it is kept
already. -/
theorem Settled.stored_or_answered (h : Settled texts text value s) (hsound : Sound texts s)
    (htexts : texts d = text) (hheld : (s.points d).held? = some lock) :
    s.results.get? (texts d) = some value ∨
      ∃ other, s.points d = .holding other (.answered value) := by
  rcases h with hstored | ⟨c, other, hc, hpoint⟩
  · rw [htexts]
    exact Or.inl hstored
  · obtain rfl := hsound.holding_unique (by rw [hpoint]; rfl) hheld (hc.trans htexts.symm)
    exact Or.inr ⟨other, hpoint⟩

/-- A caller that is about to end the call for a settled text has the answer. -/
theorem Settled.eq_of_returning (h : Settled texts text value s) (hsound : Sound texts s)
    (htexts : texts d = text) {result : Except Fault Described}
    (hpoint : s.points d = .holding lock (.returning result)) : result = .ok value := by
  have hagrees := hsound.agrees d
  rw [hpoint] at hagrees
  rcases h.stored_or_answered hsound htexts (by rw [hpoint]; rfl) with hstored | ⟨other, hanswered⟩
  · cases result with
    | ok found =>
      rw [Point.Agrees, hstored] at hagrees
      rw [Option.some.inj hagrees]
    | error fault =>
      rw [Point.Agrees, hstored] at hagrees
      contradiction
  · rw [hpoint] at hanswered
    simp at hanswered

/-! ## Steps -/

variable [DecidableEq ι]

namespace State

@[simp] theorem points_move_self (point : Point) : (s.move c point).points c = point :=
  if_pos rfl

theorem points_move_of_ne (point : Point) (h : d ≠ c) : (s.move c point).points d = s.points d :=
  if_neg h

@[simp] theorem guard_move (point : Point) : (s.move c point).guard = s.guard := rfl

@[simp] theorem holders_move (point : Point) : (s.move c point).holders = s.holders := rfl

@[simp] theorem results_move (point : Point) : (s.move c point).results = s.results := rfl

end State

/-- A step leaves the other callers where they are. -/
theorem Step.points_of_ne (h : Step texts s c act s') (hne : d ≠ c) :
    s'.points d = s.points d := by
  cases h <;> exact State.points_move_of_ne _ hne

/-- A step leaves the table of locks as it is, or it enters a new lock for the text. -/
theorem Step.locks_cases (h : Step texts s c act s') :
    (s.points c ≠ .fetching .missing ∧ s'.locks = s.locks) ∨
    (s.points c = .fetching .missing ∧ s'.locks = s.locks.put (texts c) s.locks.length ∧
      s'.points c = .fetching (.found s.locks.length)) := by
  cases h with
  | makeLock point => exact Or.inr ⟨point, rfl, State.points_move_self _⟩
  | _ => exact Or.inl ⟨by simp [*], rfl⟩

/-- A step leaves the results as they are, or it keeps an answer. -/
theorem Step.results_cases (h : Step texts s c act s') :
    ((∀ lock value, s.points c ≠ .holding lock (.answered value)) ∧ s'.results = s.results) ∨
    (∃ lock value, s.points c = .holding lock (.answered value) ∧
      s'.results = s.results.put (texts c) value ∧ s'.points c = .holding lock .ready) := by
  cases h with
  | @store lock value point => exact Or.inr ⟨lock, value, point, rfl, State.points_move_self _⟩
  | _ => exact Or.inl ⟨by simp [*], rfl⟩

namespace Sound

/-! ## What a step preserves -/

theorem guard_iff_step (h : Sound texts s) (hstep : Step texts s c act s') (d : ι) :
    s'.guard = some d ↔ (s'.points d).isFetching = true := by
  by_cases hd : d = c
  · subst hd
    have hguard := h.guard_iff d
    cases hstep <;> simp_all [Point.isFetching]
  · rw [hstep.points_of_ne hd, ← h.guard_iff d]
    cases hstep with
    | takeGuard point free => simp [free, Ne.symm hd]
    | leaveGuard point =>
      have hguard := (h.guard_iff c).mpr (by rw [point]; rfl)
      simp [hguard, Ne.symm hd]
    | _ => exact Iff.rfl

theorem holder_iff_step (h : Sound texts s) (hstep : Step texts s c act s') (lock : Nat) (d : ι) :
    s'.holders lock = some d ↔ (s'.points d).held? = some lock := by
  by_cases hd : d = c
  · subst hd
    have hholder := h.holder_iff lock d
    cases hstep with
    | @acquire other point free =>
      rw [point] at hholder
      by_cases hlock : lock = other
      · simp [hlock, Point.held?]
      · simp_all [Point.held?, Ne.symm hlock]
    | @release other result point =>
      rw [point] at hholder
      by_cases hlock : lock = other
      · simp [hlock, Point.held?]
      · simp_all [Point.held?, Ne.symm hlock]
    | _ => simp_all [Point.held?]
  · rw [hstep.points_of_ne hd, ← h.holder_iff lock d]
    cases hstep with
    | @acquire other point free =>
      by_cases hlock : lock = other
      · simp [hlock, free, Ne.symm hd]
      · simp [hlock]
    | @release other result point =>
      have hholder := (h.holder_iff other c).mpr (by rw [point]; rfl)
      by_cases hlock : lock = other
      · simp [hlock, hholder, Ne.symm hd]
      · simp [hlock]
    | _ => exact Iff.rfl

theorem missing_step (h : Sound texts s) (hstep : Step texts s c act s')
    (hd : s'.points d = .fetching .missing) : s'.locks.get? (texts d) = none := by
  rcases hstep.locks_cases with ⟨-, hlocks⟩ | ⟨hpoint, -, hpoint'⟩
  · rw [hlocks]
    by_cases hdc : d = c
    · subst hdc
      cases hstep with
      | lockMissing point missing => exact missing
      | _ => simp at hd
    · rw [hstep.points_of_ne hdc] at hd
      exact h.missing d hd
  · have hdc : d ≠ c := by
      rintro rfl
      simp [hpoint'] at hd
    rw [hstep.points_of_ne hdc] at hd
    exact absurd (h.fetching_unique (by rw [hd]; rfl) (by rw [hpoint]; rfl)) hdc

theorem known_step (h : Sound texts s) (hstep : Step texts s c act s') {lock : Nat}
    (hd : (s'.points d).lock? = some lock) : s'.locks.get? (texts d) = some lock := by
  rcases hstep.locks_cases with ⟨hpoint, hlocks⟩ | ⟨hpoint, hlocks, hpoint'⟩
  · rw [hlocks]
    by_cases hdc : d = c
    · subst hdc
      have hknown := h.known d
      cases hstep <;> simp_all [Point.lock?]
    · rw [hstep.points_of_ne hdc] at hd
      exact h.known d lock hd
  · have hmissing := h.missing c hpoint
    rw [hlocks, Entries.get?_put]
    by_cases hdc : d = c
    · subst hdc
      rw [hpoint'] at hd
      simpa [Point.lock?] using hd
    · rw [hstep.points_of_ne hdc] at hd
      have hknown := h.known d lock hd
      rw [if_neg, hknown]
      intro htexts
      rw [eq_of_beq htexts, hmissing] at hknown
      contradiction

theorem bounded_step (h : Sound texts s) (hstep : Step texts s c act s') {text : String}
    {lock : Nat} (hlock : s'.locks.get? text = some lock) : lock < s'.locks.length := by
  rcases hstep.locks_cases with ⟨-, hlocks⟩ | ⟨hpoint, hlocks, -⟩
  · rw [hlocks] at hlock ⊢
    exact h.bounded text lock hlock
  · rw [hlocks, Entries.length_put_of_get?_eq_none (h.missing c hpoint)]
    rw [hlocks, Entries.get?_put] at hlock
    split at hlock
    · obtain rfl := Option.some.inj hlock
      omega
    · have hold := h.bounded text lock hlock
      omega

theorem separate_step (h : Sound texts s) (hstep : Step texts s c act s') {text other : String}
    {lock : Nat} (htext : s'.locks.get? text = some lock)
    (hother : s'.locks.get? other = some lock) : text = other := by
  rcases hstep.locks_cases with ⟨-, hlocks⟩ | ⟨-, hlocks, -⟩
  · rw [hlocks] at htext hother
    exact h.separate text other lock htext hother
  · -- The new lock is not yet in the table, so that an old lock is not the new one.
    rw [hlocks, Entries.get?_put] at htext hother
    split at htext <;> split at hother
    · rename_i hnew hnew'
      rw [eq_of_beq hnew, eq_of_beq hnew']
    · have hold := h.bounded other lock hother
      obtain rfl := Option.some.inj htext
      omega
    · have hold := h.bounded text lock htext
      obtain rfl := Option.some.inj hother
      omega
    · exact h.separate text other lock htext hother

theorem agrees_step (h : Sound texts s) (hstep : Step texts s c act s') (d : ι) :
    (s'.points d).Agrees (s'.results.get? (texts d)) := by
  rcases hstep.results_cases with ⟨hpoint, hresults⟩ | ⟨lock, value, hpoint, hresults, hpoint'⟩
  · rw [hresults]
    by_cases hdc : d = c
    · subst hdc
      have hagrees := h.agrees d
      cases hstep <;> simp_all [Point.Agrees]
    · rw [hstep.points_of_ne hdc]
      exact h.agrees d
  · rw [hresults, Entries.get?_put]
    by_cases hdc : d = c
    · subst hdc
      rw [hpoint']
      simp [Point.Agrees]
    · rw [hstep.points_of_ne hdc]
      -- The only caller that has the lock of this text is the one that has taken the step.
      by_cases htexts : texts d = texts c
      · cases hd : s.points d with
        | holding other stage =>
          exact absurd (h.holding_unique (by rw [hd]; rfl) (by rw [hpoint]; rfl) htexts) hdc
        | _ => trivial
      · rw [if_neg (by simpa using htexts)]
        exact h.agrees d

theorem step (h : Sound texts s) (hstep : Step texts s c act s') : Sound texts s' where
  guard_iff := h.guard_iff_step hstep
  holder_iff := h.holder_iff_step hstep
  missing := fun _ hd => h.missing_step hstep hd
  known := fun _ _ hd => h.known_step hstep hd
  bounded := fun _ _ hlock => h.bounded_step hstep hlock
  separate := fun _ _ _ htext hother => h.separate_step hstep htext hother
  agrees := h.agrees_step hstep

theorem reaches (h : Sound texts s) (hreaches : Reaches texts s s') : Sound texts s' := by
  induction hreaches with
  | refl => exact h
  | step _ hstep ih => exact ih.step hstep

end Sound

/-! ## After an answer -/

theorem Settled.step (h : Settled texts text value s) (hsound : Sound texts s)
    (hstep : Step texts s c act s') : Settled texts text value s' := by
  rcases h with hstored | ⟨d, lock, htext, hpoint⟩
  · refine Or.inl ?_
    rcases hstep.results_cases with ⟨-, hresults⟩ | ⟨lock, answer, hpoint, hresults, -⟩
    · rw [hresults]
      exact hstored
    · -- No caller has an answer in hand for a text that has a result.
      have hmissing := hsound.agrees c
      rw [hpoint, Point.Agrees] at hmissing
      rw [hresults, Entries.get?_put, if_neg]
      · exact hstored
      · intro htext
        rw [eq_of_beq htext, hmissing] at hstored
        contradiction
  · by_cases hd : d = c
    · subst hd
      cases hstep with
      | @store other answer point =>
        refine Or.inl ?_
        rw [hpoint] at point
        injection point with _ hstage
        injection hstage with hvalue
        rw [State.results_move, State.results_keep, Entries.get?_put, if_pos (by simp [htext]), hvalue]
      | _ => simp_all
    · exact Or.inr ⟨d, lock, htext, (hstep.points_of_ne hd).trans hpoint⟩

theorem Settled.reaches (h : Settled texts text value s) (hsound : Sound texts s)
    (hreaches : Reaches texts s s') : Settled texts text value s' := by
  induction hreaches with
  | refl => exact h
  | step hbefore hstep ih => exact ih.step (hsound.reaches hbefore) hstep

/-- The inner describer is not called for a settled text. -/
theorem Settled.not_ask (h : Settled texts text value s) (hsound : Sound texts s)
    (htexts : texts d = text) : ¬ Step texts s d .ask s' := by
  intro hstep
  cases hstep with
  | @ask lock point =>
    have hmissing := hsound.agrees d
    rw [point, Point.Agrees] at hmissing
    rcases h.stored_or_answered hsound htexts (by rw [point]; rfl) with hstored | ⟨other, hpoint⟩
    · rw [hmissing] at hstored
      contradiction
    · rw [point] at hpoint
      simp at hpoint

/-- An answer settles its text. -/
theorem Step.settled (h : Step texts s c (.answer (.ok value)) s') :
    Settled texts (texts c) value s' := by
  cases h with
  | @answered lock _ point => exact Or.inr ⟨c, lock, rfl, State.points_move_self _⟩

/-- An answer ends no call. -/
theorem Step.open_of_open (h : Step texts s c (.answer (.ok value)) s')
    (hopen : ∀ result, s.points d ≠ .left result) : ∀ result, s'.points d ≠ .left result := by
  intro result
  by_cases hd : d = c
  · subst hd
    cases h
    simp
  · rw [h.points_of_ne hd]
    exact hopen result

/-- A call for a settled text that has not yet ended can only end with the answer. -/
theorem Settled.eq_of_left (h : Settled texts text value s) (hsound : Sound texts s)
    (htexts : texts d = text) (hopen : ∀ result, s.points d ≠ .left result)
    (hreaches : Reaches texts s s') {result : Except Fault Described}
    (hleft : s'.points d = .left result) : result = .ok value := by
  induction hreaches with
  | refl => exact absurd hleft (hopen result)
  | @step before after c act hbefore hstep ih =>
    by_cases hd : d = c
    · subst hd
      cases hstep with
      | @release lock returned point =>
        rw [State.points_move_self] at hleft
        injection hleft with hresult
        rw [← hresult]
        exact (h.reaches hsound hbefore).eq_of_returning (hsound.reaches hbefore) htexts point
      | _ => simp at hleft
    · rw [hstep.points_of_ne hd] at hleft
      exact ih hleft

/-! ## Blocked callers -/

/-- A caller whose call has not ended can take a step, unless another caller has the guard, or the
lock of its text. -/
theorem Sound.left_or_step_or_blocked (h : Sound texts s) (c : ι) :
    (∃ result, s.points c = .left result) ∨ (∃ act s', Step texts s c act s') ∨
    (s.points c = .called ∧ ∃ d, s.guard = some d) ∨
    ∃ lock d, s.points c = .waiting lock ∧ s.holders lock = some d := by
  have hagrees := h.agrees c
  cases hpoint : s.points c with
  | called =>
    cases hguard : s.guard with
    | none => exact Or.inr (Or.inl ⟨_, _, .takeGuard hpoint hguard⟩)
    | some d => exact Or.inr (Or.inr (Or.inl ⟨rfl, d, rfl⟩))
  | fetching stage =>
    refine Or.inr (Or.inl ?_)
    cases stage with
    | begun =>
      cases hlock : s.locks.get? (texts c) with
      | none => exact ⟨_, _, .lockMissing hpoint hlock⟩
      | some lock => exact ⟨_, _, .lockFound hpoint hlock⟩
    | missing => exact ⟨_, _, .makeLock hpoint⟩
    | found lock => exact ⟨_, _, .leaveGuard hpoint⟩
  | waiting lock =>
    cases hholder : s.holders lock with
    | none => exact Or.inr (Or.inl ⟨_, _, .acquire hpoint hholder⟩)
    | some d => exact Or.inr (Or.inr (Or.inr ⟨lock, d, rfl, hholder⟩))
  | holding lock stage =>
    refine Or.inr (Or.inl ?_)
    cases stage with
    | entered =>
      cases hresult : s.results.get? (texts c) with
      | none => exact ⟨_, _, .resultMissing hpoint hresult⟩
      | some value => exact ⟨_, _, .resultFound hpoint hresult⟩
    | missed => exact ⟨_, _, .ask hpoint⟩
    | asking => exact ⟨_, _, @Step.raised _ _ _ _ _ _ (.raised "") hpoint⟩
    | answered value => exact ⟨_, _, .store hpoint⟩
    | ready =>
      rw [hpoint, Point.Agrees, Option.isSome_iff_exists] at hagrees
      obtain ⟨value, hvalue⟩ := hagrees
      exact ⟨_, _, .read hpoint hvalue⟩
    | returning result => exact ⟨_, _, .release hpoint⟩
  | left result => exact Or.inl ⟨result, rfl⟩

/-- A caller that cannot acquire the lock of its text is blocked by another caller of the text. -/
theorem Sound.exists_holder (h : Sound texts s) (hpoint : s.points c = .waiting lock)
    (hblocked : ∀ s', ¬ Step texts s c .acquire s') :
    ∃ d stage, d ≠ c ∧ texts d = texts c ∧ s.points d = .holding lock stage := by
  cases hholder : s.holders lock with
  | none => exact absurd (.acquire hpoint hholder) (hblocked _)
  | some d =>
    have hheld := (h.holder_iff lock d).mp hholder
    have htexts := h.texts_eq_of_holder (by rw [hpoint]; rfl) hholder
    cases hd : s.points d with
    | holding other stage =>
      rw [hd] at hheld
      obtain rfl := Option.some.inj hheld
      refine ⟨d, stage, ?_, htexts, hd⟩
      rintro rfl
      rw [hpoint] at hd
      contradiction
    | _ => simp [hd, Point.held?] at hheld

/-- Where no caller can take a step, all calls have ended. -/
theorem Sound.left_of_no_step (h : Sound texts s)
    (hstuck : ∀ c act s', ¬ Step texts s c act s') (c : ι) :
    ∃ result, s.points c = .left result := by
  -- A caller that has the guard or a lock is not blocked itself.
  have hnone : ∀ d, (s.points d).isFetching = true ∨ (s.points d).held?.isSome = true → False := by
    intro d hd
    rcases h.left_or_step_or_blocked d with ⟨_, hpoint⟩ | ⟨act, s', hstep⟩ | ⟨hpoint, -⟩ |
      ⟨lock, _, hpoint, -⟩
    · simp [hpoint, Point.isFetching, Point.held?] at hd
    · exact hstuck d act s' hstep
    · simp [hpoint, Point.isFetching, Point.held?] at hd
    · simp [hpoint, Point.isFetching, Point.held?] at hd
  rcases h.left_or_step_or_blocked c with hleft | ⟨act, s', hstep⟩ | ⟨-, d, hguard⟩ |
    ⟨lock, d, -, hholder⟩
  · exact hleft
  · exact absurd hstep (hstuck c act s')
  · exact (hnone d (Or.inl ((h.guard_iff d).mp hguard))).elim
  · refine (hnone d (Or.inr ?_)).elim
    rw [(h.holder_iff lock d).mp hholder]
    rfl

/-- How many steps a caller can take at most until the call has ended. -/
def Point.stepsLeft : Point → Nat
  | called => 11
  | fetching .begun => 10
  | fetching .missing => 9
  | fetching (.found _) => 8
  | waiting _ => 7
  | holding _ .entered => 6
  | holding _ .missed => 5
  | holding _ .asking => 4
  | holding _ (.answered _) => 3
  | holding _ .ready => 2
  | holding _ (.returning _) => 1
  | left _ => 0

theorem Step.stepsLeft_lt (h : Step texts s c act s') :
    (s'.points c).stepsLeft < (s.points c).stepsLeft := by
  cases h <;> simp [*, Point.stepsLeft]

theorem Step.sum_stepsLeft_lt [Fintype ι] (h : Step texts s c act s') :
    ∑ d, (s'.points d).stepsLeft < ∑ d, (s.points d).stepsLeft := by
  refine Finset.sum_lt_sum (fun d _ => ?_) ⟨c, Finset.mem_univ c, h.stepsLeft_lt⟩
  by_cases hd : d = c
  · rw [hd]
    exact h.stepsLeft_lt.le
  · rw [h.points_of_ne hd]

theorem Reaches.trans {s₁ s₂ : State ι} (h : Reaches texts s s₁) (h' : Reaches texts s₁ s₂) :
    Reaches texts s s₂ := by
  induction h' with
  | refl => exact h
  | step _ hstep ih => exact ih.step hstep

/-- Finitely many calls can always all be brought to their end. -/
theorem Sound.exists_all_left [Fintype ι] (h : Sound texts s) :
    ∃ s', Reaches texts s s' ∧ ∀ c, ∃ result, s'.points c = .left result := by
  induction hsteps : ∑ d, (s.points d).stepsLeft using Nat.strong_induction_on generalizing s with
  | _ steps ih =>
    by_cases hstuck : ∀ c act s', ¬ Step texts s c act s'
    · exact ⟨s, .refl, h.left_of_no_step hstuck⟩
    · push Not at hstuck
      obtain ⟨c, act, s₁, hstep⟩ := hstuck
      obtain ⟨s', hreaches, hleft⟩ := ih _ (hsteps ▸ hstep.sum_stepsLeft_lt) (h.step hstep) rfl
      exact ⟨s', (Reaches.refl.step hstep).trans hreaches, hleft⟩

/-! ## After a fault -/

/-- A fault of the inner describer keeps nothing and goes to the caller. -/
theorem Step.raises {fault : Fault} (h : Step texts s c (.answer (.error fault)) s') :
    s'.results = s.results ∧ ∃ lock, s'.points c = .holding lock (.returning (.error fault)) := by
  cases h with
  | @raised lock _ point => exact ⟨rfl, lock, State.points_move_self _⟩

/-- A caller of a text without a result goes on to the inner describer when it gets the lock. -/
theorem exists_ask (hpoint : s.points c = .waiting lock) (hfree : s.holders lock = none)
    (hmissing : s.results.get? (texts c) = none) :
    ∃ s₁ s₂ s₃, Step texts s c .acquire s₁ ∧ Step texts s₁ c .look s₂ ∧ Step texts s₂ c .ask s₃ :=
  ⟨_, _, _, .acquire hpoint hfree, .resultMissing (State.points_move_self _) hmissing,
    .ask (State.points_move_self _)⟩

/-- A caller with a fault releases the lock, and then any caller that waits for it can go on to the
inner describer. -/
theorem Sound.retry (h : Sound texts s) {fault : Fault}
    (hpoint : s.points c = .holding lock (.returning (.error fault))) :
    s.results.get? (texts c) = none ∧ (∀ act s', Step texts s c act s' → act = .release) ∧
      ∃ s', Step texts s c .release s' ∧
      s'.results = s.results ∧ s'.points c = .left (.error fault) ∧ s'.holders lock = none ∧
      ∀ d, s'.points d = .waiting lock → texts d = texts c ∧ ∃ s₁ s₂ s₃,
        Step texts s' d .acquire s₁ ∧ Step texts s₁ d .look s₂ ∧ Step texts s₂ d .ask s₃ := by
  have hmissing := h.agrees c
  rw [hpoint, Point.Agrees] at hmissing
  have hrelease : Step texts s c .release _ := .release hpoint
  have hfree : ((s.setHolder lock none).move c (.left (.error fault))).holders lock = none := by
    simp
  have honly : ∀ act s', Step texts s c act s' → act = .release := by
    intro act s' hstep
    cases hstep <;> simp_all
  refine ⟨hmissing, honly, _, hrelease, rfl, State.points_move_self _, hfree, ?_⟩
  intro d hd
  have htexts : texts d = texts c := by
    refine (h.step hrelease).separate _ _ lock ?_ ?_
    · exact (h.step hrelease).known d lock (by rw [hd]; rfl)
    · exact h.known c lock (by rw [hpoint]; rfl)
  exact ⟨htexts, exists_ask hd hfree (htexts ▸ hmissing)⟩

/-! ## All orders of steps -/

/-- What holds of callers that share the results. -/
structure Shares (texts : ι → String) (s : State ι) : Prop where
  /-- At most one call of the inner describer is in progress for a text. -/
  oneCall : ∀ c d lock other, s.points c = .holding lock .asking →
    s.points d = .holding other .asking → texts c = texts d → c = d
  /-- Once the inner describer has answered for a text, it is not called for that text again; and
  all calls for it that have not ended by then can only end with the answer, as they have when no
  caller can take another step. -/
  firstAnswer : ∀ c value s₁ s₂ d, Step texts s c (.answer (.ok value)) s₁ →
    Reaches texts s₁ s₂ → texts d = texts c →
    (∀ s₃, ¬ Step texts s₂ d .ask s₃) ∧
    ((∀ result, s.points d ≠ .left result) →
      (∀ result, s₂.points d = .left result → result = .ok value) ∧
      ((∀ e act s₃, ¬ Step texts s₂ e act s₃) → s₂.points d = .left (.ok value)))
  /-- When the inner describer raises, nothing is kept and the fault is at hand. -/
  raises : ∀ c fault s₁, Step texts s c (.answer (.error fault)) s₁ →
    s₁.results = s.results ∧ ∃ lock, s₁.points c = .holding lock (.returning (.error fault))
  /-- A caller with a fault can only release the lock, its text still without a result; then the
  next caller tries again. -/
  retry : ∀ c lock fault, s.points c = .holding lock (.returning (.error fault)) →
    s.results.get? (texts c) = none ∧ (∀ act s₁, Step texts s c act s₁ → act = .release) ∧
      ∃ s₁, Step texts s c .release s₁ ∧
      s₁.results = s.results ∧ s₁.points c = .left (.error fault) ∧ s₁.holders lock = none ∧
      ∀ d, s₁.points d = .waiting lock → texts d = texts c ∧ ∃ s₂ s₃ s₄,
        Step texts s₁ d .acquire s₂ ∧ Step texts s₂ d .look s₃ ∧ Step texts s₃ d .ask s₄
  /-- A caller that cannot acquire the lock of its text is blocked by another caller of the text. -/
  ownText : ∀ c lock, s.points c = .waiting lock → (∀ s₁, ¬ Step texts s c .acquire s₁) →
    ∃ d stage, d ≠ c ∧ texts d = texts c ∧ s.points d = .holding lock stage
  /-- Every step brings its caller nearer to the end of the call, and where no caller can take a
  step all calls have ended. -/
  ends : (∀ c act s₁, Step texts s c act s₁ →
      (s₁.points c).stepsLeft < (s.points c).stepsLeft) ∧
    ((∀ c act s₁, ¬ Step texts s c act s₁) → ∀ c, ∃ result, s.points c = .left result)

/-- However the callers take their steps, they share the results: for every text there is one call
of the inner describer at a time and none after the first answer, which all open calls return; a
fault is not kept; and a caller waits for callers of its own text only. -/
theorem shares_of_reaches (hreaches : Reaches texts start s) : Shares texts s := by
  have hsound : Sound texts s := sound_start.reaches hreaches
  refine ⟨?_, ?_, fun c fault s₁ h => h.raises, fun c lock fault h => hsound.retry h,
    fun c lock h => hsound.exists_holder h, fun c act s₁ h => h.stepsLeft_lt,
    hsound.left_of_no_step⟩
  · intro c d lock other hc hd htexts
    exact hsound.holding_unique (by rw [hc]; rfl) (by rw [hd]; rfl) htexts
  · intro c value s₁ s₂ d hanswer hlater htexts
    have hsound₁ := hsound.step hanswer
    have hsound₂ := hsound₁.reaches hlater
    have hsettled := hanswer.settled
    refine ⟨fun s₃ => (hsettled.reaches hsound₁ hlater).not_ask hsound₂ htexts, fun hopen => ?_⟩
    have hleft : ∀ result, s₂.points d = .left result → result = .ok value := fun _ =>
      hsettled.eq_of_left hsound₁ htexts (hanswer.open_of_open hopen) hlater
    refine ⟨hleft, fun hstuck => ?_⟩
    obtain ⟨result, hresult⟩ := hsound₂.left_of_no_step hstuck d
    rw [hresult, hleft result hresult]

/-- Two callers of one text: while the first asks, the second waits, and it can only return the
answer that the first gets. -/
theorem second_caller_shares : ∃ s s₁ : State Bool,
    Reaches (fun _ => "SELECT 1") start s ∧ s.points false = .waiting 0 ∧
    Step (fun _ => "SELECT 1") s true (.answer (.ok (.ok ⟨[], []⟩))) s₁ ∧
    ∀ s₂, Reaches (fun _ => "SELECT 1") s₁ s₂ →
      ∀ result, s₂.points false = .left result → result = .ok (.ok ⟨[], []⟩) := by
  obtain ⟨s, hreaches, hfirst, hsecond⟩ : ∃ s : State Bool,
      Reaches (fun _ => "SELECT 1") start s ∧ s.points true = .holding 0 .asking ∧
        s.points false = .waiting 0 := by
    refine ⟨_, Reaches.refl
      |>.step (@Step.takeGuard _ _ _ _ true rfl rfl)
      |>.step (@Step.lockMissing _ _ _ _ true rfl rfl)
      |>.step (@Step.makeLock _ _ _ _ true rfl)
      |>.step (@Step.leaveGuard _ _ _ _ true 0 rfl)
      |>.step (@Step.takeGuard _ _ _ _ false rfl rfl)
      |>.step (@Step.lockFound _ _ _ _ false 0 rfl rfl)
      |>.step (@Step.leaveGuard _ _ _ _ false 0 rfl)
      |>.step (@Step.acquire _ _ _ _ true 0 rfl rfl)
      |>.step (@Step.resultMissing _ _ _ _ true 0 rfl rfl)
      |>.step (@Step.ask _ _ _ _ true 0 rfl), rfl, rfl⟩
  have hopen : ∀ result, s.points false ≠ .left result := by simp [hsecond]
  refine ⟨s, _, hreaches, hsecond, .answered hfirst, fun s₂ hlater => ?_⟩
  have hanswer := (shares_of_reaches hreaches).firstAnswer true _ _ s₂ false (.answered hfirst)
    hlater rfl
  exact (hanswer.2 hopen).1

/-! ## A caller alone -/

/-- A caller gets to the lock of its text when the guard is free. -/
theorem exists_waiting (hpoint : s.points c = .called) (hguard : s.guard = none) :
    ∃ lock s', Reaches texts s s' ∧ s'.points c = .waiting lock ∧ s'.guard = none ∧
      s'.holders = s.holders ∧ s'.results = s.results := by
  have htake : Reaches texts s _ := Reaches.refl.step (.takeGuard hpoint hguard)
  cases hlock : s.locks.get? (texts c) with
  | none =>
    have hmiss := htake.step (.lockMissing (State.points_move_self _) hlock)
    have hmake := hmiss.step (.makeLock (State.points_move_self _))
    have hleave := hmake.step (.leaveGuard (State.points_move_self _))
    exact ⟨_, _, hleave, State.points_move_self _, rfl, rfl, rfl⟩
  | some lock =>
    have hfind := htake.step (.lockFound (State.points_move_self _) hlock)
    have hleave := hfind.step (.leaveGuard (State.points_move_self _))
    exact ⟨_, _, hleave, State.points_move_self _, rfl, rfl, rfl⟩

/-- A caller that has the lock ends the call as a session does. -/
theorem exists_left (hpoint : s.points c = .holding lock .entered) (ask : Describer)
    (session : Session) (hresults : s.results = session.results) :
    ∃ s', Reaches texts s s' ∧ s'.points c = .left (session.describe ask (texts c)).1 ∧
      s'.guard = s.guard ∧
      (∀ other, s'.holders other = if other = lock then none else s.holders other) ∧
      s'.results = (session.describe ask (texts c)).2.results := by
  have hstart : Reaches texts s s := .refl
  cases hresult : s.results.get? (texts c) with
  | some value =>
    have hlook := hstart.step (.resultFound hpoint hresult)
    have hread := hlook.step (.read (State.points_move_self _) hresult)
    have hrelease := hread.step (.release (State.points_move_self _))
    rw [hresults] at hresult
    simp only [Session.describe, hresult]
    exact ⟨_, hrelease, State.points_move_self _, rfl, fun _ => rfl, hresults⟩
  | none =>
    have hlook := hstart.step (.resultMissing hpoint hresult)
    have hask := hlook.step (.ask (State.points_move_self _))
    rw [hresults] at hresult
    cases hreply : (ask (texts c)).result with
    | ok value =>
      have hfound : (s.results.put (texts c) value).get? (texts c) = some value := by
        rw [Entries.get?_put, if_pos (beq_self_eq_true _)]
      have hanswer := hask.step (@Step.answered _ _ _ _ _ _ value (State.points_move_self _))
      have hstore := hanswer.step (.store (State.points_move_self _))
      have hread := hstore.step (.read (State.points_move_self _) hfound)
      have hrelease := hread.step (.release (State.points_move_self _))
      simp only [Session.describe, hresult, hreply]
      rw [← hresults]
      exact ⟨_, hrelease, State.points_move_self _, by simp, by simp, by simp⟩
    | error fault =>
      have hraise := hask.step (@Step.raised _ _ _ _ _ _ fault (State.points_move_self _))
      have hrelease := hraise.step (.release (State.points_move_self _))
      simp only [Session.describe, hresult, hreply]
      exact ⟨_, hrelease, State.points_move_self _, rfl, fun _ => rfl, hresults⟩

/-- A caller that takes all its steps at once does what a session does, and leaves the guard and all
locks free. -/
theorem describe_alone (hpoint : s.points c = .called) (hguard : s.guard = none)
    (hfree : ∀ lock, s.holders lock = none) (ask : Describer) (session : Session)
    (hresults : s.results = session.results) :
    ∃ s', Reaches texts s s' ∧ s'.points c = .left (session.describe ask (texts c)).1 ∧
      s'.guard = none ∧ (∀ lock, s'.holders lock = none) ∧
      s'.results = (session.describe ask (texts c)).2.results := by
  obtain ⟨lock, s₁, hwait, hwaiting, hguard₁, hholders₁, hresults₁⟩ :=
    @exists_waiting ι texts s c _ hpoint hguard
  have hacquire := hwait.step (.acquire hwaiting (by rw [hholders₁, hfree]))
  obtain ⟨s', hleave, hleft, hguard', hholders', hresults'⟩ :=
    @exists_left ι texts ((s₁.setHolder lock (some c)).move c (.holding lock .entered)) c lock _
      (State.points_move_self _) ask session (hresults₁.trans hresults)
  refine ⟨s', hacquire.trans hleave, hleft, hguard'.trans hguard₁, fun other => ?_, hresults'⟩
  rw [hholders']
  by_cases hother : other = lock
  · simp [hother]
  · simp [hother, hholders₁, hfree]

end QueryAudit.Callers
