import QueryAudit.Batch
import QueryAudit.Proofs.Callers

/-!
# Callers of a describer with fixed outcomes

When the inner describer always says the same about a text, all callers get what it says, in
whatever order they take their steps. What a caller has done can be read off its place: the
invariant ties the places to the list of those who have called the inner describer. A text with a
result has one caller in that list as soon as its lock has been acquired, and each caller of a text
without one is in the list when its call ends.
-/

namespace QueryAudit.Callers

variable {ι : Type} {texts : ι → String} {outcome : String → Except Fault Described}
  {s s' : State ι} {c d : ι} {act : Act} {asked : List ι} {text : String} {value : Described}

namespace Point

/-- Whether the caller has not yet come to the inner describer, nor found a result. -/
def isEarly : Point → Bool
  | called => true
  | fetching _ => true
  | waiting _ => true
  | holding _ .entered => true
  | holding _ .missed => true
  | _ => false

/-- Whether the place shows that the caller has called the inner describer. -/
def hasAsked : Point → Bool
  | holding _ .asking => true
  | holding _ (.answered _) => true
  | holding _ (.returning (.error _)) => true
  | left (.error _) => true
  | _ => false

/-- What the caller has in hand is the given answer. -/
def Has (answer : Except Fault Described) : Point → Prop
  | holding _ (.answered value) => .ok value = answer
  | holding _ (.returning result) => result = answer
  | left result => result = answer
  | _ => True

end Point

/-- The places of the callers agree with the outcomes and with who has called the inner
describer. -/
structure Tells (texts : ι → String) (outcome : String → Except Fault Described) (s : State ι)
    (asked : List ι) : Prop where
  /-- The results that are kept are outcomes. -/
  kept : ∀ text value, s.results.get? text = some value → outcome text = .ok value
  /-- A caller gets the outcome of its text. -/
  has : ∀ c, (s.points c).Has (outcome (texts c))
  /-- No caller calls the inner describer twice. -/
  nodup : asked.Nodup
  /-- A caller that is not so far has not called it. -/
  notEarly : ∀ c ∈ asked, (s.points c).isEarly = false
  /-- A caller that shows to have called it has called it. -/
  shown : ∀ c, (s.points c).hasAsked = true → c ∈ asked
  /-- Some caller of a text has called it when a result is kept. -/
  source : ∀ text value, s.results.get? text = some value → ∃ c ∈ asked, texts c = text
  /-- Some caller of a text has called it when any caller of the text is beyond that. -/
  follows : ∀ c, (s.points c).isEarly = false → ∃ d ∈ asked, texts d = texts c
  /-- A call for a text with a result is in progress, or it has been answered. -/
  settled : ∀ c ∈ asked, ∀ value, outcome (texts c) = .ok value →
    (∃ lock, s.points c = .holding lock .asking) ∨ Settled texts (texts c) value s
  /-- One caller of a text with a result calls the inner describer. -/
  once : ∀ c ∈ asked, ∀ d ∈ asked, texts c = texts d →
    (∃ value, outcome (texts c) = .ok value) → c = d

theorem tells_start : Tells texts outcome start [] where
  kept := by simp [start, Entries.get?]
  has := fun _ => trivial
  nodup := List.nodup_nil
  notEarly := by simp
  shown := by simp [start, Point.hasAsked]
  source := by simp [start, Entries.get?]
  follows := by simp [start, Point.isEarly]
  settled := by simp
  once := by simp

/-- A text has been asked for as often as there are callers that have called the inner describer for
it. -/
theorem Tells.count_eq_length (h : Tells texts outcome s asked) {callers : List ι}
    (hnodup : callers.Nodup) (hcallers : ∀ c, c ∈ callers ↔ c ∈ asked ∧ texts c = text) :
    (asked.map texts).count text = callers.length := by
  have hfilter : (asked.filter fun c => texts c == text).Perm callers := by
    refine (List.perm_ext_iff_of_nodup (h.nodup.filter _) hnodup).mpr fun c => ?_
    rw [List.mem_filter, beq_iff_eq, hcallers c]
  rw [← hfilter.length_eq, List.count_eq_countP, List.countP_map, List.countP_eq_length_filter]
  rfl

/-! ## What a step preserves -/

/-- A call of the inner describer adds its caller to the list, and other steps add nobody. -/
theorem mem_asked_step_iff :
    (d ∈ if act.isAsk then asked ++ [c] else asked) ↔ d ∈ asked ∨ act = .ask ∧ d = c := by
  cases act <;> simp [Act.isAsk]

variable [DecidableEq ι]

/-- A step goes on from where the inner describer has been called, or it calls it, or it finds a
result. -/
theorem Step.isEarly_cases (h : Step texts s c act s') (hlate : (s'.points c).isEarly = false) :
    (s.points c).isEarly = false ∨ act = .ask ∨ ∃ value, s.results.get? (texts c) = some value := by
  cases h with
  | ask => exact Or.inr (Or.inl rfl)
  | resultFound point found => exact Or.inr (Or.inr ⟨_, found⟩)
  | _ => simp_all [Point.isEarly]

theorem Step.isEarly_eq_false (h : Step texts s c act s')
    (hlate : (s.points c).isEarly = false) : (s'.points c).isEarly = false := by
  cases h <;> simp_all [Point.isEarly]

theorem Step.isEarly_of_ask (h : Step texts s c .ask s') : (s.points c).isEarly = true := by
  cases h with
  | ask point => rw [point]; rfl

theorem Step.isEarly_after_ask (h : Step texts s c .ask s') : (s'.points c).isEarly = false := by
  cases h with
  | ask point => rw [State.points_move_self]; rfl

theorem Step.hasAsked_cases (h : Step texts s c act s') (hshown : (s'.points c).hasAsked = true) :
    act = .ask ∨ (s.points c).hasAsked = true := by
  cases h with
  | ask => exact Or.inl rfl
  | @release lock result point => cases result <;> simp_all [Point.hasAsked]
  | _ => simp_all [Point.hasAsked]

namespace Tells

theorem kept_step (h : Tells texts outcome s asked) (hstep : Step texts s c act s') {text : String}
    {value : Described} (hkept : s'.results.get? text = some value) :
    outcome text = .ok value := by
  rcases hstep.results_cases with ⟨-, hresults⟩ | ⟨lock, answer, hpoint, hresults, -⟩
  · rw [hresults] at hkept
    exact h.kept text value hkept
  · have hanswer := h.has c
    rw [hpoint] at hanswer
    rw [hresults, Entries.get?_put] at hkept
    split at hkept
    · rename_i htext
      obtain rfl := Option.some.inj hkept
      rw [eq_of_beq htext]
      exact hanswer.symm
    · exact h.kept text value hkept

theorem has_step (h : Tells texts outcome s asked) (hstep : Step texts s c act s')
    (hfits : act.Fits (outcome (texts c))) (d : ι) : (s'.points d).Has (outcome (texts d)) := by
  by_cases hd : d = c
  · subst hd
    have hbefore := h.has d
    cases hstep with
    | read point found =>
      rw [State.points_move_self]
      exact (h.kept _ _ found).symm
    | _ => simp_all [Point.Has, Act.Fits]
  · rw [hstep.points_of_ne hd]
    exact h.has d

theorem nodup_step (h : Tells texts outcome s asked) (hstep : Step texts s c act s') :
    (if act.isAsk then asked ++ [c] else asked).Nodup := by
  split
  · rename_i hask
    have hearly : (s.points c).isEarly = true := by
      cases act <;> simp [Act.isAsk] at hask
      exact hstep.isEarly_of_ask
    have hnew : c ∉ asked := by
      intro hmem
      rw [h.notEarly c hmem] at hearly
      contradiction
    exact List.nodup_append'.mpr
      ⟨h.nodup, List.nodup_singleton c, List.disjoint_singleton.mpr hnew⟩
  · exact h.nodup

theorem notEarly_step (h : Tells texts outcome s asked) (hstep : Step texts s c act s')
    (hd : d ∈ asked ∨ act = .ask ∧ d = c) : (s'.points d).isEarly = false := by
  by_cases hdc : d = c
  · subst hdc
    rcases hd with hmem | ⟨rfl, -⟩
    · exact hstep.isEarly_eq_false (h.notEarly d hmem)
    · exact hstep.isEarly_after_ask
  · rw [hstep.points_of_ne hdc]
    exact h.notEarly d (hd.resolve_right fun hask => hdc hask.2)

theorem shown_step (h : Tells texts outcome s asked) (hstep : Step texts s c act s')
    (hshown : (s'.points d).hasAsked = true) : d ∈ asked ∨ act = .ask ∧ d = c := by
  by_cases hdc : d = c
  · subst hdc
    rcases hstep.hasAsked_cases hshown with hask | hbefore
    · exact Or.inr ⟨hask, rfl⟩
    · exact Or.inl (h.shown d hbefore)
  · rw [hstep.points_of_ne hdc] at hshown
    exact Or.inl (h.shown d hshown)

theorem source_step (h : Tells texts outcome s asked) (hstep : Step texts s c act s')
    {text : String} {value : Described} (hkept : s'.results.get? text = some value) :
    ∃ d ∈ asked, texts d = text := by
  rcases hstep.results_cases with ⟨-, hresults⟩ | ⟨lock, answer, hpoint, hresults, -⟩
  · rw [hresults] at hkept
    exact h.source text value hkept
  · rw [hresults, Entries.get?_put] at hkept
    split at hkept
    · rename_i htext
      exact ⟨c, h.shown c (by rw [hpoint]; rfl), (eq_of_beq htext).symm⟩
    · exact h.source text value hkept

theorem follows_step (h : Tells texts outcome s asked) (hstep : Step texts s c act s')
    (hlate : (s'.points d).isEarly = false) :
    ∃ e, (e ∈ asked ∨ act = .ask ∧ e = c) ∧ texts e = texts d := by
  have hold (hbefore : ∃ e ∈ asked, texts e = texts d) :
      ∃ e, (e ∈ asked ∨ act = .ask ∧ e = c) ∧ texts e = texts d := by
    obtain ⟨e, hmem, htexts⟩ := hbefore
    exact ⟨e, Or.inl hmem, htexts⟩
  by_cases hdc : d = c
  · subst hdc
    rcases hstep.isEarly_cases hlate with hbefore | hask | ⟨value, hkept⟩
    · exact hold (h.follows d hbefore)
    · exact ⟨d, Or.inr ⟨hask, rfl⟩, rfl⟩
    · exact hold (h.source _ _ hkept)
  · rw [hstep.points_of_ne hdc] at hlate
    exact hold (h.follows d hlate)

theorem settled_step (h : Tells texts outcome s asked) (hsound : Sound texts s)
    (hstep : Step texts s c act s') (hfits : act.Fits (outcome (texts c)))
    (hd : d ∈ asked ∨ act = .ask ∧ d = c) {value : Described}
    (hvalue : outcome (texts d) = .ok value) :
    (∃ lock, s'.points d = .holding lock .asking) ∨ Settled texts (texts d) value s' := by
  rcases hd with hmem | ⟨rfl, rfl⟩
  · rcases h.settled d hmem value hvalue with ⟨lock, hpoint⟩ | hsettled
    · by_cases hdc : d = c
      · -- The caller gets the answer in this step.
        subst hdc
        refine Or.inr ?_
        cases hstep with
        | @answered other answer point =>
          have hanswer : Except.ok answer = outcome (texts d) := hfits
          rw [hvalue] at hanswer
          obtain rfl := Except.ok.inj hanswer
          exact (Step.answered point).settled
        | raised point =>
          have hanswer : Except.error _ = outcome (texts d) := hfits
          rw [hvalue] at hanswer
          contradiction
        | _ => simp_all
      · rw [hstep.points_of_ne hdc]
        exact Or.inl ⟨lock, hpoint⟩
    · exact Or.inr (hsettled.step hsound hstep)
  · cases hstep with
    | @ask lock point => exact Or.inl ⟨lock, State.points_move_self _⟩

/-- The inner describer is not called for a text with a result when a caller of the text has called
it. -/
theorem not_ask (h : Tells texts outcome s asked) (hsound : Sound texts s) (hd : d ∈ asked)
    (htexts : texts d = texts c) {value : Described} (hvalue : outcome (texts d) = .ok value) :
    ¬ Step texts s c .ask s' := by
  intro hstep
  rcases h.settled d hd value hvalue with ⟨lock, hpoint⟩ | hsettled
  · have hearly := h.notEarly d hd
    cases hstep with
    | @ask other point =>
      have hsame : d = c :=
        hsound.holding_unique (by rw [hpoint]; rfl) (by rw [point]; rfl) htexts
      rw [hsame, point] at hearly
      contradiction
  · exact hsettled.not_ask hsound htexts.symm hstep

theorem once_step (h : Tells texts outcome s asked) (hsound : Sound texts s)
    (hstep : Step texts s c act s') {e : ι} (hd : d ∈ asked ∨ act = .ask ∧ d = c)
    (he : e ∈ asked ∨ act = .ask ∧ e = c) (htexts : texts d = texts e)
    (hvalue : ∃ value, outcome (texts d) = .ok value) : d = e := by
  obtain ⟨value, hok⟩ := hvalue
  rcases hd with hd | ⟨rfl, rfl⟩
  · rcases he with he | ⟨rfl, rfl⟩
    · exact h.once d hd e he htexts ⟨value, hok⟩
    · exact absurd hstep (h.not_ask hsound hd htexts hok)
  · rcases he with he | ⟨-, rfl⟩
    · exact absurd hstep (h.not_ask hsound he htexts.symm (htexts ▸ hok))
    · rfl

theorem step (h : Tells texts outcome s asked) (hsound : Sound texts s)
    (hstep : Step texts s c act s') (hfits : act.Fits (outcome (texts c))) :
    Tells texts outcome s' (if act.isAsk then asked ++ [c] else asked) where
  kept := fun _ _ hkept => h.kept_step hstep hkept
  has := h.has_step hstep hfits
  nodup := h.nodup_step hstep
  notEarly := fun _ hd => h.notEarly_step hstep (mem_asked_step_iff.mp hd)
  shown := fun _ hshown => mem_asked_step_iff.mpr (h.shown_step hstep hshown)
  source := by
    intro text value hkept
    obtain ⟨d, hmem, htext⟩ := h.source_step hstep hkept
    exact ⟨d, mem_asked_step_iff.mpr (Or.inl hmem), htext⟩
  follows := by
    intro d hlate
    obtain ⟨e, hmem, htexts⟩ := h.follows_step hstep hlate
    exact ⟨e, mem_asked_step_iff.mpr hmem, htexts⟩
  settled := fun _ hd _ hvalue =>
    h.settled_step hsound hstep hfits (mem_asked_step_iff.mp hd) hvalue
  once := fun _ hd _ he htexts hvalue =>
    h.once_step hsound hstep (mem_asked_step_iff.mp hd) (mem_asked_step_iff.mp he) htexts hvalue

end Tells

/-! ## All orders of steps -/

theorem Runs.sound (h : Runs texts outcome s asked) : Sound texts s := by
  induction h with
  | start => exact sound_start
  | step _ hstep _ ih => exact ih.step hstep

theorem Runs.tells (h : Runs texts outcome s asked) : Tells texts outcome s asked := by
  induction h with
  | start => exact tells_start
  | step hruns hstep hfits ih => exact ih.step hruns.sound hstep hfits

/-- Where no caller can take another step, all calls have ended. -/
theorem Sound.left_of_rests (h : Sound texts s) (hrests : Rests texts outcome s) (c : ι) :
    ∃ result, s.points c = .left result := by
  refine h.left_of_no_step (fun d act s' hstep => ?_) c
  -- An answer that does not fit could be replaced by the one that does.
  have hfits := hrests d act s' hstep
  cases hstep with
  | @answered lock _ point =>
    cases houtcome : outcome (texts d) with
    | ok value => exact hrests d _ _ (@Step.answered _ _ _ _ _ _ value point) houtcome.symm
    | error fault => exact hrests d _ _ (@Step.raised _ _ _ _ _ _ fault point) houtcome.symm
  | @raised lock _ point =>
    cases houtcome : outcome (texts d) with
    | ok value => exact hrests d _ _ (@Step.answered _ _ _ _ _ _ value point) houtcome.symm
    | error fault => exact hrests d _ _ (@Step.raised _ _ _ _ _ _ fault point) houtcome.symm
  | _ => exact hfits trivial

/-- All callers end with the outcome of their text. -/
theorem Runs.left_of_rests (h : Runs texts outcome s asked) (hrests : Rests texts outcome s)
    (c : ι) : s.points c = .left (outcome (texts c)) := by
  obtain ⟨result, hpoint⟩ := h.sound.left_of_rests hrests c
  have hresult := h.tells.has c
  rw [hpoint] at hresult
  rw [hpoint, hresult]

/-- Finitely many callers can always go on until none can take another step. -/
theorem Runs.exists_rests [Fintype ι] (h : Runs texts outcome s asked) :
    ∃ s' asked', Reaches texts s s' ∧ Runs texts outcome s' asked' ∧ Rests texts outcome s' := by
  -- Every step brings its caller nearer to the end of the call.
  induction hsteps : ∑ d, (s.points d).stepsLeft using Nat.strong_induction_on
    generalizing s asked with
  | _ steps ih =>
    by_cases hrests : Rests texts outcome s
    · exact ⟨s, asked, .refl, h, hrests⟩
    · unfold Rests at hrests
      push Not at hrests
      obtain ⟨c, act, s₁, hstep, hfits⟩ := hrests
      obtain ⟨s', asked', hreaches, hruns, hdone⟩ :=
        ih _ (hsteps ▸ hstep.sum_stepsLeft_lt) (h.step hstep hfits) rfl
      exact ⟨s', asked', (Reaches.refl.step hstep).trans hreaches, hruns, hdone⟩

/-! ## Who has called the inner describer -/

/-- In the end one caller of each text with a result has called the inner describer. -/
theorem Runs.count_of_ok (h : Runs texts outcome s asked) (hrests : Rests texts outcome s)
    (hvalue : outcome (texts c) = .ok value) : (asked.map texts).count (texts c) = 1 := by
  have htells := h.tells
  have hlate : (s.points c).isEarly = false := by
    rw [h.left_of_rests hrests c]
    rfl
  obtain ⟨d, hd, htexts⟩ := htells.follows c hlate
  have hsingle : ∀ e, e ∈ [d] ↔ e ∈ asked ∧ texts e = texts c := by
    intro e
    rw [List.mem_singleton]
    constructor
    · rintro rfl
      exact ⟨hd, htexts⟩
    · rintro ⟨he, htext⟩
      exact htells.once e he d hd (htext.trans htexts.symm) ⟨value, htext ▸ hvalue⟩
  exact htells.count_eq_length (List.nodup_singleton d) hsingle

/-- In the end every caller of a text without a result has called the inner describer. -/
theorem Runs.count_of_error (h : Runs texts outcome s asked) (hrests : Rests texts outcome s)
    {fault : Fault} (hfault : outcome text = .error fault) {callers : List ι}
    (hnodup : callers.Nodup) (hcallers : ∀ c, c ∈ callers ↔ texts c = text) :
    (asked.map texts).count text = callers.length := by
  refine h.tells.count_eq_length hnodup fun c => ?_
  rw [hcallers c]
  constructor
  · intro htext
    refine ⟨h.tells.shown c ?_, htext⟩
    rw [h.left_of_rests hrests c, htext, hfault]
    rfl
  · exact And.right

end QueryAudit.Callers
