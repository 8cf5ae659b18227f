import QueryAudit.Batch
import QueryAudit.Proofs.Entries

/-!
# What a session remembers

A session that has analysed some call sites remembers the results of their texts and nothing else,
and it has asked once for each text that has a result and once for every call site of a text that
has none. One more call site keeps this true and gets the findings that it gets alone, so a batch
does, too.
-/

namespace QueryAudit

variable {outcome : String → Except Fault Described}

/-- How often some call sites make a session ask for a text. -/
def callCount (outcome : String → Except Fault Described) (operations : List Operation)
    (text : String) : Nat :=
  match outcome text with
  | .ok _ => if some text ∈ operations.map Operation.query then 1 else 0
  | .error _ => (operations.map Operation.query).count (some text)

/-- What a session has learned from some call sites. -/
structure Session.Learned (outcome : String → Except Fault Described) (operations : List Operation)
    (session : Session) : Prop where
  /-- The results that are kept are those of the texts of the call sites. -/
  results : ∀ text value, session.results.get? text = some value ↔
    outcome text = .ok value ∧ some text ∈ operations.map Operation.query
  /-- The describer has been asked for every text as often as the call sites need it. -/
  asked : ∀ text, session.sent.count text = callCount outcome operations text

/-- The texts of some call sites and one more. -/
theorem mem_queries_append {operations : List Operation} {operation : Operation}
    {query text : String} (hquery : operation.query = some query) :
    some text ∈ (operations ++ [operation]).map Operation.query ↔
      some text ∈ operations.map Operation.query ∨ text = query := by
  rw [List.map_append, List.mem_append, List.map_singleton, List.mem_singleton, hquery,
    Option.some_inj]

/-- Only the call sites of a text count. -/
theorem callCount_append (operations : List Operation) (operation : Operation) (text : String) :
    callCount outcome (operations ++ [operation]) text =
      if operation.query = some text then
        match outcome text with
        | .ok _ => 1
        | .error _ => callCount outcome operations text + 1
      else callCount outcome operations text := by
  unfold callCount
  by_cases hquery : operation.query = some text
  · cases outcome text <;> simp [hquery]
  · have hne : some text ≠ operation.query := Ne.symm hquery
    cases outcome text <;> simp [hquery, hne]

namespace Operation

/-- A call site without a query text has no findings. -/
theorem isolated_of_query_eq_none {operation : Operation} (hquery : operation.query = none)
    (describe : String → Except Fault Described) : operation.isolated describe = [] := by
  unfold Operation.isolated Operation.findings
  rw [hquery]

/-- Only what is said about its own text counts for a call site. -/
theorem isolated_congr {operation : Operation} {query : String}
    (hquery : operation.query = some query) {describe describe' : String → Except Fault Described}
    (h : describe query = describe' query) :
    operation.isolated describe = operation.isolated describe' := by
  unfold Operation.isolated Operation.findings
  simp only [hquery, h]

end Operation

namespace Session

theorem learned_start : Learned outcome [] start where
  results := by simp [start, Entries.get?]
  asked := by
    intro text
    unfold callCount
    cases outcome text <;> simp [start]

variable {operations : List Operation} {session : Session}

/-- A call site without a query text teaches nothing. -/
theorem Learned.append_of_query_eq_none (h : Learned outcome operations session)
    {operation : Operation} (hquery : operation.query = none) :
    Learned outcome (operations ++ [operation]) session where
  results := by
    intro text value
    rw [h.results text value]
    simp [hquery]
  asked := by
    intro text
    rw [h.asked text, callCount_append]
    simp [hquery]

/-- The call site of a text with a kept result teaches nothing. -/
theorem Learned.append_of_get?_eq_some (h : Learned outcome operations session)
    {operation : Operation} {query : String} {value : Described}
    (hquery : operation.query = some query) (hvalue : session.results.get? query = some value) :
    Learned outcome (operations ++ [operation]) session where
  results := by
    intro text found
    rw [h.results text found, mem_queries_append hquery]
    refine and_congr_right fun _ => ⟨Or.inl, ?_⟩
    rintro (hold | rfl)
    · exact hold
    · exact ((h.results text value).mp hvalue).2
  asked := by
    intro text
    obtain ⟨houtcome, hknown⟩ := (h.results query value).mp hvalue
    rw [h.asked text, callCount_append]
    by_cases htext : query = text
    · subst htext
      simp [hquery, houtcome, callCount, hknown]
    · simp [hquery, htext]

/-- A text that is asked for the first time is asked for once, and its result is kept. -/
theorem Learned.append_of_ok (h : Learned outcome operations session) {operation : Operation}
    {query : String} {value : Described} (hquery : operation.query = some query)
    (hmissing : session.results.get? query = none) (houtcome : outcome query = .ok value) :
    Learned outcome (operations ++ [operation])
      ⟨session.results.put query value, session.sent ++ [query]⟩ where
  results := by
    intro text found
    rw [Entries.get?_put, mem_queries_append hquery]
    by_cases htext : text = query
    · subst htext
      simp [houtcome]
    · have hkept := h.results text found
      simp [htext, hkept]
  asked := by
    intro text
    have hnew : some query ∉ operations.map Operation.query := by
      intro hmem
      have hkept := (h.results query value).mpr ⟨houtcome, hmem⟩
      rw [hmissing] at hkept
      contradiction
    rw [List.count_append, h.asked text, callCount_append]
    by_cases htext : query = text
    · subst htext
      simp [hquery, houtcome, callCount, hnew]
    · simp [hquery, htext]

/-- A text without a result is asked for once more. -/
theorem Learned.append_of_error (h : Learned outcome operations session) {operation : Operation}
    {query : String} {fault : Fault} (hquery : operation.query = some query)
    (houtcome : outcome query = .error fault) :
    Learned outcome (operations ++ [operation]) ⟨session.results, session.sent ++ [query]⟩ where
  results := by
    intro text found
    rw [h.results text found, mem_queries_append hquery]
    refine and_congr_right fun hfound => ⟨Or.inl, ?_⟩
    rintro (hold | rfl)
    · exact hold
    · rw [houtcome] at hfound
      contradiction
  asked := by
    intro text
    rw [List.count_append, h.asked text, callCount_append]
    by_cases htext : query = text
    · subst htext
      simp [hquery, houtcome]
    · simp [hquery, htext]

/-! ## One call site -/

/-- Without a query text nothing is found and nobody is asked. -/
theorem analyzeIsolated_of_query_eq_none {operation : Operation} (hquery : operation.query = none)
    (ask : Describer) : session.analyzeIsolated ask operation = ([], session) := by
  unfold Session.analyzeIsolated Session.analyze Operation.findings
  simp only [hquery]

/-- With a query text the findings are those for the answer of the session. -/
theorem analyzeIsolated_of_query_eq_some {operation : Operation} {query : String}
    (hquery : operation.query = some query) (ask : Describer) :
    session.analyzeIsolated ask operation =
      (operation.isolated fun _ => (session.describe ask query).1,
        (session.describe ask query).2) := by
  unfold Session.analyzeIsolated Session.analyze Operation.isolated
  simp only [hquery]
  cases operation.findings fun _ => (session.describe ask query).1 <;> rfl

/-- A session answers as its describer does, and it learns from the call site that asks. -/
theorem Learned.describe (h : Learned outcome operations session) {operation : Operation}
    {query : String} (hquery : operation.query = some query) :
    (session.describe (.recording outcome) query).1 = outcome query ∧
      Learned outcome (operations ++ [operation])
        (session.describe (.recording outcome) query).2 := by
  simp only [Session.describe, Describer.recording]
  cases hvalue : session.results.get? query with
  | some value =>
    have houtcome := ((h.results query value).mp hvalue).1
    exact ⟨houtcome.symm, h.append_of_get?_eq_some hquery hvalue⟩
  | none =>
    cases houtcome : outcome query with
    | ok value => exact ⟨rfl, h.append_of_ok hquery hvalue houtcome⟩
    | error fault => exact ⟨rfl, h.append_of_error hquery houtcome⟩

/-- A call site gets the findings that it gets alone, and the session learns from it. -/
theorem Learned.analyzeIsolated (h : Learned outcome operations session) (operation : Operation) :
    (session.analyzeIsolated (.recording outcome) operation).1 = operation.isolated outcome ∧
      Learned outcome (operations ++ [operation])
        (session.analyzeIsolated (.recording outcome) operation).2 := by
  cases hquery : operation.query with
  | none =>
    rw [analyzeIsolated_of_query_eq_none hquery, Operation.isolated_of_query_eq_none hquery]
    exact ⟨rfl, h.append_of_query_eq_none hquery⟩
  | some query =>
    obtain ⟨hanswer, hnext⟩ := h.describe hquery
    rw [analyzeIsolated_of_query_eq_some hquery, hanswer]
    exact ⟨Operation.isolated_congr hquery rfl, hnext⟩

/-! ## A batch -/

/-- A batch gets the findings that its call sites get alone, and the session learns from all. -/
theorem Learned.analyzeAll (h : Learned outcome operations session) (batch : List Operation) :
    (session.analyzeAll (.recording outcome) batch).1 =
        batch.map (fun operation => operation.isolated outcome) ∧
      Learned outcome (operations ++ batch) (session.analyzeAll (.recording outcome) batch).2 := by
  induction batch generalizing operations session with
  | nil => exact ⟨rfl, by simpa [Session.analyzeAll] using h⟩
  | cons operation rest ih =>
    obtain ⟨hfirst, hnext⟩ := h.analyzeIsolated operation
    obtain ⟨hothers, hlast⟩ := ih hnext
    rw [List.append_assoc, List.singleton_append] at hlast
    simp only [Session.analyzeAll, List.map_cons]
    exact ⟨by rw [hfirst, hothers], hlast⟩

end Session

end QueryAudit
