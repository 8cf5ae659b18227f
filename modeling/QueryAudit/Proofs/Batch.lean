import QueryAudit.Proofs.Session
import QueryAudit.Proofs.Threads

/-!
# Call sites that do not touch each other

The call sites of a batch share the memory of their session, and still each gets what it gets alone,
whether they are analysed in their own order, in another one, or in threads that take their steps in
any order. The memory shows only in how often the describer is asked: once for a text that has a
result, and by every call site of a text that has none.
-/

namespace QueryAudit

variable {outcome : String → Except Fault Described} {operations : List Operation}

/-- What is found for call sites that do not touch each other, and for which texts the describer was
asked, in order. -/
structure Independent (outcome : String → Except Fault Described) (operations : List Operation)
    (found : List (List Diagnostic)) (asked : List String) : Prop where
  /-- Each call site has its findings. -/
  length : found.length = operations.length
  /-- They are in the place of the call site, and they are what it gets alone, asking the describer
  itself. -/
  alone : ∀ (place : Nat) (operation : Operation) (diagnostics : List Diagnostic),
    operations[place]? = some operation → operation.findings outcome = .ok diagnostics →
    found[place]? = some diagnostics
  /-- A fault is one error at the call site. -/
  fault : ∀ (place : Nat) (operation : Operation) (fault : Fault),
    operations[place]? = some operation → operation.findings outcome = .error fault →
    found[place]? = some
      [⟨.error, .analysisFailed, "Analysis failed: " ++ fault.message, operation.range⟩]
  /-- A text with a result is asked for once, if it is the text of a call site. -/
  once : ∀ text value, outcome text = .ok value →
    asked.count text = if some text ∈ operations.map Operation.query then 1 else 0
  /-- A text without a result is asked for by each of its call sites. -/
  again : ∀ text fault, outcome text = .error fault →
    asked.count text = (operations.map Operation.query).count (some text)
  /-- No other text is asked for. -/
  never : ∀ text ∈ asked, some text ∈ operations.map Operation.query

/-- It is enough to find what each call site gets alone and to ask as often as needed. -/
theorem independent_of_isolated {found : List (List Diagnostic)} {asked : List String}
    (hfound : found = operations.map fun operation => operation.isolated outcome)
    (hasked : ∀ text, asked.count text = callCount outcome operations text) :
    Independent outcome operations found asked where
  length := by rw [hfound, List.length_map]
  alone := by
    intro place operation diagnostics hplace hdiagnostics
    rw [hfound, List.getElem?_map, hplace, Option.map_some, Operation.isolated, hdiagnostics]
  fault := by
    intro place operation fault hplace hfault
    rw [hfound, List.getElem?_map, hplace, Option.map_some, Operation.isolated, hfault]
    rfl
  once := by
    intro text value hvalue
    rw [hasked, callCount, hvalue]
  again := by
    intro text fault hfault
    rw [hasked, callCount, hfault]
  never := by
    intro text hmem
    have hpos := List.count_pos_iff.mpr hmem
    rw [hasked, callCount] at hpos
    cases houtcome : outcome text with
    | ok value =>
      rw [houtcome] at hpos
      by_contra hnot
      simp [hnot] at hpos
    | error fault =>
      rw [houtcome] at hpos
      exact List.count_pos_iff.mp hpos

/-! ## One after the other -/

/-- The order of the call sites does not matter to how often a text is asked for. -/
theorem callCount_perm {operations' : List Operation} (h : operations'.Perm operations)
    (text : String) : callCount outcome operations' text = callCount outcome operations text := by
  have hqueries := h.map Operation.query
  unfold callCount
  simp only [hqueries.mem_iff, hqueries.count_eq]

/-- Findings that come in any order are put into the order of the places. -/
theorem map_snd_mergeSort_placed {executed : List (Operation × Nat)}
    (h : executed.Perm operations.zipIdx) (found : Operation → List Diagnostic) :
    ((executed.map fun entry => (entry.2, found entry.1)).mergeSort
      fun a b => decide (a.1 ≤ b.1)).map Prod.snd = operations.map found := by
  have hsorted : (operations.zipIdx.map fun entry => (entry.2, found entry.1)).Pairwise
      fun a b => a.1 < b.1 :=
    List.pairwise_map.mpr (Entries.pairwise_zipIdx operations 0)
  rw [Entries.mergeSort_eq_of_perm (h.map _) hsorted, List.map_map]
  conv => rhs; rw [← List.zipIdx_map_fst 0 operations, List.map_map]
  rfl

/-- The order in which a session comes to its call sites does not show in what is found. -/
theorem independent_analyzeInOrder {executed : List (Operation × Nat)}
    (h : executed.Perm operations.zipIdx) :
    Independent outcome operations
      (Session.start.analyzeInOrder (.recording outcome) executed).1
      (Session.start.analyzeInOrder (.recording outcome) executed).2.sent := by
  have hbatch : (executed.map Prod.fst).Perm operations := by
    have hperm := h.map Prod.fst
    rwa [List.zipIdx_map_fst] at hperm
  have hstart : Session.Learned outcome [] Session.start := Session.learned_start
  obtain ⟨hfound, hlast⟩ := hstart.analyzeAll (executed.map Prod.fst)
  rw [List.nil_append] at hlast
  refine independent_of_isolated ?_ fun text => ?_
  · have hplaced : (executed.map Prod.snd).zip
        ((executed.map Prod.fst).map fun operation => operation.isolated outcome) =
        executed.map fun entry => (entry.2, entry.1.isolated outcome) := by
      rw [List.map_map, List.zip_map']
      rfl
    simp only [Session.analyzeInOrder, hfound, hplaced]
    exact map_snd_mergeSort_placed h fun operation => operation.isolated outcome
  · rw [← callCount_perm hbatch text, ← hlast.asked text]
    rfl

/-- In the order of the batch, too. -/
theorem independent_analyzeAll (outcome : String → Except Fault Described)
    (operations : List Operation) :
    Independent outcome operations (Session.start.analyzeAll (.recording outcome) operations).1
      (Session.start.analyzeAll (.recording outcome) operations).2.sent := by
  have hstart : Session.Learned outcome [] Session.start := Session.learned_start
  obtain ⟨hfound, hlast⟩ := hstart.analyzeAll operations
  exact independent_of_isolated hfound hlast.asked

/-! ## In threads -/

namespace Batch

/-- The call sites of a text. -/
def sitesOf (operations : List Operation) (text : String) : List (Site operations) :=
  ((List.finRange operations.length).filter fun place =>
    decide ((operations.get place).query = some text)).pmap Subtype.mk (by
      intro place hplace
      have hquery := of_decide_eq_true (List.mem_filter.mp hplace).2
      rw [hquery]
      rfl)

theorem mem_sitesOf {text : String} (site : Site operations) :
    site ∈ sitesOf operations text ↔ site.text = text := by
  obtain ⟨place, hsome⟩ := site
  obtain ⟨found, hfound⟩ := Option.isSome_iff_exists.mp hsome
  have htext : Site.text ⟨place, hsome⟩ = found := by
    simp only [Site.text, hfound, Option.get_some]
  have hquery : (operations.get place).query = some text ↔ found = text := by
    rw [hfound, Option.some.injEq]
  simp only [sitesOf, List.mem_pmap, List.mem_filter, List.mem_finRange, true_and, htext,
    decide_eq_true_eq, Subtype.mk.injEq, exists_prop, exists_eq_right, hquery]

theorem nodup_sitesOf (operations : List Operation) (text : String) :
    (sitesOf operations text).Nodup := by
  have hplaces := (List.nodup_finRange operations.length).filter fun place =>
    decide ((operations.get place).query = some text)
  exact hplaces.pmap fun _ _ _ _ hequal => congrArg Subtype.val hequal

/-- A text has as many call sites as operations with it. -/
theorem length_sitesOf (operations : List Operation) (text : String) :
    (sitesOf operations text).length = (operations.map Operation.query).count (some text) := by
  rw [sitesOf, List.length_pmap, ← List.countP_eq_length_filter, List.count_eq_countP,
    List.countP_map]
  conv => rhs; rw [← List.map_get_finRange operations, List.countP_map]
  refine List.countP_congr fun place _ => ?_
  simp

/-- A thread that has ended has found what its call site gets alone. -/
theorem threadFindings_eq {s : Callers.State (Site operations)}
    (hleft : ∀ site : Site operations, s.points site = .left (outcome site.text))
    (place : Fin operations.length) :
    threadFindings s place = (operations.get place).isolated outcome := by
  unfold threadFindings
  by_cases hsome : (operations.get place).query.isSome = true
  · obtain ⟨text, hquery⟩ := Option.isSome_iff_exists.mp hsome
    have htext : Site.text ⟨place, hsome⟩ = text := by
      simp only [Site.text, hquery, Option.get_some]
    simp only [hsome, ↓reduceDIte, hleft, htext]
    exact Operation.isolated_congr hquery rfl
  · have hquery := Option.not_isSome_iff_eq_none.mp hsome
    rw [dif_neg hsome, Operation.isolated_of_query_eq_none hquery,
      Operation.isolated_of_query_eq_none hquery]

/-- The findings of all threads, once all have ended. -/
theorem findings_eq {s : Callers.State (Site operations)}
    (hleft : ∀ site : Site operations, s.points site = .left (outcome site.text)) :
    findings s = operations.map fun operation => operation.isolated outcome := by
  have hthreads : threadFindings s = fun place => (operations.get place).isolated outcome :=
    funext (threadFindings_eq hleft)
  rw [findings, hthreads, List.ofFn_eq_map]
  conv => rhs; rw [← List.map_get_finRange operations, List.map_map]
  rfl

/-- Each thread asks or waits for one that does. -/
theorem callCount_of_rests {s : Callers.State (Site operations)} {asked : List (Site operations)}
    (hruns : Callers.Runs Site.text outcome s asked) (hrests : Callers.Rests Site.text outcome s)
    (text : String) : (asked.map Site.text).count text = callCount outcome operations text := by
  unfold callCount
  cases houtcome : outcome text with
  | ok value =>
    by_cases hsites : sitesOf operations text = []
    · have hnone : some text ∉ operations.map Operation.query := by
        rw [← List.count_eq_zero, ← length_sitesOf, hsites, List.length_nil]
      simp only [hnone, ↓reduceIte, List.count_eq_zero, List.mem_map]
      rintro ⟨site, -, htext⟩
      rw [← mem_sitesOf, hsites] at htext
      exact List.not_mem_nil htext
    · obtain ⟨site, hsite⟩ := List.exists_mem_of_ne_nil _ hsites
      have htext := (mem_sitesOf site).mp hsite
      have hmem : some text ∈ operations.map Operation.query := by
        rw [← List.count_pos_iff, ← length_sitesOf]
        exact List.length_pos_of_mem hsite
      rw [← htext] at houtcome hmem ⊢
      simp only [hmem, ↓reduceIte]
      exact hruns.count_of_ok hrests houtcome
  | error fault =>
    rw [← length_sitesOf]
    exact hruns.count_of_error hrests houtcome (nodup_sitesOf operations text) mem_sitesOf

end Batch

/-- The call sites of a batch do not touch each other, in the order of the batch, in any other
order, and in threads that take their steps in any order and can always come to their end. -/
theorem batch_independent (outcome : String → Except Fault Described)
    (operations : List Operation) :
    Independent outcome operations
      (Session.start.analyzeAll (.recording outcome) operations).1
      (Session.start.analyzeAll (.recording outcome) operations).2.sent ∧
    (∀ executed : List (Operation × Nat), executed.Perm operations.zipIdx →
      Independent outcome operations
        (Session.start.analyzeInOrder (.recording outcome) executed).1
        (Session.start.analyzeInOrder (.recording outcome) executed).2.sent) ∧
    ∀ (s : Callers.State (Batch.Site operations)) (asked : List (Batch.Site operations)),
      Callers.Runs Batch.Site.text outcome s asked →
      (Callers.Rests Batch.Site.text outcome s →
        Independent outcome operations (Batch.findings s) (asked.map Batch.Site.text)) ∧
      ∃ s' asked', Callers.Reaches Batch.Site.text s s' ∧
        Callers.Runs Batch.Site.text outcome s' asked' ∧
        Callers.Rests Batch.Site.text outcome s' := by
  refine ⟨independent_analyzeAll outcome operations, fun executed h => independent_analyzeInOrder h,
    fun s asked hruns => ⟨fun hrests => ?_, hruns.exists_rests⟩⟩
  exact independent_of_isolated (Batch.findings_eq (hruns.left_of_rests hrests))
    (Batch.callCount_of_rests hruns hrests)

/-- Two call sites of one text: it is asked for once when the second is analysed first, and when
each has its thread. -/
theorem batch_of_one_text_independent :
    let site : Operation := ⟨some "SELECT 1", .start, [], [], .rows⟩
    let later : Operation := ⟨some "SELECT 1", ⟨none, 2, 0, none, none⟩, [], [], .rows⟩
    let outcome : String → Except Fault Described := fun _ => .ok (.ok ⟨[], []⟩)
    (Session.start.analyzeInOrder (.recording outcome) [(later, 1), (site, 0)]).2.sent.count
      "SELECT 1" = 1 ∧
    ∃ (s : Callers.State (Batch.Site [site, later])) (asked : List (Batch.Site [site, later])),
      Callers.Runs Batch.Site.text outcome s asked ∧ (Batch.findings s).length = 2 ∧
        (asked.map Batch.Site.text).count "SELECT 1" = 1 := by
  intro site later outcome
  obtain ⟨-, hordered, hthreads⟩ := batch_independent outcome [site, later]
  have hmem : some "SELECT 1" ∈ [site, later].map Operation.query := List.mem_cons_self
  constructor
  · have honce := (hordered [(later, 1), (site, 0)] (.swap _ _ _)).once "SELECT 1" _ rfl
    rwa [if_pos hmem] at honce
  · obtain ⟨-, s, asked, -, hruns, hrests⟩ := hthreads _ _ .start
    have hindependent := (hthreads s asked hruns).1 hrests
    have honce := hindependent.once "SELECT 1" _ rfl
    rw [if_pos hmem] at honce
    exact ⟨s, asked, hruns, hindependent.length, honce⟩

end QueryAudit
