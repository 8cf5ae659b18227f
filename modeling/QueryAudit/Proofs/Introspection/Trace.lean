import QueryAudit.Proofs.Introspection.Content

/-!
# The reads of a snapshot

The catalogs are read one after the other over one connection, and what has been read is built from
before the next read. The first read that fails and the first row that does not fit end the reading;
nothing is read after that. The connection is closed however the reading ends.
-/

namespace QueryAudit

/-! ## Readings -/

namespace CatalogM

variable {α β : Type} {before events : List CatalogEvent}

/-- How a reading ends that goes on from the events so far, and the events by then. -/
def after (reading : CatalogM α) (events : List CatalogEvent) :
    Except CatalogHalt α × List CatalogEvent :=
  (ExceptT.run reading).run events

theorem after_bind_of_ok {reading : CatalogM α} {next : α → CatalogM β} {a : α}
    (h : reading.after before = (.ok a, events)) :
    (reading >>= next).after before = (next a).after events := by
  change ExceptT.bindCont next (reading.after before).1 (reading.after before).2 = _
  rw [h]
  rfl

theorem after_bind_of_error {reading : CatalogM α} {next : α → CatalogM β} {halt : CatalogHalt}
    (h : reading.after before = (.error halt, events)) :
    (reading >>= next).after before = (.error halt, events) := by
  change ExceptT.bindCont next (reading.after before).1 (reading.after before).2 = _
  rw [h]
  rfl

/-- Building reads nothing. -/
theorem after_build (building : Except CatalogHalt α) :
    (liftM building : CatalogM α).after before = (building, before) :=
  rfl

/-- What is done at the end is done however the reading ends, and leaves its result alone. -/
theorem after_tryFinally (reading : CatalogM α) {cleanup : CatalogM Unit}
    (h : cleanup.after (reading.after before).2 = (.ok (), events)) :
    (tryFinally reading cleanup).after before = ((reading.after before).1, events) := by
  cases hreading : reading.after before with
  | mk result between =>
    rw [hreading] at h
    change reading before = _ at hreading
    change cleanup between = _ at h
    cases result <;>
      simp [after, tryFinally, tryFinally', ExceptT.mk, ExceptT.run, hreading, h, bind,
        StateT.bind, StateT.run, Functor.map, ExceptT.map] <;>
      rfl

end CatalogM

namespace Catalog

variable {α : Type} {catalog : Catalog} {part : CatalogPart} (rows : Catalog → α)

theorem after_read_of_failure {message : String} (h : catalog.failure part = some message)
    (parameters : Option (List (Option String))) (before : List CatalogEvent) :
    (catalog.read part parameters rows).after before =
      (.error (.failed message), before ++ [.read part parameters]) := by
  rw [Catalog.read, h]
  rfl

theorem after_read (h : catalog.failure part = none) (parameters : Option (List (Option String)))
    (before : List CatalogEvent) :
    (catalog.read part parameters rows).after before =
      (.ok (rows catalog), before ++ [.read part parameters]) := by
  rw [Catalog.read, h]
  rfl

/-- Closing a connection never fails. -/
theorem after_close (catalog : Catalog) (before : List CatalogEvent) :
    catalog.close.after before = (.ok (), before ++ [.close]) := by
  rw [close]
  cases catalog.closeFailure <;> rfl

/-- A connection that is refused is not used. -/
theorem start_overConnection_of_refusal {message : String} (h : catalog.refusal = some message)
    (dsn : String) (reading : CatalogM α) :
    (catalog.overConnection dsn reading).start = (.error (.failed message), [.connect dsn]) := by
  have hconnect : (catalog.connect dsn).after [] =
      (.error (.failed message), [.connect dsn]) := by
    rw [connect, h]
    rfl
  exact CatalogM.after_bind_of_error hconnect

/-- A reading over a connection happens after the session is set and before the connection is
closed. -/
theorem start_overConnection (h : catalog.refusal = none) (dsn : String) {reading : CatalogM α}
    {result : Except CatalogHalt α} {events : List CatalogEvent}
    (hreading : reading.after [.connect dsn, .readOnlySession] = (result, events)) :
    (catalog.overConnection dsn reading).start = (result, events ++ [.close]) := by
  have hconnect : (catalog.connect dsn).after [] = (.ok (), [.connect dsn, .readOnlySession]) := by
    rw [connect, h]
    rfl
  have hclose : catalog.close.after (reading.after [.connect dsn, .readOnlySession]).2 =
      (.ok (), events ++ [.close]) := by rw [hreading, catalog.after_close]
  refine (CatalogM.after_bind_of_ok hconnect).trans ?_
  rw [CatalogM.after_tryFinally reading hclose, hreading]

end Catalog

namespace Introspection

variable {α β : Type} {catalog : Catalog}

/-! ## One catalog after the other -/

/-- The catalogs in the order in which they are read. -/
def order : List CatalogPart :=
  [.types, .enums, .columns, .namespaces, .tables, .functions]

/-- Reading all rows of a catalog. -/
def readWhole : CatalogPart → CatalogEvent
  | .columns => .read .columns (some [none, none, none, none])
  | .tables => .read .tables (some [none, none])
  | part => .read part none

theorem readWhole_inj {part other : CatalogPart} :
    readWhole part = readWhole other ↔ part = other := by
  cases part <;> cases other <;> simp [readWhole]

/-- A catalog can be read and its rows fit. -/
def Passes (catalog : Catalog) (part : CatalogPart) : Prop :=
  catalog.failure part = none ∧ Fits catalog part

/-- How the reading of some catalogs ends, with the reads of which it consists: with something that
is `Done`, with the failure of a read, or with rows that do not fit what is built from them. -/
inductive Ends (catalog : Catalog) (Done : α → Prop) :
    List CatalogPart → Except CatalogHalt α → List CatalogEvent → Prop
  /-- There is nothing left to read. -/
  | done {a : α} : Done a → Ends catalog Done [] (.ok a) []
  /-- The next read fails. -/
  | failed {part : CatalogPart} {rest : List CatalogPart} {message : String} :
    catalog.failure part = some message →
      Ends catalog Done (part :: rest) (.error (.failed message)) [readWhole part]
  /-- The rows that are read next do not fit. -/
  | rejected {part : CatalogPart} {rest : List CatalogPart} {halt : CatalogHalt} :
    catalog.failure part = none → ¬ Fits catalog part → (∀ message, halt ≠ .failed message) →
      Ends catalog Done (part :: rest) (.error halt) [readWhole part]
  /-- The rows that are read next fit. -/
  | passed {part : CatalogPart} {rest : List CatalogPart} {result : Except CatalogHalt α}
      {events : List CatalogEvent} :
    Passes catalog part → Ends catalog Done rest result events →
      Ends catalog Done (part :: rest) result (readWhole part :: events)

/-- A reading of these catalogs, whatever has happened before it. -/
def Reads (catalog : Catalog) (Done : α → Prop) (parts : List CatalogPart)
    (reading : CatalogM α) : Prop :=
  ∀ before, ∃ result events, reading.after before = (result, before ++ events) ∧
    Ends catalog Done parts result events

/-- What follows the read of a catalog: its rows fit and the rest is read, or they do not. -/
inductive Follows (catalog : Catalog) (Done : α → Prop) (part : CatalogPart)
    (rest : List CatalogPart) (reading : CatalogM α) : Prop
  /-- The rows fit. -/
  | fits : Fits catalog part → Reads catalog Done rest reading →
      Follows catalog Done part rest reading
  /-- The rows do not fit. -/
  | unfit (halt : CatalogHalt) : ¬ Fits catalog part → (∀ message, halt ≠ .failed message) →
      (∀ before, reading.after before = (.error halt, before)) →
      Follows catalog Done part rest reading

variable {Done : α → Prop} {part : CatalogPart} {parts rest : List CatalogPart}

theorem reads_return {a : α} (h : Done a) : Reads catalog Done [] (pure a) := fun before =>
  ⟨.ok a, [], by rw [List.append_nil]; rfl, .done h⟩

/-- A read and what follows it. -/
theorem reads_read {parameters : Option (List (Option String))} {rows : Catalog → β}
    {next : β → CatalogM α} (hpart : .read part parameters = readWhole part)
    (hnext : Follows catalog Done part rest (next (rows catalog))) :
    Reads catalog Done (part :: rest) (catalog.read part parameters rows >>= next) := by
  intro before
  cases hfailure : catalog.failure part with
  | some message =>
    have hread := Catalog.after_read_of_failure rows hfailure parameters before
    refine ⟨_, [readWhole part], ?_, .failed hfailure⟩
    rw [CatalogM.after_bind_of_error hread, hpart]
  | none =>
    have hread := Catalog.after_read rows hfailure parameters before
    rw [CatalogM.after_bind_of_ok hread, hpart]
    cases hnext with
    | fits hfits hrest =>
      obtain ⟨result, events, hafter, hends⟩ := hrest (before ++ [readWhole part])
      refine ⟨result, readWhole part :: events, ?_, .passed ⟨hfailure, hfits⟩ hends⟩
      rw [hafter, List.append_assoc, List.singleton_append]
    | unfit halt hunfit hhalt hafter =>
      exact ⟨_, [readWhole part], hafter _, .rejected hfailure hunfit hhalt⟩

/-- Building from the rows of a catalog, and what follows. -/
theorem follows_build {building : Except CatalogHalt β} {next : β → CatalogM α}
    (hnever : NeverFails building) (hfits : Fits catalog part → ∃ b, building = .ok b)
    (hnext : ∀ b, building = .ok b → Follows catalog Done part rest (next b)) :
    Follows catalog Done part rest (liftM building >>= next) := by
  cases hbuilding : building with
  | ok b =>
    have hafter (before : List CatalogEvent) :
        (liftM (.ok b : Except CatalogHalt β) >>= next).after before = (next b).after before :=
      CatalogM.after_bind_of_ok (CatalogM.after_build (.ok b))
    cases hnext b hbuilding with
    | fits hfits hrest => exact .fits hfits fun before => by rw [hafter]; exact hrest before
    | unfit halt hunfit hhalt hrest =>
      exact .unfit halt hunfit hhalt fun before => by rw [hafter, hrest]
  | error halt =>
    refine .unfit halt ?_ ?_ fun before =>
      CatalogM.after_bind_of_error (CatalogM.after_build (.error halt))
    · intro hpart
      obtain ⟨b, hb⟩ := hfits hpart
      rw [hbuilding] at hb
      cases hb
    · rintro message rfl
      exact hnever message hbuilding

/-- Taking a snapshot reads the catalogs in order, and a snapshot that is taken is built from all
their rows. -/
theorem reads_snapshot (catalog : Catalog) :
    Reads catalog (fun snapshot => ∃ types found, Built catalog types found snapshot) order
      (snapshot catalog) := by
  rw [snapshot, Catalog.readTypes]
  refine reads_read rfl (.fits trivial ?_)
  rw [Catalog.readLabels, bind_assoc]
  simp only [pure_bind]
  refine reads_read rfl (follows_build (neverFails_registry _ _) exists_registry_iff_fits.mpr
    fun types htypes => .fits (exists_registry_iff_fits.mp ⟨types, htypes⟩) ?_)
  rw [Catalog.readColumns]
  refine reads_read rfl (follows_build (neverFails_columns _ _) exists_columns_iff.mpr
    fun found hcolumns => .fits (exists_columns_iff.mp ⟨found, hcolumns⟩) ?_)
  rw [Catalog.readNamespaces]
  refine reads_read rfl (.fits trivial ?_)
  rw [Catalog.readTables]
  refine reads_read rfl (follows_build (neverFails_schemas _ _ _) exists_schemas_iff.mpr
    fun schemas hschemas => .fits (exists_schemas_iff.mp ⟨schemas, hschemas⟩) ?_)
  rw [Catalog.readFunctions]
  refine reads_read rfl (follows_build (neverFails_functions _ _)
    (fun hfits => exists_functions_iff.mpr hfits.1) fun functions hfunctions => ?_)
  refine follows_build (neverFails_fitted _)
    (fun hfits => exists_numbered_iff.mpr (hfits.2 types htypes)) fun numbered hnumbered => ?_
  have hfits : Fits catalog .functions := by
    refine ⟨exists_functions_iff.mp ⟨functions, hfunctions⟩, fun other hother => ?_⟩
    obtain rfl := Except.ok.inj (htypes.symm.trans hother)
    exact exists_numbered_iff.mp ⟨numbered, hnumbered⟩
  exact .fits hfits
    (reads_return ⟨types, found, htypes, hcolumns, hschemas, hfunctions, hnumbered, rfl⟩)

/-! ## How a reading ends -/

namespace Ends

variable {result : Except CatalogHalt α} {events : List CatalogEvent}

/-- The catalogs are read in order, up to the first one that does not pass. -/
theorem exists_prefix (h : Ends catalog Done parts result events) :
    ∃ read unread, parts = read ++ unread ∧ events = read.map readWhole ∧
      (∀ part ∈ read.dropLast, Passes catalog part) ∧
      (unread = [] ∨ ∃ part, read.getLast? = some part ∧ ¬ Passes catalog part) := by
  induction h with
  | done _ => exact ⟨[], [], rfl, rfl, by simp, Or.inl rfl⟩
  | @failed part rest message hfailure =>
    refine ⟨[part], rest, rfl, rfl, by simp, Or.inr ⟨part, rfl, fun hpasses => ?_⟩⟩
    rw [hpasses.1] at hfailure
    cases hfailure
  | @rejected part rest halt hfailure hunfit hhalt =>
    exact ⟨[part], rest, rfl, rfl, by simp, Or.inr ⟨part, rfl, fun hpasses => hunfit hpasses.2⟩⟩
  | @passed part rest result events hpasses hrest ih =>
    obtain ⟨read, unread, rfl, rfl, hread, hends⟩ := ih
    refine ⟨part :: read, unread, rfl, rfl, ?_, ?_⟩
    · cases read with
      | nil => simp
      | cons next read => simpa [hpasses] using hread
    · refine hends.imp_right ?_
      rintro ⟨last, hlast, hfails⟩
      refine ⟨last, ?_, hfails⟩
      rw [List.getLast?_cons, hlast]
      rfl

/-- There is a result when all catalogs pass. -/
theorem exists_ok_iff (h : Ends catalog Done parts result events) :
    (∃ a, result = .ok a) ↔ ∀ part ∈ parts, Passes catalog part := by
  induction h with
  | @done a _ => simp
  | @failed part rest message hfailure =>
    simp [Passes, hfailure]
  | @rejected part rest halt hfailure hunfit hhalt =>
    simp [Passes, hunfit]
  | @passed part rest result events hpasses hrest ih =>
    simp [ih, hpasses]

theorem done_of_ok {a : α} (h : Ends catalog Done parts result events) (hok : result = .ok a) :
    Done a := by
  induction h with
  | done hdone =>
    cases hok
    exact hdone
  | failed _ => cases hok
  | rejected _ _ _ => cases hok
  | passed _ _ ih => exact ih hok

/-- The failure of the database is that of a read. -/
theorem failed_iff (h : Ends catalog Done parts result events) {message : String} :
    result = .error (.failed message) ↔
      ∃ part, readWhole part ∈ events ∧ catalog.failure part = some message := by
  induction h with
  | done _ => simp
  | @failed part rest message' hfailure =>
    simp [readWhole_inj, hfailure]
  | @rejected part rest halt hfailure hunfit hhalt =>
    simp [readWhole_inj, hfailure, hhalt]
  | @passed part rest result events hpasses hrest ih =>
    rw [ih]
    constructor
    · rintro ⟨other, hread, hfailure⟩
      exact ⟨other, List.mem_cons_of_mem _ hread, hfailure⟩
    · rintro ⟨other, hread, hfailure⟩
      rcases List.mem_cons.mp hread with hsame | hread
      · rw [readWhole_inj.mp hsame, hpasses.1] at hfailure
        cases hfailure
      · exact ⟨other, hread, hfailure⟩

/-- What else ends a reading are rows that were read and do not fit. -/
theorem exists_unfit {halt : CatalogHalt} (h : Ends catalog Done parts result events)
    (hhalt : result = .error halt) (hother : ∀ message, halt ≠ .failed message) :
    ∃ part, readWhole part ∈ events ∧ catalog.failure part = none ∧ ¬ Fits catalog part := by
  induction h with
  | done _ => cases hhalt
  | failed _ =>
    cases hhalt
    exact absurd rfl (hother _)
  | @rejected part rest halt hfailure hunfit _ =>
    exact ⟨part, List.mem_singleton_self _, hfailure, hunfit⟩
  | @passed part rest result events hpasses hrest ih =>
    obtain ⟨other, hread, hfailure, hunfit⟩ := ih hhalt
    exact ⟨other, List.mem_cons_of_mem _ hread, hfailure, hunfit⟩

end Ends

/-! ## Taking a snapshot -/

/-- What happens on the connection when a snapshot is taken, and what comes of it. -/
structure Taken (catalog : Catalog) (dsn : String)
    (result : Except CatalogHalt (Except String Snapshot)) (events : List CatalogEvent) : Prop where
  /-- When the connection is refused nothing else happens. -/
  refused : ∀ message, catalog.refusal = some message →
    result = .ok (.error (failureMessage message)) ∧ events = [.connect dsn]
  /-- Else the session is set, catalogs are read in order up to the first one that does not pass,
  and the connection is closed, once and last. -/
  connected : catalog.refusal = none → ∃ read unread, order = read ++ unread ∧
    events = [.connect dsn, .readOnlySession] ++ read.map readWhole ++ [.close] ∧
    (∀ part ∈ read.dropLast, Passes catalog part) ∧
    (unread = [] ∨ ∃ part, read.getLast? = some part ∧ ¬ Passes catalog part)
  /-- The failure of the connection or of a read is the result, and no other failure is. -/
  failed_iff : ∀ message, result = .ok (.error message) ↔ ∃ cause, failureMessage cause = message ∧
    (catalog.refusal = some cause ∨
      ∃ part, readWhole part ∈ events ∧ catalog.failure part = some cause)
  /-- There is a snapshot exactly when nothing fails and everything fits. -/
  exists_snapshot_iff : (∃ snapshot, result = .ok (.ok snapshot)) ↔
    catalog.refusal = none ∧ ∀ part, Passes catalog part
  /-- A snapshot is complete. -/
  complete : ∀ snapshot, result = .ok (.ok snapshot) → Complete catalog snapshot
  /-- What escapes is never a failure of the database. It comes from rows that were read and do not
  fit, and it escapes when the connection has been closed. -/
  escaped : ∀ halt, result = .error halt → (∀ message, halt ≠ .failed message) ∧
    (∃ part, readWhole part ∈ events ∧ catalog.failure part = none ∧ ¬ Fits catalog part) ∧
    events.getLast? = some .close

theorem mem_order (part : CatalogPart) : part ∈ order := by
  cases part <;> decide

section Outcome

variable {result : Except CatalogHalt Snapshot} {events : List CatalogEvent}

theorem outcome_eq_snapshot_iff {snapshot : Snapshot} :
    outcome result = .ok (.ok snapshot) ↔ result = .ok snapshot := by
  rcases result with (message | issues | ⟨className, operation⟩) | snapshot <;> simp [outcome]

theorem outcome_eq_failure_iff {message : String} :
    outcome result = .ok (.error message) ↔
      ∃ cause, failureMessage cause = message ∧ result = .error (.failed cause) := by
  rcases result with (cause | issues | ⟨className, operation⟩) | snapshot <;> simp [outcome]

theorem outcome_eq_halt_iff {halt : CatalogHalt} :
    outcome result = .error halt ↔ result = .error halt ∧ ∀ message, halt ≠ .failed message := by
  rcases result with (message | issues | ⟨className, operation⟩) | snapshot
  · simp only [outcome, reduceCtorEq, false_iff, not_and]
    rintro h
    cases h
    exact fun hother => hother message rfl
  all_goals simp only [outcome, Except.error.injEq, reduceCtorEq, false_and]
  all_goals exact ⟨by rintro rfl; simp, And.left⟩

theorem takeSnapshot_eq {dsn : String}
    (h : (catalog.overConnection dsn (snapshot catalog)).start = (result, events)) :
    takeSnapshot catalog dsn = (outcome result, events) := by
  rw [takeSnapshot, h]

end Outcome

/-- A refused connection. -/
theorem taken_of_refusal {message : String} (hrefusal : catalog.refusal = some message)
    (dsn : String) :
    Taken catalog dsn (takeSnapshot catalog dsn).1 (takeSnapshot catalog dsn).2 := by
  rw [takeSnapshot_eq (Catalog.start_overConnection_of_refusal hrefusal dsn (snapshot catalog))]
  constructor
  case refused =>
    intro other hother
    obtain rfl := Option.some.inj (hrefusal.symm.trans hother)
    exact ⟨rfl, rfl⟩
  case connected =>
    intro hnone
    rw [hrefusal] at hnone
    cases hnone
  case failed_iff =>
    intro other
    have hnoRead (part : CatalogPart) : readWhole part ∉ [.connect dsn] := by
      cases part <;> simp [readWhole]
    simp [outcome_eq_failure_iff, hrefusal, hnoRead]
  case exists_snapshot_iff =>
    simp [outcome_eq_snapshot_iff, hrefusal]
  case complete =>
    intro snapshot h
    cases h
  case escaped =>
    intro halt h
    cases h

/-- An open connection. -/
theorem taken_of_connected (hrefusal : catalog.refusal = none) (dsn : String) :
    Taken catalog dsn (takeSnapshot catalog dsn).1 (takeSnapshot catalog dsn).2 := by
  obtain ⟨result, reads, hafter, hends⟩ :=
    reads_snapshot catalog [.connect dsn, .readOnlySession]
  have hread (part : CatalogPart) :
      readWhole part ∈ [.connect dsn, .readOnlySession] ++ reads ++ [.close] ↔
        readWhole part ∈ reads := by
    cases part <;> simp [readWhole]
  rw [takeSnapshot_eq (Catalog.start_overConnection hrefusal dsn hafter)]
  constructor
  case refused =>
    intro message hmessage
    rw [hrefusal] at hmessage
    cases hmessage
  case connected =>
    intro _
    obtain ⟨read, unread, horder, rfl, hbefore, hlast⟩ := hends.exists_prefix
    exact ⟨read, unread, horder, rfl, hbefore, hlast⟩
  case failed_iff =>
    intro message
    simp only [outcome_eq_failure_iff, hends.failed_iff, hread, hrefusal, reduceCtorEq, false_or]
  case exists_snapshot_iff =>
    simp only [outcome_eq_snapshot_iff, hends.exists_ok_iff, hrefusal, mem_order, true_and,
      forall_const]
  case complete =>
    intro snapshot h
    obtain ⟨types, found, hbuilt⟩ := hends.done_of_ok (outcome_eq_snapshot_iff.mp h)
    exact hbuilt.complete
  case escaped =>
    intro halt h
    obtain ⟨hresult, hother⟩ := outcome_eq_halt_iff.mp h
    obtain ⟨part, hpart, hunfit⟩ := hends.exists_unfit hresult hother
    exact ⟨hother, ⟨part, (hread part).mpr hpart, hunfit⟩, List.getLast?_concat⟩

theorem taken (catalog : Catalog) (dsn : String) :
    Taken catalog dsn (takeSnapshot catalog dsn).1 (takeSnapshot catalog dsn).2 := by
  cases hrefusal : catalog.refusal with
  | some message => exact taken_of_refusal hrefusal dsn
  | none => exact taken_of_connected hrefusal dsn

/-- A snapshot that is taken is built from all rows of the catalogs. -/
theorem exists_built {dsn : String} {snapshot : Snapshot}
    (h : (takeSnapshot catalog dsn).1 = .ok (.ok snapshot)) :
    ∃ types found, Built catalog types found snapshot := by
  obtain ⟨hrefusal, -⟩ := (taken catalog dsn).exists_snapshot_iff.mp ⟨snapshot, h⟩
  obtain ⟨result, reads, hafter, hends⟩ := reads_snapshot catalog [.connect dsn, .readOnlySession]
  rw [takeSnapshot_eq (Catalog.start_overConnection hrefusal dsn hafter)] at h
  exact hends.done_of_ok (outcome_eq_snapshot_iff.mp h)

/-- Where nothing fails and everything fits a snapshot is taken. -/
theorem exists_built_of_passes (hrefusal : catalog.refusal = none)
    (hpasses : ∀ part, Passes catalog part) (dsn : String) :
    ∃ snapshot types found, (takeSnapshot catalog dsn).1 = .ok (.ok snapshot) ∧
      Built catalog types found snapshot := by
  obtain ⟨snapshot, h⟩ := (taken catalog dsn).exists_snapshot_iff.mpr ⟨hrefusal, hpasses⟩
  obtain ⟨types, found, hbuilt⟩ := exists_built h
  exact ⟨snapshot, types, found, h, hbuilt⟩

/-- Taking a snapshot opens a connection, reads catalogs up to the first failure or the first row
that does not fit, and closes the connection; that closing fails changes nothing. -/
theorem takeSnapshot_taken (catalog : Catalog) (dsn : String) :
    Taken catalog dsn (takeSnapshot catalog dsn).1 (takeSnapshot catalog dsn).2 ∧
      ∀ closeFailure,
        takeSnapshot { catalog with closeFailure } dsn = takeSnapshot catalog dsn := by
  refine ⟨taken catalog dsn, fun closeFailure => ?_⟩
  have hclose : Catalog.close { catalog with closeFailure } = catalog.close := by
    rw [Catalog.close, Catalog.close]
    cases closeFailure <;> cases catalog.closeFailure <;> rfl
  rw [takeSnapshot, Catalog.overConnection, hclose]
  rfl

end Introspection

end QueryAudit
