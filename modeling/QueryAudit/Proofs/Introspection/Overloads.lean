import QueryAudit.Proofs.Introspection.Fitting

/-!
# The overloads of functions

The catalog gives types for the arguments that a caller passes, but names and modes for all arguments,
if it gives any. A signature has the types and names of the same arguments, in their order, and an
argument without a name has a place all the same. Looking a function up by its name gives the
signatures of all rows with that name in whatever letter case.
-/

namespace QueryAudit.Introspection

/-! ## The signature of a row -/

/-- The places of the arguments that a caller passes. Without modes all arguments are passed. -/
def inputPlaces (row : FunctionRow) : List Nat :=
  match row.argumentModes.getD [] with
  | [] => List.range (row.argumentTypes.getD []).length
  | modes => modes.findIdxs inputModes.contains

/-- A row has one type for each argument that a caller passes. -/
def Arranged (row : FunctionRow) : Prop :=
  (inputPlaces row).length = (row.argumentTypes.getD []).length

/-- The text of a name, which is none if the name is empty. -/
def spelling? (name : Scalar) : Option String :=
  if name.isPresent then name.text? else none

/-- The name of the argument at a place, which is none if the name is empty or missing. -/
def argumentName? (row : FunctionRow) (place : Nat) : Option String :=
  (row.argumentNames.getD [])[place]?.bind spelling?

/-- What a signature has from its row. -/
structure SignatureOf (types : Types) (row : FunctionRow) (signature : Signature) : Prop where
  /-- The name. -/
  name : row.name = .text signature.name
  /-- The schema. -/
  schemaName : row.schemaName.text? = some signature.schemaName
  /-- The types of the arguments that a caller passes, each unknown if it is not registered. -/
  parameterTypes : signature.parameterTypes =
    (row.argumentTypes.getD []).map fun oid => (types.get? oid).getD .unknown
  /-- The names of the arguments that a caller passes. -/
  parameterNames : signature.parameterNames = (inputPlaces row).map (argumentName? row)
  /-- There is one name for each type. -/
  length_eq : signature.parameterNames.length = signature.parameterTypes.length
  /-- The type of the result, unknown if it is not registered. -/
  returnType : signature.returnType = (types.get? row.returnType).getD .unknown
  /-- Whether a call returns a set. -/
  returnsSet : row.returnsSet.truth? = some signature.returnsSet
  /-- A call returns several values when the type of the result is composite or a pseudo-type. -/
  returnsComposite : signature.returnsComposite = true ↔
    row.returnKind = .text "c" ∨ row.returnKind = .text "p"

/-! ### Names by place -/

/-- Of names and modes in parallel, those names are kept that stand at the places of the modes. -/
theorem getElem?_filter_zip {α β : Type} (names : List α) (modes : List β) (p : β → Bool) (k : Nat) :
    (((names.zip modes).filter fun pair => p pair.2).map Prod.fst)[k]? =
      (modes.findIdxs p)[k]?.bind fun place => names[place]? := by
  induction modes generalizing names k with
  | nil => simp
  | cons mode modes ih =>
    cases names with
    | nil => simp
    | cons name names =>
      have hshift (k : Nat) : (modes.findIdxs p 1)[k]?.bind (fun place => (name :: names)[place]?) =
          (modes.findIdxs p)[k]?.bind fun place => names[place]? := by
        rw [List.findIdxs_start, List.getElem?_map]
        cases (modes.findIdxs p)[k]? <;> simp
      rw [List.zip_cons_cons, List.filter_cons, List.findIdxs_cons]
      cases p mode with
      | false => simpa [hshift] using ih names k
      | true =>
        cases k with
        | zero => simp
        | succ k => simpa [hshift] using ih names k

variable {row : FunctionRow}

/-- The names that are kept are those at the places of the arguments that are passed. -/
theorem getElem?_inputNames {k : Nat} (hk : k < (row.argumentTypes.getD []).length) :
    (inputNames row)[k]? =
      (inputPlaces row)[k]?.bind fun place => (row.argumentNames.getD [])[place]? := by
  rw [inputNames, inputPlaces]
  cases row.argumentModes.getD [] with
  | nil => simp [List.getElem?_range hk]
  | cons mode modes => exact getElem?_filter_zip _ _ _ k

/-- A list that is filled up has an item at each place. -/
theorem getElem?_filled {α : Type} (items : List α) (fill : α) {count k : Nat} (hk : k < count) :
    ((items ++ List.replicate count fill).take count)[k]? = some (items[k]?.getD fill) := by
  rw [List.getElem?_take_of_lt hk, List.getElem?_append]
  split
  · rename_i h
    rw [List.getElem?_eq_getElem h, Option.getD_some]
  · rename_i h
    rw [List.getElem?_eq_none (Nat.le_of_not_lt h), List.getElem?_replicate_of_lt (by omega),
      Option.getD_none]

/-- Names that pass are spelled one by one, and missing ones are none. -/
theorem eq_of_parameterNames {count : Nat} {names : List Scalar} {result : List (Option String)}
    (h : parameterNames count names = .ok result) :
    result = ((names ++ List.replicate count Scalar.null).take count).map spelling? := by
  rw [parameterNames, Checked.itemsFrom_eq_ok_iff] at h
  have hsame := map_eq_map_of_related h (f := spelling?) (g := id) ?_
  · rw [hsame, List.map_id]
  intro name spelled hspelled
  rw [Decoder.optional_scalar_eq_ok_iff] at hspelled
  by_cases hpresent : name.isPresent = true
  · rw [if_pos hpresent] at hspelled
    obtain ⟨rfl, -⟩ | ⟨-, s, hs, rfl⟩ := hspelled
    · cases hpresent
    · rw [spelling?, if_pos hpresent, Scalar.text?_eq_some_iff.mpr hs, id]
  · rw [if_neg hpresent] at hspelled
    obtain ⟨-, rfl⟩ | ⟨habsent, -⟩ := hspelled
    · rw [spelling?, if_neg hpresent, id]
    · exact absurd rfl habsent

/-- The names of a signature are those of the arguments that are passed. -/
theorem parameterNames_eq_argumentNames (harranged : Arranged row) {result : List (Option String)}
    (h : parameterNames (row.argumentTypes.getD []).length (inputNames row) = .ok result) :
    result = (inputPlaces row).map (argumentName? row) := by
  rw [eq_of_parameterNames h]
  have hlength : (inputPlaces row).length = (row.argumentTypes.getD []).length := harranged
  refine List.ext_getElem? fun k => ?_
  rw [List.getElem?_map, List.getElem?_map]
  by_cases hk : k < (row.argumentTypes.getD []).length
  · rw [getElem?_filled _ _ hk, getElem?_inputNames hk, List.getElem?_eq_getElem (hlength ▸ hk),
      Option.map_some, Option.map_some, Option.bind_some, argumentName?]
    cases (row.argumentNames.getD [])[(inputPlaces row)[k]]? <;> rfl
  · rw [List.getElem?_eq_none (by rw [List.length_take]; omega), List.getElem?_eq_none (by omega)]
    rfl

theorem signatureOf_of_fits {types : Types} (harranged : Arranged row) {result : Signature}
    (hname : row.name = .text result.name) (h : signature types row = .ok result) :
    SignatureOf types row result := by
  obtain ⟨-, hschema, hnames, hset, htypes, hreturn, hcomposite⟩ := signature_eq_ok_iff.mp h
  have hplaces := parameterNames_eq_argumentNames harranged hnames
  refine ⟨hname, hschema, htypes, hplaces, ?length, hreturn, hset, ?composite⟩
  case length =>
    rw [hplaces, htypes, List.length_map, List.length_map]
    exact harranged
  case composite =>
    rw [hcomposite, Bool.or_eq_true, Scalar.beq_iff_eq_of_text? (Scalar.text?_text "c"),
      Scalar.beq_iff_eq_of_text? (Scalar.text?_text "p")]

/-! ## Looking functions up -/

variable {types : Types} {rows : List FunctionRow}

/-- Rows that fit and that have one type for each argument that is passed give one signature each.
Looking a name up gives the signatures with that name, when letter case does not count, in the order
of the rows. -/
theorem functions_overloaded (hfits : ∀ row ∈ rows, FunctionFits row)
    (harranged : ∀ row ∈ rows, Arranged row) :
    ∃ found signatures, functions types rows = .ok found ∧
      List.Forall₂ (SignatureOf types) rows signatures ∧
      ∀ snapshot : Snapshot, snapshot.functions = found → ∀ name,
        snapshot.overloads name =
          signatures.filter fun signature => Text.lowered name == Text.lowered signature.name := by
  obtain ⟨found, hfound⟩ := exists_functions_iff.mpr hfits
  obtain ⟨signatures, hsignatures, hgroup⟩ := exists_signatures hfound
  refine ⟨found, signatures, hfound, ?_, fun snapshot hsnapshot =>
    overloads_eq_filter (hsnapshot.trans hgroup)⟩
  refine ((List.forall₂_and_left _ _).mpr ⟨harranged, hsignatures⟩).imp ?_
  exact fun row result ⟨harranged, hname, hresult⟩ => signatureOf_of_fits harranged hname hresult

/-- The functions of two schemas. The names of two differ in letter case only. One of these has an
output between its arguments and another behind them, and its second input has no name. -/
def moves : List FunctionRow :=
  [⟨.text "a", .text "Move", some [.int 23, .int 99],
      some [.text "step", .text "old", .text "", .text "new"],
      some [.text "i", .text "o", .text "v", .text "t"], .int 2249, .bool true, .text "p"⟩,
    ⟨.text "b", .text "move", some [.int 25], none, none, .int 25, .bool false, .text "b"⟩,
    ⟨.text "b", .text "stay", none, none, none, .int 25, .bool false, .text "b"⟩]

theorem fits_moves : ∀ row ∈ moves, FunctionFits row := by
  simp [moves, FunctionFits, inputNames, inputModes, Scalar.isPresent]

theorem arranged_moves : ∀ row ∈ moves, Arranged row := by
  simp only [Arranged]
  decide

/-- The inputs keep their own names. -/
theorem moves_overloaded :
    (∀ row ∈ moves, FunctionFits row) ∧ (∀ row ∈ moves, Arranged row) ∧
      ∃ found, ∃ signatures : List Signature,
        functions [(.int 23, .scalar "integer")] moves = .ok found ∧
        signatures.map Signature.parameterNames = [[some "step", none], [none], []] ∧
        ∀ snapshot : Snapshot, snapshot.functions = found → ∀ name, snapshot.overloads name =
          signatures.filter fun signature => Text.lowered name == Text.lowered signature.name := by
  obtain ⟨found, signatures, hfound, hsignatures, hoverloads⟩ :=
    functions_overloaded fits_moves arranged_moves
  refine ⟨fits_moves, arranged_moves, found, signatures, hfound, ?_, hoverloads⟩
  rw [← map_eq_map_of_related hsignatures fun _ _ h => h.parameterNames.symm]
  decide

end QueryAudit.Introspection
