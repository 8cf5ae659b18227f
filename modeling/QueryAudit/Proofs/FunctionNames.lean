import QueryAudit.Proofs.Vocabulary

/-!
# What a function name stands for

The names that stand for a kind are said without the parser: the text of the kind, or its text with
one ending for the optional variant, with any blanks around it. Splitting an ending off finds the
text and the variant of exactly these names. An execution function may also have another name, and
one ending of its own that does not count.
-/

namespace QueryAudit

/-! ## Readers and writers -/

/-- The name is the given text with blanks around it, and with exactly one of the three endings
behind it when it is that of the optional variant. -/
def Spells (name text : String) (isOptional : Bool) : Prop :=
  if isOptional then
    ∃ ending ∈ ["OrNone", "OrNull", "OrValueNone"], Text.trimmed name = text ++ ending
  else Text.trimmed name = text

theorem spells_false {name text : String} :
    Spells name text false ↔ Text.trimmed name = text := Iff.rfl

/-- The endings are tried in another order than they are listed here. -/
theorem spells_true {name text : String} :
    Spells name text true ↔ ∃ ending ∈ optionalEndings, Text.trimmed name = text ++ ending := by
  have hperm : ["OrNone", "OrNull", "OrValueNone"].Perm optionalEndings := by decide
  simp only [Spells, if_true, hperm.mem_iff]

/-- Blanks around a name do not count. -/
theorem splitOptional_trimmed (name : String) :
    splitOptional (Text.trimmed name) = splitOptional name := by
  simp only [splitOptional, Text.trimmed, String.toList_ofList, Text.trim_trim]

/-- What was split puts together the name without the blanks around it. -/
theorem spells_splitOptional (name : String) :
    Spells name (splitOptional name).1 (splitOptional name).2 := by
  rw [splitOptional]
  split
  · rename_i ending hfind
    have hsuffix := List.find?_some hfind
    simp only [Bool.and_eq_true, List.isSuffixOf_iff_suffix] at hsuffix
    refine spells_true.mpr ⟨ending, List.mem_of_find?_eq_some hfind, String.ext ?_⟩
    rw [Text.trimmed, String.toList_append, String.toList_ofList, String.toList_ofList,
      ← String.length_toList, List.suffix_iff_eq_append.mp hsuffix.2]
  · exact spells_false.mpr rfl

/-- A plain text is what is left of the names that it spells and of no others. -/
theorem splitOptional_eq_iff {name text : String} {isOptional : Bool} (h : PlainName text.toList) :
    splitOptional name = (text, isOptional) ↔ Spells name text isOptional := by
  constructor
  · intro hsplit
    have hspells := spells_splitOptional name
    rwa [hsplit] at hspells
  · intro hspells
    rw [← splitOptional_trimmed]
    cases isOptional with
    | false => rw [spells_false.mp hspells, splitOptional_eq_self h]
    | true =>
      obtain ⟨ending, hmem, hname⟩ := spells_true.mp hspells
      rw [hname, splitOptional_append h hmem]

/-- A member other than the one for unknown names is found for the names that its text spells. -/
theorem found_eq_iff {α : Type} [Vocabulary α] [Vocabulary.Lawful α] {unknown member : α}
    {name : String} {isOptional : Bool} (hmember : member ≠ unknown)
    (hplain : PlainName (Vocabulary.text member).toList) :
    ((Vocabulary.ofText? (splitOptional name).1).getD unknown, (splitOptional name).2) =
        (member, isOptional) ↔ Spells name (Vocabulary.text member) isOptional := by
  rw [← splitOptional_eq_iff hplain, Prod.mk.injEq, Prod.ext_iff, Option.getD_eq_iff,
    or_iff_left fun h => hmember h.2.symm, Vocabulary.ofText?_eq_some_iff,
    eq_comm (a := Vocabulary.text member)]

theorem ReaderKind.parse_eq_iff {name : String} {kind : ReaderKind} {isOptional : Bool}
    (h : kind ≠ .unknown) :
    ReaderKind.parse name = (kind, isOptional) ↔
      Spells name (Vocabulary.text kind) isOptional :=
  found_eq_iff h (plainName_reader kind)

theorem WriterKind.parse_eq_iff {name : String} {kind : WriterKind} {isOptional : Bool}
    (h : kind ≠ .unknown) :
    WriterKind.parse name = (kind, isOptional) ↔
      Spells name (Vocabulary.text kind) isOptional :=
  found_eq_iff h (plainName_writer kind)

/-! ## Execution functions -/

namespace ExecutionMode

/-- The name is the text of the mode or another name for it. -/
def Names (name : String) (mode : ExecutionMode) : Prop :=
  name = Vocabulary.text mode ∨ (name, mode) ∈ aliases

/-- The name stands for the mode, with blanks around it and at most one ending `Async`. -/
def Runs (name : String) (mode : ExecutionMode) : Prop :=
  ∃ base, Names base mode ∧ (Text.trimmed name = base ∨ Text.trimmed name = base ++ "Async")

/-- No name for a mode ends as if it had the ending already. -/
theorem Names.not_isSuffixOf {name : String} {mode : ExecutionMode} (h : Names name mode) :
    "Async".toList.isSuffixOf name.toList = false := by
  have haliases : ∀ entry ∈ aliases, "Async".toList.isSuffixOf entry.1.toList = false := by decide
  rcases h with rfl | h
  · cases mode <;> decide
  · exact haliases _ h

/-- Dropping the ending leaves the names that are the base or the base with the ending. -/
theorem dropAsync_eq_iff {chars base : List Char} (h : "Async".toList.isSuffixOf base = false) :
    dropAsync chars = base ↔ chars = base ∨ chars = base ++ "Async".toList := by
  rw [dropAsync]
  split
  · rename_i hsuffix
    obtain ⟨front, rfl⟩ := List.isSuffixOf_iff_suffix.mp hsuffix
    have hne : front ++ "Async".toList ≠ base := by
      rintro rfl
      exact Bool.false_ne_true (h.symm.trans hsuffix)
    rw [← String.length_toList, List.length_append, Nat.add_sub_cancel, List.take_left,
      List.append_left_inj, or_iff_right hne]
  · rename_i hsuffix
    have hne : chars ≠ base ++ "Async".toList := by
      rintro rfl
      exact hsuffix (List.isSuffixOf_iff_suffix.mpr (List.suffix_append _ _))
    rw [or_iff_left hne]

/-- The other names of modes are not texts of modes. -/
theorem lookup_text (mode : ExecutionMode) : aliases.lookup (Vocabulary.text mode) = none := by
  cases mode <;> decide

/-- What is left of a name that is read as a mode names the mode. -/
theorem parse_eq_iff_names {name : String} {mode : ExecutionMode} (h : mode ≠ .unknown) :
    ExecutionMode.parse name = mode ↔
      Names (String.ofList (dropAsync (Text.trim name.toList))) mode := by
  have hkeys : (Entries.keys aliases).Nodup := by decide
  rw [ExecutionMode.parse]
  generalize String.ofList (dropAsync (Text.trim name.toList)) = base
  have halias : aliases.lookup base = some mode ↔ (base, mode) ∈ aliases :=
    Entries.get?_eq_some_iff hkeys
  rw [Names, ← halias]
  cases hlookup : aliases.lookup base with
  | some found =>
    have hne : base ≠ Vocabulary.text mode := by
      rintro rfl
      rw [lookup_text] at hlookup
      cases hlookup
    rw [or_iff_right hne, Option.some.injEq]
  | none =>
    rw [or_iff_left (by simp), Option.getD_eq_iff, or_iff_left fun hnone => h hnone.2.symm,
      Vocabulary.ofText?_eq_some_iff, eq_comm]

/-- A name is read as the mode that it stands for. -/
theorem parse_eq_iff {name : String} {mode : ExecutionMode} (h : mode ≠ .unknown) :
    ExecutionMode.parse name = mode ↔ Runs name mode := by
  rw [parse_eq_iff_names h]
  have hdrop {base : String} (hbase : Names base mode) :
      String.ofList (dropAsync (Text.trim name.toList)) = base ↔
        Text.trimmed name = base ∨ Text.trimmed name = base ++ "Async" := by
    rw [Text.trimmed, ← String.toList_inj, ← String.toList_inj, ← String.toList_inj,
      String.toList_append, String.toList_ofList, String.toList_ofList,
      dropAsync_eq_iff hbase.not_isSuffixOf]
  constructor
  · intro hnames
    exact ⟨_, hnames, (hdrop hnames).mp rfl⟩
  · rintro ⟨base, hnames, hname⟩
    rwa [(hdrop hnames).mpr hname]

end ExecutionMode

/-! ## What is known and what is not -/

/-- Where every known member is read from the names that spell it, the others are unknown. -/
theorem fst_eq_unknown_iff {α : Type} {unknown : α} {found : α × Bool} {spells : α → Bool → Prop}
    (h : ∀ member isOptional, member ≠ unknown →
      (found = (member, isOptional) ↔ spells member isOptional)) :
    found.1 = unknown ↔ ¬∃ member isOptional, member ≠ unknown ∧ spells member isOptional := by
  constructor
  · rintro hfound ⟨member, isOptional, hmember, hspells⟩
    rw [(h member isOptional hmember).mpr hspells] at hfound
    exact hmember hfound
  · intro hnone
    by_contra hknown
    exact hnone ⟨found.1, found.2, hknown, (h _ _ hknown).mp rfl⟩

/-- A known kind is read, with the mark of the variant, from the names that spell it in this variant
and from no others, and a known mode from the names that stand for it. A name that spells no known
kind is read as unknown, and so is one that stands for no known mode. -/
theorem names_read (name : String) :
    (∀ kind isOptional, kind ≠ ReaderKind.unknown →
      (ReaderKind.parse name = (kind, isOptional) ↔
        Spells name (Vocabulary.text kind) isOptional)) ∧
    (∀ kind isOptional, kind ≠ WriterKind.unknown →
      (WriterKind.parse name = (kind, isOptional) ↔
        Spells name (Vocabulary.text kind) isOptional)) ∧
    (∀ mode, mode ≠ ExecutionMode.unknown →
      (ExecutionMode.parse name = mode ↔ ExecutionMode.Runs name mode)) ∧
    ((ReaderKind.parse name).1 = .unknown ↔
      ¬∃ kind isOptional, kind ≠ ReaderKind.unknown ∧
        Spells name (Vocabulary.text kind) isOptional) ∧
    ((WriterKind.parse name).1 = .unknown ↔
      ¬∃ kind isOptional, kind ≠ WriterKind.unknown ∧
        Spells name (Vocabulary.text kind) isOptional) ∧
    (ExecutionMode.parse name = .unknown ↔
      ¬∃ mode, mode ≠ ExecutionMode.unknown ∧ ExecutionMode.Runs name mode) := by
  refine ⟨fun _ _ => ReaderKind.parse_eq_iff, fun _ _ => WriterKind.parse_eq_iff,
    fun _ => ExecutionMode.parse_eq_iff, fst_eq_unknown_iff fun _ _ => ReaderKind.parse_eq_iff,
    fst_eq_unknown_iff fun _ _ => WriterKind.parse_eq_iff, ?_⟩
  constructor
  · rintro hunknown ⟨mode, hmode, hruns⟩
    exact hmode (((ExecutionMode.parse_eq_iff hmode).mpr hruns).symm.trans hunknown)
  · intro hnone
    by_contra hknown
    exact hnone ⟨_, hknown, (ExecutionMode.parse_eq_iff hknown).mp rfl⟩

/-- One ending is taken off and no second one. -/
example : ReaderKind.parse "read.intOrNoneOrNull" = (.unknown, true) := by decide

end QueryAudit
