import QueryAudit.Proofs.Query.Numbering
import QueryAudit.Registry

/-!
# What the registry settles

When the registry describes a call it has looked at every argument. Each has no placeholder, or it
is one placeholder and nothing else, and the positions of the parameters are those of the latter.
-/

namespace QueryAudit.Registry

/-- An argument that the registry settles. -/
def Settled (rewritten : Query.Rewritten) (argument : String) : Prop :=
  ∃ finding, inspect rewritten argument = .ok finding ∧ finding ≠ .unsettled

/-- What an argument adds when it is the placeholder with a position. -/
def place? (rewritten : Query.Rewritten) (argument : String × DataType) :
    Option (Nat × DataType) :=
  match inspect rewritten argument.1 with
  | .ok (.position n) => some (n, argument.2)
  | _ => none

theorem place?_eq_some_iff {rewritten : Query.Rewritten} {argument : String × DataType} {n : Nat}
    {type : DataType} :
    place? rewritten argument = some (n, type) ↔
      inspect rewritten argument.1 = .ok (.position n) ∧ argument.2 = type := by
  unfold place?
  split
  · rename_i m hinspect
    rw [hinspect]
    simp
  · rename_i hother
    simpa using fun h => absurd h (hother n)

/-- The positions of the arguments, each with the type where it occurs first. -/
def places (rewritten : Query.Rewritten) (arguments : List (String × DataType)) :
    Entries Nat DataType :=
  Entries.firsts (arguments.filterMap (place? rewritten))

/-- Every argument is settled when positions are collected, and what the arguments add is added to
the known positions. -/
theorem collect_eq_some {rewritten : Query.Rewritten} {known positions : Entries Nat DataType}
    {arguments : List (String × DataType)}
    (h : collect rewritten known arguments = .ok (some positions)) :
    (∀ argument ∈ arguments, Settled rewritten argument.1) ∧
      positions = (arguments.filterMap (place? rewritten)).foldl
        (fun entries pair => entries.putNew pair.1 pair.2) known := by
  induction arguments generalizing known with
  | nil =>
    obtain rfl := Option.some.inj (Except.ok.inj h)
    simp
  | cons head rest ih =>
    obtain ⟨argument, type⟩ := head
    rw [collect] at h
    cases hinspect : inspect rewritten argument with
    | error error =>
      rw [hinspect] at h
      cases h
    | ok finding =>
      rw [hinspect] at h
      cases finding with
      | unsettled => cases h
      | nothing =>
        obtain ⟨hsettled, hpositions⟩ := ih h
        have hplace : place? rewritten (argument, type) = none := by rw [place?, hinspect]
        rw [List.filterMap_cons_none hplace]
        exact ⟨List.forall_mem_cons.mpr ⟨⟨_, hinspect, by simp⟩, hsettled⟩, hpositions⟩
      | position n =>
        obtain ⟨hsettled, hpositions⟩ := ih h
        have hplace : place? rewritten (argument, type) = some (n, type) :=
          place?_eq_some_iff.mpr ⟨hinspect, rfl⟩
        rw [List.filterMap_cons_some hplace]
        exact ⟨List.forall_mem_cons.mpr ⟨⟨_, hinspect, by simp⟩, hsettled⟩, hpositions⟩

/-- The positions are those of the arguments. -/
theorem mem_keys_places {rewritten : Query.Rewritten} {arguments : List (String × DataType)}
    {n : Nat} : n ∈ (places rewritten arguments).keys ↔
      ∃ argument ∈ arguments, inspect rewritten argument.1 = .ok (.position n) := by
  rw [places, Entries.mem_keys_firsts, List.mem_map]
  constructor
  · rintro ⟨⟨n, type⟩, hplace, rfl⟩
    obtain ⟨argument, hargument, hplace⟩ := List.mem_filterMap.mp hplace
    exact ⟨argument, hargument, (place?_eq_some_iff.mp hplace).1⟩
  · rintro ⟨argument, hargument, hinspect⟩
    have hplace : place? rewritten argument = some (n, argument.2) :=
      place?_eq_some_iff.mpr ⟨hinspect, rfl⟩
    exact ⟨_, List.mem_filterMap.mpr ⟨argument, hargument, hplace⟩, rfl⟩

/-- A position has the type of the first argument where it occurs. -/
theorem mem_places_iff {rewritten : Query.Rewritten} {arguments : List (String × DataType)}
    {n : Nat} {type : DataType} : (n, type) ∈ places rewritten arguments ↔
      ∃ before argument after, arguments = before ++ (argument, type) :: after ∧
        inspect rewritten argument = .ok (.position n) ∧
        ∀ earlier ∈ before, inspect rewritten earlier.1 ≠ .ok (.position n) := by
  rw [places, Entries.mem_firsts_iff, List.lookup_eq_some_iff]
  constructor
  · rintro ⟨before', after', hplaces, hearlier⟩
    obtain ⟨before, rest, rfl, rfl, hrest⟩ := List.filterMap_eq_append_iff.mp hplaces
    obtain ⟨nothing, ⟨argument, type⟩, after, rfl, hnothing, hplace, _⟩ :=
      List.filterMap_eq_cons_iff.mp hrest
    obtain ⟨hinspect, rfl⟩ := place?_eq_some_iff.mp hplace
    refine ⟨before ++ nothing, argument, after, by simp, hinspect, fun earlier hmem hsame => ?_⟩
    have hplace : place? rewritten earlier = some (n, earlier.2) :=
      place?_eq_some_iff.mpr ⟨hsame, rfl⟩
    rcases List.mem_append.mp hmem with hbefore | hbefore
    · simpa using hearlier _ (List.mem_filterMap.mpr ⟨earlier, hbefore, hplace⟩)
    · rw [hnothing earlier hbefore] at hplace
      cases hplace
  · rintro ⟨before, argument, after, rfl, hinspect, hearlier⟩
    have hplace : place? rewritten (argument, type) = some (n, type) :=
      place?_eq_some_iff.mpr ⟨hinspect, rfl⟩
    refine ⟨_, _, by rw [List.filterMap_append, List.filterMap_cons_some hplace], ?_⟩
    rintro ⟨m, _⟩ hmem
    obtain ⟨earlier, hbefore, hearlierPlace⟩ := List.mem_filterMap.mp hmem
    simp only [bne_iff_ne, ne_eq]
    rintro rfl
    exact hearlier earlier hbefore (place?_eq_some_iff.mp hearlierPlace).1

/-! ## What overloads describe -/

/-- An overload describes a call when every argument is settled: the parameters are in the order of
their positions, and there is one column. -/
theorem describeWith_eq_some {signature : Signature} {call : Query.Call}
    {rewritten : Query.Rewritten} {description : Description}
    (h : describeWith signature call rewritten = .ok (some description)) :
    (∀ argument ∈ call.arguments.zip signature.parameterTypes, Settled rewritten argument.1) ∧
      (description.parameters =
        ((places rewritten (call.arguments.zip signature.parameterTypes)).mergeSort
          fun a b => decide (a.1 ≤ b.1)).map
            fun entry => ⟨entry.1, rewritten.nameAt? entry.1, entry.2⟩) ∧
      description.columns = [⟨signature.name, signature.returnType, true, false⟩] := by
  rw [describeWith] at h
  cases hcollect : collect rewritten [] (call.arguments.zip signature.parameterTypes) with
  | error error =>
    rw [hcollect] at h
    cases h
  | ok found =>
    rw [hcollect] at h
    cases found with
    | none => cases h
    | some positions =>
      obtain rfl := Option.some.inj (Except.ok.inj h)
      obtain ⟨hsettled, rfl⟩ := collect_eq_some hcollect
      exact ⟨hsettled, rfl, rfl⟩

/-- Sorting keeps the positions. -/
theorem mem_positions_iff {rewritten : Query.Rewritten} {positions : Entries Nat DataType}
    {parameters : List Parameter}
    (h : parameters = (positions.mergeSort fun a b => decide (a.1 ≤ b.1)).map
      fun entry => ⟨entry.1, rewritten.nameAt? entry.1, entry.2⟩) (n : Nat) :
    (n : Int) ∈ parameters.map Parameter.position ↔ n ∈ positions.keys := by
  rw [h, List.map_map]
  constructor
  · intro hn
    obtain ⟨entry, hentry, hposition⟩ := List.mem_map.mp hn
    obtain rfl : entry.1 = n := Int.ofNat.inj hposition
    exact List.mem_map_of_mem (List.mem_mergeSort.mp hentry)
  · intro hn
    obtain ⟨entry, hentry, rfl⟩ := List.mem_map.mp hn
    exact List.mem_map.mpr ⟨entry, List.mem_mergeSort.mpr hentry, rfl⟩

/-- An overload that a call can mean: it has a parameter for each argument, and the schema that the
call names, if any. -/
def Fits (call : Query.Call) (signature : Signature) : Prop :=
  signature.parameterTypes.length = call.arguments.length ∧
    ∀ schemaName, call.schemaName = some schemaName → signature.schemaName = schemaName

/-- One overload is left when a single one of those that are stored fits. -/
theorem candidates_eq_singleton_iff {snapshot : Snapshot} {call : Query.Call}
    {signature : Signature} :
    candidates snapshot call = [signature] ↔ ∃ before after,
      snapshot.functions.get? (Text.lowered call.name) = some (before ++ signature :: after) ∧
      Fits call signature ∧ ∀ other ∈ before ++ after, ¬ Fits call other := by
  have hfits (signature : Signature) :
      (signature.arity == call.arguments.length &&
        (call.schemaName.isNone || call.schemaName == some signature.schemaName)) = true ↔
        Fits call signature := by
    rw [Bool.and_eq_true, beq_iff_eq, Fits, Signature.arity]
    cases call.schemaName with
    | none => simp
    | some schemaName =>
      rw [Option.isNone_some, Bool.false_or, beq_iff_eq, Option.some.injEq]
      refine and_congr_right fun _ => ⟨?_, fun h => (h schemaName rfl).symm⟩
      rintro rfl _ ⟨⟩
      rfl
  have hstored (stored : List Signature) (hne : stored ≠ []) :
      snapshot.overloads call.name = stored ↔
        snapshot.functions.get? (Text.lowered call.name) = some stored := by
    rw [Snapshot.overloads]
    cases snapshot.functions.get? (Text.lowered call.name) with
    | none => simpa using hne.symm
    | some found => simp
  rw [candidates, List.filter_eq_cons_iff]
  constructor
  · rintro ⟨before, after, hoverloads, hbefore, hsignature, hafter⟩
    refine ⟨before, after, (hstored _ (by simp)).mp hoverloads, (hfits _).mp hsignature, ?_⟩
    intro other hother hfit
    rcases List.mem_append.mp hother with hmem | hmem
    · exact hbefore other hmem ((hfits other).mpr hfit)
    · exact List.filter_eq_nil_iff.mp hafter other hmem ((hfits other).mpr hfit)
  · rintro ⟨before, after, hget, hsignature, hothers⟩
    refine ⟨before, after, (hstored _ (by simp)).mpr hget, ?_, (hfits _).mpr hsignature,
      List.filter_eq_nil_iff.mpr ?_⟩
    · exact fun other hmem hfit => hothers other (List.mem_append_left _ hmem) ((hfits _).mp hfit)
    · exact fun other hmem hfit => hothers other (List.mem_append_right _ hmem) ((hfits _).mp hfit)

section OtherCase

variable {name other : String} (h : Text.lowered name = Text.lowered other) (snapshot : Snapshot)
  (schemaName : Option String) (arguments : List String)
include h

/-- The letter case of the name does not count. -/
theorem candidates_of_lowered_eq :
    candidates snapshot ⟨name, schemaName, arguments⟩ =
      candidates snapshot ⟨other, schemaName, arguments⟩ := by
  simp only [candidates, Snapshot.overloads, h]

theorem describe_of_lowered_eq (rewritten : Query.Rewritten) :
    describe snapshot ⟨name, schemaName, arguments⟩ rewritten =
      describe snapshot ⟨other, schemaName, arguments⟩ rewritten := by
  rw [describe, candidates_of_lowered_eq h]
  rfl

end OtherCase

/-- A call is described from its one candidate, when that returns one plain value. -/
theorem describe_eq_some {snapshot : Snapshot} {call : Query.Call} {rewritten : Query.Rewritten}
    {description : Description} (h : describe snapshot call rewritten = .ok (some description)) :
    ∃ signature, candidates snapshot call = [signature] ∧ returnsPlain signature = true ∧
      describeWith signature call rewritten = .ok (some description) := by
  unfold describe at h
  split at h
  · rename_i signature hcandidates
    split at h
    · rename_i hplain
      exact ⟨signature, hcandidates, hplain, h⟩
    · cases h
  · cases h

/-- When the registry settles a call, it has settled every argument, and the positions of the
parameters are those of the arguments. -/
theorem settled_of_describe {snapshot : Snapshot} {call : Query.Call} {rewritten : Query.Rewritten}
    {description : Description} (h : describe snapshot call rewritten = .ok (some description)) :
    (∀ argument ∈ call.arguments, Settled rewritten argument) ∧
      ∀ n : Nat, (n : Int) ∈ description.parameters.map Parameter.position ↔
        ∃ argument ∈ call.arguments, inspect rewritten argument = .ok (.position n) := by
  obtain ⟨signature, hcandidates, _, hdescribe⟩ := describe_eq_some h
  obtain ⟨hsettled, hparameters, _⟩ := describeWith_eq_some hdescribe
  obtain ⟨_, _, _, hfits, _⟩ := candidates_eq_singleton_iff.mp hcandidates
  have hzip : (call.arguments.zip signature.parameterTypes).map Prod.fst = call.arguments :=
    List.map_fst_zip (Nat.le_of_eq hfits.1.symm)
  rw [← hzip]
  refine ⟨List.forall_mem_map.mpr hsettled, fun n => ?_⟩
  rw [mem_positions_iff hparameters, mem_keys_places]
  constructor
  · rintro ⟨pair, hpair, hposition⟩
    exact ⟨pair.1, List.mem_map_of_mem hpair, hposition⟩
  · rintro ⟨argument, hargument, hposition⟩
    obtain ⟨pair, hpair, rfl⟩ := List.mem_map.mp hargument
    exact ⟨pair, hpair, hposition⟩

/-! ## Arguments that are placeholders -/

open Query in
/-- An argument that is a placeholder, without the blanks around it. -/
theorem barePlaceholder?_eq_some {argument : List Char} {placeholder : Placeholder}
    (h : barePlaceholder? argument = .ok (some placeholder)) :
    (∃ name, IsName name ∧ Text.trim argument = '@' :: name ∧
        placeholder = .named (String.ofList name)) ∨
      ∃ digits, (∀ d ∈ digits, Text.isDigit d = true) ∧ digits ≠ [] ∧
        Text.trim argument = '$' :: digits ∧
        placeholder = .positional (Text.digitsValue digits) := by
  unfold barePlaceholder? at h
  split at h
  · rename_i c rest htrim
    split at h
    · rename_i hname
      rw [Bool.and_eq_true, List.all_eq_true] at hname
      refine Or.inl ⟨c :: rest, ⟨c, rest, rfl, hname⟩, htrim, ?_⟩
      exact (Option.some.inj (Except.ok.inj h)).symm
    · cases h
  · rename_i d rest htrim
    split at h
    · rename_i hdigits
      rw [List.all_eq_true] at hdigits
      refine Or.inr ⟨d :: rest, hdigits, List.cons_ne_nil d rest, htrim, ?_⟩
      rw [Text.readDigits] at h
      split at h
      · exact (Option.some.inj (Except.ok.inj h)).symm
      · cases h
    · cases h
  · cases h

/-- The position that a placeholder stands for. -/
def position? (rewritten : Query.Rewritten) : Query.Placeholder → Option Nat
  | .named name => rewritten.positionOf? name
  | .positional n => some n

open Query in
/-- An argument that is one placeholder has the position of that. -/
theorem inspect_bare {rewritten : Rewritten} {argument : String} {placeholder : Placeholder}
    (h : barePlaceholder? argument.toList = .ok (some placeholder)) :
    inspect rewritten argument =
      .ok ((position? rewritten placeholder).elim .unsettled .position) := by
  cases placeholder with
  | positional n =>
    rw [inspect, h]
    rfl
  | named name =>
    rw [inspect, h, position?]
    dsimp only [bind, Except.bind]
    cases rewritten.positionOf? name <;> rfl

open Query in
/-- An argument that stands for a position: it is one placeholder with that position. -/
def StandsFor (rewritten : Rewritten) (argument : String) (n : Nat) : Prop :=
  ∃ placeholder, barePlaceholder? argument.toList = .ok (some placeholder) ∧
    position? rewritten placeholder = some n

open Query in
theorem inspect_eq_position_iff {rewritten : Rewritten} {argument : String} {n : Nat} :
    inspect rewritten argument = .ok (.position n) ↔ StandsFor rewritten argument n := by
  constructor
  · intro h
    cases hbare : barePlaceholder? argument.toList with
    | error error =>
      rw [inspect, hbare] at h
      cases h
    | ok found =>
      cases found with
      | none =>
        rw [inspect, hbare] at h
        dsimp only [bind, Except.bind] at h
        split at h <;> cases h
      | some placeholder =>
        rw [inspect_bare hbare] at h
        refine ⟨placeholder, hbare, ?_⟩
        cases hposition : position? rewritten placeholder with
        | none =>
          rw [hposition] at h
          cases h
        | some m =>
          rw [hposition] at h
          exact congrArg some (Finding.position.inj (Except.ok.inj h))
  · rintro ⟨placeholder, hbare, hposition⟩
    rw [inspect_bare hbare, hposition]
    rfl

open Query in
/-- A settled argument with a placeholder is one placeholder, and its position has been found. -/
theorem Settled.of_hasPlaceholders {rewritten : Rewritten} {argument : String}
    (h : Settled rewritten argument) (hmentions : hasPlaceholders argument.toList = true) :
    ∃ n, inspect rewritten argument = .ok (.position n) ∧
      ((∃ name, IsName name ∧ Text.trim argument.toList = '@' :: name ∧
          rewritten.positionOf? (String.ofList name) = some n) ∨
        ∃ digits, (∀ d ∈ digits, Text.isDigit d = true) ∧
          Text.trim argument.toList = '$' :: digits ∧ Text.digitsValue digits = n) := by
  obtain ⟨finding, hinspect, hsettled⟩ := h
  cases hbare : barePlaceholder? argument.toList with
  | error error =>
    rw [inspect, hbare] at hinspect
    cases hinspect
  | ok found =>
    cases found with
    | none =>
      rw [inspect, hbare] at hinspect
      simp only [hmentions] at hinspect
      exact absurd (Except.ok.inj hinspect).symm hsettled
    | some placeholder =>
      rcases barePlaceholder?_eq_some hbare with ⟨name, hname, htrim, rfl⟩ |
        ⟨digits, hdigits, _, htrim, rfl⟩
      · rw [inspect_bare hbare, position?] at hinspect ⊢
        cases hposition : rewritten.positionOf? (String.ofList name) with
        | none =>
          rw [hposition] at hinspect
          exact absurd (Except.ok.inj hinspect).symm hsettled
        | some n => exact ⟨n, rfl, Or.inl ⟨name, hname, htrim, hposition⟩⟩
      · exact ⟨_, inspect_bare hbare, Or.inr ⟨digits, hdigits, htrim, rfl⟩⟩

/-! ## Arguments that are refused -/

open Query in
/-- An argument is refused only for its digits. -/
theorem barePlaceholder?_eq_error {argument : List Char} {error : Text.NumeralError}
    (h : barePlaceholder? argument = .error error) :
    ∃ digits, Text.trim argument = '$' :: digits ∧ digits ≠ [] ∧
      (∀ d ∈ digits, Text.isDigit d = true) ∧ Text.digitLimit < digits.length := by
  unfold barePlaceholder? at h
  split at h
  · split at h <;> cases h
  · rename_i d rest htrim
    split at h
    · rename_i hdigits
      refine ⟨d :: rest, htrim, List.cons_ne_nil d rest, List.all_eq_true.mp hdigits,
        Nat.lt_of_not_le fun hshort => ?_⟩
      rw [Text.readDigits, if_pos hshort] at h
      cases h
    · cases h
  · cases h

open Query in
/-- An argument is looked at when its digits can be read. -/
theorem exists_inspect {rewritten : Rewritten} {argument : String}
    (h : ∀ error, barePlaceholder? argument.toList ≠ .error error) :
    ∃ finding, inspect rewritten argument = .ok finding := by
  cases hbare : barePlaceholder? argument.toList with
  | error error => exact absurd hbare (h error)
  | ok found =>
    cases found with
    | none => exact ⟨_, by rw [inspect, hbare]; rfl⟩
    | some placeholder => exact ⟨_, inspect_bare hbare⟩

/-- Positions are collected when every argument can be looked at. -/
theorem exists_collect {rewritten : Query.Rewritten} {arguments : List (String × DataType)}
    (known : Entries Nat DataType)
    (h : ∀ argument ∈ arguments, ∃ finding, inspect rewritten argument.1 = .ok finding) :
    ∃ found, collect rewritten known arguments = .ok found := by
  induction arguments generalizing known with
  | nil => exact ⟨_, rfl⟩
  | cons head rest ih =>
    obtain ⟨⟨finding, hinspect⟩, hrest⟩ := List.forall_mem_cons.mp h
    rw [collect, hinspect]
    cases finding with
    | unsettled => exact ⟨_, rfl⟩
    | nothing => exact ih known hrest
    | position n => exact ih _ hrest

/-- A call is described, or it is left to the server. -/
theorem exists_describe {snapshot : Snapshot} {call : Query.Call} {rewritten : Query.Rewritten}
    (h : ∀ argument ∈ call.arguments, ∃ finding, inspect rewritten argument = .ok finding) :
    ∃ found, describe snapshot call rewritten = .ok found := by
  unfold describe
  split
  · rename_i signature _
    split
    · obtain ⟨found, hcollect⟩ :=
        @exists_collect rewritten (call.arguments.zip signature.parameterTypes) [] fun pair hpair =>
          h pair.1 (List.of_mem_zip hpair).1
      rw [describeWith, hcollect]
      cases found <;> exact ⟨_, rfl⟩
    · exact ⟨_, rfl⟩
  · exact ⟨_, rfl⟩

end QueryAudit.Registry
