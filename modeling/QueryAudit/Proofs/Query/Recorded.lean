import QueryAudit.Proofs.Query.Highest

/-!
# The recorded names

A rewritten query records which name has which position. The positions go on from the largest number
of the query in the order in which the names are used first, and every name is kept as it is spelled
there. A position is found again under any spelling that differs in letter case only.
-/

namespace QueryAudit.Query

/-- How many names there are when letter case does not count. -/
def distinctCount (names : List (List Char)) : Nat :=
  (names.map Text.lower).toFinset.card

/-- A rewritten query records the names of its placeholders, which are given in the order of their
use, with positions after the given one. -/
structure Records (rewritten : Rewritten) (highest : Nat) (names : List (List Char)) : Prop where
  /-- There is one position for each name, and no number is left out. -/
  positions : rewritten.names.map Prod.fst = List.range' (highest + 1) (distinctCount names)
  /-- A name is recorded where it is used first, as it is spelled there, and its position counts the
  names before it. -/
  firstUse : ∀ position name, (position, name) ∈ rewritten.names ↔
    ∃ before spelling after, names = before ++ spelling :: after ∧
      (∀ other ∈ before, Text.lower other ≠ Text.lower spelling) ∧
      name = String.ofList spelling ∧ position = highest + 1 + distinctCount before
  /-- No name is recorded twice. -/
  distinct : (rewritten.names.map fun entry => Text.lower entry.2.toList).Nodup
  /-- The position of a name is the one at which an equal name is recorded. -/
  found : ∀ name position, rewritten.positionOf? name = some position ↔
    ∃ recorded, rewritten.nameAt? position = some recorded ∧
      Text.lower recorded.toList = Text.lower (name.toList.dropWhile (· == '@'))
  /-- A name has no position when no equal name is recorded. -/
  notFound : ∀ name, rewritten.positionOf? name = none ↔ ∀ entry ∈ rewritten.names,
    Text.lower entry.2.toList ≠ Text.lower (name.toList.dropWhile (· == '@'))

/-! ## The entries of the names -/

theorem length_distinctNames (names : List (List Char)) :
    (distinctNames names).length = distinctCount names := by
  rw [distinctNames, Entries.length_firsts, List.map_map]
  rfl

/-- The entry in a place is the first use of its name. -/
theorem getElem?_distinctNames {names : List (List Char)} {entry : List Char × List Char}
    {i : Nat} :
    (distinctNames names)[i]? = some entry ↔
      ∃ before spelling after, names = before ++ spelling :: after ∧
        (∀ other ∈ before, Text.lower other ≠ Text.lower spelling) ∧
        entry = (Text.lower spelling, spelling) ∧ distinctCount before = i := by
  rw [distinctNames, Entries.getElem?_firsts_eq_some_iff]
  constructor
  · rintro ⟨front, back, hnames, hnew, hplace⟩
    obtain ⟨before, others, rfl, rfl, hothers⟩ := List.map_eq_append_iff.mp hnames
    obtain ⟨spelling, after, rfl, rfl, rfl⟩ := List.map_eq_cons_iff.mp hothers
    refine ⟨before, spelling, after, rfl, ?_, rfl, ?_⟩
    · simpa using hnew
    · rw [← length_distinctNames]
      exact hplace
  · rintro ⟨before, spelling, after, rfl, hnew, rfl, hplace⟩
    refine ⟨_, _, by rw [List.map_append, List.map_cons], by simpa using hnew, ?_⟩
    rw [← length_distinctNames] at hplace
    exact hplace

/-! ## The names of a rewritten query -/

variable {highest : Nat} {cut : List Span}

theorem map_fst_names_rewriteAfter :
    (rewriteAfter highest cut).names.map Prod.fst =
      List.range' (highest + 1) (namesOf cut).length := by
  rw [← List.zipIdx_map_snd (highest + 1), rewriteAfter, List.map_map]
  rfl

theorem mem_names_rewriteAfter {position : Nat} {name : String} :
    (position, name) ∈ (rewriteAfter highest cut).names ↔
      ∃ entry i, (namesOf cut)[i]? = some entry ∧ position = highest + 1 + i ∧
        name = String.ofList entry.2 := by
  have hnames : (rewriteAfter highest cut).names = ((namesOf cut).zipIdx (highest + 1)).map
      fun place => (place.2, String.ofList place.1.2) := rfl
  rw [hnames, List.mem_map]
  constructor
  · rintro ⟨⟨entry, place⟩, hplace, heq⟩
    obtain ⟨hle, hentry⟩ := List.mem_zipIdx_iff_le_and_getElem?_sub.mp hplace
    obtain ⟨rfl, rfl⟩ := Prod.mk.inj heq
    exact ⟨entry, place - (highest + 1), hentry, by omega, rfl⟩
  · rintro ⟨entry, i, hentry, rfl, rfl⟩
    refine ⟨(entry, highest + 1 + i), ?_, rfl⟩
    rw [List.mem_zipIdx_iff_le_and_getElem?_sub, Nat.add_sub_cancel_left]
    exact ⟨by omega, hentry⟩

/-- The recorded names in lower case are the keys of the entries. -/
theorem map_lower_names_rewriteAfter :
    ((rewriteAfter highest cut).names.map fun entry => Text.lower entry.2.toList) =
      (namesOf cut).keys := by
  have hkeys : (((namesOf cut).zipIdx (highest + 1)).map Prod.fst).map Prod.fst =
      (namesOf cut).keys := by
    rw [List.zipIdx_map_fst]
    rfl
  rw [← hkeys, rewriteAfter, List.map_map, List.map_map]
  refine List.map_congr_left fun place hplace => ?_
  have hentry : place.1 ∈ namesOf cut :=
    List.mem_of_getElem? (List.mem_zipIdx_iff_le_and_getElem?_sub.mp hplace).2
  simp [key_of_mem_distinctNames hentry]

/-- A position is found under every spelling of the name that is recorded there, if the positions
and the names are distinct. -/
theorem positionOf?_eq_some_iff {rewritten : Rewritten} {name : String} {position : Nat}
    (hpositions : (rewritten.names.map Prod.fst).Nodup)
    (hnames : (rewritten.names.map fun entry => Text.lower entry.2.toList).Nodup) :
    rewritten.positionOf? name = some position ↔
      ∃ recorded, rewritten.nameAt? position = some recorded ∧
        Text.lower recorded.toList = Text.lower (name.toList.dropWhile (· == '@')) := by
  have hlookup (recorded : String) : rewritten.nameAt? position = some recorded ↔
      (position, recorded) ∈ rewritten.names := Entries.get?_eq_some_iff hpositions
  simp only [hlookup]
  rw [Rewritten.positionOf?, Option.map_eq_some_iff]
  constructor
  · rintro ⟨⟨place, recorded⟩, hfind, rfl⟩
    exact ⟨recorded, (Entries.find?_key_eq_some_iff hnames).mp hfind⟩
  · rintro ⟨recorded, hrecorded⟩
    exact ⟨(position, recorded), (Entries.find?_key_eq_some_iff hnames).mpr hrecorded, rfl⟩

theorem positionOf?_eq_none_iff {rewritten : Rewritten} {name : String} :
    rewritten.positionOf? name = none ↔ ∀ entry ∈ rewritten.names,
      Text.lower entry.2.toList ≠ Text.lower (name.toList.dropWhile (· == '@')) := by
  simp [Rewritten.positionOf?]

/-- Numbering the placeholders of spans records their names. -/
theorem records_rewriteAfter (highest : Nat) (cut : List Span) :
    Records (rewriteAfter highest cut) highest (placeholderNames (cut.flatMap Span.pieces)) := by
  have hcount : (namesOf cut).length =
      distinctCount (placeholderNames (cut.flatMap Span.pieces)) := length_distinctNames _
  have hpositions : ((rewriteAfter highest cut).names.map Prod.fst).Nodup := by
    rw [map_fst_names_rewriteAfter]
    exact List.nodup_range'
  have hdistinct : ((rewriteAfter highest cut).names.map
      fun entry => Text.lower entry.2.toList).Nodup := by
    rw [map_lower_names_rewriteAfter]
    exact Entries.nodup_keys_firsts _
  refine ⟨?_, fun position name => ?_, hdistinct, fun name position => ?_, fun name => ?_⟩
  · rw [map_fst_names_rewriteAfter, hcount]
  · rw [mem_names_rewriteAfter]
    constructor
    · rintro ⟨entry, i, hentry, rfl, rfl⟩
      obtain ⟨before, spelling, after, hnames, hnew, rfl, rfl⟩ := getElem?_distinctNames.mp hentry
      exact ⟨before, spelling, after, hnames, hnew, rfl, rfl⟩
    · rintro ⟨before, spelling, after, hnames, hnew, rfl, rfl⟩
      refine ⟨(Text.lower spelling, spelling), distinctCount before, ?_, rfl, rfl⟩
      exact getElem?_distinctNames.mpr ⟨before, spelling, after, hnames, hnew, rfl, rfl⟩
  · exact positionOf?_eq_some_iff hpositions hdistinct
  · exact positionOf?_eq_none_iff

/-- Positions after the largest number of a query are none of its numbers. -/
theorem Records.not_mem_positions {query : List Char} {rewritten : Rewritten} {highest n : Nat}
    {names : List (List Char)} (h : Records rewritten highest names)
    (hhighest : IsHighest query highest) (hn : IsPositional query n) :
    n ∉ rewritten.names.map Prod.fst := by
  rw [h.positions, List.mem_range'_1]
  have hle := hhighest.largest n hn
  omega

/-- Every query without a numeral that is too long is rewritten, and then the names of its
placeholders are recorded with positions after its largest number, so that no position is a number
that the query uses already. -/
theorem rewrite_records_names (query : List Char) :
    match rewrite query with
    | .ok rewritten => ¬ Overlong query ∧ ∃ highest pieces, IsHighest query highest ∧
        Cuts (spans query) pieces ∧ Records rewritten highest (placeholderNames pieces) ∧
        ∀ n, IsPositional query n → n ∉ rewritten.names.map Prod.fst
    | .error _ => Overlong query := by
  by_cases hlong : Overlong query
  · obtain ⟨error, herror⟩ := rewrite_of_overlong hlong
    rw [herror]
    exact hlong
  · rw [rewrite_of_not_overlong hlong]
    have hhighest := isHighest_highestOf query
    have hrecords := records_rewriteAfter (highestOf (spans query)) (spans query)
    exact ⟨hlong, highestOf (spans query), (spans query).flatMap Span.pieces, hhighest,
      cuts_iff.mpr rfl, hrecords, fun n => hrecords.not_mem_positions hhighest⟩

end QueryAudit.Query
