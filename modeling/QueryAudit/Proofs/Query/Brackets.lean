import QueryAudit.Query.Call
import Mathlib.Data.Nat.Find

/-!
# Brackets and commas in the code

How deep brackets are nested is a count over the code: the opening ones less the closing ones. The
parenthesis that closes a call is the one at which this count first returns to zero, and arguments
are the pieces between the commas at which it is zero.
-/

namespace QueryAudit.Query

/-- The opening brackets in the code of marked text, less the closing ones. -/
def nesting (opening closing : List Char) (marks : List (Char × Bool)) : Int :=
  marks.countP (fun mark => mark.2 && opening.contains mark.1) -
    marks.countP fun mark => mark.2 && closing.contains mark.1

/-- The depth in parentheses behind marked text. -/
abbrev parenDepth : List (Char × Bool) → Int :=
  nesting ['('] [')']

/-- The depth in brackets of both kinds behind marked text. -/
abbrev bracketDepth : List (Char × Bool) → Int :=
  nesting ['(', '['] [')', ']']

@[simp] theorem nesting_nil (opening closing : List Char) : nesting opening closing [] = 0 := rfl

theorem nesting_append (opening closing : List Char) (front back : List (Char × Bool)) :
    nesting opening closing (front ++ back) =
      nesting opening closing front + nesting opening closing back := by
  simp only [nesting, List.countP_append]
  omega

theorem nesting_cons (opening closing : List Char) (mark : Char × Bool)
    (rest : List (Char × Bool)) :
    nesting opening closing (mark :: rest) =
      nesting opening closing [mark] + nesting opening closing rest :=
  nesting_append opening closing [mark] rest

/-! ## The closing parenthesis -/

/-- The depth in parentheses comes to a value for the first time behind so many marks. -/
def FirstComesTo (depth : Int) (marks : List (Char × Bool)) (length : Nat) : Prop :=
  parenDepth (marks.take length) = depth ∧ ∀ n < length, parenDepth (marks.take n) ≠ depth

theorem firstComesTo_length_zero {depth : Int} {marks : List (Char × Bool)} :
    FirstComesTo depth marks 0 ↔ depth = 0 :=
  ⟨fun h => h.1.symm, fun h => ⟨h.symm, fun _ hn => absurd hn (Nat.not_lt_zero _)⟩⟩

/-- At the start the depth is zero. -/
theorem firstComesTo_zero {marks : List (Char × Bool)} {length : Nat} :
    FirstComesTo 0 marks length ↔ length = 0 := by
  constructor
  · intro h
    by_contra hne
    exact h.2 0 (by omega) rfl
  · rintro rfl
    exact firstComesTo_length_zero.mpr rfl

theorem firstComesTo_cons {depth : Int} {mark : Char × Bool} {rest : List (Char × Bool)}
    {length : Nat} :
    FirstComesTo depth (mark :: rest) (length + 1) ↔
      depth ≠ 0 ∧ FirstComesTo (depth - parenDepth [mark]) rest length := by
  have hcons (n : Nat) : parenDepth ((mark :: rest).take (n + 1)) =
      parenDepth [mark] + parenDepth (rest.take n) := by
    rw [List.take_succ_cons]
    exact nesting_cons ..
  constructor
  · rintro ⟨hdepth, hfirst⟩
    rw [hcons] at hdepth
    refine ⟨(hfirst 0 (by omega)).symm, by omega, fun n hn => ?_⟩
    have hlater := hfirst (n + 1) (by omega)
    rw [hcons] at hlater
    omega
  · rintro ⟨hne, hdepth, hfirst⟩
    refine ⟨by rw [hcons]; omega, fun n hn => ?_⟩
    cases n with
    | zero => exact hne.symm
    | succ n =>
      have hlater := hfirst n (by omega)
      rw [hcons]
      omega

/-- The search finds the parenthesis at which the depth first falls below the one it starts at. -/
theorem lengthInside?_eq_some_iff {depth length : Nat} {marks : List (Char × Bool)} :
    lengthInside? depth marks = some length ↔
      FirstComesTo (-(depth + 1)) marks (length + 1) := by
  induction marks generalizing depth length with
  | nil =>
    refine iff_of_false (by simp [lengthInside?]) fun h => ?_
    have hdepth := h.1
    simp only [List.take_nil, nesting_nil] at hdepth
    omega
  | cons mark rest ih =>
    obtain ⟨c, isCode⟩ := mark
    have hlater {inner : Nat}
        (hinner : -(depth + 1 : Int) - parenDepth [(c, isCode)] = -(inner + 1)) :
        (lengthInside? inner rest).map (· + 1) = some length ↔
          FirstComesTo (-(depth + 1)) ((c, isCode) :: rest) (length + 1) := by
      rw [firstComesTo_cons, hinner, and_iff_right (by omega), Option.map_eq_some_iff]
      cases length with
      | zero =>
        refine iff_of_false (by simp) fun h => ?_
        have hzero := firstComesTo_length_zero.mp h
        omega
      | succ length => simp only [Nat.add_right_cancel_iff, exists_eq_right, ih]
    rw [lengthInside?]
    split
    · rename_i hopening
      simp only [Bool.and_eq_true, beq_iff_eq] at hopening
      obtain ⟨rfl, rfl⟩ := hopening
      refine hlater ?_
      rw [show parenDepth [('(', true)] = 1 from rfl]
      omega
    rename_i hopening
    split
    · rename_i hclosing
      simp only [Bool.and_eq_true, beq_iff_eq] at hclosing
      obtain ⟨rfl, rfl⟩ := hclosing
      have hfalls : parenDepth [(')', true)] = -1 := rfl
      split
      · rename_i hzero
        rw [hzero, firstComesTo_cons, hfalls, Option.some.injEq]
        exact ⟨fun h => ⟨by decide, firstComesTo_zero.mpr h.symm⟩,
          fun h => (firstComesTo_zero.mp h.2).symm⟩
      · rename_i hpos
        refine hlater ?_
        omega
    · rename_i hclosing
      refine hlater ?_
      have hlevel : parenDepth [(c, isCode)] = 0 := by
        simp only [Bool.and_eq_true, beq_iff_eq] at hopening hclosing
        simp [nesting, hopening, hclosing]
      omega

/-- The depth in parentheses is zero again for the first time behind so many marks. -/
def FirstReturns (marks : List (Char × Bool)) (length : Nat) : Prop :=
  parenDepth (marks.take length) = 0 ∧
    ∀ n, 0 < n → n < length → parenDepth (marks.take n) ≠ 0

/-- Behind an opening parenthesis the depth has to fall by one. -/
theorem firstReturns_opening_iff {rest : List (Char × Bool)} {length : Nat} :
    FirstReturns (('(', true) :: rest) (length + 1) ↔ FirstComesTo (-1) rest length := by
  have hcons (n : Nat) : parenDepth ((('(', true) :: rest).take (n + 1)) =
      1 + parenDepth (rest.take n) := by
    rw [List.take_succ_cons]
    exact nesting_cons ..
  constructor
  · rintro ⟨hdepth, hfirst⟩
    rw [hcons] at hdepth
    refine ⟨by omega, fun n hn => ?_⟩
    have hlater := hfirst (n + 1) (by omega) (by omega)
    rw [hcons] at hlater
    omega
  · rintro ⟨hdepth, hfirst⟩
    refine ⟨by rw [hcons]; omega, fun n hpos hn => ?_⟩
    obtain ⟨n, rfl⟩ := Nat.exists_eq_add_one.mpr hpos
    have hlater := hfirst n (by omega)
    rw [hcons]
    omega

/-! ## The commas between arguments -/

/-- A comma of the code stands at a place of marked text at which no bracket is open. -/
def SeparatesAt (marks : List (Char × Bool)) (n : Nat) : Prop :=
  marks[n]? = some (',', true) ∧ bracketDepth (marks.take n) = 0

theorem separatesAt_iff {marks : List (Char × Bool)} {n : Nat} :
    SeparatesAt marks n ↔ ∃ front back, marks = front ++ (',', true) :: back ∧ front.length = n ∧
      bracketDepth front = 0 := by
  constructor
  · rintro ⟨hcomma, hdepth⟩
    obtain ⟨hlt, hcomma⟩ := List.getElem?_eq_some_iff.mp hcomma
    refine ⟨marks.take n, marks.drop (n + 1), ?_, by simp; omega, hdepth⟩
    rw [← hcomma, ← List.drop_eq_getElem_cons, List.take_append_drop]
  · rintro ⟨front, back, rfl, rfl, hdepth⟩
    exact ⟨by simp, by simpa using hdepth⟩

/-- Behind a separating comma the others are found anew. -/
theorem separatesAt_append {front back : List (Char × Bool)} {n : Nat}
    (hdepth : bracketDepth front = 0) :
    SeparatesAt (front ++ (',', true) :: back) (front.length + (n + 1)) ↔ SeparatesAt back n := by
  have htake : bracketDepth ((front ++ (',', true) :: back).take (front.length + (n + 1))) =
      bracketDepth (back.take n) := by
    rw [List.take_length_add_append, List.take_succ_cons]
    calc bracketDepth (front ++ (',', true) :: back.take n)
      _ = bracketDepth front + bracketDepth ((',', true) :: back.take n) := nesting_append ..
      _ = 0 + (0 + bracketDepth (back.take n)) := congrArg₂ _ hdepth (nesting_cons ..)
      _ = bracketDepth (back.take n) := by omega
  have hget : (front ++ (',', true) :: back)[front.length + (n + 1)]? = back[n]? := by
    rw [List.getElem?_append_right (by omega), Nat.add_sub_cancel_left, List.getElem?_cons_succ]
  rw [SeparatesAt, SeparatesAt, htake, hget]

/-- Pieces with commas between them. -/
def joined (pieces : List (List Char)) : List Char :=
  [','].intercalate pieces

theorem joined_singleton (piece : List Char) : joined [piece] = piece :=
  List.intercalate_singleton

theorem joined_cons (piece : List Char) {rest : List (List Char)} (h : rest ≠ []) :
    joined (piece :: rest) = piece ++ ',' :: joined rest := by
  obtain ⟨next, rest, rfl⟩ := List.exists_cons_of_ne_nil h
  rw [joined, List.intercalate_cons_cons, List.append_assoc]
  rfl

/-- In joined pieces, one of them ends at a place and another one follows. -/
def EndsAt (pieces : List (List Char)) (n : Nat) : Prop :=
  ∃ front back, pieces = front ++ back ∧ front ≠ [] ∧ back ≠ [] ∧ (joined front).length = n

theorem not_endsAt_singleton (piece : List Char) (n : Nat) : ¬ EndsAt [piece] n := by
  rintro ⟨front, back, heq, hfront, hback, _⟩
  have hlength := congrArg List.length heq
  rw [List.length_singleton, List.length_append] at hlength
  have hfront := List.length_pos_iff.mpr hfront
  have hback := List.length_pos_iff.mpr hback
  omega

theorem endsAt_cons {piece : List Char} {rest : List (List Char)} (h : rest ≠ []) {n : Nat} :
    EndsAt (piece :: rest) n ↔
      n = piece.length ∨ ∃ m, n = piece.length + (m + 1) ∧ EndsAt rest m := by
  constructor
  · rintro ⟨front, back, heq, hfront, hback, rfl⟩
    obtain ⟨first, front, rfl⟩ := List.exists_cons_of_ne_nil hfront
    obtain ⟨rfl, rfl⟩ := List.cons.inj heq
    rcases eq_or_ne front [] with rfl | hfront
    · exact Or.inl (by rw [joined_singleton])
    · refine Or.inr ⟨(joined front).length, ?_, front, back, rfl, hfront, hback, rfl⟩
      rw [joined_cons piece hfront, List.length_append, List.length_cons]
  · rintro (rfl | ⟨_, rfl, front, back, rfl, hfront, hback, rfl⟩)
    · exact ⟨[piece], rest, rfl, by simp, h, by rw [joined_singleton]⟩
    · refine ⟨piece :: front, back, rfl, by simp, hback, ?_⟩
      rw [joined_cons piece hfront, List.length_append, List.length_cons]

/-- The pieces of marked text between the commas of its code at which no bracket is open. -/
structure Separated (marks : List (Char × Bool)) (pieces : List (List Char)) : Prop where
  /-- There is at least one piece. -/
  ne_nil : pieces ≠ []
  /-- The pieces with commas between them are the text. -/
  text_eq : joined pieces = marks.map Prod.fst
  /-- The commas between pieces are those that separate. -/
  commas : ∀ n, SeparatesAt marks n ↔ EndsAt pieces n

/-- Without a separating comma the text is one piece. -/
theorem separated_iff_of_not {marks : List (Char × Bool)} {pieces : List (List Char)}
    (h : ∀ n, ¬ SeparatesAt marks n) : Separated marks pieces ↔ pieces = [marks.map Prod.fst] := by
  constructor
  · rintro ⟨hne, htext, hcommas⟩
    obtain ⟨piece, rest, rfl⟩ := List.exists_cons_of_ne_nil hne
    rcases eq_or_ne rest [] with rfl | hrest
    · rw [← htext, joined_singleton]
    · exact absurd ((hcommas _).mpr ((endsAt_cons hrest).mpr (Or.inl rfl))) (h _)
  · rintro rfl
    exact ⟨by simp, joined_singleton _,
      fun n => iff_of_false (h n) (not_endsAt_singleton _ n)⟩

/-- The first piece ends at the first separating comma. -/
theorem separated_iff_of_first {front back : List (Char × Bool)} {pieces : List (List Char)}
    (hdepth : bracketDepth front = 0)
    (hfirst : ∀ n < front.length, ¬ SeparatesAt (front ++ (',', true) :: back) n) :
    Separated (front ++ (',', true) :: back) pieces ↔
      ∃ rest, pieces = front.map Prod.fst :: rest ∧ Separated back rest := by
  have hseparates : SeparatesAt (front ++ (',', true) :: back) front.length :=
    separatesAt_iff.mpr ⟨front, back, rfl, rfl, hdepth⟩
  have hchars : (front ++ (',', true) :: back).map Prod.fst =
      front.map Prod.fst ++ ',' :: back.map Prod.fst := by simp
  constructor
  · rintro ⟨hne, htext, hcommas⟩
    obtain ⟨piece, rest, rfl⟩ := List.exists_cons_of_ne_nil hne
    have hrest : rest ≠ [] := by
      rintro rfl
      exact not_endsAt_singleton piece _ ((hcommas _).mp hseparates)
    have hends := fun n => (hcommas n).trans (endsAt_cons hrest)
    -- The first piece is neither longer nor shorter than the text up to the comma.
    have hlength : piece.length = front.length := by
      refine Nat.le_antisymm ?_ ?_
      · rcases (hends _).mp hseparates with hlength | ⟨m, hlength, _⟩ <;> omega
      · by_contra hlt
        exact hfirst _ (by omega) ((hends _).mpr (Or.inl rfl))
    rw [joined_cons piece hrest, hchars] at htext
    obtain ⟨rfl, hback⟩ := List.append_inj htext (by rw [hlength, List.length_map])
    refine ⟨rest, rfl, hrest, (List.cons.inj hback).2, fun n => ?_⟩
    rw [← separatesAt_append hdepth, hends, hlength]
    constructor
    · rintro (hn | ⟨m, hm, hrest⟩)
      · omega
      · obtain rfl : n = m := by omega
        exact hrest
    · exact fun hn => Or.inr ⟨n, rfl, hn⟩
  · rintro ⟨rest, rfl, hne, htext, hcommas⟩
    refine ⟨by simp, by rw [joined_cons _ hne, htext, hchars], fun n => ?_⟩
    rw [endsAt_cons hne, List.length_map]
    rcases Nat.lt_trichotomy n front.length with hlt | rfl | hgt
    · refine iff_of_false (hfirst n hlt) ?_
      rintro (rfl | ⟨m, rfl, _⟩) <;> omega
    · exact iff_of_true hseparates (Or.inl rfl)
    · obtain ⟨m, rfl⟩ := Nat.exists_eq_add_of_lt hgt
      rw [Nat.add_assoc, separatesAt_append hdepth, hcommas]
      constructor
      · exact fun hm => Or.inr ⟨m, rfl, hm⟩
      · rintro (hlength | ⟨m', hlength, hm⟩)
        · omega
        · obtain rfl : m = m' := by omega
          exact hm

/-! ## Cutting -/

/-- Cutting goes on behind a mark that does not separate. -/
theorem cutAtCommas_cons {depth : Int} {current : List Char} {mark : Char × Bool}
    {rest : List (Char × Bool)} (h : mark = (',', true) → depth ≠ 0) :
    cutAtCommas depth current (mark :: rest) =
      cutAtCommas (depth + bracketDepth [mark]) (mark.1 :: current) rest := by
  obtain ⟨c, isCode⟩ := mark
  have hcomma : ¬ (isCode && c == ',' && depth == 0) = true := by
    simp only [Bool.and_eq_true, beq_iff_eq]
    rintro ⟨⟨rfl, rfl⟩, hdepth⟩
    exact h rfl hdepth
  have hnext : (if isCode && (c == '(' || c == '[') then depth + 1
      else if isCode && (c == ')' || c == ']') then depth - 1 else depth) =
        depth + bracketDepth [(c, isCode)] := by
    cases isCode with
    | false => simp [nesting]
    | true =>
      by_cases hround : c = '('
      · subst hround; rfl
      by_cases hsquare : c = '['
      · subst hsquare; rfl
      by_cases hclosing : c = ')' ∨ c = ']'
      · rcases hclosing with rfl | rfl <;> rfl
      · rw [not_or] at hclosing
        simp [nesting, hround, hsquare, hclosing]
  rw [cutAtCommas, if_neg hcomma, hnext]

/-- Nothing is cut before the first separating comma. -/
theorem cutAtCommas_append {depth : Int} {current : List Char} {front back : List (Char × Bool)}
    (h : ∀ before after, front = before ++ (',', true) :: after → depth + bracketDepth before ≠ 0) :
    cutAtCommas depth current (front ++ back) =
      cutAtCommas (depth + bracketDepth front) ((front.map Prod.fst).reverse ++ current) back := by
  induction front generalizing depth current with
  | nil => simp
  | cons mark front ih =>
    have hmark : mark = (',', true) → depth ≠ 0 := by
      rintro rfl
      simpa using h [] front rfl
    have hnesting (marks : List (Char × Bool)) :
        depth + bracketDepth (mark :: marks) =
          depth + bracketDepth [mark] + bracketDepth marks := by
      rw [Int.add_assoc]
      exact congrArg _ (nesting_cons ..)
    have hfront (before after) (heq : front = before ++ (',', true) :: after) :
        depth + bracketDepth [mark] + bracketDepth before ≠ 0 := by
      rw [← hnesting]
      exact h (mark :: before) after (congrArg _ heq)
    rw [List.cons_append, cutAtCommas_cons hmark, ih hfront, ← hnesting]
    simp

theorem cutAtCommas_of_not_separatesAt {front : List (Char × Bool)} (back : List (Char × Bool))
    (h : ∀ n < front.length, ¬ SeparatesAt (front ++ back) n) :
    cutAtCommas 0 [] (front ++ back) =
      cutAtCommas (bracketDepth front) (front.map Prod.fst).reverse back := by
  rw [cutAtCommas_append, Int.zero_add, List.append_nil]
  rintro before after rfl hdepth
  refine h before.length (by simp) (separatesAt_iff.mpr ⟨before, after ++ back, ?_, rfl, ?_⟩)
  · simp
  · simpa using hdepth

/-- The text between the parentheses is cut at the separating commas. -/
theorem cutAtCommas_eq_iff {marks : List (Char × Bool)} {pieces : List (List Char)} :
    cutAtCommas 0 [] marks = pieces ↔ Separated marks pieces := by
  induction hlength : marks.length using Nat.strong_induction_on generalizing marks pieces with
  | _ length ih =>
    by_cases hnone : ∀ n, ¬ SeparatesAt marks n
    · have hwhole : cutAtCommas 0 [] (marks ++ []) = _ :=
        cutAtCommas_of_not_separatesAt [] fun n _ => by simpa using hnone n
      rw [List.append_nil, cutAtCommas, List.reverse_reverse] at hwhole
      rw [separated_iff_of_not hnone, hwhole, eq_comm]
    · rw [not_forall_not] at hnone
      classical
      have hfirst := fun n => Nat.find_min (m := n) hnone
      obtain ⟨front, back, rfl, hplace, hdepth⟩ := separatesAt_iff.mp (Nat.find_spec hnone)
      rw [← hplace] at hfirst
      have hback : back.length < length := by
        rw [← hlength, List.length_append, List.length_cons]
        omega
      have hcut : cutAtCommas 0 [] (front ++ (',', true) :: back) =
          front.map Prod.fst :: cutAtCommas 0 [] back := by
        rw [cutAtCommas_of_not_separatesAt _ hfirst, hdepth, cutAtCommas, List.reverse_reverse]
        rfl
      rw [separated_iff_of_first hdepth hfirst, hcut]
      constructor
      · rintro rfl
        exact ⟨_, rfl, (ih _ hback rfl).mp rfl⟩
      · rintro ⟨rest, rfl, hrest⟩
        rw [(ih _ hback rfl).mpr hrest]

end QueryAudit.Query
