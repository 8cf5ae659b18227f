import QueryAudit.Proofs.Query.Cutting
import Mathlib.Data.List.Chain

/-!
# Reading a text by places

The lexer is given here a second time as loops over places: each loop goes on from a place it has
computed, and every character is read by its place. A loop ends because the place it goes on from
lies further on, which for the loop over the whole text is a lemma about skipped spans: none ends
where it starts. A run of the loops has a result only if it reads no character outside the text. The
run over a text has a result, which is where the spans of the text begin and end, and these tile the
text.
-/

namespace QueryAudit.Query

/-! ## The loops -/

/-- A run of loops: its result, or nothing when it reads outside the text. -/
abbrev Run (α : Type) := Option α

/-- The character so many places before a place, which has to lie in the text. -/
def charBefore (text : List Char) (place distance : Nat) : Run Char :=
  if distance ≤ place then text[place - distance]? else none

/-- Whether a word stands at a place; it does not when it would end outside the text. -/
def standsAt (text word : List Char) (place : Nat) : Bool :=
  word.isPrefixOf (text.drop place)

/-- The first place from the given one on at which a word stands. -/
def placeOf? (text word : List Char) (start : Nat) : Option Nat :=
  (lengthBefore? word (text.drop start)).map (start + ·)

/-- The end of a quoted span, looked for from a place inside it. A step may lead past the end. -/
def quotedEnd (text : List Char) (quote : Char) (escapes : Bool) (place : Nat) : Run Nat :=
  if place < text.length then do
    let c ← text[place]?
    if escapes && c == '\\' then quotedEnd text quote escapes (place + 2)
    else if c == quote then
      if place + 1 < text.length then do
        let d ← text[place + 1]?
        if d == quote then quotedEnd text quote escapes (place + 2) else return place + 1
      else return place + 1
    else quotedEnd text quote escapes (place + 1)
  else return text.length
termination_by text.length - place

/-- The end of a block comment, looked for from a place at the given depth. -/
def commentEnd (text : List Char) (depth : Int) (place : Nat) : Run Nat :=
  if place < text.length then
    if standsAt text ['/', '*'] place then commentEnd text (depth + 1) (place + 2)
    else if standsAt text ['*', '/'] place then
      if depth - 1 = 0 then return place + 2 else commentEnd text (depth - 1) (place + 2)
    else commentEnd text depth (place + 1)
  else return text.length
termination_by text.length - place

/-- Whether the single quote at a place opens a literal with backslash escapes. -/
def escapesAt (text : List Char) (place : Nat) : Run Bool :=
  if 0 < place then do
    let c ← charBefore text place 1
    if c == 'e' || c == 'E' then
      if place < 2 then return true
      else do
        let d ← charBefore text place 2
        return !isIdentifierChar d
    else return false
  else return false

/-- Whether the character before a place may stand in an identifier. -/
def identifierBefore (text : List Char) (place : Nat) : Run Bool :=
  if place = 0 then return false
  else do
    let c ← charBefore text place 1
    return isIdentifierChar c

/-- The end of the dollar-quoted body that starts at a place. -/
def dollarEnd? (text : List Char) (place : Nat) : Option Nat :=
  (dollarTag? (text.drop (place + 1))).map fun tag =>
    ((placeOf? text tag (place + tag.length)).map (· + tag.length)).getD text.length

/-- The end of the skipped span that starts at a place, or none when the place is code. -/
def skippedEnd (text : List Char) (place : Nat) : Run (Option Nat) := do
  let c ← text[place]?
  if c == '\'' then
    let escapes ← escapesAt text place
    let stop ← quotedEnd text '\'' escapes (place + 1)
    return some stop
  else if c == '"' then
    let stop ← quotedEnd text '"' false (place + 1)
    return some stop
  else if standsAt text ['-', '-'] place then
    return some ((placeOf? text ['\n'] place).getD text.length)
  else if standsAt text ['/', '*'] place then
    let stop ← commentEnd text 0 place
    return some stop
  else if c == '$' then
    let goesOn ← identifierBefore text place
    return if goesOn then none else dollarEnd? text place
  else return none

/-! ## What is left of a text from a place on -/

/-- The place lies in the text or right behind it, and the given characters follow. -/
structure RestAt (text : List Char) (place : Nat) (rest : List Char) : Prop where
  /-- The characters from the place on. -/
  drop_eq : text.drop place = rest
  /-- The place is not past the end. -/
  le_length : place ≤ text.length

namespace RestAt

variable {text rest : List Char} {place : Nat} {c d : Char}

theorem of_append (front rest : List Char) : RestAt (front ++ rest) front.length rest :=
  ⟨List.drop_left, by simp⟩

theorem add_length (h : RestAt text place rest) : place + rest.length = text.length := by
  rw [← h.drop_eq, List.length_drop, Nat.add_sub_cancel' h.le_length]

theorem lt_length (h : RestAt text place (c :: rest)) : place < text.length := by
  have hlength := h.add_length
  rw [List.length_cons] at hlength
  omega

theorem add (h : RestAt text place rest) {n : Nat} (hn : n ≤ rest.length) :
    RestAt text (place + n) (rest.drop n) := by
  have hlength := h.add_length
  exact ⟨by rw [← List.drop_drop, h.drop_eq], by omega⟩

theorem next (h : RestAt text place (c :: rest)) : RestAt text (place + 1) rest :=
  h.add (by simp)

theorem next_next (h : RestAt text place (c :: d :: rest)) : RestAt text (place + 2) rest :=
  h.next.next

theorem eq_length (h : RestAt text place []) : place = text.length :=
  h.add_length

theorem getElem? (h : RestAt text place (c :: rest)) : text[place]? = some c := by
  rw [← List.head?_drop, h.drop_eq, List.head?_cons]

theorem standsAt (h : RestAt text place rest) (word : List Char) :
    standsAt text word place = word.isPrefixOf rest := by
  rw [Query.standsAt, h.drop_eq]

/-- A word of two characters stands where they stand. -/
theorem standsAt_pair (h : RestAt text place (c :: rest)) (d e : Char) :
    Query.standsAt text [d, e] place = (c == d && rest.head? == some e) := by
  rw [h.standsAt, List.isPrefixOf_cons_cons, Bool.beq_comm (a := d)]
  cases rest with
  | nil => simp [List.isPrefixOf]
  | cons f rest => simp [List.isPrefixOf, Bool.beq_comm (a := e)]

theorem placeOf? (h : RestAt text place rest) (word : List Char) :
    placeOf? text word place = (lengthBefore? word rest).map (place + ·) := by
  rw [Query.placeOf?, h.drop_eq]

end RestAt

variable {text rest : List Char} {place : Nat} {c : Char}

/-! ## The ends of skipped spans -/

/-- Past the end a quoted span is over. -/
theorem quotedEnd_of_le {quote : Char} {escapes : Bool} (h : text.length ≤ place) :
    quotedEnd text quote escapes place = some text.length := by
  rw [quotedEnd, if_neg (Nat.not_lt.mpr h)]
  rfl

/-- One turn of the loop, whose reads all lie in the text. -/
theorem quotedEnd_turn (h : RestAt text place (c :: rest)) (quote : Char) (escapes : Bool) :
    quotedEnd text quote escapes place =
      if escapes && c == '\\' then quotedEnd text quote escapes (place + 2)
      else if c == quote then
        if rest.head? = some quote then quotedEnd text quote escapes (place + 2)
        else some (place + 1)
      else quotedEnd text quote escapes (place + 1) := by
  rw [quotedEnd, if_pos h.lt_length, h.getElem?]
  cases rest with
  | nil =>
    have hlast : ¬place + 1 < text.length := by simp [← h.add_length]
    simp [hlast]
  | cons d rest =>
    rw [if_pos h.next.lt_length, h.next.getElem?]
    simp

/-- The loop finds the end of the quoted span. -/
theorem quotedEnd_eq (h : RestAt text place rest) (quote : Char) (escapes : Bool) :
    quotedEnd text quote escapes place = some (place + quotedLength quote escapes rest) := by
  fun_induction quotedLength quote escapes rest generalizing place with
  | case1 => rw [quotedEnd_of_le h.eq_length.ge, h.eq_length, Nat.add_zero]
  | case2 c =>
    have hlength : place + 1 = text.length := h.add_length
    rw [quotedEnd_turn h, quotedEnd_of_le (by omega), quotedEnd_of_le (by omega), ← hlength]
    simp
  | case3 c d rest hc ih => rw [quotedEnd_turn h, if_pos hc, ih h.next_next, Nat.add_assoc]
  | case4 c d rest hc hquote hd ih =>
    rw [quotedEnd_turn h, if_neg hc, if_pos hquote, if_pos (by simpa using hd), ih h.next_next,
      Nat.add_assoc]
  | case5 c d rest hc hquote hd =>
    rw [quotedEnd_turn h, if_neg hc, if_pos hquote, if_neg (by simpa using hd)]
  | case6 c d rest hc hquote ih =>
    rw [quotedEnd_turn h, if_neg hc, if_neg hquote, ih h.next, Nat.add_assoc]

/-- Past the end a block comment is over, at whatever depth. -/
theorem commentEnd_of_le {depth : Int} (h : text.length ≤ place) :
    commentEnd text depth place = some text.length := by
  rw [commentEnd, if_neg (Nat.not_lt.mpr h)]
  rfl

/-- One turn of the loop over a block comment. -/
theorem commentEnd_turn (h : RestAt text place (c :: rest)) (depth : Int) :
    commentEnd text depth place =
      if c == '/' && rest.head? == some '*' then commentEnd text (depth + 1) (place + 2)
      else if c == '*' && rest.head? == some '/' then
        if depth - 1 = 0 then some (place + 2) else commentEnd text (depth - 1) (place + 2)
      else commentEnd text depth (place + 1) := by
  rw [commentEnd, if_pos h.lt_length, h.standsAt_pair, h.standsAt_pair]
  rfl

/-- The loop finds the end of the block comment. -/
theorem commentEnd_eq (h : RestAt text place rest) {depth : Nat} (hdepth : 0 < depth) :
    commentEnd text depth place = some (place + commentLength depth rest) := by
  fun_induction commentLength depth rest generalizing place with
  | case1 => rw [commentEnd_of_le h.eq_length.ge, h.eq_length, Nat.add_zero]
  | case2 depth c =>
    have hlength : place + 1 = text.length := h.add_length
    have hover : commentEnd text depth (place + 1) = some text.length := commentEnd_of_le hlength.ge
    simpa [commentEnd_turn h, hlength] using hover
  | case3 depth c d rest hc ih =>
    have hdeeper : (depth : Int) + 1 = (depth + 1 : Nat) := rfl
    rw [commentEnd_turn h, if_pos (by simpa using hc), hdeeper, ih h.next_next (by omega),
      Nat.add_assoc]
  | case4 depth c d rest hc hclose hlast =>
    rw [commentEnd_turn h, if_neg (by simpa using hc), if_pos (by simpa using hclose),
      if_pos (by omega)]
  | case5 depth c d rest hc hclose hlast ih =>
    have hshallower : (depth : Int) - 1 = (depth - 1 : Nat) := by omega
    rw [commentEnd_turn h, if_neg (by simpa using hc), if_pos (by simpa using hclose),
      if_neg (by omega), hshallower, ih h.next_next (by omega), Nat.add_assoc]
  | case6 depth c d rest hc hclose ih =>
    rw [commentEnd_turn h, if_neg (by simpa using hc), if_neg (by simpa using hclose),
      ih h.next hdepth, Nat.add_assoc]

/-- The loop over a block comment starts outside it, at depth zero. -/
theorem commentEnd_opening (h : RestAt text place ('/' :: '*' :: rest)) :
    commentEnd text 0 place = some (place + 1 + (1 + commentLength 1 rest)) := by
  have hinside : commentEnd text 1 (place + 2) = _ := commentEnd_eq h.next_next Nat.one_pos
  rw [commentEnd_turn h, if_pos (by simp), Int.zero_add, hinside]
  simp only [Option.some.injEq]
  omega

/-- The characters in front of the first line feed, or all of them. -/
theorem getD_lengthBefore?_newline (s : List Char) :
    (lengthBefore? ['\n'] s).getD s.length = (s.takeWhile (· != '\n')).length := by
  induction s with
  | nil => rfl
  | cons c rest ih =>
    rw [lengthBefore?, List.takeWhile_cons]
    by_cases hc : c = '\n'
    · simp [hc, List.isPrefixOf]
    · have hfront : ['\n'].isPrefixOf (c :: rest) = false := by
        simpa [List.isPrefixOf] using Ne.symm hc
      rw [hfront, if_neg Bool.false_ne_true, if_pos (by simpa using hc), List.length_cons,
        List.length_cons, ← ih]
      cases lengthBefore? ['\n'] rest <;> rfl

/-- A line comment ends in front of the next line feed, which is not its first character. -/
theorem lineEnd_eq (h : RestAt text place (c :: rest)) (hc : c ≠ '\n') :
    (placeOf? text ['\n'] place).getD text.length =
      place + 1 + (rest.takeWhile (· != '\n')).length := by
  rw [h.placeOf?, ← h.add_length, Option.getD_map, getD_lengthBefore?_newline,
    List.takeWhile_cons_of_pos (by simpa using hc), List.length_cons]
  omega

/-! ## Looking behind -/

/-- A character behind the place is one of the text before it. -/
theorem charBefore_eq (before rest : List Char) {distance : Nat} (hpos : 0 < distance)
    (h : distance ≤ before.length) :
    charBefore (before.reverse ++ rest) before.length distance = before[distance - 1]? := by
  have hplace : before.length - 1 - (before.length - distance) = distance - 1 := by omega
  rw [charBefore, if_pos h, List.getElem?_append_left (by rw [List.length_reverse]; omega),
    List.getElem?_reverse (by omega), hplace]

theorem escapesAt_eq (before rest : List Char) :
    escapesAt (before.reverse ++ rest) before.length = some (opensEscapes before) := by
  rw [escapesAt]
  cases before with
  | nil => rfl
  | cons c before =>
    have hpos : 0 < (c :: before).length := by simp
    rw [if_pos hpos, charBefore_eq _ _ Nat.one_pos hpos]
    cases before with
    | nil =>
      simp only [Option.bind_eq_bind, Nat.sub_self, List.getElem?_cons_zero, Option.bind_some,
        opensEscapes]
      cases c == 'e' || c == 'E' <;> rfl
    | cons d before =>
      have htwo : 2 ≤ (c :: d :: before).length := by simp
      rw [charBefore_eq _ _ Nat.two_pos htwo, if_neg (Nat.not_lt.mpr htwo)]
      simp only [Option.bind_eq_bind, Nat.sub_self, Nat.add_one_sub_one, List.getElem?_cons_zero,
        List.getElem?_cons_succ, Option.bind_some, opensEscapes]
      cases c == 'e' || c == 'E' <;> rfl

theorem identifierBefore_eq (before rest : List Char) :
    identifierBefore (before.reverse ++ rest) before.length =
      some (before.head?.any isIdentifierChar) := by
  rw [identifierBefore]
  cases before with
  | nil => rfl
  | cons c before =>
    have hpos : 0 < (c :: before).length := by simp
    rw [if_neg hpos.ne', charBefore_eq _ _ Nat.one_pos hpos]
    simp

/-- The end of a dollar-quoted body is as far away as the body is long. -/
theorem dollarEnd?_eq (h : RestAt text place (c :: rest)) :
    dollarEnd? text place =
      (dollarTag? rest).map fun tag => place + 1 + dollarLength tag rest := by
  rw [dollarEnd?, h.next.drop_eq]
  refine Option.map_congr fun tag htag => ?_
  obtain ⟨name, back, _, rfl, rfl⟩ := dollarTag?_eq_some_iff.mp htag
  have htagLength : ('$' :: name ++ ['$']).length = name.length + 2 := by simp
  have hbody : RestAt text (place + (name.length + 2)) back := by
    have hadd := h.add (n := name.length + 2) (by simp)
    simpa using hadd
  have hback : (name ++ '$' :: back).drop (name.length + 1) = back := by
    rw [← List.drop_drop, List.drop_left, List.drop_one, List.tail_cons]
  have hlength := h.add_length
  rw [List.length_cons] at hlength
  rw [dollarLength, htagLength, hbody.placeOf?, Nat.add_sub_assoc (by omega), hback]
  cases lengthBefore? ('$' :: name ++ ['$']) back with
  | none => simp only [Option.map_none, Option.getD_none]; omega
  | some n => simp only [Option.map_some, Option.getD_some]; omega

/-- A skipped span starts at a place when the characters before and behind it say so. -/
theorem skippedEnd_eq (before rest : List Char) (c : Char) :
    skippedEnd (before.reverse ++ c :: rest) before.length =
      some ((skippedAfter? before c rest).map (before.length + 1 + ·)) := by
  have h : RestAt (before.reverse ++ c :: rest) before.length (c :: rest) := by
    simpa using RestAt.of_append before.reverse (c :: rest)
  simp only [skippedEnd, h.getElem?, escapesAt_eq, quotedEnd_eq h.next, h.standsAt_pair,
    identifierBefore_eq, dollarEnd?_eq h, skippedAfter?, Option.bind_eq_bind, Option.bind_some,
    Option.pure_def]
  split
  · rfl
  split
  · rfl
  split
  · rename_i hline
    simp only [Bool.and_eq_true, beq_iff_eq] at hline
    rw [lineEnd_eq h (by simp [hline.1])]
    rfl
  split
  · rename_i hblock
    simp only [Bool.and_eq_true, beq_iff_eq] at hblock
    obtain ⟨rfl, hstar⟩ := hblock
    obtain ⟨rest, rfl⟩ := List.head?_eq_some_iff.mp hstar
    rw [commentEnd_opening h]
    rfl
  cases c == '$' <;> cases before.head?.any isIdentifierChar <;> simp [Function.comp_def]

/-! ## The whole text -/

/-- A skipped span starts inside the text and ends behind its start. -/
theorem bounds_of_skippedEnd {stop : Nat} (h : skippedEnd text place = some (some stop)) :
    place < text.length ∧ place < stop := by
  have hplace : place < text.length := by
    by_contra hout
    have hnone : text[place]? = none := List.getElem?_eq_none (Nat.not_lt.mp hout)
    rw [skippedEnd, hnone] at h
    cases h
  refine ⟨hplace, ?_⟩
  have htext : text =
      (text.take place).reverse.reverse ++ text[place] :: text.drop (place + 1) := by
    rw [List.reverse_reverse, List.getElem_cons_drop, List.take_append_drop]
  have hlength : (text.take place).reverse.length = place := by
    rw [List.length_reverse, List.length_take_of_le hplace.le]
  have heq := skippedEnd_eq (text.take place).reverse (text.drop (place + 1)) text[place]
  rw [← htext, hlength, h, Option.some.injEq] at heq
  obtain ⟨k, _, rfl⟩ := Option.map_eq_some_iff.mp heq.symm
  omega

/-- The segments from a place on, as first place, place behind and mark of code, given where the
code under way starts. -/
def segmentsFrom (text : List Char) (start place : Nat) : Run (List (Nat × Nat × Bool)) :=
  if place < text.length then
    match h : skippedEnd text place with
    | none => none
    | some none => segmentsFrom text start (place + 1)
    | some (some stop) => do
      let rest ← segmentsFrom text stop stop
      return (if start < place then [(start, place, true)] else []) ++ (place, stop, false) :: rest
  else return if start < text.length then [(start, text.length, true)] else []
termination_by text.length - place
decreasing_by
  · omega
  · have := bounds_of_skippedEnd h
    omega

/-- The segments of a text. -/
def segments (text : List Char) : Run (List (Nat × Nat × Bool)) :=
  segmentsFrom text 0 0

/-- A turn of the loop at a place of code. -/
theorem segmentsFrom_code {start : Nat} (h : skippedEnd text place = some none)
    (hplace : place < text.length) :
    segmentsFrom text start place = segmentsFrom text start (place + 1) := by
  rw [segmentsFrom, if_pos hplace]
  split
  · rename_i hout
    rw [h] at hout
    cases hout
  · rfl
  · rename_i hstop
    rw [h] at hstop
    cases hstop

/-- A turn of the loop where a skipped span starts, after which no code is under way. -/
theorem segmentsFrom_skipped {start stop : Nat} (h : skippedEnd text place = some (some stop)) :
    segmentsFrom text start place =
      (segmentsFrom text stop stop).map fun rest =>
        (if start < place then [(start, place, true)] else []) ++ (place, stop, false) :: rest := by
  rw [segmentsFrom, if_pos (bounds_of_skippedEnd h).1]
  split
  · rename_i hout
    rw [h] at hout
    cases hout
  · rename_i hcode
    rw [h] at hcode
    cases hcode
  · rename_i other hother
    obtain rfl := Option.some.inj (Option.some.inj (h.symm.trans hother))
    cases segmentsFrom text stop stop <;> rfl

/-- The code under way is a segment of its own unless there is none. -/
theorem offsets_codeUnderWay (start : Nat) (code : List Char) (rest : List Span) :
    offsets start (codeSpan code ++ rest) =
      (if start < start + code.length then [(start, start + code.length, true)] else []) ++
        offsets (start + code.length) rest := by
  cases code with
  | nil => simp [codeSpan]
  | cons c code => simp [codeSpan, offsets]

/-- The loop over the text finds where the spans begin and end, also with code under way. -/
theorem segmentsFrom_eq (older code rest : List Char) :
    segmentsFrom ((code ++ older).reverse ++ rest) older.length (code ++ older).length =
      some (offsets older.length (spansFrom (code ++ older) code rest)) := by
  generalize hcarried : code ++ older = carried
  have hplace : carried.length = older.length + code.length := by
    rw [← hcarried, List.length_append, Nat.add_comm]
  induction carried, rest using lexing_induction generalizing older code with
  | nil carried =>
    have hall := offsets_codeUnderWay older.length code []
    rw [List.append_nil] at hall
    have hend : ¬carried.length < carried.reverse.length := by simp
    rw [List.append_nil, segmentsFrom, if_neg hend, List.length_reverse, spansFrom, hall, hplace]
    simp [offsets]
  | code carried c rest hskip ih =>
    have hturn : (carried.reverse ++ c :: rest) = (c :: carried).reverse ++ rest := by simp
    have hend : skippedEnd (carried.reverse ++ c :: rest) carried.length = some none := by
      rw [skippedEnd_eq, hskip, Option.map_none]
    rw [segmentsFrom_code hend (by simp), spansFrom, hskip, hturn]
    subst hcarried
    exact ih older (c :: code) rfl (by simp; omega)
  | skipped carried c rest k hskip ih =>
    have htake : (rest.take k).length = k := List.length_take_of_le (skippedAfter?_le hskip)
    have hnext := ih ((c :: rest.take k).reverse ++ carried) [] rfl (by simp)
    have htext : ((c :: rest.take k).reverse ++ carried).reverse ++ rest.drop k =
        carried.reverse ++ c :: rest := by simp
    have hlength : ((c :: rest.take k).reverse ++ carried).length = carried.length + 1 + k := by
      rw [List.length_append, List.length_reverse, List.length_cons, htake]
      omega
    rw [htext, hlength] at hnext
    have hend : skippedEnd (carried.reverse ++ c :: rest) carried.length =
        some (some (carried.length + 1 + k)) := by
      rw [skippedEnd_eq, hskip, Option.map_some]
    rw [segmentsFrom_skipped hend, hnext, Option.map_some, spansFrom_skipped hskip,
      offsets_codeUnderWay, ← hplace, offsets, List.length_cons, htake, ← Nat.add_assoc,
      Nat.add_right_comm]

/-- The segments of a text are where its spans begin and end. -/
theorem segments_eq (text : List Char) : segments text = some (offsets 0 (spans text)) :=
  segmentsFrom_eq [] [] text

/-! ## Tilings -/

/-- Segments that tile the places from `start` to `stop`, without two of code side by side. -/
structure Tiles (start stop : Nat) (segments : List (Nat × Nat × Bool)) : Prop where
  /-- There are none exactly when there is nothing to tile. -/
  eq_nil_iff : segments = [] ↔ start = stop
  /-- The first one starts at the start. -/
  first : ∀ segment ∈ segments.head?, segment.1 = start
  /-- None is empty. -/
  lt : ∀ segment ∈ segments, segment.1 < segment.2.1
  /-- Each starts where the one before it ends. -/
  joined : segments.IsChain fun left right => right.1 = left.2.1
  /-- The last one ends at the stop. -/
  last : ∀ segment ∈ segments.getLast?, segment.2.1 = stop
  /-- Of two that follow each other at most one is code. -/
  apart : segments.IsChain fun left right => ¬(left.2.2 = true ∧ right.2.2 = true)

theorem tiles_nil (place : Nat) : Tiles place place [] where
  eq_nil_iff := by simp
  first := by simp
  lt := by simp
  joined := .nil
  last := by simp
  apart := .nil

/-- A segment in front of a tiling that does not start with a second one of code. -/
theorem Tiles.cons {start next stop : Nat} {isCode : Bool} {segments : List (Nat × Nat × Bool)}
    (h : Tiles next stop segments) (hlt : start < next) (hle : next ≤ stop)
    (hapart : ∀ segment ∈ segments.head?, ¬(isCode = true ∧ segment.2.2 = true)) :
    Tiles start stop ((start, next, isCode) :: segments) where
  eq_nil_iff := by
    have hne : start ≠ stop := by omega
    simp [hne]
  first := by simp
  lt := List.forall_mem_cons.mpr ⟨hlt, h.lt⟩
  joined := List.isChain_cons.mpr ⟨h.first, h.joined⟩
  last := by
    cases segments with
    | nil => simpa using h.eq_nil_iff
    | cons segment segments => simpa using h.last
  apart := List.isChain_cons.mpr ⟨hapart, h.apart⟩

/-- Right spans tile the places of their text. -/
theorem Lexes.tiles {before : List Char} {cut : List Span} (h : Lexes before cut) (start : Nat) :
    Tiles start (start + (sourceOf cut).length) (offsets start cut) := by
  induction h generalizing start with
  | done => exact tiles_nil start
  | @code before code rest hne _ hhead _ ih =>
    have hpos := List.length_pos_iff.mpr hne
    have htail := ih (start + code.length)
    rw [sourceOf_cons, List.length_append, ← Nat.add_assoc, offsets]
    refine htail.cons (by simpa using hpos) (by simp) ?_
    rintro segment hsegment ⟨_, hcode⟩
    cases rest with
    | nil => cases hsegment
    | cons span rest =>
      obtain rfl := Option.some.inj hsegment
      exact Bool.false_ne_true ((hhead span rfl).symm.trans hcode)
  | @skipped before text c rest _ _ ih =>
    have htail := ih (start + (c :: text).length)
    rw [sourceOf_cons, List.length_append, ← Nat.add_assoc, offsets]
    exact htail.cons (by simp) (by simp) (by simp)

/-- The lexer ends on every text without a read outside it, and its segments, which are where the
spans of the text begin and end, tile the text. -/
theorem segments_tile (text : List Char) :
    ∃ found, segments text = some found ∧ found = offsets 0 (spans text) ∧
      Tiles 0 text.length found := by
  have htiles := (lexes_spans text).tiles 0
  rw [sourceOf_spans, Nat.zero_add] at htiles
  exact ⟨_, segments_eq text, rfl, htiles⟩

end QueryAudit.Query
