import QueryAudit.Proofs.Query.Marks

/-!
# Spans as an automaton reads them

The lexer jumps from the start of a skipped span to its end. This file describes the same cut by an
automaton that goes through a text character by character, and proves that a character is skipped
exactly when the automaton is not in its code mode there.
-/

namespace QueryAudit.Query

/-- The modes of the automaton. -/
inductive Mode where
  /-- Outside all skipped spans. -/
  | code
  /-- In a string literal. -/
  | literal
  /-- In a string literal with backslash escapes. -/
  | escapes
  /-- In a quoted identifier. -/
  | identifier
  /-- In a line comment. -/
  | line
  /-- In a block comment with so many open beginnings. -/
  | block (depth : Nat)
  /-- In a dollar-quoted body with this tag. -/
  | dollar (tag : List Char)
  deriving DecidableEq

/-- What the automaton makes of a character. -/
structure Reading where
  /-- The mode that the character is read in. -/
  mode : Mode
  /-- The number of characters after it that belong to the same token. -/
  held : Nat
  /-- The mode after the token. -/
  next : Mode
  deriving DecidableEq

/-- A character that is a token of its own and changes nothing. -/
def Reading.single (mode : Mode) : Reading :=
  ⟨mode, 0, mode⟩

/-- Whether a single `e` stands right before a quote, given in reverse the text before it. -/
def afterEscapeLetter : List Char → Bool
  | [] => false
  | letter :: before =>
    (letter == 'e' || letter == 'E') && !before.head?.any isIdentifierChar

/-- The rest of a tag after its first dollar sign, up to its last one. -/
def tagRest? (first : Bool) : List Char → Option (List Char)
  | [] => none
  | c :: rest =>
    if c == '$' then some ['$']
    else if (if first then isNameStart c else isNameChar c) then
      (tagRest? false rest).map (c :: ·)
    else none

/-- Read a token of code, which may open a skipped span. -/
def readCode (before : List Char) (c : Char) (rest : List Char) : Reading :=
  if c == '\'' then .single (if afterEscapeLetter before then .escapes else .literal)
  else if c == '"' then .single .identifier
  else if c == '-' && rest.head? == some '-' then ⟨.line, 1, .line⟩
  else if c == '/' && rest.head? == some '*' then ⟨.block 1, 1, .block 1⟩
  else if c == '$' && !before.head?.any isIdentifierChar then
    match tagRest? true rest with
    | some tag => ⟨.dollar ('$' :: tag), tag.length, .dollar ('$' :: tag)⟩
    | none => .single .code
  else .single .code

/-- Read a token between quotes: a doubled quote stays inside, a single one closes. -/
def readQuoted (quote : Char) (mode : Mode) (c : Char) (rest : List Char) : Reading :=
  if c == quote then
    if rest.head? == some quote then ⟨mode, 1, mode⟩ else ⟨mode, 0, .code⟩
  else .single mode

/-- Read a token in a mode. -/
def Mode.read (mode : Mode) (before : List Char) (c : Char) (rest : List Char) : Reading :=
  match mode with
  | .code => readCode before c rest
  | .literal => readQuoted '\'' .literal c rest
  | .escapes => if c == '\\' then ⟨.escapes, 1, .escapes⟩ else readQuoted '\'' .escapes c rest
  | .identifier => readQuoted '"' .identifier c rest
  | .line => .single (if c == '\n' then .code else .line)
  | .block depth =>
    if c == '/' && rest.head? == some '*' then ⟨.block depth, 1, .block (depth + 1)⟩
    else if c == '*' && rest.head? == some '/' then
      ⟨.block depth, 1, if depth ≤ 1 then .code else .block (depth - 1)⟩
    else .single (.block depth)
  | .dollar tag =>
    if tag.isPrefixOf (c :: rest) then ⟨.dollar tag, tag.length - 1, .code⟩
    else .single (.dollar tag)

/-- Go to the next character, given in reverse the text before it. -/
def Reading.step (last : Reading) (before : List Char) (c : Char) (rest : List Char) : Reading :=
  match last.held with
  | held + 1 => { last with held }
  | 0 => last.next.read before c rest

/-- The modes of the characters of a text, after the given reading. -/
def modesFrom (before : List Char) (last : Reading) : List Char → List Mode
  | [] => []
  | c :: rest =>
    let reading := last.step before c rest
    reading.mode :: modesFrom (c :: before) reading rest

/-- The modes of the characters of a text. -/
def modes (text : List Char) : List Mode :=
  modesFrom [] (.single .code) text

/-- The rest of a token is read in its mode. -/
theorem modesFrom_held (before text : List Char) (mode next : Mode) (held : Nat) :
    modesFrom before ⟨mode, held, next⟩ text =
      List.replicate (min held text.length) mode ++
        modesFrom ((text.take held).reverse ++ before) (.single next) (text.drop held) := by
  induction held generalizing before text with
  | zero => cases text <;> simp [modesFrom, Reading.step, Reading.single]
  | succ held ih =>
    cases text with
    | nil => simp [modesFrom]
    | cons c rest =>
      rw [modesFrom]
      simp only [Reading.step]
      rw [ih, List.length_cons, Nat.succ_min_succ, List.replicate_succ]
      simp

/-- The automaton leaves a mode after so many characters and is in the code mode then. -/
def Leaves (before : List Char) (mode : Mode) (text : List Char) (k : Nat) : Prop :=
  (modesFrom before (.single mode) text).map (· == .code) =
    List.replicate k false ++
      (modesFrom ((text.take k).reverse ++ before) (.single .code) (text.drop k)).map (· == .code)

theorem leaves_nil (before : List Char) (mode : Mode) : Leaves before mode [] 0 := rfl

theorem leaves_code (before text : List Char) : Leaves before .code text 0 := rfl

/-- A token of a skipped span puts the end of the span off by its length. -/
theorem leaves_token {before : List Char} {mode inside next : Mode} {c : Char} {rest : List Char}
    {held k : Nat} (hinside : inside ≠ .code)
    (hread : mode.read before c rest = ⟨inside, held, next⟩)
    (hheld : held ≤ rest.length)
    (h : Leaves ((c :: rest.take held).reverse ++ before) next (rest.drop held) k) :
    Leaves before mode (c :: rest) (1 + held + k) := by
  have hskip : (inside == Mode.code) = false := by simpa using hinside
  have hstep : (Reading.single mode).step before c rest = ⟨inside, held, next⟩ := hread
  have hsum : 1 + held + k = (held + k) + 1 := by omega
  have htake : (c :: rest).take (1 + held + k) =
      c :: rest.take held ++ (rest.drop held).take k := by
    rw [hsum, List.take_succ_cons, List.take_add]
    rfl
  have hdrop : (c :: rest).drop (1 + held + k) = (rest.drop held).drop k := by
    rw [hsum, List.drop_succ_cons, List.drop_drop]
  have hreplicate : List.replicate (1 + held + k) false =
      false :: List.replicate held false ++ List.replicate k false := by
    rw [List.cons_append, List.replicate_append_replicate, hsum, List.replicate_succ]
  have hheld : modesFrom (c :: before) ⟨inside, held, next⟩ rest = List.replicate held inside ++
      modesFrom ((c :: rest.take held).reverse ++ before) (.single next) (rest.drop held) := by
    rw [modesFrom_held, Nat.min_eq_left hheld]
    simp
  unfold Leaves at h ⊢
  rw [modesFrom]
  simp only [hstep]
  rw [hheld, htake, hdrop, hreplicate, List.map_cons, List.map_append, List.map_replicate, hskip, h,
    List.reverse_append, List.append_assoc, List.append_assoc]
  rfl

/-- A token that reaches to the end of the text. -/
theorem leaves_last {before : List Char} {mode : Mode} {c : Char} (hmode : mode ≠ .code)
    (hread : (mode.read before c []).mode = mode) : Leaves before mode [c] 1 := by
  have hskip : (mode == Mode.code) = false := by simpa using hmode
  simp [Leaves, modesFrom, Reading.step, Reading.single, hread, hskip]

/-- A quoted span is left behind its closing quote. -/
theorem leaves_quoted {quote : Char} {escapes : Bool} {mode : Mode} (hmode : mode ≠ .code)
    (hread : ∀ before c rest, mode.read before c rest =
      if escapes && c == '\\' then ⟨mode, 1, mode⟩ else readQuoted quote mode c rest)
    (before text : List Char) : Leaves before mode text (quotedLength quote escapes text) := by
  fun_induction quotedLength quote escapes text generalizing before with
  | case1 => exact leaves_nil before mode
  | case2 c =>
    refine leaves_last hmode ?_
    rw [hread, readQuoted]
    split
    · rfl
    · split
      · split <;> rfl
      · rfl
  | case3 c d rest hescape ih =>
    have htoken : mode.read before c (d :: rest) = ⟨mode, 1, mode⟩ := by
      rw [hread, if_pos hescape]
    exact leaves_token hmode htoken (by simp) (ih _)
  | case4 c d rest hescape hc hd ih =>
    have htoken : mode.read before c (d :: rest) = ⟨mode, 1, mode⟩ := by
      rw [hread, if_neg hescape, readQuoted, if_pos hc, List.head?_cons, if_pos (by simpa using hd)]
    exact leaves_token hmode htoken (by simp) (ih _)
  | case5 c d rest hescape hc hd =>
    have htoken : mode.read before c (d :: rest) = ⟨mode, 0, .code⟩ := by
      rw [hread, if_neg hescape, readQuoted, if_pos hc, List.head?_cons, if_neg (by simpa using hd)]
    exact leaves_token hmode htoken (Nat.zero_le _) (leaves_code _ _)
  | case6 c d rest hescape hc ih =>
    have htoken : mode.read before c (d :: rest) = ⟨mode, 0, mode⟩ := by
      rw [hread, if_neg hescape, readQuoted, if_neg hc, Reading.single]
    exact leaves_token hmode htoken (Nat.zero_le _) (ih _)

/-- A block comment is left when its last open beginning is closed. -/
theorem leaves_block (depth : Nat) (before text : List Char) :
    Leaves before (.block depth) text (commentLength depth text) := by
  fun_induction commentLength depth text generalizing before with
  | case1 depth => exact leaves_nil before _
  | case2 depth c =>
    refine leaves_last (by simp) ?_
    simp [Mode.read, Reading.single]
  | case3 depth c d rest hopen ih =>
    have htoken : (Mode.block depth).read before c (d :: rest) =
        ⟨.block depth, 1, .block (depth + 1)⟩ := by
      simp only [Bool.and_eq_true, beq_iff_eq] at hopen
      simp [Mode.read, hopen]
    exact leaves_token (by simp) htoken (by simp) (ih _)
  | case4 depth c d rest hopen hclose hdepth =>
    have htoken : (Mode.block depth).read before c (d :: rest) = ⟨.block depth, 1, .code⟩ := by
      simp only [Bool.and_eq_true, beq_iff_eq] at hopen hclose
      simp [Mode.read, hclose, hdepth]
    exact leaves_token (by simp) htoken (by simp) (leaves_code _ _)
  | case5 depth c d rest hopen hclose hdepth ih =>
    have htoken : (Mode.block depth).read before c (d :: rest) =
        ⟨.block depth, 1, .block (depth - 1)⟩ := by
      simp only [Bool.and_eq_true, beq_iff_eq] at hopen hclose
      simp [Mode.read, hclose, hdepth]
    exact leaves_token (by simp) htoken (by simp) (ih _)
  | case6 depth c d rest hopen hclose ih =>
    have htoken : (Mode.block depth).read before c (d :: rest) =
        ⟨.block depth, 0, .block depth⟩ := by
      simp only [Bool.and_eq_true, beq_iff_eq] at hopen hclose
      simp [Mode.read, hopen, hclose, Reading.single]
    exact leaves_token (by simp) htoken (Nat.zero_le _) (ih _)

/-- A line comment is left before its newline. -/
theorem leaves_line (before text : List Char) :
    Leaves before .line text (text.takeWhile (· != '\n')).length := by
  induction text generalizing before with
  | nil => exact leaves_nil before _
  | cons c rest ih =>
    by_cases hc : c = '\n'
    · subst hc
      -- The automaton is back in code when it reads the newline.
      rfl
    · have htoken : Mode.line.read before c rest = ⟨.line, 0, .line⟩ := by
        simp [Mode.read, hc, Reading.single]
      have h := leaves_token (by simp) htoken (Nat.zero_le _) (ih _)
      rw [List.takeWhile_cons_of_pos (by simpa using hc), List.length_cons]
      rwa [Nat.add_comm]

/-- A dollar-quoted body is left behind the first repetition of its tag. -/
theorem leaves_dollar (name before body : List Char) :
    Leaves before (.dollar ('$' :: name)) body
      (match lengthBefore? ('$' :: name) body with
        | some n => n + (name.length + 1)
        | none => body.length) := by
  induction body generalizing before with
  | nil => exact leaves_nil before _
  | cons c rest ih =>
    by_cases hprefix : ('$' :: name).isPrefixOf (c :: rest) = true
    · have hlength := (List.isPrefixOf_iff_prefix.mp hprefix).length_le
      have htoken : (Mode.dollar ('$' :: name)).read before c rest =
          ⟨.dollar ('$' :: name), name.length, .code⟩ := by
        rw [Mode.read, if_pos hprefix, List.length_cons, Nat.add_sub_cancel]
      have h := leaves_token (by simp) htoken (by simpa using hlength) (leaves_code _ _)
      rw [lengthBefore?, if_pos hprefix]
      rwa [Nat.add_zero, Nat.add_comm, ← Nat.zero_add (name.length + 1)] at h
    · have htoken : (Mode.dollar ('$' :: name)).read before c rest =
          ⟨.dollar ('$' :: name), 0, .dollar ('$' :: name)⟩ := by
        rw [Mode.read, if_neg hprefix, Reading.single]
      have h := leaves_token (by simp) htoken (Nat.zero_le _) (ih _)
      rw [lengthBefore?, if_neg hprefix]
      rw [Nat.add_zero, Nat.add_comm] at h
      cases hfound : lengthBefore? ('$' :: name) rest with
      | none => simpa only [hfound, Option.map_none, List.length_cons] using h
      | some n =>
        simp only [hfound] at h
        rw [Option.map_some]
        simpa only [Nat.add_right_comm n] using h

/-- The rest of a tag consists of characters of names and the dollar sign after them. -/
theorem tagRest?_false_eq_some_iff {text tag : List Char} :
    tagRest? false text = some tag ↔ ∃ name back, (∀ c ∈ name, isNameChar c = true) ∧
      text = name ++ '$' :: back ∧ tag = name ++ ['$'] := by
  induction text generalizing tag with
  | nil => simp [tagRest?]
  | cons c rest ih =>
    rw [tagRest?]
    split
    · rename_i hc
      obtain rfl : c = '$' := by simpa using hc
      constructor
      · intro h
        cases h
        exact ⟨[], rest, by simp, rfl, rfl⟩
      · rintro ⟨name, back, hname, heq, rfl⟩
        cases name with
        | nil => rfl
        | cons d name =>
          obtain ⟨rfl, _⟩ := List.cons.inj heq
          exact absurd (hname '$' (by simp)) (by decide)
    · rename_i hc
      simp only [Bool.false_eq_true, if_false]
      split
      · rename_i hname
        simp only [Option.map_eq_some_iff, ih]
        constructor
        · rintro ⟨_, ⟨name, back, hall, rfl, rfl⟩, rfl⟩
          exact ⟨c :: name, back, by simpa [hname] using hall, rfl, rfl⟩
        · rintro ⟨name, back, hall, heq, rfl⟩
          cases name with
          | nil => simp at heq; simp [heq.1] at hc
          | cons d name =>
            obtain ⟨rfl, rfl⟩ := List.cons.inj heq
            exact ⟨_, ⟨name, back, fun e he => hall e (by simp [he]), rfl, rfl⟩, rfl⟩
      · rename_i hname
        simp only [reduceCtorEq, false_iff]
        rintro ⟨name, back, hall, heq, rfl⟩
        cases name with
        | nil => simp at heq; simp [heq.1] at hc
        | cons d name =>
          obtain ⟨rfl, _⟩ := List.cons.inj heq
          exact hname (hall c (by simp))

/-- The automaton reads the tags that open dollar quotes. -/
theorem dollarTag?_eq_map_tagRest? (rest : List Char) :
    dollarTag? rest = (tagRest? true rest).map ('$' :: ·) := by
  ext tag
  rw [dollarTag?_eq_some_iff, Option.map_eq_some_iff]
  constructor
  · rintro ⟨name, back, rfl | ⟨c, tail, rfl, hstart, htail⟩, rfl, rfl⟩
    · exact ⟨['$'], rfl, rfl⟩
    · have hc : ¬ (c == '$') = true := by
        rw [beq_iff_eq]
        rintro rfl
        exact absurd hstart (by decide)
      refine ⟨c :: tail ++ ['$'], ?_, rfl⟩
      rw [List.cons_append, tagRest?, if_neg hc, if_pos rfl, if_pos hstart,
        tagRest?_false_eq_some_iff.mpr ⟨tail, back, htail, rfl, rfl⟩]
      rfl
  · rintro ⟨tag, htag, rfl⟩
    cases rest with
    | nil => cases htag
    | cons c rest =>
      rw [tagRest?, if_pos rfl] at htag
      split at htag
      · rename_i hc
        obtain rfl : c = '$' := by simpa using hc
        cases htag
        exact ⟨[], rest, Or.inl rfl, rfl, rfl⟩
      · split at htag
        · rename_i hstart
          obtain ⟨_, htail, rfl⟩ := Option.map_eq_some_iff.mp htag
          obtain ⟨tail, back, hall, rfl, rfl⟩ := tagRest?_false_eq_some_iff.mp htail
          exact ⟨c :: tail, back, Or.inr ⟨c, tail, rfl, hstart, hall⟩, rfl, rfl⟩
        · cases htag

theorem opensEscapes_eq (before : List Char) : opensEscapes before = afterEscapeLetter before := by
  cases before with
  | nil => rfl
  | cons letter before => exact opensEscapes_cons letter before

/-- A line comment is left from its first dash on. -/
theorem leaves_openLine {before rest : List Char} {c : Char}
    (hread : Mode.code.read before c rest = ⟨.line, 1, .line⟩) (hhead : rest.head? = some '-') :
    Leaves before .code (c :: rest) (1 + (rest.takeWhile (· != '\n')).length) := by
  cases rest with
  | nil => cases hhead
  | cons d rest =>
    obtain rfl := Option.some.inj hhead
    have h := leaves_token (by simp) hread (by simp) (leaves_line _ rest)
    rwa [List.takeWhile_cons_of_pos (by decide), List.length_cons,
      Nat.add_comm _ 1, ← Nat.add_assoc]

/-- A block comment is left from its first slash on. -/
theorem leaves_openBlock {before rest : List Char} {c : Char}
    (hread : Mode.code.read before c rest = ⟨.block 1, 1, .block 1⟩)
    (hhead : rest.head? = some '*') :
    Leaves before .code (c :: rest) (1 + (1 + commentLength 1 rest.tail)) := by
  cases rest with
  | nil => cases hhead
  | cons d rest =>
    have h := leaves_token (by simp) hread (by simp) (leaves_block 1 _ rest)
    rwa [List.tail_cons, ← Nat.add_assoc]

/-- A dollar-quoted body is left from its first dollar sign on. -/
theorem leaves_openDollar {before rest tag : List Char} {c : Char}
    (hread : Mode.code.read before c rest =
      ⟨.dollar ('$' :: tag), tag.length, .dollar ('$' :: tag)⟩)
    (htag : tag.length ≤ rest.length) :
    Leaves before .code (c :: rest) (1 + dollarLength ('$' :: tag) rest) := by
  have h := leaves_token (by simp) hread htag (leaves_dollar tag _ _)
  have hsum : 1 + dollarLength ('$' :: tag) rest = 1 + tag.length +
      (match lengthBefore? ('$' :: tag) (rest.drop tag.length) with
        | some n => n + (tag.length + 1)
        | none => (rest.drop tag.length).length) := by
    simp only [dollarLength, List.length_cons, Nat.add_sub_cancel]
    cases hfound : lengthBefore? ('$' :: tag) (rest.drop tag.length) with
    | some n =>
      simp only []
      omega
    | none =>
      simp only [List.length_drop]
      omega
  rwa [hsum]

/-- The automaton goes through a skipped span and is back in code at its end. -/
theorem leaves_skipped {before rest : List Char} {c : Char} {k : Nat}
    (h : skippedAfter? before c rest = some k) : Leaves before .code (c :: rest) (1 + k) := by
  cases skippedAfter?_eq_some_iff.mp h with
  | literal hc hk =>
    subst hc hk
    cases hopens : opensEscapes before with
    | true =>
      have htoken : Mode.code.read before '\'' rest = ⟨.escapes, 0, .escapes⟩ := by
        rw [opensEscapes_eq] at hopens
        simp [Mode.read, readCode, hopens, Reading.single]
      exact leaves_token (by simp) htoken (Nat.zero_le _)
        (leaves_quoted (by simp) (fun _ _ _ => by simp [Mode.read]) _ _)
    | false =>
      have htoken : Mode.code.read before '\'' rest = ⟨.literal, 0, .literal⟩ := by
        rw [opensEscapes_eq] at hopens
        simp [Mode.read, readCode, hopens, Reading.single]
      exact leaves_token (by simp) htoken (Nat.zero_le _)
        (leaves_quoted (by simp) (fun _ _ _ => by simp [Mode.read]) _ _)
  | identifier hc hk =>
    subst hc hk
    have htoken : Mode.code.read before '"' rest = ⟨.identifier, 0, .identifier⟩ := rfl
    exact leaves_token (by simp) htoken (Nat.zero_le _)
      (leaves_quoted (by simp) (fun _ _ _ => by simp [Mode.read]) _ _)
  | line hc hnext hk =>
    subst hc hk
    refine leaves_openLine ?_ hnext
    simp [Mode.read, readCode, hnext]
  | block hc hnext hk =>
    subst hc hk
    refine leaves_openBlock ?_ hnext
    simp [Mode.read, readCode, hnext]
  | dollar tag hc hbefore htag hk =>
    subst hc hk
    obtain ⟨name, back, _, rfl, rfl⟩ := dollarTag?_eq_some_iff.mp htag
    rw [dollarTag?_eq_map_tagRest?] at htag
    obtain ⟨inner, hread, hinner⟩ := Option.map_eq_some_iff.mp htag
    obtain rfl : inner = name ++ ['$'] := (List.cons.inj hinner).2
    refine leaves_openDollar ?_ (by simp)
    simp [Mode.read, readCode, hbefore, hread]

/-- Code is read character by character. -/
theorem read_code {before rest : List Char} {c : Char}
    (h : skippedAfter? before c rest = none) : Mode.code.read before c rest = .single .code := by
  rw [skippedAfter?_eq_none_iff] at h
  simp only [Mode.read, readCode, Bool.and_eq_true, beq_iff_eq, Bool.not_eq_true']
  rw [if_neg fun hc => h _ (.literal hc rfl), if_neg fun hc => h _ (.identifier hc rfl),
    if_neg fun hc => h _ (.line hc.1 hc.2 rfl), if_neg fun hc => h _ (.block hc.1 hc.2 rfl)]
  split
  · rename_i hdollar
    cases htag : tagRest? true rest with
    | none => rfl
    | some tag =>
      have hfound : dollarTag? rest = some ('$' :: tag) := by
        rw [dollarTag?_eq_map_tagRest?, htag, Option.map_some]
      exact absurd (.dollar _ hdollar.1 hdollar.2 hfound rfl) (h _)
  · rfl

/-- The automaton is in its code mode at the characters that are marked as code. -/
theorem modesFrom_eq_marks (before text : List Char) :
    (modesFrom before (.single .code) text).map (· == .code) =
      (marksFrom before text).map Prod.snd := by
  induction before, text using lexing_induction with
  | nil before => simp [modesFrom]
  | code before c rest hskip ih =>
    have hstep : (Reading.single .code).step before c rest = .single .code := read_code hskip
    rw [marksFrom_of_code hskip, modesFrom]
    simp only [hstep, List.map_cons]
    rw [ih]
    rfl
  | skipped before c rest k hskip ih =>
    have hk : (rest.take k).length = k := List.length_take_of_le (skippedAfter?_le hskip)
    have hleaves := leaves_skipped hskip
    rw [Leaves, Nat.add_comm, List.take_succ_cons, List.drop_succ_cons, ih] at hleaves
    have hmarks (skipped : List Char) : (skipped.map fun d => (d, false)).map Prod.snd =
        List.replicate skipped.length false := by
      rw [List.map_map]
      exact List.map_const'
    rw [hleaves, marksFrom_of_skipped hskip, List.map_append, hmarks, List.length_cons, hk]

/-- A place lies in a span with a mark exactly when the character there has the mark. -/
theorem mem_offsets_iff {start i : Nat} {cut : List Span} {isCode : Bool} :
    (∃ first stop, (first, stop, isCode) ∈ offsets start cut ∧ first ≤ i ∧ i < stop) ↔
      start ≤ i ∧ ∃ c, (cut.flatMap Span.marks)[i - start]? = some (c, isCode) := by
  induction cut generalizing start with
  | nil => simp [offsets]
  | cons span rest ih =>
    have hlength : span.marks.length = span.text.length := List.length_map _
    have hlater : start + span.text.length ≤ i →
        ((span :: rest).flatMap Span.marks)[i - start]? =
          (rest.flatMap Span.marks)[i - (start + span.text.length)]? := by
      intro hle
      rw [List.flatMap_cons, List.getElem?_append_right (by omega), hlength, Nat.sub_sub]
    constructor
    · rintro ⟨first, stop, hmem, hfirst, hstop⟩
      rcases List.mem_cons.mp hmem with heq | hmem
      · cases heq
        have hinside : i - start < span.text.length := by omega
        refine ⟨hfirst, span.text[i - start], ?_⟩
        rw [List.flatMap_cons, List.getElem?_append_left (by omega)]
        simp [Span.marks, hinside]
      · obtain ⟨hle, c, hc⟩ := ih.mp ⟨first, stop, hmem, hfirst, hstop⟩
        exact ⟨by omega, c, by rwa [hlater hle]⟩
    · rintro ⟨hle, c, hc⟩
      by_cases hinside : i < start + span.text.length
      · rw [List.flatMap_cons, List.getElem?_append_left (by omega)] at hc
        rw [Span.marks, List.getElem?_map, Option.map_eq_some_iff] at hc
        obtain ⟨d, _, heq⟩ := hc
        obtain ⟨rfl, rfl⟩ := Prod.mk.inj heq
        exact ⟨start, start + span.text.length, List.mem_cons_self, hle, hinside⟩
      · rw [hlater (by omega)] at hc
        obtain ⟨first, stop, hmem, hbounds⟩ := ih.mpr ⟨by omega, c, hc⟩
        exact ⟨first, stop, List.mem_cons_of_mem _ hmem, hbounds⟩

theorem modesFrom_length (before text : List Char) (last : Reading) :
    (modesFrom before last text).length = text.length := by
  induction text generalizing before last with
  | nil => rfl
  | cons c rest ih => simp [modesFrom, ih]

/-- The automaton is in one mode at every character. A place of a text is in a skipped span exactly
when the mode there is another than code, and in a code span exactly when the mode is code. -/
theorem skipped_iff_mode_ne_code (text : List Char) :
    (modes text).length = text.length ∧ ∀ i,
      ((∃ first stop, (first, stop, false) ∈ offsets 0 (spans text) ∧ first ≤ i ∧ i < stop) ↔
          ∃ mode, (modes text)[i]? = some mode ∧ mode ≠ .code) ∧
        ((∃ first stop, (first, stop, true) ∈ offsets 0 (spans text) ∧ first ≤ i ∧ i < stop) ↔
          (modes text)[i]? = some .code) := by
  refine ⟨modesFrom_length [] text _, fun i => ?_⟩
  have hmodes : (modes text).map (· == .code) = (marked text).map Prod.snd :=
    modesFrom_eq_marks [] text
  have hplace := congrArg (fun marks => marks[i]?) hmodes
  simp only [List.getElem?_map] at hplace
  rw [mem_offsets_iff, mem_offsets_iff]
  simp only [Nat.zero_le, Nat.sub_zero, true_and]
  change ((∃ c, (marked text)[i]? = some (c, false)) ↔ _) ∧
    ((∃ c, (marked text)[i]? = some (c, true)) ↔ _)
  cases hmode : (modes text)[i]? with
  | none =>
    have hmark : (marked text)[i]? = none := by simpa [hmode] using hplace.symm
    simp [hmark]
  | some mode =>
    rw [hmode, Option.map_some, eq_comm, Option.map_eq_some_iff] at hplace
    obtain ⟨⟨c, isCode⟩, hmark, rfl⟩ := hplace
    simp [hmark]

end QueryAudit.Query
