import QueryAudit.Proofs.Query.Names

/-!
# How far skipped spans reach

The length of a skipped span is found by looking ahead, and whether one starts also by looking
back. This file says how little of the text around a span decides that: behind it, whether an
identifier ends there and whether a quote opens escapes; after it, the first character.
-/

namespace QueryAudit.Query

/-! ## Looking back -/

/-- Two texts, in reverse, after which the same spans are skipped. -/
structure SameBehind (left right : List Char) : Prop where
  /-- An identifier ends with both or with none. -/
  identifier : left.head?.any isIdentifierChar = right.head?.any isIdentifierChar
  /-- A quote opens escapes after both or after none. -/
  escapes : opensEscapes left = opensEscapes right

/-- A quote opens escapes after an `e` that no identifier character precedes. -/
theorem opensEscapes_cons (c : Char) (before : List Char) :
    opensEscapes (c :: before) =
      ((c == 'e' || c == 'E') && !before.head?.any isIdentifierChar) := by
  cases before <;> simp [opensEscapes]

/-- Reading one more character makes texts alike as soon as identifiers end alike. -/
theorem SameBehind.cons {left right : List Char} (c : Char)
    (h : left.head?.any isIdentifierChar = right.head?.any isIdentifierChar) :
    SameBehind (c :: left) (c :: right) where
  identifier := rfl
  escapes := by rw [opensEscapes_cons, opensEscapes_cons, h]

theorem SameBehind.append {left right : List Char} (h : SameBehind left right) (text : List Char) :
    SameBehind (text.reverse ++ left) (text.reverse ++ right) := by
  induction text generalizing left right with
  | nil => exact h
  | cons c rest ih =>
    rw [List.reverse_cons, List.append_assoc, List.append_assoc]
    exact ih (.cons c h.identifier)

/-- Behind a character that ends identifiers the lexer starts anew. -/
theorem sameBehind_of_not_identifier {c : Char} (h : isIdentifierChar c = false)
    (before : List Char) : SameBehind (c :: before) [] where
  identifier := by simp [h]
  escapes := by
    have hletter (letter : Char) (hl : isIdentifierChar letter = true) : c ≠ letter := by
      rintro rfl
      simp [hl] at h
    rw [opensEscapes_cons]
    simp [hletter 'e' (by decide), hletter 'E' (by decide), opensEscapes]

/-- What is skipped depends on the text behind in these two ways only. -/
theorem SameBehind.skippedAfter? {left right : List Char} (h : SameBehind left right) (c : Char)
    (rest : List Char) : skippedAfter? left c rest = skippedAfter? right c rest := by
  unfold Query.skippedAfter?
  rw [h.identifier, h.escapes]

theorem skippedAfter?_quote (before rest : List Char) :
    skippedAfter? before '\'' rest = some (quotedLength '\'' (opensEscapes before) rest) := rfl

/-- A skipped span opens with a character, and so many characters follow in it. -/
inductive Opens (before rest : List Char) (c : Char) (k : Nat) : Prop
  | literal (hc : c = '\'') (hk : quotedLength '\'' (opensEscapes before) rest = k)
  | identifier (hc : c = '"') (hk : quotedLength '"' false rest = k)
  | line (hc : c = '-') (hnext : rest.head? = some '-')
      (hk : (rest.takeWhile (· != '\n')).length = k)
  | block (hc : c = '/') (hnext : rest.head? = some '*') (hk : 1 + commentLength 1 rest.tail = k)
  | dollar (tag : List Char) (hc : c = '$') (hbefore : before.head?.any isIdentifierChar = false)
      (htag : dollarTag? rest = some tag) (hk : dollarLength tag rest = k)

theorem skippedAfter?_eq_some_iff {before rest : List Char} {c : Char} {k : Nat} :
    skippedAfter? before c rest = some k ↔ Opens before rest c k := by
  constructor
  · intro h
    simp only [skippedAfter?, Bool.and_eq_true, beq_iff_eq, Bool.not_eq_true'] at h
    split at h
    · rename_i hc
      exact .literal hc (Option.some.inj h)
    split at h
    · rename_i hc
      exact .identifier hc (Option.some.inj h)
    split at h
    · rename_i hc
      exact .line hc.1 hc.2 (Option.some.inj h)
    split at h
    · rename_i hc
      exact .block hc.1 hc.2 (Option.some.inj h)
    split at h
    · rename_i hc
      obtain ⟨tag, htag, hk⟩ := Option.map_eq_some_iff.mp h
      exact .dollar tag hc.1 hc.2 htag hk
    · cases h
  · rintro (⟨rfl, rfl⟩ | ⟨rfl, rfl⟩ | ⟨rfl, hnext, rfl⟩ | ⟨rfl, hnext, rfl⟩ |
      ⟨tag, rfl, hbefore, htag, rfl⟩)
    · rfl
    · rfl
    · simp [skippedAfter?, hnext]
    · simp [skippedAfter?, hnext]
    · simp [skippedAfter?, hbefore, htag]

theorem skippedAfter?_eq_none_iff {before rest : List Char} {c : Char} :
    skippedAfter? before c rest = none ↔ ∀ k, ¬ Opens before rest c k := by
  simp only [Option.eq_none_iff_forall_ne_some, ne_eq, skippedAfter?_eq_some_iff]

/-- A character with which a skipped span may start. -/
def opensSpan (c : Char) : Bool :=
  c == '\'' || c == '"' || c == '-' || c == '/' || c == '$'

theorem opensSpan_of_skippedAfter? {before rest : List Char} {c : Char} {k : Nat}
    (h : skippedAfter? before c rest = some k) : opensSpan c = true := by
  rcases skippedAfter?_eq_some_iff.mp h with
    ⟨rfl, _⟩ | ⟨rfl, _⟩ | ⟨rfl, _⟩ | ⟨rfl, _⟩ | ⟨_, rfl, _⟩ <;>
    rfl

theorem skippedAfter?_eq_none {before rest : List Char} {c : Char} (h : opensSpan c = false) :
    skippedAfter? before c rest = none := by
  rw [Option.eq_none_iff_forall_ne_some]
  intro k hskip
  rw [opensSpan_of_skippedAfter? hskip] at h
  cases h

theorem opensSpan_of_isNameChar {c : Char} (h : isNameChar c = true) : opensSpan c = false := by
  rw [Bool.eq_false_iff]
  intro hopens
  simp only [opensSpan, Bool.or_eq_true, beq_iff_eq] at hopens
  rcases hopens with (((rfl | rfl) | rfl) | rfl) | rfl <;> exact absurd h (by decide)

/-! ## Cutting the text short -/

theorem quotedLength_pos (quote : Char) (escapes : Bool) (c : Char) (rest : List Char) :
    0 < quotedLength quote escapes (c :: rest) := by
  cases rest with
  | nil => simp [quotedLength]
  | cons d rest =>
    rw [quotedLength]
    split
    · omega
    · split
      · split <;> omega
      · omega

/-- A quoted span in a text cut short is cut short with it. -/
theorem quotedLength_append (quote : Char) (escapes : Bool) (text after : List Char) :
    quotedLength quote escapes text =
      min text.length (quotedLength quote escapes (text ++ after)) := by
  fun_induction quotedLength quote escapes text with
  | case1 => simp
  | case2 c =>
    have hpos := quotedLength_pos quote escapes c after
    rw [List.singleton_append, List.length_singleton]
    omega
  | case3 c d rest h ih =>
    rw [List.cons_append, List.cons_append, quotedLength, if_pos h]
    simp only [List.length_cons]
    omega
  | case4 c d rest h hc hd ih =>
    rw [List.cons_append, List.cons_append, quotedLength, if_neg h, if_pos hc, if_pos hd]
    simp only [List.length_cons]
    omega
  | case5 c d rest h hc hd =>
    rw [List.cons_append, List.cons_append, quotedLength, if_neg h, if_pos hc, if_neg hd]
    simp only [List.length_cons]
    omega
  | case6 c d rest h hc ih =>
    rw [List.cons_append, List.cons_append, quotedLength, if_neg h, if_neg hc]
    simp only [List.length_cons, List.cons_append] at ih ⊢
    omega

theorem commentLength_pos (depth : Nat) (c : Char) (rest : List Char) :
    0 < commentLength depth (c :: rest) := by
  cases rest with
  | nil => simp [commentLength]
  | cons d rest =>
    rw [commentLength]
    split
    · omega
    · split
      · split <;> omega
      · omega

/-- A block comment in a text cut short is cut short with it. -/
theorem commentLength_append (depth : Nat) (text after : List Char) :
    commentLength depth text = min text.length (commentLength depth (text ++ after)) := by
  fun_induction commentLength depth text with
  | case1 => simp
  | case2 depth c =>
    have hpos := commentLength_pos depth c after
    rw [List.singleton_append, List.length_singleton]
    omega
  | case3 depth c d rest h ih =>
    rw [List.cons_append, List.cons_append, commentLength, if_pos h]
    simp only [List.length_cons]
    omega
  | case4 depth c d rest h hc hd =>
    rw [List.cons_append, List.cons_append, commentLength, if_neg h, if_pos hc, if_pos hd]
    simp only [List.length_cons]
    omega
  | case5 depth c d rest h hc hd ih =>
    rw [List.cons_append, List.cons_append, commentLength, if_neg h, if_pos hc, if_neg hd]
    simp only [List.length_cons]
    omega
  | case6 depth c d rest h hc ih =>
    rw [List.cons_append, List.cons_append, commentLength, if_neg h, if_neg hc]
    simp only [List.length_cons, List.cons_append] at ih ⊢
    omega

/-- A line comment in a text cut short is cut short with it. -/
theorem takeWhile_length_append (p : Char → Bool) (text after : List Char) :
    (text.takeWhile p).length = min text.length ((text ++ after).takeWhile p).length := by
  induction text with
  | nil => simp
  | cons c rest ih =>
    rw [List.cons_append, List.takeWhile_cons, List.takeWhile_cons]
    split
    · simp only [List.length_cons]
      omega
    · simp

/-- A tag that is found lies inside the text. -/
theorem lengthBefore?_add_le {tag text : List Char} {n : Nat}
    (h : lengthBefore? tag text = some n) : n + tag.length ≤ text.length := by
  induction text generalizing n with
  | nil =>
    rw [lengthBefore?] at h
    split at h
    · rename_i hempty
      simp only [List.isEmpty_iff] at hempty
      cases h
      simp [hempty]
    · cases h
  | cons c rest ih =>
    rw [lengthBefore?] at h
    split at h
    · rename_i hprefix
      cases h
      have hlength := (List.isPrefixOf_iff_prefix.mp hprefix).length_le
      omega
    · obtain ⟨m, hm, rfl⟩ := Option.map_eq_some_iff.mp h
      have hle := ih hm
      rw [List.length_cons]
      omega

/-- Whether a tag occurs in the first part of a text does not depend on the second. -/
theorem lengthBefore?_append_iff {tag text after : List Char} {n : Nat} :
    lengthBefore? tag text = some n ↔
      lengthBefore? tag (text ++ after) = some n ∧ n + tag.length ≤ text.length := by
  induction text generalizing n with
  | nil =>
    constructor
    · intro h
      have hle := lengthBefore?_add_le h
      simp only [List.length_nil, Nat.le_zero, Nat.add_eq_zero_iff, List.length_eq_zero_iff] at hle
      obtain ⟨rfl, rfl⟩ := hle
      cases after <;> simp [lengthBefore?]
    · rintro ⟨_, hle⟩
      simp only [List.length_nil, Nat.le_zero, Nat.add_eq_zero_iff, List.length_eq_zero_iff] at hle
      obtain ⟨rfl, rfl⟩ := hle
      rfl
  | cons c rest ih =>
    have hcut : tag.isPrefixOf (c :: rest) = true ↔
        tag.isPrefixOf (c :: rest ++ after) = true ∧ tag.length ≤ (c :: rest).length := by
      simp only [List.isPrefixOf_iff_prefix]
      constructor
      · exact fun h => ⟨h.trans (List.prefix_append _ _), h.length_le⟩
      · exact fun h => List.prefix_of_prefix_length_le h.1 (List.prefix_append _ _) h.2
    by_cases hprefix : tag.isPrefixOf (c :: rest) = true
    · have hlong := hcut.mp hprefix
      rw [lengthBefore?, if_pos hprefix, List.cons_append, lengthBefore?, ← List.cons_append,
        if_pos hlong.1]
      constructor
      · intro h
        cases h
        exact ⟨rfl, by omega⟩
      · exact And.left
    · by_cases hlong : tag.isPrefixOf (c :: rest ++ after) = true
      · have hshort : (c :: rest).length < tag.length := by
          by_contra hle
          exact hprefix (hcut.mpr ⟨hlong, by omega⟩)
        constructor
        · intro h
          have hle := lengthBefore?_add_le h
          omega
        · rintro ⟨_, hle⟩
          omega
      · rw [lengthBefore?, if_neg hprefix, List.cons_append, lengthBefore?, ← List.cons_append,
          if_neg hlong]
        simp only [Option.map_eq_some_iff, ih, List.length_cons]
        constructor
        · rintro ⟨m, ⟨hm, hle⟩, rfl⟩
          exact ⟨⟨m, hm, rfl⟩, by omega⟩
        · rintro ⟨⟨m, hm, rfl⟩, hle⟩
          exact ⟨m, ⟨hm, by omega⟩, rfl⟩

/-- A dollar-quoted body in a text cut short behind its opening tag is cut short with it. -/
theorem dollarLength_append {tag text after : List Char} (htag : tag.length - 1 ≤ text.length) :
    dollarLength tag text = min text.length (dollarLength tag (text ++ after)) := by
  have hdrop : (text ++ after).drop (tag.length - 1) =
      text.drop (tag.length - 1) ++ after := List.drop_append_of_le_length htag
  have hlength : (text.drop (tag.length - 1)).length = text.length - (tag.length - 1) :=
    List.length_drop
  simp only [dollarLength, hdrop]
  cases hshort : lengthBefore? tag (text.drop (tag.length - 1)) with
  | some n =>
    have hlong : lengthBefore? tag (text.drop (tag.length - 1) ++ after) = some n :=
      (lengthBefore?_append_iff.mp hshort).1
    have hle := lengthBefore?_add_le hshort
    simp only [hlong]
    omega
  | none =>
    cases hlong : lengthBefore? tag (text.drop (tag.length - 1) ++ after) with
    | none =>
      simp only [List.length_append]
      omega
    | some n =>
      have hbeyond : ¬ n + tag.length ≤ (text.drop (tag.length - 1)).length := by
        intro hle
        rw [lengthBefore?_append_iff.mpr ⟨hlong, hle⟩] at hshort
        cases hshort
      simp only []
      omega

/-- A character that may go on with the first token of a skipped span. -/
def continuesOpening (c : Char) : Bool :=
  c == '-' || c == '*' || c == '$' || isNameChar c

/-- A text that does not go on with the first token of a skipped span. -/
def EndsOpening (after : List Char) : Prop :=
  ∀ c ∈ after.head?, continuesOpening c = false

theorem EndsOpening.endsName {rest : List Char} (h : EndsOpening rest) : EndsName rest := by
  intro c hc
  have hends := h c hc
  simp only [continuesOpening, Bool.or_eq_false_iff] at hends
  exact hends.2

/-- Cutting a text short outside the opening tags changes no tag. -/
theorem dollarTag?_append {text after : List Char} (hafter : EndsOpening after) :
    dollarTag? (text ++ after) = dollarTag? text := by
  ext tag
  simp only [dollarTag?_eq_some_iff]
  constructor
  · rintro ⟨name, back, hname, heq, rfl⟩
    rcases List.append_eq_append_iff.mp heq with ⟨more, rfl, rfl⟩ | ⟨found, rfl, hfound⟩
    · -- The tag would have to end in `after`.
      exfalso
      cases more with
      | nil => exact absurd (hafter '$' rfl) (by decide)
      | cons d more =>
        have hd : isNameChar d = true := by
          rcases hname with hnil | hname
          · simp at hnil
          · exact hname.isNameChar d (by simp)
        have hends := hafter d rfl
        simp [continuesOpening, hd] at hends
    · cases found with
      | nil =>
        rw [List.nil_append] at hfound
        subst hfound
        exact absurd (hafter '$' rfl) (by decide)
      | cons d found =>
        obtain ⟨rfl, rfl⟩ := List.cons.inj hfound
        exact ⟨name, found, hname, rfl, rfl⟩
  · rintro ⟨name, back, hname, rfl, rfl⟩
    exact ⟨name, back ++ after, hname, by simp, rfl⟩

/-- Cutting a text short outside the first token of a span cuts the span short. -/
theorem skippedAfter?_append {before : List Char} {c : Char} {text after : List Char}
    (hafter : EndsOpening after) :
    skippedAfter? before c text =
      (skippedAfter? before c (text ++ after)).map (min text.length) := by
  have hhead : ∀ d, continuesOpening d = true →
      ((text ++ after).head? == some d) = (text.head? == some d) := by
    intro d hd
    cases text with
    | cons => rfl
    | nil =>
      cases after with
      | nil => rfl
      | cons e after =>
        have hends := hafter e rfl
        have hne : e ≠ d := by rintro rfl; simp [hd] at hends
        simp [hne]
  unfold skippedAfter?
  rw [hhead '-' (by decide), hhead '*' (by decide), dollarTag?_append hafter]
  split
  · rw [Option.map_some, ← quotedLength_append]
  split
  · rw [Option.map_some, ← quotedLength_append]
  split
  · rw [Option.map_some, ← takeWhile_length_append]
  split
  · rename_i hstar
    simp only [Bool.and_eq_true, beq_iff_eq] at hstar
    cases text with
    | nil => simp at hstar
    | cons d rest =>
      rw [Option.map_some, List.cons_append, List.tail_cons, List.tail_cons, List.length_cons,
        commentLength_append 1 rest after]
      congr 1
      omega
  split
  · cases htag : dollarTag? text with
    | none => rfl
    | some tag =>
      obtain ⟨name, back, _, rfl, rfl⟩ := dollarTag?_eq_some_iff.mp htag
      rw [Option.map_some, Option.map_some, Option.map_some, ← dollarLength_append]
      simp
  · rfl

/-- A skipped span stays inside the text. -/
theorem skippedAfter?_le {before : List Char} {c : Char} {text : List Char} {k : Nat}
    (h : skippedAfter? before c text = some k) : k ≤ text.length := by
  have hends : EndsOpening [] := by simp [EndsOpening]
  have hcut : skippedAfter? before c text = _ := skippedAfter?_append hends
  rw [List.append_nil, h, Option.map_some, Option.some.injEq] at hcut
  omega

/-! ## Going on otherwise -/

/-- A quoted span ends at the same place when the text after it goes on otherwise, as long as no
quote comes to stand right behind the span. -/
theorem quotedLength_replace {quote : Char} {escapes : Bool} {text after after' : List Char}
    (hnil : after = [] → after' = [])
    (hquote : after'.head? = some quote → after.head? = some quote)
    (h : quotedLength quote escapes (text ++ after) = text.length) :
    quotedLength quote escapes (text ++ after') = text.length := by
  fun_induction quotedLength quote escapes text with
  | case1 =>
    cases after with
    | nil => rw [hnil rfl]; rfl
    | cons d after =>
      have hpos := quotedLength_pos quote escapes d after
      rw [List.nil_append, List.length_nil] at h
      omega
  | case2 c =>
    cases after with
    | nil => rw [hnil rfl]; rfl
    | cons d after =>
      have hpos := quotedLength_pos quote escapes d after
      simp only [List.singleton_append, quotedLength, List.length_singleton] at h ⊢
      split at h
      · omega
      · rename_i hescape
        split at h
        · rename_i hc
          split at h
          · omega
          · rename_i hd
            cases after' with
            | nil => rfl
            | cons d' after' =>
              have hd' : ¬ (d' == quote) = true := by
                simp only [beq_iff_eq] at hd ⊢
                rintro rfl
                exact hd (Option.some.inj (hquote rfl))
              rw [quotedLength, if_neg hescape, if_pos hc, if_neg hd']
        · omega
  | case3 c d rest hescape ih =>
    simp only [List.cons_append, quotedLength, if_pos hescape, List.length_cons] at h ⊢
    have hrest := ih (by omega)
    omega
  | case4 c d rest hescape hc hd ih =>
    simp only [List.cons_append, quotedLength, if_neg hescape, if_pos hc, if_pos hd,
      List.length_cons] at h ⊢
    have hrest := ih (by omega)
    omega
  | case5 c d rest hescape hc hd =>
    simp only [List.cons_append, quotedLength, if_neg hescape, if_pos hc, if_neg hd,
      List.length_cons] at h ⊢
    omega
  | case6 c d rest hescape hc ih =>
    simp only [List.cons_append, quotedLength, if_neg hescape, if_neg hc,
      List.length_cons] at h ih ⊢
    have hrest := ih (by omega)
    omega

/-- A block comment ends at the same place when the text after it goes on otherwise. -/
theorem commentLength_replace {depth : Nat} {text after after' : List Char}
    (hnil : after = [] → after' = []) (h : commentLength depth (text ++ after) = text.length) :
    commentLength depth (text ++ after') = text.length := by
  fun_induction commentLength depth text with
  | case1 depth =>
    cases after with
    | nil => rw [hnil rfl]; rfl
    | cons d after =>
      have hpos := commentLength_pos depth d after
      rw [List.nil_append, List.length_nil] at h
      omega
  | case2 depth c =>
    cases after with
    | nil => rw [hnil rfl]; rfl
    | cons d after =>
      have hpos := commentLength_pos depth d after
      simp only [List.singleton_append, commentLength, List.length_singleton] at h
      split at h
      · omega
      · split at h
        · split at h <;> omega
        · omega
  | case3 depth c d rest hc ih =>
    simp only [List.cons_append, commentLength, if_pos hc, List.length_cons] at h ⊢
    have hrest := ih (by omega)
    omega
  | case4 depth c d rest hc hd hdepth =>
    simp only [List.cons_append, commentLength, if_neg hc, if_pos hd, if_pos hdepth,
      List.length_cons] at h ⊢
    omega
  | case5 depth c d rest hc hd hdepth ih =>
    simp only [List.cons_append, commentLength, if_neg hc, if_pos hd, if_neg hdepth,
      List.length_cons] at h ⊢
    have hrest := ih (by omega)
    omega
  | case6 depth c d rest hc hd ih =>
    simp only [List.cons_append, commentLength, if_neg hc, if_neg hd, List.length_cons] at h ih ⊢
    have hrest := ih (by omega)
    omega

/-- A line comment ends at the same place when the text after it still ends the line. -/
theorem takeWhile_length_replace {p : Char → Bool} {text after after' : List Char}
    (hends : (∃ c ∈ after.head?, p c = false) → ∀ c ∈ after'.head?, p c = false)
    (hnil : after = [] → after' = [])
    (h : ((text ++ after).takeWhile p).length = text.length) :
    ((text ++ after').takeWhile p).length = text.length := by
  induction text with
  | nil =>
    cases after with
    | nil => rw [hnil rfl]; rfl
    | cons d after =>
      have hd : p d = false := by
        rw [Bool.eq_false_iff]
        intro hd
        rw [List.nil_append, List.takeWhile_cons_of_pos hd] at h
        simp at h
      cases after' with
      | nil => rfl
      | cons d' after' =>
        have hd' := hends ⟨d, rfl, hd⟩ d' rfl
        rw [List.nil_append, List.takeWhile_cons_of_neg (by simp [hd'])]
  | cons c rest ih =>
    rw [List.cons_append, List.takeWhile_cons] at h ⊢
    split at h
    · rename_i hc
      rw [if_pos hc, List.length_cons, List.length_cons, ih (by simpa using h)]
    · simp at h

/-- A dollar-quoted body ends at the same place when the text after it goes on otherwise. -/
theorem dollarLength_replace {tag text after after' : List Char}
    (htag : tag.length - 1 ≤ text.length) (hnil : after = [] → after' = [])
    (h : dollarLength tag (text ++ after) = text.length) :
    dollarLength tag (text ++ after') = text.length := by
  have hlength : (text.drop (tag.length - 1)).length = text.length - (tag.length - 1) :=
    List.length_drop
  simp only [dollarLength, List.drop_append_of_le_length htag] at h ⊢
  cases hfound : lengthBefore? tag (text.drop (tag.length - 1) ++ after) with
  | some n =>
    simp only [hfound] at h
    have hinside : lengthBefore? tag (text.drop (tag.length - 1)) = some n :=
      lengthBefore?_append_iff.mpr ⟨hfound, by omega⟩
    have hfound' : lengthBefore? tag (text.drop (tag.length - 1) ++ after') = some n :=
      (lengthBefore?_append_iff.mp hinside).1
    simp only [hfound']
    exact h
  | none =>
    simp only [hfound, List.length_append] at h
    have hafter : after = [] := List.eq_nil_of_length_eq_zero (by omega)
    rw [hafter, List.append_nil] at hfound
    simp only [hnil hafter, List.append_nil, hfound]

/-- The first character of a text, a named placeholder counting like a numbered one. -/
def frontSign (text : List Char) : Option Char :=
  text.head?.map fun c => if c = '@' then '$' else c

theorem eq_nil_of_frontSign {text text' : List Char} (h : frontSign text = frontSign text') :
    text = [] → text' = [] := by
  rintro rfl
  simpa [frontSign] using h.symm

/-- Texts with one front sign start alike, unless they start with a placeholder. -/
theorem head?_of_frontSign {text text' : List Char} {c : Char}
    (h : frontSign text = frontSign text') (hname : c ≠ '@') (hnumber : c ≠ '$')
    (hc : text.head? = some c) : text'.head? = some c := by
  rw [frontSign, hc, Option.map_some, if_neg hname, frontSign, eq_comm, Option.map_eq_some_iff] at h
  obtain ⟨d, hd, heq⟩ := h
  split at heq
  · exact absurd heq.symm hnumber
  · rw [hd, heq]

theorem head?_append_of_frontSign (text : List Char) {after after' : List Char} {c : Char}
    (h : frontSign after = frontSign after') (hname : c ≠ '@') (hnumber : c ≠ '$') :
    (text ++ after).head? = some c ↔ (text ++ after').head? = some c := by
  cases text with
  | nil => exact ⟨head?_of_frontSign h hname hnumber, head?_of_frontSign h.symm hname hnumber⟩
  | cons d text => rfl

/-- A dollar-quoted span reaches behind its opening tag. -/
theorem le_dollarLength {name rest : List Char} {n : Nat}
    (h : dollarLength ('$' :: name ++ ['$']) (name ++ '$' :: rest) = n) : name.length + 1 ≤ n := by
  simp only [dollarLength] at h
  split at h <;> simp only [List.length_append, List.length_cons, List.length_nil] at h <;> omega

/-- A dollar-quoted span keeps its tag and its end when the text after it goes on otherwise. -/
theorem dollarTag?_replace {tag text after after' : List Char}
    (hnil : after = [] → after' = []) (htag : dollarTag? (text ++ after) = some tag)
    (hlength : dollarLength tag (text ++ after) = text.length) :
    dollarTag? (text ++ after') = some tag ∧ dollarLength tag (text ++ after') = text.length := by
  obtain ⟨name, back, hname, heq, rfl⟩ := dollarTag?_eq_some_iff.mp htag
  have hle : name.length + 1 ≤ text.length := le_dollarLength (heq ▸ hlength)
  have hopening : name ++ ['$'] <+: text := by
    refine List.prefix_of_prefix_length_le ?_ (List.prefix_append text after) (by simpa using hle)
    exact ⟨back, by simp [heq]⟩
  obtain ⟨body, rfl⟩ := hopening
  constructor
  · exact dollarTag?_eq_some_iff.mpr ⟨name, body ++ after', hname, by simp, rfl⟩
  · exact dollarLength_replace (by simp) hnil hlength

/-- A skipped span ends at the same place when the text after it goes on with the same sign. -/
theorem skippedAfter?_replace {before : List Char} {c : Char} {text after after' : List Char}
    (hsign : frontSign after = frontSign after')
    (h : skippedAfter? before c (text ++ after) = some text.length) :
    skippedAfter? before c (text ++ after') = some text.length := by
  have hnil := eq_nil_of_frontSign hsign
  have hquoted {quote : Char} {escapes : Bool} (hname : quote ≠ '@') (hnumber : quote ≠ '$')
      (h : quotedLength quote escapes (text ++ after) = text.length) :
      quotedLength quote escapes (text ++ after') = text.length :=
    quotedLength_replace hnil (head?_of_frontSign hsign.symm hname hnumber) h
  rw [skippedAfter?_eq_some_iff] at h ⊢
  cases h with
  | literal hc hk => exact .literal hc (hquoted (by decide) (by decide) hk)
  | identifier hc hk => exact .identifier hc (hquoted (by decide) (by decide) hk)
  | line hc hnext hk =>
    have hends : (∃ d ∈ after.head?, (d != '\n') = false) →
        ∀ d ∈ after'.head?, (d != '\n') = false := by
      rintro ⟨d, hd, hnewline⟩ d' hd'
      obtain rfl : d = '\n' := by simpa using hnewline
      have hsame := head?_of_frontSign hsign (by decide) (by decide) hd
      obtain rfl : d' = '\n' := Option.some.inj (hd'.symm.trans hsame)
      rfl
    refine .line hc ?_ (takeWhile_length_replace hends hnil hk)
    exact (head?_append_of_frontSign text hsign (by decide) (by decide)).mp hnext
  | block hc hnext hk =>
    refine .block hc ((head?_append_of_frontSign text hsign (by decide) (by decide)).mp hnext) ?_
    cases text with
    | nil =>
      rw [List.length_nil] at hk
      omega
    | cons d rest =>
      simp only [List.cons_append, List.tail_cons, List.length_cons] at hk ⊢
      rw [commentLength_replace hnil (by omega)]
      omega
  | dollar tag hc hbefore htag hk =>
    obtain ⟨htag', hk'⟩ := dollarTag?_replace hnil htag hk
    exact .dollar tag hc hbefore htag' hk'

end QueryAudit.Query
