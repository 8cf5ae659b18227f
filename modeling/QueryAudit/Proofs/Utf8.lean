import QueryAudit.Text.Surrogate
import QueryAudit.Text.Utf8

/-!
# Reading what UTF-8 writes

The reader of UTF-8 keeps the character under way as a partial one. Which octets complete it, and to
which character, is said by a relation; the first octet of a character and the octets that complete
what it starts are the octets that the writer writes. So the strict reader accepts the octets of
texts and no others, and it reads the text back.
-/

namespace QueryAudit.Text

variable {p : Partial} {octets front rest : Octets} {b n : Nat} {c : Char}

/-! ## Completing a character -/

/-- Octets that complete the character under way, and its number. -/
inductive Fills : Partial → Octets → Nat → Prop
  /-- One octet was owed. -/
  | last {p : Partial} {b n : Nat} (owed : p.owed = 1)
      (bounds : p.least ≤ b ∧ b ≤ p.greatest) (number : n = p.bits * 0x40 + (b - 0x80)) :
      Fills p [b] n
  /-- More were owed. -/
  | more {p : Partial} {b n : Nat} {front : Octets} (owed : p.owed ≠ 1)
      (bounds : p.least ≤ b ∧ b ≤ p.greatest)
      (next : Fills ⟨p.owed - 1, 0x80, 0xBF, p.bits * 0x40 + (b - 0x80), p.read + 1⟩ front n) :
      Fills p (b :: front) n

/-- The reader completes a character and goes on behind it. -/
theorem Fills.utf8Pieces (h : Fills p front n) (rest : Octets) :
    utf8Pieces (some p) (front ++ rest) = .char (Char.ofNat n) :: utf8Pieces none rest := by
  induction h with
  | last owed bounds number =>
    rw [List.singleton_append, Text.utf8Pieces, if_pos bounds]
    simp only [owed, ↓reduceIte, number]
  | more owed bounds next ih =>
    rw [List.cons_append, Text.utf8Pieces, if_pos bounds]
    simp only [owed, ↓reduceIte]
    exact ih

/-- When the reader goes on with a character, the octets at hand complete it. -/
theorem exists_fills {pieces : List Utf8Piece}
    (h : utf8Pieces (some p) octets = .char c :: pieces) :
    ∃ front rest n, octets = front ++ rest ∧ Fills p front n ∧ c = Char.ofNat n ∧
      utf8Pieces none rest = pieces := by
  induction octets generalizing p with
  | nil =>
    rw [utf8Pieces] at h
    cases h
  | cons b octets ih =>
    rw [utf8Pieces] at h
    split at h
    · rename_i bounds
      simp only [] at h
      split at h
      · rename_i owed
        obtain ⟨hchar, hrest⟩ := List.cons.inj h
        exact ⟨[b], octets, _, rfl, .last owed bounds rfl, (Utf8Piece.char.inj hchar).symm, hrest⟩
      · rename_i owed
        obtain ⟨front, rest, n, rfl, hfills, hchar, hrest⟩ := ih h
        exact ⟨b :: front, rest, n, rfl, .more owed bounds hfills, hchar, hrest⟩
    · obtain ⟨hinvalid, _⟩ := List.cons.inj h
      cases hinvalid

/-! ## The first octet -/

/-- What the first octet of two, three or four starts. -/
theorem startOctet_eq_partly_iff : startOctet b = .partly p ↔
    0xC2 ≤ b ∧ b ≤ 0xDF ∧ p = ⟨1, 0x80, 0xBF, b - 0xC0, 1⟩ ∨
    0xE0 ≤ b ∧ b ≤ 0xEF ∧ p = ⟨2, if b = 0xE0 then 0xA0 else 0x80,
      if b = 0xED then 0x9F else 0xBF, b - 0xE0, 1⟩ ∨
    0xF0 ≤ b ∧ b ≤ 0xF4 ∧ p = ⟨3, if b = 0xF0 then 0x90 else 0x80,
      if b = 0xF4 then 0x8F else 0xBF, b - 0xF0, 1⟩ := by
  unfold startOctet
  grind

theorem startOctet_eq_whole_iff : startOctet b = .whole c ↔ b ≤ 0x7F ∧ c = Char.ofNat b := by
  unfold startOctet
  grind

/-! ## What the writer writes -/

theorem fills_one_iff {least greatest bits read : Nat} :
    Fills ⟨1, least, greatest, bits, read⟩ front n ↔
      ∃ b, front = [b] ∧ (least ≤ b ∧ b ≤ greatest) ∧ n = bits * 0x40 + (b - 0x80) := by
  constructor
  · intro h
    cases h with
    | last _ bounds number => exact ⟨_, rfl, bounds, number⟩
    | more owed => exact absurd rfl owed
  · rintro ⟨b, rfl, bounds, number⟩
    exact .last rfl bounds number

theorem fills_more_iff {owed least greatest bits read : Nat} :
    Fills ⟨owed + 2, least, greatest, bits, read⟩ front n ↔
      ∃ b rest, front = b :: rest ∧ (least ≤ b ∧ b ≤ greatest) ∧
        Fills ⟨owed + 1, 0x80, 0xBF, bits * 0x40 + (b - 0x80), read + 1⟩ rest n := by
  constructor
  · intro h
    cases h with
    | last done => simp at done
    | more _ bounds next => exact ⟨_, _, rfl, bounds, next⟩
  · rintro ⟨b, rest, rfl, bounds, next⟩
    exact .more (by simp) bounds next

/-- The bounds of a second octet are narrower behind two of the first octets. -/
theorem bounds_iff {second first least last greatest : Nat} (hleast : 0x80 ≤ least)
    (hgreatest : greatest ≤ 0xBF) :
    ((if b = first then least else 0x80) ≤ second ∧
        second ≤ if b = last then greatest else 0xBF) ↔
      0x80 ≤ second ∧ second ≤ 0xBF ∧ (b = first → least ≤ second) ∧
        (b = last → second ≤ greatest) := by
  split <;> split <;> omega

/-- The octets of a character of the given number. -/
theorem utf8Char_ofNat (h : n.isValidChar) : utf8Char (Char.ofNat n) =
    if n < 0x80 then [n]
    else if n < 0x800 then [0xC0 + n / 0x40, 0x80 + n % 0x40]
    else if n < 0x10000 then [0xE0 + n / 0x1000, 0x80 + n / 0x40 % 0x40, 0x80 + n % 0x40]
    else [0xF0 + n / 0x40000, 0x80 + n / 0x1000 % 0x40, 0x80 + n / 0x40 % 0x40,
      0x80 + n % 0x40] := by
  simp only [utf8Char, toNat_ofNat_of_isValidChar h]

/-- A first octet and the octets that complete what it starts are those of a character. -/
theorem utf8Char_of_fills (hstart : startOctet b = .partly p) (h : Fills p front n) :
    utf8Char (Char.ofNat n) = b :: front := by
  rcases startOctet_eq_partly_iff.mp hstart with ⟨hlow, hhigh, rfl⟩ | ⟨hlow, hhigh, rfl⟩ |
    ⟨hlow, hhigh, rfl⟩
  · obtain ⟨second, rfl, hsecond, hn⟩ := fills_one_iff.mp h
    have hvalid : n.isValidChar := by
      unfold Nat.isValidChar
      omega
    rw [utf8Char_ofNat hvalid, if_neg (by omega), if_pos (by omega)]
    simp only [List.cons.injEq, and_true]
    omega
  · obtain ⟨second, rest, rfl, hsecond, hrest⟩ := fills_more_iff.mp h
    obtain ⟨third, rfl, hthird, hn⟩ := fills_one_iff.mp hrest
    rw [bounds_iff (by omega) (by omega)] at hsecond
    have hvalid : n.isValidChar := by
      unfold Nat.isValidChar
      omega
    rw [utf8Char_ofNat hvalid, if_neg (by omega), if_neg (by omega), if_pos (by omega)]
    simp only [List.cons.injEq, and_true]
    omega
  · obtain ⟨second, rest, rfl, hsecond, hrest⟩ := fills_more_iff.mp h
    obtain ⟨third, rest, rfl, hthird, hrest⟩ := fills_more_iff.mp hrest
    obtain ⟨fourth, rfl, hfourth, hn⟩ := fills_one_iff.mp hrest
    rw [bounds_iff (by omega) (by omega)] at hsecond
    have hvalid : n.isValidChar := by
      unfold Nat.isValidChar
      omega
    rw [utf8Char_ofNat hvalid, if_neg (by omega), if_neg (by omega), if_neg (by omega)]
    simp only [List.cons.injEq, and_true]
    omega

/-- The octets of a character are one, or a first octet and the octets that complete what it
starts. -/
theorem utf8Char_cases (c : Char) :
    (∃ b, utf8Char c = [b] ∧ startOctet b = .whole c) ∨
      ∃ b p front, utf8Char c = b :: front ∧ startOctet b = .partly p ∧ Fills p front c.toNat := by
  have hvalid : c.toNat.isValidChar := c.valid
  rw [← Char.ofNat_toNat c, utf8Char_ofNat hvalid]
  generalize c.toNat = n at hvalid
  rw [toNat_ofNat_of_isValidChar hvalid]
  unfold Nat.isValidChar at hvalid
  by_cases hone : n < 0x80
  · refine Or.inl ⟨n, if_pos hone, startOctet_eq_whole_iff.mpr ⟨by omega, rfl⟩⟩
  · right
    rw [if_neg hone]
    by_cases htwo : n < 0x800
    · rw [if_pos htwo]
      refine ⟨_, _, _, rfl, startOctet_eq_partly_iff.mpr (Or.inl ⟨?_, ?_, rfl⟩),
        fills_one_iff.mpr ⟨_, rfl, ⟨?_, ?_⟩, ?_⟩⟩ <;> omega
    · rw [if_neg htwo]
      by_cases hthree : n < 0x10000
      · rw [if_pos hthree]
        refine ⟨_, _, _, rfl, startOctet_eq_partly_iff.mpr (Or.inr (Or.inl ⟨?_, ?_, rfl⟩)),
          fills_more_iff.mpr ⟨_, _, rfl, (bounds_iff (by omega) (by omega)).mpr ?_,
            fills_one_iff.mpr ⟨_, rfl, ⟨?_, ?_⟩, ?_⟩⟩⟩ <;> omega
      · rw [if_neg hthree]
        refine ⟨_, _, _, rfl, startOctet_eq_partly_iff.mpr (Or.inr (Or.inr ⟨?_, ?_, rfl⟩)),
          fills_more_iff.mpr ⟨_, _, rfl, (bounds_iff (by omega) (by omega)).mpr ?_,
            fills_more_iff.mpr ⟨_, _, rfl, ⟨?_, ?_⟩,
              fills_one_iff.mpr ⟨_, rfl, ⟨?_, ?_⟩, ?_⟩⟩⟩⟩ <;> omega

/-! ## Whole texts -/

/-- The pieces of a character and of what follows it. -/
theorem utf8Pieces_utf8Char (c : Char) (rest : Octets) :
    utf8Pieces none (utf8Char c ++ rest) = .char c :: utf8Pieces none rest := by
  rcases utf8Char_cases c with ⟨b, hoctets, hstart⟩ | ⟨b, p, front, hoctets, hstart, hfills⟩
  · rw [hoctets, List.singleton_append, utf8Pieces, hstart]
  · rw [hoctets, List.cons_append, utf8Pieces, hstart]
    simp only [hfills.utf8Pieces rest, Char.ofNat_toNat]

/-- When a character is read first, its octets stand first. -/
theorem exists_utf8Char {pieces : List Utf8Piece} (h : utf8Pieces none octets = .char c :: pieces) :
    ∃ rest, octets = utf8Char c ++ rest ∧ utf8Pieces none rest = pieces := by
  cases octets with
  | nil =>
    rw [utf8Pieces] at h
    cases h
  | cons b rest =>
    rw [utf8Pieces] at h
    cases hstart : startOctet b with
    | whole first =>
      rw [hstart] at h
      obtain ⟨hfirst, hrest⟩ := List.cons.inj h
      obtain rfl := Utf8Piece.char.inj hfirst
      obtain ⟨hb, rfl⟩ := startOctet_eq_whole_iff.mp hstart
      have hvalid : b.isValidChar := Or.inl (by omega)
      refine ⟨rest, ?_, hrest⟩
      rw [utf8Char_ofNat hvalid, if_pos (by omega), List.singleton_append]
    | partly p =>
      rw [hstart] at h
      obtain ⟨front, rest, n, rfl, hfills, rfl, hrest⟩ := exists_fills h
      refine ⟨rest, ?_, hrest⟩
      rw [utf8Char_of_fills hstart hfills, List.cons_append]
    | invalid =>
      rw [hstart] at h
      obtain ⟨hinvalid, _⟩ := List.cons.inj h
      cases hinvalid

/-- Inside a character some piece is to come. -/
theorem utf8Pieces_some_ne_nil : utf8Pieces (some p) octets ≠ [] := by
  induction octets generalizing p with
  | nil => simp [utf8Pieces]
  | cons b rest ih =>
    rw [utf8Pieces]
    split
    · simp only []
      split
      · simp
      · exact ih
    · simp

/-- Octets are cut into the characters of a text and nothing else when they are those of the
text. -/
theorem utf8Pieces_eq_map_char_iff {text : List Char} :
    utf8Pieces none octets = text.map .char ↔ octets = utf8 text := by
  constructor
  · intro h
    induction text generalizing octets with
    | nil =>
      cases octets with
      | nil => rfl
      | cons b rest =>
        rw [utf8Pieces] at h
        split at h
        · cases h
        · exact absurd h utf8Pieces_some_ne_nil
        · cases h
    | cons c text ih =>
      obtain ⟨rest, rfl, hrest⟩ := exists_utf8Char h
      rw [ih hrest, utf8, utf8, List.flatMap_cons]
  · rintro rfl
    induction text with
    | nil => rfl
    | cons c text ih => rw [utf8, List.flatMap_cons, utf8Pieces_utf8Char, ← utf8, ih, List.map_cons]

/-- Reading strictly succeeds when all pieces are characters. -/
theorem strictPieces_eq_ok_iff {passed : Nat} {pieces : List Utf8Piece} {text : List Char} :
    strictPieces octets passed pieces = .ok text ↔ pieces = text.map .char := by
  induction pieces generalizing passed text with
  | nil =>
    rw [strictPieces]
    cases text <;> simp
  | cons piece rest ih =>
    cases piece with
    | char c =>
      rw [strictPieces]
      constructor
      · intro h
        cases hrest : strictPieces octets (passed + (utf8Char c).length) rest with
        | error error =>
          rw [hrest] at h
          cases h
        | ok more =>
          rw [hrest] at h
          rw [← Except.ok.inj h, List.map_cons, ih.mp hrest]
      · intro h
        obtain ⟨first, more, rfl, hfirst, hmore⟩ := List.map_eq_cons_iff.mp h.symm
        rw [ih.mpr hmore.symm, ← Utf8Piece.char.inj hfirst]
        rfl
    | invalid length fault =>
      rw [strictPieces]
      cases text <;> simp

/-- The strict reader accepts the octets of texts and no others, and reads the text back. -/
theorem utf8Strict_eq_ok_iff {text : List Char} :
    utf8Strict octets = .ok text ↔ octets = utf8 text := by
  rw [utf8Strict, strictPieces_eq_ok_iff, utf8Pieces_eq_map_char_iff]

end QueryAudit.Text
