import QueryAudit.Connection.Uri
import QueryAudit.Proofs.LetterCase
import QueryAudit.Proofs.Query.Positionals
import QueryAudit.Proofs.Utf8
import Mathlib.Data.List.TakeDrop

/-!
# Splitting a URI into what it was made of

A URI is written from a user, a password, a host, a port and a database, with percent escapes for
the characters that are signs of a URI. Splitting it finds the parts at their places, whatever the
texts hold. The escapes of the user and of the password are undone, those of the database are not:
the database comes back exactly when its name needs no escape.
-/

namespace QueryAudit.Connection

/-! ## Percent escapes -/

/-- A character that stands for itself in every part of a URI. -/
def isUnreserved (c : Char) : Bool :=
  isAsciiLetter c || Text.isDigit c || c == '-' || c == '.' || c == '_' || c == '~'

/-- The hexadecimal digit of a number below sixteen. -/
def hexDigit (n : Nat) : Char :=
  (Nat.digitChar n).toUpper

/-- An octet as a percent sign and two digits. -/
def escapeOctet (b : Nat) : List Char :=
  ['%', hexDigit (b / 16), hexDigit (b % 16)]

/-- A text in which every other character is written as the escapes of its octets. -/
def escape (s : List Char) : List Char :=
  s.flatMap fun c => if isUnreserved c then [c] else (Text.utf8Char c).flatMap escapeOctet

theorem hexValue?_hexDigit {n : Nat} (h : n < 16) : hexValue? (hexDigit n) = some n := by
  have hall : ∀ n < 16, hexValue? (hexDigit n) = some n := by decide
  exact hall n h

/-- An escape is read as its octet. -/
theorem escapedOctets_escapeOctet {b : Nat} (h : b < 256) (rest : List Char) :
    escapedOctets (escapeOctet b ++ rest) = b :: escapedOctets rest := by
  have hoctet : b / 16 * 16 + b % 16 = b := by omega
  simp only [escapeOctet, List.cons_append, List.nil_append, escapedOctets,
    hexValue?_hexDigit (show b / 16 < 16 by omega), hexValue?_hexDigit (show b % 16 < 16 by omega),
    hoctet]

/-- The octets of a character are octets. -/
theorem lt_of_mem_utf8Char {c : Char} {b : Nat} (h : b ∈ Text.utf8Char c) : b < 256 := by
  have hvalid : c.toNat.isValidChar := c.valid
  unfold Nat.isValidChar at hvalid
  simp only [Text.utf8Char] at h
  split at h
  · simp only [List.mem_singleton] at h
    omega
  split at h
  · simp only [List.mem_cons, List.not_mem_nil, or_false] at h
    omega
  split at h
  · simp only [List.mem_cons, List.not_mem_nil, or_false] at h
    omega
  · simp only [List.mem_cons, List.not_mem_nil, or_false] at h
    omega

theorem escapedOctets_escapeOctets {octets : Text.Octets} (h : ∀ b ∈ octets, b < 256)
    (rest : List Char) :
    escapedOctets (octets.flatMap escapeOctet ++ rest) = octets ++ escapedOctets rest := by
  induction octets with
  | nil => rfl
  | cons b octets ih =>
    obtain ⟨hb, hoctets⟩ := List.forall_mem_cons.mp h
    rw [List.flatMap_cons, List.append_assoc, escapedOctets_escapeOctet hb, ih hoctets,
      List.cons_append]

/-- A character that is no percent sign is read as itself. -/
theorem escapedOctets_cons {c : Char} (h : c ≠ '%') (rest : List Char) :
    escapedOctets (c :: rest) = Text.utf8Char c ++ escapedOctets rest := by
  rw [escapedOctets]
  rintro d e more rfl
  exact absurd rfl h

theorem escapedOctets_escape (s : List Char) : escapedOctets (escape s) = Text.utf8 s := by
  induction s with
  | nil => rfl
  | cons c s ih =>
    rw [escape, List.flatMap_cons, ← escape, Text.utf8, List.flatMap_cons, ← Text.utf8, ← ih]
    split
    · rename_i hc
      have hpercent : c ≠ '%' := by
        rintro rfl
        exact absurd hc (by decide)
      rw [List.singleton_append, escapedOctets_cons hpercent]
    · exact escapedOctets_escapeOctets (fun b hb => lt_of_mem_utf8Char hb) _

/-- Undoing the escapes of a text gives the text. -/
theorem unescape_escape (s : List Char) : unescape (escape s) = s := by
  rw [unescape, escapedOctets_escape, Text.utf8Lenient, Text.utf8Pieces_eq_map_char_iff.mpr rfl,
    List.map_map]
  exact List.map_id _

theorem utf8Char_ne_nil (c : Char) : Text.utf8Char c ≠ [] := by
  simp only [Text.utf8Char]
  split
  · simp
  split
  · simp
  split <;> simp

/-- An escaped character takes three places or more. -/
theorem three_le_length_escapeOctets {octets : Text.Octets} (h : octets ≠ []) :
    3 ≤ (octets.flatMap escapeOctet).length := by
  obtain ⟨b, octets, rfl⟩ := List.exists_cons_of_ne_nil h
  simp [escapeOctet]

theorem length_le_length_escape (s : List Char) : s.length ≤ (escape s).length := by
  induction s with
  | nil => exact Nat.le_refl _
  | cons c s ih =>
    rw [escape, List.flatMap_cons, ← escape, List.length_append, List.length_cons]
    split
    · rw [List.length_singleton]
      omega
    · have hthree := three_le_length_escapeOctets (utf8Char_ne_nil c)
      omega

/-- A text is its own escape when it has no character to escape. -/
theorem escape_eq_self_iff {s : List Char} : escape s = s ↔ ∀ c ∈ s, isUnreserved c = true := by
  induction s with
  | nil => simp [escape]
  | cons c s ih =>
    rw [escape, List.flatMap_cons, ← escape, List.forall_mem_cons, ← ih]
    by_cases hc : isUnreserved c = true
    · simp [hc]
    · rw [if_neg hc, iff_false_right (fun h => hc h.1)]
      intro heq
      have hlength := congrArg List.length heq
      have hthree := three_le_length_escapeOctets (utf8Char_ne_nil c)
      have hle := length_le_length_escape s
      rw [List.length_append, List.length_cons] at hlength
      omega

theorem escape_ne_nil {s : List Char} (h : s ≠ []) : escape s ≠ [] := by
  have hle := length_le_length_escape s
  have hpos := List.length_pos_iff.mpr h
  exact List.length_pos_iff.mp (by omega)

/-! ## The signs of a URI -/

/-- A character that ends a part of a URI, is dropped from it, or may be mistaken for one that ends
a part. -/
def isSign (c : Char) : Bool :=
  ['/', '?', '#', '@', ':', '[', ']', '\t', '\n', '\r'].contains c ||
    deceptiveChars.contains c.toNat

/-- A text without the signs of a URI. -/
def SignFree (s : List Char) : Prop :=
  ∀ c ∈ s, isSign c = false

instance : DecidablePred SignFree := fun s =>
  List.decidableBAll (fun c => isSign c = false) s

theorem SignFree.not_mem {s : List Char} (h : SignFree s) {sign : Char}
    (hsign : isSign sign = true) : sign ∉ s := by
  intro hmem
  rw [h sign hmem] at hsign
  cases hsign

theorem toNat_lt_of_isUnreserved {c : Char} (h : isUnreserved c = true) : c.toNat < 0x80 := by
  have hz : 'z'.toNat = 122 := rfl
  have hZ : 'Z'.toNat = 90 := rfl
  have hnine : '9'.toNat = 57 := rfl
  simp only [isUnreserved, isAsciiLetter, Text.isDigit, Bool.or_eq_true, decide_eq_true_eq,
    beq_iff_eq, Char.le_def, UInt32.le_iff_toNat_le] at h
  rcases h with (((((⟨_, h⟩ | ⟨_, h⟩) | ⟨_, h⟩) | rfl) | rfl) | rfl) | rfl
  · exact Nat.lt_of_le_of_lt h (by decide)
  · exact Nat.lt_of_le_of_lt h (by decide)
  · exact Nat.lt_of_le_of_lt h (by decide)
  all_goals decide

/-- No sign is unreserved, and the deceptive ones lie beyond ASCII. -/
theorem isSign_eq_false_of_isUnreserved {c : Char} (h : isUnreserved c = true) :
    isSign c = false := by
  have hsigns : (['/', '?', '#', '@', ':', '[', ']', '\t', '\n', '\r'].all fun sign =>
      !isUnreserved sign) = true := by decide
  have hbeyond : ∀ n ∈ deceptiveChars, 0x80 ≤ n := by decide
  have hascii := toNat_lt_of_isUnreserved h
  rw [Bool.eq_false_iff]
  intro hsign
  rcases Bool.or_eq_true_iff.mp hsign with hmem | hdeceptive
  · have hreserved := List.all_eq_true.mp hsigns c (List.contains_iff_mem.mp hmem)
    rw [h] at hreserved
    cases hreserved
  · have hle := hbeyond _ (List.contains_iff_mem.mp hdeceptive)
    omega

theorem signFree_escapeOctet {b : Nat} (h : b < 256) : SignFree (escapeOctet b) := by
  have hdigits : ∀ n < 16, isSign (hexDigit n) = false := by decide
  have hpercent : isSign '%' = false := by decide
  simp only [SignFree, escapeOctet, List.mem_cons, List.not_mem_nil, or_false, forall_eq_or_imp,
    forall_eq]
  exact ⟨hpercent, hdigits _ (by omega), hdigits _ (by omega)⟩

/-- Escaping leaves no sign. -/
theorem signFree_escape (s : List Char) : SignFree (escape s) := by
  intro d hd
  obtain ⟨c, _, hd⟩ := List.mem_flatMap.mp hd
  split at hd
  · rename_i hc
    rw [List.mem_singleton.mp hd]
    exact isSign_eq_false_of_isUnreserved hc
  · obtain ⟨b, hb, hd⟩ := List.mem_flatMap.mp hd
    exact signFree_escapeOctet (lt_of_mem_utf8Char hb) d hd

theorem signFree_numeral (n : Nat) : SignFree (Text.numeral n) := by
  intro d hd
  have hdigit : Text.isDigit d = true := Query.isDigit_of_mem_numeral hd
  exact isSign_eq_false_of_isUnreserved (by simp [isUnreserved, hdigit])

/-! ## What is written and how it is split -/

/-- A host name: a text in lower case that nothing in it ends. -/
structure IsHostName (host : List Char) : Prop where
  /-- There is a name. -/
  ne_nil : host ≠ []
  /-- The letters are in lower case. -/
  lower_eq : Text.lower host = host
  /-- No character is a sign of a URI. -/
  signFree : SignFree host

instance : DecidablePred IsHostName := fun host =>
  decidable_of_iff (host ≠ [] ∧ Text.lower host = host ∧ SignFree host)
    ⟨fun h => ⟨h.1, h.2.1, h.2.2⟩, fun h => ⟨h.ne_nil, h.lower_eq, h.signFree⟩⟩

/-- The user and the password, the host and the port. -/
def writeAuthority (user password host : List Char) (port : Nat) : List Char :=
  (escape user ++ ':' :: escape password) ++ '@' :: (host ++ ':' :: Text.numeral port)

/-- The scheme of a URI of a database. -/
def scheme : List Char :=
  ['p', 'o', 's', 't', 'g', 'r', 'e', 's', 'q', 'l']

/-- The characters of a URI of a database. -/
def uriChars (user password host : List Char) (port : Nat) (database : List Char) : List Char :=
  scheme ++ ':' :: '/' :: '/' ::
    (writeAuthority user password host port ++ '/' :: escape database)

/-- A URI of a database. -/
def writeUri (user password host : String) (port : Nat) (database : String) : String :=
  String.ofList (uriChars user.toList password.toList host.toList port database.toList)

section Splitting

variable {user password host database : List Char} {port : Nat}

/-- The only signs in the authority are those between its parts. -/
theorem sign_of_mem_writeAuthority (hhost : SignFree host) {c : Char}
    (hc : c ∈ writeAuthority user password host port) : isSign c = false ∨ c ∈ [':', '@'] := by
  have hfree {part : List Char} (hpart : SignFree part) (hc : c ∈ part) :
      isSign c = false ∨ c ∈ [':', '@'] := Or.inl (hpart c hc)
  rw [writeAuthority, List.mem_append, List.mem_append, List.mem_cons, List.mem_cons,
    List.mem_append, List.mem_cons] at hc
  rcases hc with (hc | rfl | hc) | rfl | hc | rfl | hc
  · exact hfree (signFree_escape user) hc
  · simp
  · exact hfree (signFree_escape password) hc
  · simp
  · exact hfree hhost hc
  · simp
  · exact hfree (signFree_numeral port) hc

theorem not_mem_writeAuthority (hhost : SignFree host) {sign : Char} (hsign : isSign sign = true)
    (hother : sign ∉ [':', '@']) : sign ∉ writeAuthority user password host port := by
  intro hmem
  rcases sign_of_mem_writeAuthority hhost hmem with hfree | hbetween
  · rw [hfree] at hsign
    cases hsign
  · exact hother hbetween

/-- Blanks and control characters stand neither in front nor inside. -/
theorem cleanUri_uriChars (hhost : SignFree host) :
    cleanUri (uriChars user password host port database) =
      uriChars user password host port database := by
  have hkept {s : List Char} (htab : '\t' ∉ s) (hfeed : '\n' ∉ s) (hreturn : '\r' ∉ s) :
      (s.filter fun c => c != '\t' && c != '\n' && c != '\r') = s := by
    refine List.filter_eq_self.mpr fun c hc => ?_
    have hne {sign : Char} (h : sign ∉ s) : (c != sign) = true :=
      bne_iff_ne.mpr fun heq => h (heq ▸ hc)
    rw [hne htab, hne hfeed, hne hreturn]
    rfl
  have hnot {sign : Char} (hsign : isSign sign = true) (hother : sign ∉ scheme ++ [':', '@', '/']) :
      sign ∉ uriChars user password host port database := by
    simp only [List.mem_append, List.mem_cons, List.not_mem_nil, or_false, not_or] at hother
    obtain ⟨hscheme, hcolon, hat, hslash⟩ := hother
    have hauthority : sign ∉ writeAuthority user password host port :=
      not_mem_writeAuthority hhost hsign (by simp [hcolon, hat])
    simp only [uriChars, List.mem_append, List.mem_cons, hscheme, hcolon, hslash, hauthority,
      (signFree_escape database).not_mem hsign, or_false, not_false_eq_true]
  have hfront (rest : List Char) :
      ((scheme ++ rest).dropWhile fun c => decide (c.toNat ≤ 0x20)) = scheme ++ rest := rfl
  rw [cleanUri, uriChars, hfront, ← uriChars]
  exact hkept (hnot (by decide) (by decide)) (hnot (by decide) (by decide))
    (hnot (by decide) (by decide))

theorem splitScheme_scheme (rest : List Char) :
    splitScheme (scheme ++ ':' :: rest) = (scheme, rest) := by
  have hcolon : ':' ∉ scheme := by decide
  rw [splitScheme, Text.cutFirst_append hcolon]
  rfl

/-- The authority ends where the path starts. -/
theorem splitAuthority_writeAuthority (hhost : SignFree host) (rest : List Char) :
    splitAuthority ('/' :: '/' :: (writeAuthority user password host port ++ '/' :: rest)) =
      (writeAuthority user password host port, '/' :: rest) := by
  have hinside : ∀ c ∈ writeAuthority user password host port,
      (c != '/' && c != '?' && c != '#') = true := by
    intro c hc
    have hne {sign : Char} (hsign : isSign sign = true) (hother : sign ∉ [':', '@']) :
        (c != sign) = true :=
      bne_iff_ne.mpr fun heq => not_mem_writeAuthority hhost hsign hother (heq ▸ hc)
    rw [hne (by decide) (by decide), hne (by decide) (by decide), hne (by decide) (by decide)]
    rfl
  rw [splitAuthority, List.span_eq_takeWhile_dropWhile, List.takeWhile_append_of_pos hinside,
    List.dropWhile_append_of_pos hinside, List.takeWhile_cons_of_neg (by decide),
    List.dropWhile_cons_of_neg (by decide), List.append_nil]

theorem checkBrackets_writeAuthority (hhost : SignFree host) :
    checkBrackets (writeAuthority user password host port) = .ok () := by
  have hnone {sign : Char} (hsign : isSign sign = true) (hother : sign ∉ [':', '@']) :
      (writeAuthority user password host port).contains sign = false := by
    simpa using not_mem_writeAuthority hhost hsign hother
  rw [checkBrackets, hnone (by decide) (by decide), hnone (by decide) (by decide)]

theorem checkDeception_writeAuthority (hhost : SignFree host) :
    checkDeception (writeAuthority user password host port) = .ok () := by
  have hnone : ((writeAuthority user password host port).any fun c =>
      deceptiveChars.contains c.toNat) = false := by
    refine List.any_eq_false.mpr fun c hc hdeceptive => ?_
    rcases sign_of_mem_writeAuthority hhost hc with hfree | hmem
    · exact absurd hdeceptive (Bool.not_eq_true _ ▸ (Bool.or_eq_false_iff.mp hfree).2)
    · simp only [List.mem_cons, List.not_mem_nil, or_false] at hmem
      rcases hmem with rfl | rfl
      · exact absurd hdeceptive (by decide)
      · exact absurd hdeceptive (by decide)
  rw [checkDeception, hnone, if_neg Bool.false_ne_true]

/-- The only sign in host and port is that between them. -/
theorem not_mem_hostAndPort (hhost : SignFree host) {sign : Char} (hsign : isSign sign = true)
    (hother : sign ≠ ':') : sign ∉ host ++ ':' :: Text.numeral port := by
  simp only [List.mem_append, List.mem_cons, not_or]
  exact ⟨hhost.not_mem hsign, hother, (signFree_numeral port).not_mem hsign⟩

/-- A host without signs ends at the colon. -/
theorem splitHost_append (hhost : SignFree host) :
    splitHost (host ++ ':' :: Text.numeral port) = (host, Text.numeral port) := by
  have hbracket : '[' ∉ host ++ ':' :: Text.numeral port :=
    not_mem_hostAndPort hhost (by decide) (by decide)
  rw [splitHost, Text.cutFirst_of_not_mem hbracket]
  simp only [Text.cutFirst_append (hhost.not_mem (show isSign ':' = true by decide)),
    Option.getD_some]

theorem readPort_numeral (h : port ≤ 65535) : readPort (Text.numeral port) = .ok (some port) := by
  have hdigits : (Text.numeral port).all Text.isDigit = true :=
    List.all_eq_true.mpr fun _ => Query.isDigit_of_mem_numeral
  have hshort : (Text.numeral port).length ≤ Text.digitLimit := by
    have hfive : (Text.numeral port).length ≤ 5 :=
      (Query.length_numeral_le_iff (by omega)).mpr (by omega)
    exact Nat.le_trans hfive (by decide)
  rw [readPort, if_neg (by simpa using Query.numeral_ne_nil port), if_pos hdigits,
    Text.readDigits, if_pos hshort, Query.digitsValue_numeral]
  simp only [h, if_true]

/-- A text in lower case is folded to itself, with a zone and without one. -/
theorem foldHost_eq_self (h : Text.lower host = host) : foldHost host = host := by
  -- The characters of a text in lower case are in lower case wherever they stand.
  have hsettled : ∀ c ∈ host, Text.isSettled c = true ∨ Text.isBlank c = true := by
    intro c hc
    rw [← h] at hc
    exact Text.settled_or_blank_of_mem_lowerAfter hc
  by_cases hzone : '%' ∈ host
  · obtain ⟨name, zone, rfl, hname⟩ := List.eq_append_cons_of_mem hzone
    have hlower : Text.lower name = name :=
      Text.lowerAfter_of_settled (fun c hc => hsettled c (List.mem_append_left _ hc)) []
    simp only [foldHost, Text.cutFirst_append hname, hlower]
  · rw [foldHost, Text.cutFirst_of_not_mem hzone]
    exact h

/-- Nothing but the path follows the authority, and it starts with one slash. -/
theorem databaseOf_path (h : SignFree database) :
    (pathOf ('/' :: database)).dropWhile (· == '/') = database := by
  have hall {sign : Char} (hsign : isSign sign = true) (hslash : sign ≠ '/') :
      ∀ c ∈ '/' :: database, (c != sign) = true := by
    intro c hc
    rw [bne_iff_ne]
    rintro rfl
    exact (List.mem_cons.mp hc).elim hslash (h.not_mem hsign)
  rw [pathOf, List.takeWhile_eq_self_iff.mpr (hall (by decide) (by decide)),
    List.takeWhile_eq_self_iff.mpr (hall (by decide) (by decide)), List.dropWhile_cons_of_pos rfl]
  cases database with
  | nil => rfl
  | cons c rest =>
    have hc : c ≠ '/' := by
      rintro rfl
      exact h.not_mem (by decide) List.mem_cons_self
    exact List.dropWhile_cons_of_neg (by simpa using hc)

end Splitting

/-- A text that is not empty says something. -/
theorem map_nonEmpty? {s : List Char} (h : s ≠ []) :
    (nonEmpty? s).map String.ofList = some (String.ofList s) := by
  rw [nonEmpty?, if_neg (by simpa using h), Option.map_some]

theorem toList_ne_nil {s : String} (h : s ≠ "") : s.toList ≠ [] := by
  simpa using h

theorem schemes_contains_scheme : schemes.contains (String.ofList scheme) = true := by
  decide

/-- What splitting gives: the parts, the database as it is escaped. -/
theorem readUri_writeUri {user password host database : String} {port : Nat} (huser : user ≠ "")
    (hpassword : password ≠ "") (hhost : IsHostName host.toList) (hport : port ≤ 65535)
    (hdatabase : database ≠ "") :
    readUri (writeUri user password host port database) = .ok {
      hostName := some host
      port := some port
      userName := some user
      password := some password
      database := some (String.ofList (escape database.toList)) } := by
  have hat : '@' ∉ host.toList ++ ':' :: Text.numeral port :=
    not_mem_hostAndPort hhost.signFree (by decide) (by decide)
  have hcolon : ':' ∉ escape user.toList := (signFree_escape _).not_mem (by decide)
  have hname : (nonEmpty? host.toList).map (fun host => String.ofList (foldHost host)) =
      some host := by
    rw [nonEmpty?, if_neg (by simpa using hhost.ne_nil), Option.map_some,
      foldHost_eq_self hhost.lower_eq, String.ofList_toList]
  rw [readUri, writeUri, String.toList_ofList, cleanUri_uriChars hhost.signFree, uriChars,
    splitScheme_scheme]
  simp only [splitAuthority_writeAuthority hhost.signFree,
    checkBrackets_writeAuthority hhost.signFree, checkDeception_writeAuthority hhost.signFree,
    schemes_contains_scheme]
  rw [writeAuthority, Text.cutLast_append hat]
  simp only [Option.getD_some, Text.cutFirst_append hcolon, splitHost_append hhost.signFree,
    readPort_numeral hport, unescape_escape, databaseOf_path (signFree_escape _),
    map_nonEmpty? (toList_ne_nil huser), map_nonEmpty? (toList_ne_nil hpassword),
    map_nonEmpty? (escape_ne_nil (toList_ne_nil hdatabase)), String.ofList_toList, hname]
  rfl

theorem ofList_escape_eq_self_iff {s : String} :
    String.ofList (escape s.toList) = s ↔ ∀ c ∈ s.toList, isUnreserved c = true := by
  rw [← escape_eq_self_iff, ← String.toList_inj, String.toList_ofList]

/-- Splitting finds every part at its place, whatever the texts hold. User, password, host and port
come back as they were. The database comes back with its escapes, thus as it was exactly when its
name needs none. -/
theorem readUri_iff_unreserved {user password host database : String} {port : Nat}
    (huser : user ≠ "") (hpassword : password ≠ "") (hhost : IsHostName host.toList)
    (hport : 1 ≤ port ∧ port ≤ 65535) (hdatabase : database ≠ "") :
    readUri (writeUri user password host port database) = .ok {
      hostName := some host
      port := some port
      userName := some user
      password := some password
      database := some (String.ofList (escape database.toList)) } ∧
    (readUri (writeUri user password host port database) = .ok {
        hostName := some host
        port := some port
        userName := some user
        password := some password
        database := some database } ↔
      ∀ c ∈ database.toList, isUnreserved c = true) := by
  have hread := readUri_writeUri huser hpassword hhost hport.2 hdatabase
  refine ⟨hread, ?_⟩
  rw [hread, ← ofList_escape_eq_self_iff]
  simp

/-- A password may hold every sign of a URI. -/
theorem readUri_shop :
    readUri (writeUri "app" "p@ss:/?#" "db.local" 6543 "shop") = .ok {
      hostName := some "db.local"
      port := some 6543
      userName := some "app"
      password := some "p@ss:/?#"
      database := some "shop" } := by
  have hdatabase : "shop".toList.all isUnreserved = true := by decide
  exact (readUri_iff_unreserved (by decide) (by decide) (by decide) (by decide) (by decide)).2.mpr
    (List.all_eq_true.mp hdatabase)

/-- A blank in the name of a database stays escaped. -/
theorem readUri_blank_in_database :
    writeUri "u" "p" "localhost" 5432 "my db" = "postgresql://u:p@localhost:5432/my%20db" ∧
    readUri (writeUri "u" "p" "localhost" 5432 "my db") ≠ .ok {
      hostName := some "localhost"
      port := some 5432
      userName := some "u"
      password := some "p"
      database := some "my db" } := by
  refine ⟨by decide, ?_⟩
  rw [readUri_writeUri (by decide) (by decide) (by decide) (by decide) (by decide)]
  decide

end QueryAudit.Connection
