import QueryAudit.Entries
import QueryAudit.Text.Blank
import QueryAudit.Text.Utf8

/-!
# Connection texts

The `key=value` form of connection settings. Blanks may stand around the equals sign, a backslash
takes the next character as it is, and a value between single quotes may hold blanks. A later
setting of an option replaces an earlier one. What is written here is read back unchanged.
-/

namespace QueryAudit.Connection

/-- The options that a connection text may set. -/
def optionNames : List String :=
  [
    "service", "user", "password", "passfile", "channel_binding", "connect_timeout", "dbname",
    "host", "hostaddr", "port", "client_encoding", "options", "application_name",
    "fallback_application_name", "keepalives", "keepalives_idle", "keepalives_interval",
    "keepalives_count", "tcp_user_timeout", "sslmode", "sslnegotiation", "sslcompression",
    "sslcert", "sslkey", "sslcertmode", "sslpassword", "sslrootcert", "sslcrl", "sslcrldir",
    "sslsni", "requirepeer", "require_auth", "requiressl", "ssl_min_protocol_version",
    "ssl_max_protocol_version", "gssencmode", "krbsrvname", "gsslib", "gssdelegation",
    "replication", "target_session_attrs", "load_balance_hosts"]

/-- Why a connection text is refused. -/
inductive ConninfoError where
  /-- A word has no equals sign after it. -/
  | missingEquals (word : String)
  /-- A quoted value has no end. -/
  | unterminated
  /-- There is no option of this name. -/
  | unknownOption (name : String)
  /-- The text has surrogates. -/
  | unwritable (error : Text.SurrogateError)
  deriving DecidableEq

/-- The wording of a refusal. -/
def ConninfoError.message : ConninfoError → String
  | .missingEquals word =>
    "invalid dsn: missing \"=\" after \"" ++ word ++ "\" in connection info string\n"
  | .unterminated => "invalid dsn: unterminated quoted string in connection info string\n"
  | .unknownOption name => "invalid dsn: invalid connection option \"" ++ name ++ "\"\n"
  | .unwritable error => error.message

/-- A blank between the parts of a connection text. -/
def isGap (c : Char) : Bool :=
  c == ' ' || decide ('\t' ≤ c ∧ c ≤ '\r')

/-- A value without quotes, up to the next blank, and what follows. -/
def plainValue : List Char → List Char × List Char
  | [] => ([], [])
  | ['\\'] => ([], [])
  | '\\' :: c :: rest =>
    let (value, after) := plainValue rest
    (c :: value, after)
  | c :: rest =>
    if isGap c then ([], rest)
    else
      let (value, after) := plainValue rest
      (c :: value, after)

/-- The rest of a value between quotes, and what follows; none when the quote has no end. -/
def quotedValue? : List Char → Option (List Char × List Char)
  | [] => none
  | '\'' :: rest => some ([], rest)
  | ['\\'] => none
  | '\\' :: c :: rest => (quotedValue? rest).map fun (value, after) => (c :: value, after)
  | c :: rest => (quotedValue? rest).map fun (value, after) => (c :: value, after)

theorem plainValue_length_le (s : List Char) : (plainValue s).2.length ≤ s.length := by
  fun_induction plainValue s with
  | case1 => simp
  | case2 => simp
  | case3 c rest value after h ih => simp only [h, List.length_cons] at ih ⊢; omega
  | case4 c rest => simp
  | case5 c rest _ _ _ value after h ih => simp only [h, List.length_cons] at ih ⊢; omega

theorem quotedValue?_length_le {s value after : List Char}
    (h : quotedValue? s = some (value, after)) : after.length ≤ s.length := by
  fun_induction quotedValue? s generalizing value with
  | case1 => simp at h
  | case2 rest => simp_all
  | case3 => simp at h
  | case4 c rest ih =>
    simp only [Option.map_eq_some_iff, Prod.mk.injEq, Prod.exists] at h
    obtain ⟨_, _, h, _, rfl⟩ := h
    have := ih h
    simp only [List.length_cons]
    omega
  | case5 c rest _ _ _ ih =>
    simp only [Option.map_eq_some_iff, Prod.mk.injEq, Prod.exists] at h
    obtain ⟨_, _, h, _, rfl⟩ := h
    have := ih h
    simp only [List.length_cons]
    omega

/-- A setting as it is read: the name, the value, and what follows. -/
structure Setting where
  /-- The name of the option. -/
  name : List Char
  /-- The value, with quotes and backslashes undone. -/
  value : List Char
  /-- The text after the setting. -/
  after : List Char

/-- Read the value of the named option at the start of a text. -/
def readValue (name : List Char) : List Char → Except ConninfoError Setting
  | '\'' :: quoted =>
    match quotedValue? quoted with
    | some (value, after) => .ok ⟨name, value, after⟩
    | none => .error .unterminated
  | s => .ok ⟨name, (plainValue s).1, (plainValue s).2⟩

theorem readValue_length_le {name s : List Char} {setting : Setting}
    (h : readValue name s = .ok setting) : setting.after.length ≤ s.length := by
  unfold readValue at h
  split at h
  · split at h
    · next hvalue =>
      cases h
      have := quotedValue?_length_le hvalue
      simp only [List.length_cons]
      omega
    · cases h
  · cases h
    exact plainValue_length_le _

/-- The name of the option at the start of a text. -/
def optionName (s : List Char) : List Char :=
  s.takeWhile fun c => c != '=' && !isGap c

/-- Read the setting at the start of a text that does not start with a blank. -/
def readSetting (s : List Char) : Except ConninfoError Setting :=
  match (s.drop (optionName s).length).dropWhile isGap with
  | '=' :: rest => readValue (optionName s) (rest.dropWhile isGap)
  | _ => .error (.missingEquals (String.ofList (optionName s)))

theorem readSetting_length_lt {s : List Char} {setting : Setting}
    (h : readSetting s = .ok setting) : setting.after.length < s.length := by
  unfold readSetting at h
  split at h
  · next rest hrest =>
    have hdrop := List.length_drop (i := (optionName s).length) (l := s)
    have hgap := (List.dropWhile_suffix (l := s.drop (optionName s).length) isGap).length_le
    have hrestGap := (List.dropWhile_suffix (l := rest) isGap).length_le
    have hvalue := readValue_length_le h
    rw [hrest, List.length_cons] at hgap
    omega
  · cases h

/-- Read the settings of a text, in order. -/
def readSettings (s : List Char) : Except ConninfoError (List (String × String)) :=
  match hs : s.dropWhile isGap with
  | [] => .ok []
  | c :: rest =>
    match hread : readSetting (c :: rest) with
    | .error error => .error error
    | .ok setting =>
      have : setting.after.length < s.length :=
        Nat.lt_of_lt_of_le (readSetting_length_lt hread)
          (hs ▸ (List.dropWhile_suffix (l := s) isGap).length_le)
      let name := String.ofList setting.name
      if optionNames.contains name then
        (readSettings setting.after).map ((name, String.ofList setting.value) :: ·)
      else .error (.unknownOption name)
termination_by s.length

/-- Read a connection text, which can be written in UTF-8 and ends at the first null character. -/
def readConninfo (s : String) : Except ConninfoError (Entries String String) :=
  match Text.surrogateError? s.toList with
  | some error => .error (.unwritable error)
  | none => (readSettings (s.toList.takeWhile (·.toNat != 0))).map Entries.ofList

/-- A value with a backslash in front of every backslash and single quote. -/
def escapeValue (s : List Char) : List Char :=
  s.flatMap fun c => if c = '\\' ∨ c = '\'' then ['\\', c] else [c]

/-- A value as it is written: between quotes when it is empty or has blanks. -/
def writeValue (s : List Char) : List Char :=
  if s.isEmpty || s.any Text.isBlank then '\'' :: escapeValue s ++ ['\''] else escapeValue s

/-- A setting as it is written. -/
def writeSetting (setting : String × String) : String :=
  setting.1 ++ "=" ++ String.ofList (writeValue setting.2.toList)

/-- Write a connection text. -/
def writeConninfo (settings : List (String × String)) : String :=
  " ".intercalate (settings.map writeSetting)

end QueryAudit.Connection
