import QueryAudit.Connection.Settings
import QueryAudit.Proofs.Connection.Conninfo
import QueryAudit.Proofs.Connection.Numerals
import QueryAudit.Proofs.Documents

/-!
# Settings from a connection text that was written

The settings of a connection are written as a connection text with all defaults filled in. Reading
the text passes every setting that says where to connect as an argument, so that no variable of the
environment counts for them; only the limits are left to the environment. The settings that come
back are known in full, and written again they give the same text but for a limit.
-/

namespace QueryAudit.Connection

theorem NulFree.append {s t : String} (hs : NulFree s) (ht : NulFree t) : NulFree (s ++ t) := by
  intro c hc
  rw [String.toList_append] at hc
  exact (List.mem_append.mp hc).elim (hs c) (ht c)

theorem nulFree_integerText (n : Int) : NulFree (Text.integerText n) := by
  intro c hc
  have hbounds := Text.bounds_of_mem_integerText hc
  exact bne_iff_ne.mpr (by omega)

namespace Settings

/-! ## The options that are written -/

/-- The texts among the settings of a connection end where they end: they have no null
character. -/
def NulFreeTexts (settings : Settings) : Prop :=
  ∀ text ∈ [settings.hostName, settings.userName, settings.password, settings.database],
    ∀ s ∈ text, NulFree s

instance : DecidablePred NulFreeTexts := fun settings =>
  inferInstanceAs (Decidable (∀ text ∈ [settings.hostName, settings.userName, settings.password,
    settings.database], ∀ s ∈ text, NulFree s))

variable {c : Settings}

/-- A text that is set and not empty. -/
def said (text : Option String) : Option String :=
  text.filter (· ≠ "")

theorem said_some {s : String} (h : s ≠ "") : said (some s) = some s :=
  Option.filter_some_pos (decide_eq_true h)

/-- A value that says nothing is replaced like one that is absent. -/
theorem getD_filter_ne {α : Type} [DecidableEq α] (value nothing other : α) :
    ((some value).filter (· ≠ nothing)).getD other =
      if value = nothing then other else value := by
  by_cases h : value = nothing
  · simp [Option.filter, h]
  · simp [Option.filter, h]

theorem orElse_eq (text : Option String) (other : String) :
    orElse text other = (said text).getD other := by
  cases text with
  | none => rfl
  | some s => exact (getD_filter_ne s "" other).symm

theorem portNumber_eq (c : Settings) :
    c.portNumber = (c.port.filter (· ≠ 0)).getD 5432 := by
  rw [portNumber]
  cases c.port with
  | none => rfl
  | some n => exact (getD_filter_ne n 0 5432).symm

/-- What is filled in stays when it is filled in again. -/
theorem orElse_some_orElse (text : Option String) (other : String) :
    orElse (some (orElse text other)) other = orElse text other := by
  rw [orElse_eq text]
  cases hsaid : said text with
  | none => exact ite_self other
  | some s =>
    have hne : s ≠ "" := of_decide_eq_true (Option.mem_filter_iff.mp hsaid).2
    exact if_neg hne

theorem portNumber_ne_zero (c : Settings) : c.portNumber ≠ 0 := by
  rw [portNumber]
  split
  · split
    · decide
    · assumption
  · decide

/-- Only a password that says something is written, and it comes last. -/
theorem options_eq (c : Settings) :
    c.options =
      [("host", c.host), ("port", Text.integerText c.portNumber), ("dbname", c.databaseName),
        ("user", c.role), ("connect_timeout", Text.integerText c.connectTimeout),
        ("options", "-c statement_timeout=" ++ Text.integerText c.statementTimeout)] ++
      ((said c.password).map fun password => ("password", password)).toList := by
  rw [options]
  cases c.password with
  | none => rfl
  | some password =>
    by_cases hempty : password = ""
    · rw [hempty]
      rfl
    · simp only [if_neg hempty, said_some hempty, Option.map_some, Option.toList_some]

/-- The names of the options that are written, in order. -/
def writtenNames : List String :=
  ["host", "port", "dbname", "user", "connect_timeout", "options", "password"]

theorem keys_options_sublist (c : Settings) : (Entries.keys c.options).Sublist writtenNames := by
  rw [options_eq]
  cases said c.password with
  | none => exact List.sublist_append_left _ ["password"]
  | some password => exact List.Sublist.refl _

theorem distinct_options (c : Settings) : Entries.Distinct c.options := by
  have hall : writtenNames.Pairwise fun name other => (name == other) = false := by decide
  exact hall.sublist (keys_options_sublist c)

theorem mem_optionNames_of_mem_options : ∀ option ∈ c.options, option.1 ∈ optionNames := by
  have hall : ∀ name ∈ writtenNames, name ∈ optionNames := by decide
  exact fun option hoption =>
    hall _ ((keys_options_sublist c).subset (List.mem_map_of_mem hoption))

theorem nulFree_of_said {text : Option String} (h : ∀ s ∈ text, NulFree s) :
    ∀ s ∈ said text, NulFree s :=
  fun s hs => h s (Option.mem_filter_iff.mp hs).1

theorem nulFree_orElse {text : Option String} (h : ∀ s ∈ text, NulFree s) {other : String}
    (hother : NulFree other) : NulFree (orElse text other) := by
  rw [orElse_eq]
  cases hsaid : said text with
  | none => exact hother
  | some s => exact nulFree_of_said h s hsaid

theorem nulFree_options (h : c.NulFreeTexts) : ∀ option ∈ c.options, NulFree option.2 := by
  simp only [NulFreeTexts, List.mem_cons, List.not_mem_nil, or_false, forall_eq_or_imp,
    forall_eq] at h
  obtain ⟨hhost, huser, hpassword, hdatabase⟩ := h
  rw [options_eq]
  intro option hoption
  rcases List.mem_append.mp hoption with hfixed | hgiven
  · simp only [List.mem_cons, List.not_mem_nil, or_false] at hfixed
    rcases hfixed with rfl | rfl | rfl | rfl | rfl | rfl
    · exact nulFree_orElse hhost (by decide)
    · exact nulFree_integerText _
    · exact nulFree_orElse hdatabase (by decide)
    · exact nulFree_orElse huser (by decide)
    · exact nulFree_integerText _
    · exact NulFree.append (by decide) (nulFree_integerText _)
  · obtain ⟨password, hsaid, rfl⟩ := Option.map_eq_some_iff.mp (Option.mem_toList.mp hgiven)
    exact nulFree_of_said hpassword password hsaid

/-! ## The settings that are passed -/

/-- The text of the options can be written in UTF-8, and their numbers are short enough to be
read. -/
structure IsReadable (c : Settings) : Prop where
  /-- No text has a surrogate. -/
  utf8 : Text.surrogateError? c.dsn.toList = none
  /-- The port has few enough digits. -/
  port : (Text.numeral c.portNumber.natAbs).length ≤ Text.digitLimit
  /-- The time to wait for a connection has few enough digits. -/
  connectTimeout : (Text.numeral c.connectTimeout.natAbs).length ≤ Text.digitLimit

/-- Whether the text can be written in UTF-8 does not depend on the numbers. -/
theorem utf8_iff (c : Settings) :
    Text.surrogateError? c.dsn.toList = none ↔
      ∀ text ∈ [c.host, c.databaseName, c.role] ++ (said c.password).toList,
        Text.hasSurrogate text = false := by
  have hplain : ∀ c, isPlain c = true → Text.isSurrogate c = false := fun c hc =>
    Text.isSurrogate_eq_false (Nat.lt_trans (of_decide_eq_true hc).2 (by decide))
  have htext (text : String) :
      (∀ c ∈ text.toList, Text.isSurrogate c = false) ↔ Text.hasSurrogate text = false := by
    simp only [Text.hasSurrogate, List.any_eq_false, Bool.not_eq_true]
  have hlimit : Text.hasSurrogate
      ("-c statement_timeout=" ++ Text.integerText c.statementTimeout) = false := by
    rw [Text.hasSurrogate, String.toList_append, List.any_append, ← Text.hasSurrogate,
      ← Text.hasSurrogate, Text.hasSurrogate_integerText, Bool.or_false]
    decide
  rw [surrogateError?_eq_none_iff, dsn,
    forall_mem_writeConninfo_iff hplain mem_optionNames_of_mem_options, options_eq]
  simp only [htext, List.forall_mem_append, List.forall_mem_cons, Text.hasSurrogate_integerText,
    hlimit, true_and]
  cases said c.password <;> simp

theorem readConninfo_dsn (h : c.NulFreeTexts) (hutf8 : Text.surrogateError? c.dsn.toList = none) :
    readConninfo c.dsn = .ok c.options :=
  readConninfo_writeConninfo mem_optionNames_of_mem_options (nulFree_options h)
    (distinct_options c) hutf8

/-- The fields that the text of the options passes. -/
def passed (c : Settings) : Fields :=
  [(.text "uri", .null),
    (.text "hostname", .text c.host),
    (.text "port", .int c.portNumber),
    (.text "username", .text c.role),
    (.text "password", ((said c.password).map Document.text).getD .null),
    (.text "database", .text c.databaseName),
    (.text "connect_timeout", .int c.connectTimeout)]

theorem integerText_ne_empty (n : Int) : Text.integerText n ≠ "" := by
  intro hempty
  have hchars := congrArg String.toList hempty
  rw [Text.toList_integerText] at hchars
  exact Query.numeral_ne_nil _ (List.append_eq_nil_iff.mp hchars).2

/-- A number among the options is read unless its numeral is too long. -/
theorem number?_eq_ok_iff {options : Entries String String} {name : String} {n : Int}
    (h : options.get? name = some (Text.integerText n)) {found : Option Int} :
    number? options name = .ok found ↔
      (Text.numeral n.natAbs).length ≤ Text.digitLimit ∧ found = some n := by
  rw [number?, h]
  simp only [if_neg (integerText_ne_empty n), Text.readInteger_integerText]
  by_cases hshort : (Text.numeral n.natAbs).length ≤ Text.digitLimit
  · rw [if_pos hshort]
    simp [hshort, Except.map, eq_comm]
  · rw [if_neg hshort]
    simp [hshort, Except.map]

/-- Options pass their settings, a password only if it says something. -/
theorem conninfoFields_options_eq_ok_iff {fields : Fields} :
    conninfoFields c.options = .ok fields ↔
      (Text.numeral c.portNumber.natAbs).length ≤ Text.digitLimit ∧
      (Text.numeral c.connectTimeout.natAbs).length ≤ Text.digitLimit ∧ fields = c.passed := by
  have hport : Entries.get? c.options "port" = some (Text.integerText c.portNumber) := by
    rw [options_eq]
    rfl
  have htimeout : Entries.get? c.options "connect_timeout" =
      some (Text.integerText c.connectTimeout) := by
    rw [options_eq]
    rfl
  have hpassword : Entries.get? c.options "password" = said c.password := by
    rw [options_eq]
    cases said c.password <;> rfl
  have hhost : Entries.get? c.options "host" = some c.host := by
    rw [options_eq]
    rfl
  have huser : Entries.get? c.options "user" = some c.role := by
    rw [options_eq]
    rfl
  have hdatabase : Entries.get? c.options "dbname" = some c.databaseName := by
    rw [options_eq]
    rfl
  simp only [conninfoFields, hhost, huser, hdatabase, hpassword, bind_eq_ok_iff,
    number?_eq_ok_iff hport, number?_eq_ok_iff htimeout, and_assoc, exists_and_left, exists_eq_left]
  refine and_congr_right fun _ => and_congr_right fun _ => ?_
  exact ⟨fun h => (Except.ok.inj h).symm, fun h => congrArg Except.ok h.symm⟩

/-- The text of the options is no URI, since it starts with the name of an option. -/
theorem isUri_dsn (c : Settings) : isUri c.dsn = false := by
  obtain ⟨rest, hrest⟩ : ∃ rest, c.dsn.toList = 'h' :: rest := by
    have hname : "host".toList = ['h', 'o', 's', 't'] := by decide
    rw [dsn, options_eq, List.cons_append, toList_writeConninfo_cons, settingChars, hname]
    exact ⟨_, rfl⟩
  have hscheme : ∀ scheme ∈ schemes, (scheme ++ "://").toList.head? = some 'p' := by decide
  rw [isUri, List.any_eq_false]
  intro scheme hmem huri
  obtain ⟨more, hmore⟩ := List.head?_eq_some_iff.mp (hscheme scheme hmem)
  rw [hmore, hrest, List.isPrefixOf_cons_cons] at huri
  cases huri

theorem textFields_dsn_eq_ok_iff (hnul : c.NulFreeTexts) {fields : Fields} :
    textFields c.dsn = .ok fields ↔ c.IsReadable ∧ fields = c.passed := by
  rw [textFields, isUri_dsn, if_neg Bool.false_ne_true]
  cases hutf8 : Text.surrogateError? c.dsn.toList with
  | some error =>
    have hread : ∀ options, readConninfo c.dsn ≠ .ok options := by
      intro options hok
      rw [surrogateError?_of_readConninfo hok] at hutf8
      cases hutf8
    constructor
    · intro h
      split at h
      · cases h
      · rename_i hok
        exact absurd hok (hread _)
    · rintro ⟨hreadable, -⟩
      rw [hreadable.utf8] at hutf8
      cases hutf8
  | none =>
    rw [readConninfo_dsn hnul hutf8]
    have hmap : ∀ x : Except Text.NumeralError Fields,
        x.mapError SettingsError.numeral = .ok fields ↔ x = .ok fields := by
      rintro (error | other) <;> simp [Except.mapError]
    simp only [hmap, conninfoFields_options_eq_ok_iff]
    exact ⟨fun ⟨hport, htimeout, heq⟩ => ⟨⟨hutf8, hport, htimeout⟩, heq⟩,
      fun ⟨hreadable, heq⟩ => ⟨hreadable.port, hreadable.connectTimeout, heq⟩⟩

/-! ## What is left to the environment -/

/-- A field that is listed under its name is found there. -/
theorem get?_listed (valueOf : String → Option Document) (names : List String) (name : String) :
    Fields.get? (names.filterMap fun other =>
        (valueOf other).map fun value => (.text other, value)) name =
      if name ∈ names then valueOf name else none := by
  induction names with
  | nil => rfl
  | cons other names ih =>
    rw [List.filterMap_cons]
    by_cases hname : name = other
    · subst hname
      cases hvalue : valueOf name with
      | none => simp [ih, hvalue]
      | some value => simp [Fields.get?]
    · cases valueOf other with
      | none => simp [ih, hname]
      | some value =>
        have hkey : (Scalar.text name == Scalar.text other) = false :=
          Named.beq_text_eq_false hname
        simp [Fields.get?, List.lookup_cons, hkey, hname, ← ih]

/-- A field is what the argument says, null included, and else what the variable says. -/
theorem get?_withEnvironment (environment : Environment) (start : String) (arguments : Fields)
    {name : String} (h : name ∈ fieldNames) :
    (withEnvironment environment start arguments).get? name =
      (arguments.get? name).or
        ((lookupVariable? environment (start ++ name)).map Document.text) := by
  rw [withEnvironment, get?_listed, if_pos h]

/-- The settings that a connection text leaves to the environment. -/
structure Limits where
  /-- The milliseconds that a statement may take. -/
  statementTimeout : Int
  /-- The number of queries that are described at the same time. -/
  maxConnections : Int

/-- The limits that the environment sets, or else the defaults. -/
def Limits.ofEnvironment (environment : Environment) : Checked Limits :=
  let fields := withEnvironment environment environmentStart []
  Limits.mk <$> fields.withDefault "statement_timeout_ms" 10000 Decoder.int <*>
    fields.withDefault "max_connections" 4 Decoder.int

/-- The settings that are read from the text of the options. -/
def reread (c : Settings) (limits : Limits) : Settings where
  uri := none
  hostName := some c.host
  port := some c.portNumber
  userName := some c.role
  password := said c.password
  database := some c.databaseName
  connectTimeout := c.connectTimeout
  statementTimeout := limits.statementTimeout
  maxConnections := limits.maxConnections

/-- Whatever the environment says, a passed field has the value that is passed. -/
theorem withDefault_passed {α : Type} (environment : Environment) {name : String} {value : Document}
    {default a : α} {decode : Decoder α} (hvalue : c.passed.get? name = some value)
    (hname : name ∈ fieldNames) (hdecode : decode value = .ok a) :
    (withEnvironment environment environmentStart c.passed).withDefault name default decode =
      .ok a := by
  rw [Fields.withDefault, get?_withEnvironment _ _ _ hname, hvalue, Option.some_or]
  simp only [hdecode, Checked.below_ok]

/-- A field that is not passed has the value that it would have without a connection text. -/
theorem withDefault_not_passed {α : Type} (environment : Environment) {name : String} {default : α}
    {decode : Decoder α} (hvalue : c.passed.get? name = none) (hname : name ∈ fieldNames) :
    (withEnvironment environment environmentStart c.passed).withDefault name default decode =
      (withEnvironment environment environmentStart []).withDefault name default decode := by
  rw [Fields.withDefault, Fields.withDefault, get?_withEnvironment _ _ _ hname,
    get?_withEnvironment _ _ _ hname, hvalue]
  rfl

theorem optional_password (password : Option String) :
    Decoder.optional Decoder.text ((password.map Document.text).getD .null) = .ok password := by
  cases password <;> rfl

/-- Of the fields that are passed none has an issue, and two fields are left to the environment. -/
theorem decode_passed (environment : Environment) (c : Settings) :
    decode (withEnvironment environment environmentStart c.passed) =
      c.reread <$> Limits.ofEnvironment environment := by
  generalize hfields : withEnvironment environment environmentStart c.passed = fields
  have hpassed {α : Type} {name : String} {value : Document} {default a : α} {decode : Decoder α}
      (hname : name ∈ fieldNames) (hvalue : c.passed.get? name = some value)
      (hdecode : decode value = .ok a) : fields.withDefault name default decode = .ok a := by
    rw [← hfields]
    exact withDefault_passed environment hvalue hname hdecode
  have huri : fields.optional "uri" Decoder.text = .ok none := hpassed (by decide) rfl rfl
  have hhost : fields.optional "hostname" Decoder.text = .ok (some c.host) :=
    hpassed (by decide) rfl rfl
  have hport : fields.optional "port" Decoder.int = .ok (some c.portNumber) :=
    hpassed (by decide) rfl rfl
  have huser : fields.optional "username" Decoder.text = .ok (some c.role) :=
    hpassed (by decide) rfl rfl
  have hpassword : fields.optional "password" Decoder.text = .ok (said c.password) :=
    hpassed (by decide) rfl (optional_password _)
  have hdatabase : fields.optional "database" Decoder.text = .ok (some c.databaseName) :=
    hpassed (by decide) rfl rfl
  have htimeout : fields.withDefault "connect_timeout" 10 Decoder.int = .ok c.connectTimeout :=
    hpassed (by decide) rfl rfl
  rw [decode, huri, hhost, hport, huser, hpassword, hdatabase, htimeout, ← hfields,
    withDefault_not_passed environment rfl (by decide),
    withDefault_not_passed environment rfl (by decide), Limits.ofEnvironment]
  generalize Fields.withDefault _ "statement_timeout_ms" 10000 Decoder.int = statementTimeout
  generalize Fields.withDefault _ "max_connections" 4 Decoder.int = maxConnections
  cases statementTimeout <;> cases maxConnections <;> rfl

/-- Without a URI the fields are decoded as they are. -/
theorem ofFields_eq_ok_iff {fields : Fields} (h : fields.get? "uri" = some .null)
    {settings : Settings} : ofFields fields = .ok settings ↔ decode fields = .ok settings := by
  have hnull : ¬Document.null.isPresent = true := by decide
  simp only [ofFields, h, Option.getD_some, if_neg hnull, pure_bind]
  cases decode fields with
  | ok decoded =>
    constructor
    · intro hok
      exact congrArg Checked.ok (Except.ok.inj hok)
    · intro hok
      exact congrArg Except.ok (Checked.ok.inj hok)
  | bad issues => simp

theorem ofArguments_passed_eq_ok_iff {environment : Environment} {settings : Settings} :
    ofArguments environment c.passed = .ok settings ↔
      ∃ limits, Limits.ofEnvironment environment = .ok limits ∧ c.reread limits = settings := by
  have huri : (withEnvironment environment environmentStart c.passed).get? "uri" = some .null := by
    rw [get?_withEnvironment _ _ _ (by decide)]
    rfl
  rw [ofArguments, ofFields_eq_ok_iff huri, decode_passed, Checked.map_eq_ok_iff]

/-- The settings that are read from the text of the options are the settings that were written, with
limits from the environment. There are none when a text or number cannot be read, or a limit. -/
theorem ofText_dsn_eq_ok_iff (hnul : c.NulFreeTexts) {environment : Environment}
    {settings : Settings} :
    ofText environment c.dsn = .ok settings ↔
      c.IsReadable ∧
        ∃ limits, Limits.ofEnvironment environment = .ok limits ∧ c.reread limits = settings := by
  simp only [ofText, bind_eq_ok_iff, textFields_dsn_eq_ok_iff hnul, and_assoc, exists_and_left,
    exists_eq_left, ofArguments_passed_eq_ok_iff]

/-! ## The server that is reached -/

/-- The settings name the server, the role and the database that others name, all of them filled
in, and the same password and time to wait. -/
structure Names (settings c : Settings) : Prop where
  /-- The host is the given one, or else this computer. -/
  hostName : settings.hostName = some ((c.hostName.filter (· ≠ "")).getD "localhost")
  /-- The port is the given one, or else the usual one. -/
  port : settings.port = some ((c.port.filter (· ≠ 0)).getD 5432)
  /-- The role is the given one, or else the one that every server has. -/
  userName : settings.userName = some ((c.userName.filter (· ≠ "")).getD "postgres")
  /-- The database is the given one, or else the one that every server has. -/
  database : settings.database = some ((c.database.filter (· ≠ "")).getD "postgres")
  /-- The password is the given one, if it says something. -/
  password : settings.password = c.password.filter (· ≠ "")
  /-- The time to wait for a connection is the same. -/
  connectTimeout : settings.connectTimeout = c.connectTimeout

theorem names_reread (c : Settings) (limits : Limits) : (c.reread limits).Names c where
  hostName := congrArg some (orElse_eq _ _)
  port := congrArg some (portNumber_eq c)
  userName := congrArg some (orElse_eq _ _)
  database := congrArg some (orElse_eq _ _)
  password := rfl
  connectTimeout := rfl

/-- The options of the settings that are read differ in the limit on statements alone. -/
theorem options_reread (c : Settings) (limits : Limits) :
    (c.reread limits).options =
      { c with statementTimeout := limits.statementTimeout }.options := by
  have hhost : (c.reread limits).host = c.host := orElse_some_orElse _ _
  have hport : (c.reread limits).portNumber = c.portNumber := if_neg c.portNumber_ne_zero
  have hrole : (c.reread limits).role = c.role := orElse_some_orElse _ _
  have hdatabase : (c.reread limits).databaseName = c.databaseName := orElse_some_orElse _ _
  have hpassword : said (c.reread limits).password = said c.password := by
    rw [reread, said, said, Option.filter_filter]
    simp
  rw [options_eq, options_eq, hhost, hport, hrole, hdatabase, hpassword]
  rfl

theorem testedDsn_eq (hnul : c.NulFreeTexts) (hutf8 : Text.surrogateError? c.dsn.toList = none) :
    c.testedDsn = .ok c.dsn := by
  rw [testedDsn, readConninfo_dsn hnul hutf8]
  rfl

/-- Settings that are written as a connection text and read back, under whatever environment, name
the same server, and their own text is that of the settings that were written but for the limit on
statements. -/
theorem names_of_ofText_dsn {c settings : Settings} {environment : Environment} {text : String}
    (hnul : c.NulFreeTexts) (hwrite : c.testedDsn = .ok text)
    (hread : ofText environment text = .ok settings) :
    settings.Names c ∧
      settings.testedDsn = .ok { c with statementTimeout := settings.statementTimeout }.dsn := by
  obtain rfl : c.dsn = text := by
    obtain ⟨_, -, htext⟩ := map_eq_ok_iff.mp hwrite
    exact htext
  obtain ⟨hreadable, limits, -, rfl⟩ := (ofText_dsn_eq_ok_iff hnul).mp hread
  refine ⟨names_reread c limits, ?_⟩
  have hdsn : (c.reread limits).dsn = { c with statementTimeout := limits.statementTimeout }.dsn :=
    congrArg writeConninfo (options_reread c limits)
  have hutf8 : Text.surrogateError?
      { c with statementTimeout := limits.statementTimeout }.dsn.toList = none :=
    (utf8_iff _).mpr ((utf8_iff c).mp hreadable.utf8)
  rw [testedDsn, hdsn, ← testedDsn]
  exact testedDsn_eq hnul hutf8

/-- Settings with a password that has every sign of a connection text. -/
def punctuated : Settings where
  uri := none
  hostName := none
  port := some 0
  userName := some "app"
  password := some "it's = a\\b"
  database := some "my shop"
  connectTimeout := 3
  statementTimeout := 10000
  maxConnections := 4

/-- An environment that names another password, and a limit. -/
def otherPassword : Environment :=
  [("POSTGRES_PASSWORD", "other"), ("POSTGRES_STATEMENT_TIMEOUT_MS", "250")]

theorem limits_otherPassword : Limits.ofEnvironment otherPassword = .ok ⟨250, 4⟩ := by
  rfl

theorem punctuated_isReadable : punctuated.IsReadable where
  utf8 := (utf8_iff punctuated).mpr (by decide)
  port := by decide
  connectTimeout := by decide

/-- The password is read back, and of the environment the limit alone counts. -/
theorem names_punctuated :
    ofText otherPassword punctuated.dsn = .ok (punctuated.reread ⟨250, 4⟩) ∧
      (punctuated.reread ⟨250, 4⟩).Names punctuated ∧
      (punctuated.reread ⟨250, 4⟩).testedDsn =
        .ok { punctuated with statementTimeout := 250 }.dsn := by
  have hnul : punctuated.NulFreeTexts := by decide
  have hread : ofText otherPassword punctuated.dsn = .ok (punctuated.reread ⟨250, 4⟩) :=
    (ofText_dsn_eq_ok_iff hnul).mpr ⟨punctuated_isReadable, _, limits_otherPassword, rfl⟩
  exact ⟨hread, names_of_ofText_dsn hnul (testedDsn_eq hnul punctuated_isReadable.utf8) hread⟩

end Settings

end QueryAudit.Connection
