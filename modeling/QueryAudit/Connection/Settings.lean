import QueryAudit.Connection.Conninfo
import QueryAudit.Connection.Uri
import QueryAudit.Document.Decoder

/-!
# Connection settings

The settings of a connection come from arguments, from the environment and from defaults, in this
order. A URI among them gives the settings that are missing or null. A connection text alone decides
where to connect: it passes every such setting as an argument, null where it does not set one, so
that the environment fills in nothing but limits.
-/

namespace QueryAudit.Connection

/-- The settings of a connection. -/
structure Settings where
  /-- The URI from which other settings were taken. -/
  uri : Option String
  /-- The host of the server. -/
  hostName : Option String
  /-- The port of the server. -/
  port : Option Int
  /-- The role to log in as. -/
  userName : Option String
  /-- The password. -/
  password : Option String
  /-- The database. -/
  database : Option String
  /-- The seconds to wait for a connection. -/
  connectTimeout : Int
  /-- The milliseconds that a statement may take. -/
  statementTimeout : Int
  /-- The number of queries that are described at the same time. -/
  maxConnections : Int
  deriving DecidableEq

/-- Why settings are refused. -/
inductive SettingsError where
  /-- Values that do not decode. -/
  | invalid (issues : List Issue)
  /-- The URI of a connection text. -/
  | uri (error : UriError)
  /-- A connection text. -/
  | conninfo (error : ConninfoError)
  /-- A number in a connection text. -/
  | numeral (error : Text.NumeralError)
  /-- More than one qualifier of environment names. -/
  | qualifiers
  /-- The URI is not a text but a value of the given class. -/
  | uriClass (className : String)
  deriving DecidableEq

namespace Settings

/-- The names of the settings, in order. -/
def fieldNames : List String :=
  ["uri", "hostname", "port", "username", "password", "database", "connect_timeout",
    "statement_timeout_ms", "max_connections"]

/-- Decode settings from raw fields. -/
def decode (fields : Fields) : Checked Settings :=
  (fun uri hostName port userName password database connectTimeout statementTimeout
      maxConnections =>
      { uri, hostName, port, userName, password, database, connectTimeout, statementTimeout
        maxConnections }) <$>
    fields.optional "uri" Decoder.text <*>
    fields.optional "hostname" Decoder.text <*>
    fields.optional "port" Decoder.int <*>
    fields.optional "username" Decoder.text <*>
    fields.optional "password" Decoder.text <*>
    fields.optional "database" Decoder.text <*>
    fields.withDefault "connect_timeout" 10 Decoder.int <*>
    fields.withDefault "statement_timeout_ms" 10000 Decoder.int <*>
    fields.withDefault "max_connections" 4 Decoder.int

/-- The parts of a URI as raw fields; null where the URI says nothing. -/
def uriFields (parts : UriParts) : Fields :=
  let text := fun (s : Option String) => (s.map Document.text).getD .null
  [(.text "hostname", text parts.hostName),
    (.text "port", (parts.port.map fun n => Document.int n).getD .null),
    (.text "username", text parts.userName),
    (.text "password", text parts.password),
    (.text "database", text parts.database)]

/-- Give the fields that are missing or null the values of others. -/
def fill (fields others : Fields) : Fields :=
  others.foldl (fun fields other =>
    match fields.lookup other.1 with
    | some value => if value.isNull then Entries.put fields other.1 other.2 else fields
    | none => Entries.put fields other.1 other.2) fields

/-- Settings from raw fields, filled from the URI among them. -/
def ofFields (fields : Fields) : Except SettingsError Settings := do
  let uri := (fields.get? "uri").getD .null
  let filled ←
    if uri.isPresent then
      match uri with
      | .scalar (.text s) =>
        match readUri s with
        | .ok parts => pure (fill fields (uriFields parts))
        | .error error => throw (.invalid [⟨[], .inconsistent error.message⟩])
      | value => throw (.uriClass value.className)
    else pure fields
  match decode filled with
  | .ok settings => return settings
  | .bad issues => throw (.invalid issues)

/-- The environment: names and values, in order. -/
abbrev Environment := List (String × String)

/-- The word in the names of environment variables. -/
def environmentWord : String :=
  "POSTGRES"

/-- How the names of the environment variables start. -/
def environmentStart : String :=
  environmentWord ++ "_"

/-- The value of a variable; letter case does not count, and of several the last one counts. -/
def lookupVariable? (environment : Environment) (name : String) : Option String :=
  (environment.reverse.find? fun entry => Text.lowered entry.1 == Text.lowered name).map Prod.snd

/-- The arguments, and for settings without one the variables whose names start as given. -/
def withEnvironment (environment : Environment) (start : String) (arguments : Fields) : Fields :=
  fieldNames.filterMap fun name =>
    ((arguments.get? name).or ((lookupVariable? environment (start ++ name)).map Document.text)).map
      fun value => (.text name, value)

/-- Settings from arguments, the environment and defaults. -/
def ofArguments (environment : Environment) (arguments : Fields) : Except SettingsError Settings :=
  ofFields (withEnvironment environment environmentStart arguments)

/-- What stands for the environment in names of variables. -/
structure Qualifiers where
  /-- What comes before the whole name. -/
  before : Option String
  /-- What comes before the name of the setting. -/
  profile : Option String
  /-- What comes after the whole name. -/
  after : Option String

/-- The settings whose variables have the given ending; names count as they are spelt. -/
def endingWith (environment : Environment) (ending : String) : Fields :=
  fieldNames.filterMap fun name =>
    let spelt := environmentStart ++ Text.uppered name ++ "_" ++ Text.uppered ending
    (environment.lookup spelt).map fun value => (.text name, .text value)

/-- Settings from the environment alone. At most one qualifier may be given. -/
def ofEnvironment (environment : Environment) (qualifiers : Qualifiers) :
    Except SettingsError Settings :=
  match qualifiers.before, qualifiers.profile, qualifiers.after with
  | none, none, none => ofArguments environment []
  | none, none, some ending => ofArguments environment (endingWith environment ending)
  | some word, none, none =>
    ofFields (withEnvironment environment (Text.uppered word ++ "_" ++ environmentStart) [])
  | none, some word, none =>
    ofFields (withEnvironment environment (environmentStart ++ Text.uppered word ++ "_") [])
  | _, _, _ => .error .qualifiers

/-- Whether a connection text is a URI. -/
def isUri (s : String) : Bool :=
  schemes.any fun scheme => (scheme ++ "://").toList.isPrefixOf s.toList

/-- A number in a connection text; none when it is absent or empty. -/
def number? (options : Entries String String) (name : String) :
    Except Text.NumeralError (Option Int) :=
  match options.get? name with
  | none => .ok none
  | some s => if s = "" then .ok none else (Text.readInteger 10 s.toList).map some

/-- The settings that a `key=value` text passes. -/
def conninfoFields (options : Entries String String) : Except Text.NumeralError Fields := do
  let text := fun (name : String) => ((options.get? name).map Document.text).getD .null
  let port ← number? options "port"
  let timeout ← number? options "connect_timeout"
  return [
    (.text "uri", .null),
    (.text "hostname", text "host"),
    (.text "port", (port.map Document.int).getD .null),
    (.text "username", text "user"),
    (.text "password", text "password"),
    (.text "database", text "dbname")] ++
      (timeout.map fun n => (Scalar.text "connect_timeout", Document.int n)).toList

/-- The settings that a connection text passes. -/
def textFields (s : String) : Except SettingsError Fields :=
  if isUri s then
    match readUri s with
    | .ok parts => .ok ((.text "uri", .text s) :: uriFields parts)
    | .error error => .error (.uri error)
  else
    match readConninfo s with
    | .error error => .error (.conninfo error)
    | .ok options => (conninfoFields options).mapError .numeral

/-- Settings from a connection text: a URI, or `key=value` pairs. -/
def ofText (environment : Environment) (s : String) : Except SettingsError Settings := do
  ofArguments environment (← textFields s)

/-- The settings for another database of the same server. -/
def withDatabase (settings : Settings) (database : Option String) : Settings :=
  { settings with database }

/-- A text that says something, or else the given one. -/
def orElse (s : Option String) (other : String) : String :=
  match s with
  | some s => if s = "" then other else s
  | none => other

/-- The host to connect to. -/
def host (settings : Settings) : String :=
  orElse settings.hostName "localhost"

/-- The port to connect to. -/
def portNumber (settings : Settings) : Int :=
  match settings.port with
  | some n => if n = 0 then 5432 else n
  | none => 5432

/-- The role to log in as. -/
def role (settings : Settings) : String :=
  orElse settings.userName "postgres"

/-- The database to connect to. -/
def databaseName (settings : Settings) : String :=
  orElse settings.database "postgres"

/-- The options of the connection, in order. -/
def options (settings : Settings) : List (String × String) :=
  [("host", settings.host),
    ("port", Text.integerText settings.portNumber),
    ("dbname", settings.databaseName),
    ("user", settings.role),
    ("connect_timeout", Text.integerText settings.connectTimeout),
    ("options", "-c statement_timeout=" ++ Text.integerText settings.statementTimeout)] ++
  match settings.password with
  | some password => if password = "" then [] else [("password", password)]
  | none => []

/-- The connection text under which the server is reached. -/
def dsn (settings : Settings) : String :=
  writeConninfo settings.options

/-- The connection text, after reading it back for a test. -/
def testedDsn (settings : Settings) : Except ConninfoError String :=
  (readConninfo settings.dsn).map fun _ => settings.dsn

/-- The settings as messages show them, without the password. -/
def display (settings : Settings) : String :=
  "postgresql://" ++ settings.role ++ "@" ++ settings.host ++ ":" ++
    Text.integerText settings.portNumber ++ "/" ++ settings.databaseName

/-- The settings as a document in which nothing is left out. -/
def encode (settings : Settings) : Document :=
  let text := fun (s : Option String) => (s.map Document.text).getD .null
  Document.record
    [("uri", some (text settings.uri)),
      ("hostname", some (text settings.hostName)),
      ("port", some ((settings.port.map Document.int).getD .null)),
      ("username", some (text settings.userName)),
      ("password", some (text settings.password)),
      ("database", some (text settings.database)),
      ("connect_timeout", some (.int settings.connectTimeout)),
      ("statement_timeout_ms", some (.int settings.statementTimeout)),
      ("max_connections", some (.int settings.maxConnections))]

end Settings

end QueryAudit.Connection
