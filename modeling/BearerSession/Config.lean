import BearerSession.Disk
import BearerSession.Session
import BearerSession.Toml.Document

namespace BearerSession

/-- The directories for the settings and for the data of a user, where they are known. -/
structure Places where
  settings : Option String
  data : Option String
  deriving DecidableEq

namespace Places

/-- The name of the directories that belong to the client. -/
def clientName : String := "tokenward"

def join (base name : String) : String :=
  if base.isEmpty || base.endsWith "/" then base ++ name else base ++ "/" ++ name

/-- A variable that holds an absolute path, or a place below the home directory. -/
def choose (lookUp : String → Option String) (name below : String) : Option String :=
  match (lookUp name).filter Path.isAbsolute with
  | some path => some path
  | none => ((lookUp "HOME").filter (!·.isEmpty)).map fun home => join home below

/-- The places that variables of the environment tell. -/
def ofEnvironment (lookUp : String → Option String) : Places where
  settings := (choose lookUp "XDG_CONFIG_HOME" ".config").map (join · clientName)
  data := (choose lookUp "XDG_DATA_HOME" ".local/share").map (join · clientName)

/-- Where the configuration is read from unless another place is given. -/
def configPath (p : Places) : String :=
  match p.settings with
  | some directory => join directory "client.toml"
  | none => "tokenward.toml"

/-- Where the jar is unless the configuration tells otherwise. -/
def jarPath (p : Places) : String :=
  match p.data with
  | some directory => join directory "credentials.json"
  | none => ".tokenward/credentials.json"

end Places

/-- The endpoint unless the configuration tells another. -/
def defaultEndpoint : String := "http://localhost:4000/graphql"

/-- The seconds after which a request is given up, unless the configuration tells otherwise. -/
def defaultTimeout : Nat := 30

/-- What a configuration file may set. -/
structure Settings where
  endpoint : String := defaultEndpoint
  jarPath : String
  preferKeyring : Bool := false
  requestTimeoutSecs : Nat := defaultTimeout
  credentialTtlDays : Int := defaultTtlDays
  singleFlightRefresh : Bool := false
  logLevel : String := "info"
  accessKey : String := ({} : CredentialKeys).access
  refreshKey : String := ({} : CredentialKeys).refresh
  deriving DecidableEq

/-- Why there is no configuration. -/
inductive ConfigError
  | unreadable (path : String) (error : IoError)
  | malformed (path : String)
  | invalidEndpoint (endpoint : String) (error : UrlError)
  | invalidTtl (path : String) (error : StoreError)
  deriving DecidableEq

namespace ConfigError

/-- The words for a failure. -/
def message : ConfigError → String
  | unreadable path _ => "Failed to read config from " ++ Quoted.path path
  | malformed path => "Failed to parse config from " ++ Quoted.path path
  | invalidEndpoint endpoint _ => "Invalid endpoint URL " ++ Quoted.text endpoint
  | invalidTtl path _ => "Invalid config in " ++ Quoted.path path

/-- The words for the failure behind a failure. -/
def cause : ConfigError → String
  | unreadable _ e => e.systemText
  | malformed _ => "not a TOML document of the expected fields"
  | invalidEndpoint _ e => e.message
  | invalidTtl _ e => "configuration error: credential_ttl_days: " ++ e.message

end ConfigError

namespace Settings

/-- A value of some type, as a document holds it. -/
def textOf? : Toml.Item → Option String
  | .value (.text s) => some s
  | _ => none

/-- A truth value, as a document holds it. -/
def truthOf? : Toml.Item → Option Bool
  | .value (.truth b) => some b
  | _ => none

/-- A whole number, as a document holds it. -/
def wholeOf? : Toml.Item → Option Int
  | .value (.whole n) => some n
  | _ => none

/-- A whole number that is not negative, as a document holds it. -/
def countOf? : Toml.Item → Option Nat
  | .value (.whole n) => if 0 ≤ n then some n.toNat else none
  | _ => none

/-- The value at a key of a document, or its default where the key is missing; a value of another
type is refused. -/
def field {α : Type} (t : Toml.Table) (key : String) (read : Toml.Item → Option α) (default : α) :
    Option α :=
  match t.find? key with
  | none => some default
  | some item => read item

/-- The settings of a document over defaults. Keys of no setting are passed over. -/
def ofTable? (defaults : Settings) (t : Toml.Table) : Option Settings := do
  return {
    endpoint := ← field t "endpoint" textOf? defaults.endpoint
    jarPath := ← field t "jar_path" textOf? defaults.jarPath
    preferKeyring := ← field t "prefer_keyring" truthOf? defaults.preferKeyring
    requestTimeoutSecs := ← field t "request_timeout_secs" countOf? defaults.requestTimeoutSecs
    credentialTtlDays := ← field t "credential_ttl_days" wholeOf? defaults.credentialTtlDays
    singleFlightRefresh := ← field t "single_flight_refresh" truthOf? defaults.singleFlightRefresh
    logLevel := ← field t "log_level" textOf? defaults.logLevel
    accessKey := ← field t "access_key" textOf? defaults.accessKey
    refreshKey := ← field t "refresh_key" textOf? defaults.refreshKey }

def line (key value : String) : String := key ++ " = " ++ value ++ "\n"

def truthText (b : Bool) : String := if b then "true" else "false"

def quoted (s : String) : String := String.ofList (Toml.writeString s.toList)

/-- The document that sets everything. -/
def document (s : Settings) : String :=
  line "endpoint" (quoted s.endpoint) ++ line "jar_path" (quoted s.jarPath)
    ++ line "prefer_keyring" (truthText s.preferKeyring)
    ++ line "request_timeout_secs" (toString s.requestTimeoutSecs)
    ++ line "credential_ttl_days" (toString s.credentialTtlDays)
    ++ line "single_flight_refresh" (truthText s.singleFlightRefresh)
    ++ line "log_level" (quoted s.logLevel) ++ line "access_key" (quoted s.accessKey)
    ++ line "refresh_key" (quoted s.refreshKey)

/-- The keys that credentials are stored under. -/
def keys (s : Settings) : CredentialKeys := ⟨s.accessKey, s.refreshKey⟩

end Settings

/-- Settings that a session can be built from: the endpoint is an address, and the time to live is
one that a store accepts. -/
structure Config where
  path : String
  settings : Settings
  endpoint : Url
  ttl : Span

namespace Config

/-- The configuration of settings that were read from a path. The endpoint is looked at first. -/
def ofSettings (path : String) (s : Settings) : Except ConfigError Config := do
  let endpoint ← (Url.parse s.endpoint).mapError (.invalidEndpoint s.endpoint)
  let ttl ← (ttlOfDays s.credentialTtlDays).mapError (.invalidTtl path)
  return ⟨path, s, endpoint, ttl⟩

/-- The settings of a file, or the defaults where there is no file. -/
def readSettings (defaults : Settings) (disk : Disk) (path : String) : Except ConfigError Settings :=
  if disk.exists? path then
    match disk.readText path with
    | .error e => .error (.unreadable path e)
    | .ok text =>
      match (Toml.read? text).bind (Settings.ofTable? defaults) with
      | some s => .ok s
      | none => .error (.malformed path)
  else .ok defaults

def load (defaults : Settings) (disk : Disk) (path : String) : Except ConfigError Config := do
  ofSettings path (← readSettings defaults disk path)

/-- The options of the sessions that a configuration asks for. -/
def options (c : Config) : SessionOptions := ⟨c.settings.keys, c.ttl, c.settings.singleFlightRefresh⟩

end Config

end BearerSession
