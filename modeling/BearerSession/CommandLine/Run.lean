import BearerSession.CommandLine.Arguments
import BearerSession.CommandLine.Shell
import BearerSession.Config

namespace BearerSession.CommandLine

open GraphQL (Request Transport)

/-- What the run of the client depends on. -/
structure Setting where
  arguments : List String
  lookUp : String → Option String
  input : String
  clock : Instant
  transport : Transport Work

/-- What a run of the client comes to. -/
structure Outcome where
  exit : Nat
  output : String
  complaints : String
  disk : Disk

def usage : String :=
  "Usage: tokenward [OPTIONS] <COMMAND>

Commands:
  login EMAIL [--password PASSWORD]   Log in and store both credentials
  status                              Show whether credentials are stored
  query FILE [--variables JSON]       Send a query and print its data
  refresh                             Exchange the refresh credential
  logout                              Clear the stored credentials

Options:
  -v, --verbose
  -c, --config PATH
  -h, --help
  -V, --version
"

def version : String := "tokenward 0.1.0\n"

/-- A failure and what caused it, over indented lines. -/
def report (f : Failure) : String :=
  match f with
  | [] => "Error\n"
  | [message] => "Error: " ++ message ++ "\n"
  | [message, cause] => "Error: " ++ message ++ "\n\nCaused by:\n    " ++ cause ++ "\n"
  | message :: causes =>
    "Error: " ++ message ++ "\n\nCaused by:\n"
      ++ String.join (causes.zipIdx.map fun (cause, n) =>
        "    " ++ toString n ++ ": " ++ cause ++ "\n")

/-- The failure of a store and what is behind it. -/
def storeFailure (e : StoreError) : Failure :=
  e.messageWith IoError.systemText :: e.sourcesWith IoError.systemText

/-- The variable that holds the password. -/
def passwordVariable : String := "TOKENWARD_PASSWORD"

/-- Logs in. -/
def login (s : Session Work) (email : String) (password : Option String) :
    Work (Except Failure Unit) := do
  match password with
  | none => return .error ["No password given; pass --password or set " ++ passwordVariable]
  | some password =>
    match ← s.login email ⟨password⟩ with
    | .ok _ =>
      Work.print ("Logged in as " ++ email)
      return .ok ()
    | .error e => return .error (("Login as " ++ email ++ " failed") :: e.message :: e.sources)

/-- Tells whether credentials are stored. -/
def status (s : Session Work) : Work (Except Failure Unit) := do
  match ← s.isAuthenticated with
  | .error e => return .error ("Failed to read credential store" :: storeFailure e)
  | .ok true =>
    Work.print ("Authenticated against " ++ s.destination.href)
    return .ok ()
  | .ok false =>
    Work.print "Not authenticated"
    return .ok ()

/-- The text of a query: that of a file, or the input where a dash is given. -/
def queryText (input : String) (disk : Disk) (file : String) : Except Failure String :=
  if file = "-" then .ok input
  else (disk.readText file).mapError fun e => ["Failed to read query from " ++ file, e.systemText]

/-- The variables of a query. -/
def queryVariables (variableValues : Option String) : Except Failure (Option Json.Value) :=
  match variableValues with
  | none => .ok none
  | some text =>
    ((Json.readText Json.readValue (text.toList.map some)).map some).mapError fun e =>
      ["Variables are not valid JSON", e.message]

/-- The request of a query; its text is looked at before its variables. -/
def queryRequest (input : String) (disk : Disk) (file : String) (variableValues : Option String) :
    Except Failure Request := do
  let query ← queryText input disk file
  let variableValues ← queryVariables variableValues
  return { query, variableValues }

/-- Sends a query and prints the data of its answer. -/
def query (s : Session Work) (input : String) (file : String) (variableValues : Option String) :
    Work (Except Failure Unit) := do
  match queryRequest input (← get).machine.disk file variableValues with
  | .error f => return .error f
  | .ok request =>
    match ← s.request request with
    | .error e => return .error ("Query failed" :: e.message :: e.sources)
    | .ok data =>
      Work.print (data.getD .null).pretty
      return .ok ()

/-- Exchanges the refresh credential. -/
def refresh (s : Session Work) : Work (Except Failure Unit) := do
  match ← s.refresh with
  | .ok _ =>
    Work.print "Access token refreshed"
    return .ok ()
  | .error .missingRefreshToken =>
    return .error ["Not logged in; run " ++ Json.backquoted "tokenward login <email>"]
  | .error e => return .error ("Refresh failed" :: e.message :: e.sources)

def logout (s : Session Work) : Work (Except Failure Unit) := do
  return (← s.logout).mapError fun e => "Failed to clear credentials" :: storeFailure e

/-- The session that a configuration asks for. -/
def session (transport : Transport Work) (config : Config) : Session Work where
  transport := transport
  destination := config.endpoint
  store := Work.store
  log := Work.log
  redirect := Work.complain
    ("Signed out. Run " ++ Json.backquoted "tokenward login <email>" ++ " to sign in again.")
  keys := config.options.keys
  ttl := config.options.ttl
  gate := none

/-- Runs a command. -/
def perform (setting : Setting) (s : Session Work) : Command → Work (Except Failure Unit)
  | .login email password => login s email (password.or (setting.lookUp passwordVariable))
  | .status => status s
  | .query file variableValues => query s setting.input file variableValues
  | .refresh => refresh s
  | .logout => logout s

/-- What a run comes to that fails before its command. -/
def failed (disk : Disk) (f : Failure) : Outcome := ⟨1, "", report f, disk⟩

/-- Runs a command with a configuration: opens the store, and then performs the command. -/
def runWith (setting : Setting) (config : Config) (command : Command) (disk : Disk) : Outcome :=
  let jarPath := config.settings.jarPath
  let (opened, machine, _) := openPreferred config.settings.preferKeyring (some jarPath) ⟨disk, {}⟩
  match opened with
  | .error e =>
    failed machine.disk
      (("Failed to open credential store at " ++ Quoted.path jarPath) :: storeFailure e)
  | .ok store =>
    let shell : Shell := { clock := setting.clock, store, machine }
    let (result, shell) := (perform setting (session setting.transport config) command).run shell
    match result with
    | .ok () => ⟨0, shell.output, shell.complaints, shell.machine.disk⟩
    | .error f => ⟨1, shell.output, shell.complaints ++ report f, shell.machine.disk⟩

/-- Runs the client on a disk. The arguments are looked at first, then the configuration. -/
def run (setting : Setting) (disk : Disk) : Outcome :=
  match read setting.arguments with
  | .error .help => ⟨0, usage, "", disk⟩
  | .error .version => ⟨0, version, "", disk⟩
  | .error .misuse => ⟨2, "", usage, disk⟩
  | .ok invocation =>
    let places := Places.ofEnvironment setting.lookUp
    let path := invocation.config.getD places.configPath
    match Config.load { jarPath := places.jarPath } disk path with
    | .error e => failed disk [e.message, e.cause]
    | .ok config => runWith setting config invocation.command disk

end BearerSession.CommandLine
