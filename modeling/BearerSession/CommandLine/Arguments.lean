namespace BearerSession.CommandLine

/-- An option. -/
inductive Flag
  | verbose
  | config
  | help
  | version
  | password
  | variableValues
  deriving DecidableEq

namespace Flag

/-- The name of an option behind two dashes. -/
def long : Flag → String
  | verbose => "verbose"
  | config => "config"
  | help => "help"
  | version => "version"
  | password => "password"
  | variableValues => "variables"

/-- The letter of an option behind one dash. -/
def short? : Flag → Option Char
  | verbose => some 'v'
  | config => some 'c'
  | help => some 'h'
  | version => some 'V'
  | _ => none

/-- Whether an option has a value. -/
def hasValue : Flag → Bool
  | config => true
  | password => true
  | variableValues => true
  | _ => false

/-- Whether a text can be the value of an option; a path is not empty. -/
def accepts (flag : Flag) (value : String) : Bool := flag ≠ config || !value.isEmpty

end Flag

/-- What ends the reading of arguments early. -/
inductive Stop
  | help
  | version
  | misuse
  deriving DecidableEq

/-- What was read so far at one level: the options, with their values, and the words. -/
structure Draft where
  flags : List (Flag × String) := []
  words : List String := []

namespace Draft

def has (d : Draft) (flag : Flag) : Bool := d.flags.any (·.1 = flag)

def value? (d : Draft) (flag : Flag) : Option String :=
  (d.flags.find? (·.1 = flag)).map (·.2)

/-- Notes an option, which may be given once. -/
def give (d : Draft) (flag : Flag) (value : String) : Except Stop Draft :=
  if d.has flag || !flag.accepts value then .error .misuse
  else .ok { d with flags := d.flags ++ [(flag, value)] }

/-- Notes an option without a value. -/
def raise (d : Draft) (flag : Flag) : Except Stop Draft :=
  match flag with
  | .help => .error .help
  | .version => .error .version
  | flag => d.give flag ""

end Draft

/-- What a level of the command line takes: options, and how many words. -/
structure Level where
  flags : List Flag
  words : Nat

namespace Level

def named? (l : Level) (name : String) : Option Flag := l.flags.find? (·.long = name)

def lettered? (l : Level) (letter : Char) : Option Flag := l.flags.find? (·.short? = some letter)

/-- Whether an argument is no word: it starts with a dash, and is more than that. -/
def isDashed (argument : String) : Bool := argument.startsWith "-" && argument ≠ "-"

/-- Reads letters behind one dash. What follows the letter of an option with a value is its value,
and if nothing follows, the next argument is. -/
def readLetters (l : Level) (d : Draft) : List Char → Except Stop (Draft × Option Flag)
  | [] => .ok (d, none)
  | letter :: letters =>
    match l.lettered? letter with
    | none => .error .misuse
    | some flag =>
      if flag.hasValue then
        match letters with
        | [] => .ok (d, some flag)
        | '=' :: value => do return (← d.give flag (String.ofList value), none)
        | value => do return (← d.give flag (String.ofList value), none)
      else do readLetters l (← d.raise flag) letters

/-- Reads a name behind two dashes, with its value behind an equals sign if there is one. -/
def readName (l : Level) (d : Draft) (argument : List Char) : Except Stop (Draft × Option Flag) :=
  let name := argument.takeWhile (· ≠ '=')
  match l.named? (String.ofList name), argument.drop name.length with
  | none, _ => .error .misuse
  | some flag, _ :: value =>
    if flag.hasValue then do return (← d.give flag (String.ofList value), none)
    else .error .misuse
  | some flag, [] => if flag.hasValue then .ok (d, some flag) else do return (← d.raise flag, none)

/-- Notes a word, if the level takes another. -/
def addWord (l : Level) (d : Draft) (word : String) : Except Stop Draft :=
  if d.words.length < l.words then .ok { d with words := d.words ++ [word] } else .error .misuse

/-- Reads the arguments of a level, of which an option may wait for its value. Gives what follows
the first word of a level that takes none. -/
def read (l : Level) (d : Draft) (waiting : Option Flag) :
    List String → Except Stop (Draft × List String)
  | [] => if waiting.isSome then .error .misuse else .ok (d, [])
  | argument :: rest =>
    match waiting with
    | some flag =>
      if isDashed argument then .error .misuse
      else do read l (← d.give flag argument) none rest
    | none =>
      match argument.toList with
      | ['-', '-'] => do return (← rest.foldlM l.addWord d, [])
      | '-' :: '-' :: name => do
        let (d, waiting) ← l.readName d name
        read l d waiting rest
      | '-' :: letter :: letters => do
        let (d, waiting) ← l.readLetters d (letter :: letters)
        read l d waiting rest
      | _ =>
        if l.words = 0 then .ok (d, argument :: rest) else do read l (← l.addWord d argument) none rest

end Level

/-- A command. -/
inductive Command
  | login (email : String) (password : Option String)
  | status
  | query (file : String) (variableValues : Option String)
  | refresh
  | logout
  deriving DecidableEq

/-- What the command line asks for. -/
structure Invocation where
  verbose : Bool
  config : Option String
  command : Command
  deriving DecidableEq

/-- The options before a command. -/
def outer : Level := ⟨[.verbose, .config, .help, .version], 0⟩

/-- What a command takes, by its name. -/
def level? (name : String) : Option Level :=
  let shared : List Flag := [.verbose, .config, .help]
  if name = "login" then some ⟨.password :: shared, 1⟩
  else if name = "query" then some ⟨.variableValues :: shared, 1⟩
  else if name = "status" || name = "refresh" || name = "logout" then some ⟨shared, 0⟩
  else none

/-- The command of a name, its options and its words. -/
def command? (name : String) (d : Draft) : Option Command :=
  match name, d.words with
  | "login", [email] => some (.login email (d.value? .password))
  | "query", [file] => some (.query file (d.value? .variableValues))
  | "status", [] => some .status
  | "refresh", [] => some .refresh
  | "logout", [] => some .logout
  | _, _ => none

/-- Reads the arguments. An option that may stand at both places counts behind the command. -/
def read (arguments : List String) : Except Stop Invocation := do
  let (before, rest) ← outer.read {} none arguments
  match rest with
  | [] => .error .misuse
  | name :: rest =>
    if name = "help" then .error .help
    else
      match level? name with
      | none => .error .misuse
      | some l =>
        let (behind, rest) ← l.read {} none rest
        match rest, command? name behind with
        | [], some command =>
          return ⟨before.has .verbose || behind.has .verbose,
            (behind.value? .config).or (before.value? .config), command⟩
        | _, _ => .error .misuse

end BearerSession.CommandLine
