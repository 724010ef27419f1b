import BearerSession.SortedMap
import BearerSession.Store.Error
import BearerSession.Text.Characters
import BearerSession.Text.Utf8

namespace BearerSession

/-- What a path may lead to. -/
inductive DiskNode
  | file (content : Content) (mode : Nat)
  | directory
  deriving DecidableEq

/-- The names of the directories from the root down, and of what they lead to. -/
abbrev Location := List String

/-- Directories and files by their location, and the directory that relative paths start from. -/
structure Disk where
  base : Location
  nodes : SortedMap DiskNode
  deriving DecidableEq

namespace Path

def parts (path : String) : List (List Char) := splitAll '/' path.toList

def isAbsolute (path : String) : Bool := path.toList.head? = some '/'

/-- Whether a part of a path leads anywhere. -/
def isStep (part : List Char) : Bool := part ≠ [] && part ≠ ['.']

/-- Whether a path can only lead to a directory. -/
def namesDirectory (path : String) : Bool :=
  match (parts path).getLast? with
  | some part => !isStep part || part = ['.', '.']
  | none => true

/-- Takes a step from a location; two dots lead back up. -/
def step (start : Location) (part : List Char) : Location :=
  if part = ['.', '.'] then start.dropLast else start ++ [String.ofList part]

def steps (path : String) : List (List Char) := (parts path).filter isStep

/-- Where the first step of a path is taken from. -/
def start (base : Location) (path : String) : Location := if isAbsolute path then [] else base

/-- The location that a path leads to from a base. -/
def resolve (base : Location) (path : String) : Location :=
  (steps path).foldl step (start base path)

/-- A path without the slashes and single dots at its end, given in reverse. -/
def strip : Nat → List Char → List Char
  | 0, cs => cs
  | fuel + 1, cs =>
    match cs with
    | ['/'] => ['/']
    | '/' :: rest => strip fuel rest
    | '.' :: '/' :: rest => strip fuel ('/' :: rest)
    | cs => cs

/-- The path of the directory that holds what a path leads to; the root and the empty path have
none. -/
def parent? (path : String) : Option String :=
  let cs := strip path.length path.toList.reverse
  if cs = [] || cs = ['/'] then none
  else
    match cs.dropWhile (· ≠ '/') with
    | [] => some ""
    | up => some (String.ofList (strip path.length up).reverse)

end Path

namespace Disk

def key (l : Location) : String := String.join (l.map fun name => "/" ++ name)

/-- What stands at a location; the root is a directory. -/
def at? (d : Disk) (l : Location) : Option DiskNode :=
  if l = [] then some .directory else d.nodes.get? (key l)

/-- Takes a step, which needs a directory to start from. -/
def takeStep (d : Disk) (l : Location) (part : List Char) : Except IoError Location :=
  match d.at? l with
  | some .directory => .ok (Path.step l part)
  | some (.file _ _) => .error .notADirectory
  | none => .error .notFound

/-- The location that a path leads to, if all steps can be taken. -/
def follow (d : Disk) (path : String) : Except IoError Location :=
  (Path.steps path).foldlM d.takeStep (Path.start d.base path)

/-- What a path leads to. -/
def look (d : Disk) (path : String) : Except IoError DiskNode := do
  if path.isEmpty then .error .notFound
  else
    match d.at? (← d.follow path) with
    | none => .error .notFound
    | some .directory => return .directory
    | some (.file content mode) =>
      if Path.namesDirectory path then .error .notADirectory else return .file content mode

/-- Whether a path leads anywhere. -/
def exists? (d : Disk) (path : String) : Bool :=
  match d.look path with
  | .ok _ => true
  | .error _ => false

/-- The text of the file that a path leads to. -/
def readText (d : Disk) (path : String) : Except IoError String := do
  match ← d.look path with
  | .directory => .error .isADirectory
  | .file content _ =>
    match content.text? with
    | some s => return s
    | none => .error .invalidData

def put (d : Disk) (l : Location) (n : DiskNode) : Disk := { d with nodes := d.nodes.insert (key l) n }

/-- Makes the directories that steps lead to from a location where they are missing. -/
def makeSteps (d : Disk) (l : Location) : List (List Char) → Except IoError Disk
  | [] => .ok d
  | part :: parts =>
    let l := Path.step l part
    match d.at? l with
    | some .directory => makeSteps d l parts
    | none => makeSteps (d.put l .directory) l parts
    | some (.file _ _) => .error (if parts.isEmpty then .alreadyExists else .notADirectory)

/-- Makes a directory and those above it where they are missing. -/
def makeDirectories (d : Disk) (path : String) : Except IoError Disk :=
  d.makeSteps (Path.start d.base path) (Path.steps path)

/-- Puts a file in the place that a path names, whatever file stood there. It is written beside
its place and then moved, so that it is there as a whole or not at all. -/
def replaceFile (d : Disk) (path : String) (content : String) (mode : Nat) : Except IoError Disk := do
  let parent := (Path.parent? path).getD ""
  match ← d.look (if parent.isEmpty then "." else parent) with
  | .file _ _ => .error .notADirectory
  | .directory =>
    if path.isEmpty then .error .notFound
    else
      let l := Path.resolve d.base path
      match d.at? l with
      | some .directory => .error .isADirectory
      | some (.file _ _) =>
        if Path.namesDirectory path then .error .notADirectory
        else return d.put l (.file (.text content) mode)
      | none =>
        if Path.namesDirectory path then .error .notADirectory
        else return d.put l (.file (.text content) mode)

/-- Takes away what a path leads to, with all below it. -/
def erase (d : Disk) (path : String) : Disk :=
  let k := key (Path.resolve d.base path)
  { d with nodes := d.nodes.filter fun e => e.1 ≠ k && !(e.1.startsWith (k ++ "/")) }

/-- A disk with nothing but the directory that relative paths start from. -/
def blank (base : Location) : Disk :=
  let d : Disk := ⟨base, .empty⟩
  match d.makeSteps [] (base.map String.toList) with
  | .ok d => d
  | .error _ => d

end Disk

end BearerSession
