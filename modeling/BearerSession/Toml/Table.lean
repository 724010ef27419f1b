import BearerSession.Toml.Scalar

namespace BearerSession.Toml

/-- How a table came to be. -/
inductive Opening
  /-- By its own header. -/
  | header
  /-- By the header of a table in it. -/
  | implied
  /-- By a key with dots. -/
  | dotted
  deriving DecidableEq

/-- What a key leads to. Of a list of tables only the last can still be filled. -/
inductive Item
  | value (v : Value)
  | table (opening : Opening) (entries : List (String × Item))
  | tables (last : List (String × Item))

/-- Keys and what they lead to, in the order of the document. -/
abbrev Table := List (String × Item)

namespace Table

/-- What a key leads to. -/
def find? (key : String) : Table → Option Item
  | [] => none
  | entry :: rest => if entry.1 = key then some entry.2 else find? key rest

/-- Sets what a key leads to, at its place if it has one. -/
def put (key : String) (item : Item) : Table → Table
  | [] => [(key, item)]
  | entry :: rest => if entry.1 = key then (key, item) :: rest else entry :: put key item rest

/-- Gives a key a value. The keys before it open tables with dots. -/
def assign (key : String) (v : Value) : List String → Table → Option Table
  | [], t =>
    match t.find? key with
    | none => some (t.put key (.value v))
    | some _ => none
  | step :: path, t =>
    match t.find? step with
    | none => (assign key v path []).map fun inner => t.put step (.table .dotted inner)
    | some (.value _) => none
    | some (.tables last) =>
      if path.isEmpty then none
      else (assign key v path last).map fun last => t.put step (.tables last)
    | some (.table opening inner) =>
      if opening = .header || (path.isEmpty && opening ≠ .dotted) then none
      else (assign key v path inner).map fun inner => t.put step (.table opening inner)

/-- Opens a table by its header, or adds one to a list of tables. A table is opened at one place
only: by its own header, or by keys with dots. -/
def declare (listed : Bool) : List String → Table → Option Table
  | [], _ => none
  | [key], t =>
    match listed, t.find? key with
    | false, none => some (t.put key (.table .header []))
    | false, some (.table .implied inner) => some (t.put key (.table .header inner))
    | true, none => some (t.put key (.tables []))
    | true, some (.tables _) => some (t.put key (.tables []))
    | _, _ => none
  | step :: path, t =>
    match t.find? step with
    | none => (declare listed path []).map fun inner => t.put step (.table .implied inner)
    | some (.value _) => none
    | some (.tables last) => (declare listed path last).map fun last => t.put step (.tables last)
    | some (.table opening inner) =>
      (declare listed path inner).map fun inner => t.put step (.table opening inner)

/-- Changes the table that headers lead to. -/
def modify (change : Table → Option Table) : List String → Table → Option Table
  | [], t => change t
  | step :: path, t =>
    match t.find? step with
    | some (.table opening inner) =>
      (modify change path inner).map fun inner => t.put step (.table opening inner)
    | some (.tables last) => (modify change path last).map fun last => t.put step (.tables last)
    | _ => none

end Table

end BearerSession.Toml
