import BearerSession.Disk
import BearerSession.Json.Printer
import BearerSession.Store.Entry

namespace BearerSession

open Json (Value Reader ReadError required)

/-- What the file holds: the version of its format and the entries. -/
structure JarData where
  version : UInt32 := 1
  entries : SortedMap StoredEntry := .empty
  deriving DecidableEq

namespace JarData

/-- The data as a value. -/
def encode (d : JarData) : Value :=
  .object [("version", .whole (.ofUInt32 d.version)),
    ("entries", .object (d.entries.toList.map fun (key, e) => (key, e.encode)))]

/-- Data that are being read. -/
structure Draft where
  version : Option UInt32 := none
  entries : Option (SortedMap StoredEntry) := none

/-- The fields of the data. -/
def fields : List (Json.Field Draft) := [
  .of "version" false (·.version) (fun a d => { d with version := some a }) Json.readUInt32,
  .of "entries" false (·.entries) (fun a d => { d with entries := some a })
    (Json.readMap StoredEntry.read)]

def Draft.finish (d : Draft) : Except ReadError JarData := do
  return ⟨← required "version" d.version, ← required "entries" d.entries⟩

def read : Reader JarData := Json.readRecord "struct JarData" fields {} Draft.finish

def ofText (s : String) : Except ReadError JarData := Json.readText read (s.toList.map some)

/-- The data without the entries that have died. -/
def prune (d : JarData) (now : Instant) : JarData :=
  { d with entries := d.entries.filter fun e => e.2.isLive now }

end JarData

/-- A store over the file at a path. The file is read when the store is opened, and replaced as a
whole after every change. -/
structure FileJar where
  path : String
  data : JarData
  deriving DecidableEq

namespace FileJar

/-- Opens the store at a path, and makes the directories above it. A missing file counts as empty,
and is not written before the first change. -/
def openAt (path : String) (disk : Disk) : Except StoreError FileJar × Disk :=
  let parent := (Path.parent? path).getD ""
  match disk.makeDirectories parent with
  | .error e => (.error (.io parent e), disk)
  | .ok disk =>
    if disk.exists? path then
      match disk.readText path with
      | .error e => (.error (.io path e), disk)
      | .ok s =>
        match JarData.ofText s with
        | .error e => (.error (.unreadable e), disk)
        | .ok data => (.ok ⟨path, data⟩, disk)
    else (.ok ⟨path, {}⟩, disk)

/-- The rights on a saved file: its owner alone may read and write it. -/
def mode : Nat := 0o600

/-- Replaces the file. The entries that have died are gone even if this fails. -/
def save (jar : FileJar) (now : Instant) (disk : Disk) : Except StoreError Unit × FileJar × Disk :=
  let jar := { jar with data := jar.data.prune now }
  match disk.replaceFile jar.path jar.data.encode.pretty mode with
  | .ok disk => (.ok (), jar, disk)
  | .error e => (.error (.io jar.path e), jar, disk)

def get (jar : FileJar) (now : Instant) (key : String) : Option Secret :=
  liveValue now (jar.data.entries.get? key)

/-- Writes a value. -/
def set (jar : FileJar) (now : Instant) (key : String) (value : Secret) (ttl : Span) (disk : Disk) :
    Except StoreError Unit × FileJar × Disk :=
  let entries := jar.data.entries.insert key (.stamp value now ttl)
  save { jar with data := { jar.data with entries } } now disk

/-- Forgets a key. Nothing is written where there is nothing to forget. -/
def remove (jar : FileJar) (now : Instant) (key : String) (disk : Disk) :
    Except StoreError Unit × FileJar × Disk :=
  match jar.data.entries.get? key with
  | none => (.ok (), jar, disk)
  | some _ =>
    let entries := jar.data.entries.erase key
    save { jar with data := { jar.data with entries } } now disk

def debug (jar : FileJar) : String := "FileJarStore \x7b path: " ++ Quoted.path jar.path ++ " \x7d"

end FileJar

end BearerSession
