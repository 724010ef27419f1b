import BearerSession.Store.FileJar
import BearerSession.Store.Keyring
import BearerSession.Store.Memory
import BearerSession.Store.RequestJar

namespace BearerSession

/-- A credential store of any kind. -/
inductive AnyStore
  | memory (s : MemoryStore)
  | file (jar : FileJar)
  | request (jar : RequestJar)
  | keyring (k : Keyring)

/-- A machine: its disk and its vault. -/
structure Machine where
  disk : Disk
  vault : Vault

/-- The name of the vault's items for credentials. -/
def keyringName : String := "tokenward"

/-- Opens the jar at a path, or a store in memory where none is given. -/
def openJar (path : Option String) (machine : Machine) :
    Except StoreError AnyStore × Machine × List LogLine :=
  match path with
  | none => (.ok (.memory {}), machine, [⟨.debug, "Using in-memory credential storage"⟩])
  | some path =>
    let (result, disk) := FileJar.openAt path machine.disk
    (result.map AnyStore.file, { machine with disk },
      [⟨.debug, "Using credential jar at " ++ Quoted.path path⟩])

/-- Opens the vault if it is preferred and can be reached, and otherwise a jar. -/
def openPreferred (preferKeyring : Bool) (path : Option String) (machine : Machine) :
    Except StoreError AnyStore × Machine × List LogLine :=
  if preferKeyring then
    match Keyring.openAt keyringName machine.vault with
    | .ok k => (.ok (.keyring k), machine, [⟨.info, "Using OS keyring for credential storage"⟩])
    | .error e =>
      let (result, machine, lines) := openJar path machine
      (result, machine,
        ⟨.warn, "Keyring unavailable (" ++ e.message ++ "), falling back to credential jar"⟩
          :: lines)
  else openJar path machine

namespace AnyStore

/-- The value at a key. -/
def get (s : AnyStore) (now : Instant) (key : String) (machine : Machine) :
    Except StoreError (Option Secret) × AnyStore × Machine × List LogLine :=
  match s with
  | memory s => (.ok (s.get now key), memory s, machine, [])
  | file jar => (.ok (jar.get now key), file jar, machine, [])
  | request jar => (.ok (jar.get now key), request jar, machine, [])
  | keyring k =>
    let (result, vault, lines) := k.get now key machine.vault
    (result, keyring k, { machine with vault }, lines)

/-- Writes a value. -/
def set (s : AnyStore) (now : Instant) (key : String) (value : Secret) (ttl : Span)
    (machine : Machine) : Except StoreError Unit × AnyStore × Machine :=
  match s with
  | memory s => (.ok (), memory (s.set now key value ttl), machine)
  | file jar =>
    let (result, jar, disk) := jar.set now key value ttl machine.disk
    (result, file jar, { machine with disk })
  | request jar =>
    match jar.set now key value ttl with
    | .ok jar => (.ok (), request jar, machine)
    | .error e => (.error e, request jar, machine)
  | keyring k =>
    match k.set now key value ttl machine.vault with
    | .ok vault => (.ok (), keyring k, { machine with vault })
    | .error e => (.error e, keyring k, machine)

/-- Forgets a key. -/
def remove (s : AnyStore) (now : Instant) (key : String) (machine : Machine) :
    Except StoreError Unit × AnyStore × Machine :=
  match s with
  | memory s => (.ok (), memory (s.remove key), machine)
  | file jar =>
    let (result, jar, disk) := jar.remove now key machine.disk
    (result, file jar, { machine with disk })
  | request jar =>
    match jar.remove key with
    | .ok jar => (.ok (), request jar, machine)
    | .error e => (.error e, request jar, machine)
  | keyring k =>
    match k.remove key machine.vault with
    | .ok vault => (.ok (), keyring k, { machine with vault })
    | .error e => (.error e, keyring k, machine)

end AnyStore

end BearerSession
