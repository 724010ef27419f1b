import BearerSession.Json.Printer
import BearerSession.Store.Basic
import BearerSession.Text.Utf8

namespace BearerSession

/-- Why the vault refuses a call. -/
inductive VaultError
  | noEntry
  | noAccess
  | badEncoding
  | tooLong
  | invalid
  | ambiguous
  | platform
  deriving DecidableEq, Repr

/-- The words for a refusal. -/
def VaultError.text : VaultError → String
  | noEntry => "No matching entry found in secure storage"
  | noAccess => "Couldn't access platform secure storage: locked"
  | badEncoding => "Data is not UTF-8 encoded"
  | tooLong => "Attribute 'service' is longer than platform limit of 3 chars"
  | invalid => "Attribute user is invalid: bad"
  | ambiguous => "Entry is matched by 0 credentials: []"
  | platform => "Platform secure storage failure: dbus down"

/-- The calls of a vault. -/
inductive VaultCall
  | new
  | get
  | set
  | delete
  deriving DecidableEq, Repr

/-- A call that the vault refuses for one service. -/
structure VaultFault where
  call : VaultCall
  service : String
  error : VaultError
  deriving DecidableEq

/-- The items of a vault by their service, and the calls that it refuses. -/
structure Vault where
  items : SortedMap Content := .empty
  faults : List VaultFault := []
  deriving DecidableEq

namespace Vault

/-- The refusal of a call, if there is one. -/
def permit (v : Vault) (call : VaultCall) (service : String) : Except VaultError Unit :=
  match v.faults.find? fun f => f.call = call && f.service = service with
  | some f => .error f.error
  | none => .ok ()

/-- The text of an item. -/
def get (v : Vault) (service : String) : Except VaultError String := do
  v.permit .get service
  match v.items.get? service with
  | none => .error .noEntry
  | some content =>
    match content.text? with
    | some s => return s
    | none => .error .badEncoding

/-- Writes an item. -/
def set (v : Vault) (service : String) (text : String) : Except VaultError Vault := do
  v.permit .set service
  return { v with items := v.items.insert service (.text text) }

/-- Deletes an item. -/
def delete (v : Vault) (service : String) : Except VaultError Vault := do
  v.permit .delete service
  match v.items.get? service with
  | none => .error .noEntry
  | some _ => return { v with items := v.items.erase service }

end Vault

/-- A store over the items of a vault whose services start with a name. The vault knows no time to
live, so that each item is an entry in writing. -/
structure Keyring where
  name : String
  deriving DecidableEq

namespace Keyring

def user : String := "tokenward"

/-- The service of the item for a key. -/
def service (k : Keyring) (key : String) : String := k.name ++ "/" ++ key

/-- Opens the store, if the vault can be reached. -/
def openAt (name : String) (vault : Vault) : Except StoreError Keyring :=
  match vault.permit .new (name ++ "/__probe__") with
  | .ok () => .ok ⟨name⟩
  | .error e => .error (.keyringUnavailable ("keyring backend not available: " ++ e.text))

/-- Reaches for the item of a key. -/
def entry (k : Keyring) (key : String) (vault : Vault) : Except StoreError String :=
  match vault.permit .new (k.service key) with
  | .ok () => .ok (k.service key)
  | .error e => .error (.backend ("failed to create keyring entry: " ++ e.text))

/-- The text of the item for a key, if there is one. -/
def readItem (k : Keyring) (key : String) (vault : Vault) : Except StoreError (Option String) := do
  let service ← k.entry key vault
  match vault.get service with
  | .ok s => return some s
  | .error .noEntry => return none
  | .error .ambiguous => .error (.backend ("ambiguous keyring entry for key: " ++ key))
  | .error e => .error (.backend ("keyring error: " ++ e.text))

/-- Deletes the item for a key; one that is missing counts as deleted. -/
def deleteItem (k : Keyring) (key : String) (vault : Vault) (failure : String) :
    Except StoreError Vault :=
  match vault.delete (k.service key) with
  | .ok vault => .ok vault
  | .error .noEntry => .ok vault
  | .error e => .error (.backend (failure ++ e.text))

/-- The entry of a text. -/
def readEntry (s : String) : Except StoreError StoredEntry :=
  match Json.readText StoredEntry.read (s.toList.map some) with
  | .ok e => .ok e
  | .error e => .error (.unreadable e)

/-- The value at a key, if one lives, the vault after that, and what is logged. -/
def get (k : Keyring) (now : Instant) (key : String) (vault : Vault) :
    Except StoreError (Option Secret) × Vault × List LogLine :=
  match k.readItem key vault with
  | .error e => (.error e, vault, [])
  | .ok none => (.ok none, vault, [])
  | .ok (some s) =>
    match readEntry s with
    | .error e => (.error e, vault, [])
    | .ok e =>
      if e.isLive now then (.ok (some e.value), vault, [])
      else
        let lines := [⟨.debug, "Keyring entry " ++ key ++ " expired, deleting"⟩]
        match k.deleteItem key vault "failed to delete expired keyring entry: " with
        | .ok vault => (.ok none, vault, lines)
        | .error e => (.error e, vault, lines)

/-- Writes a value. -/
def set (k : Keyring) (now : Instant) (key : String) (value : Secret) (ttl : Span)
    (vault : Vault) : Except StoreError Vault := do
  let service ← k.entry key vault
  match vault.set service (StoredEntry.stamp value now ttl).encode.text with
  | .ok vault => return vault
  | .error e => .error (.backend ("failed to set keyring password: " ++ e.text))

/-- Forgets a key. -/
def remove (k : Keyring) (key : String) (vault : Vault) : Except StoreError Vault := do
  let _ ← k.entry key vault
  k.deleteItem key vault "failed to delete keyring entry: "

def debug (k : Keyring) : String :=
  "KeyringStore \x7b service_name: " ++ Quoted.text k.name ++ " \x7d"

end Keyring

end BearerSession
