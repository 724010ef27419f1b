import BearerSession.Secret
import BearerSession.Json.Printer

namespace BearerSession

open Json (Value Reader ReadError required)

/-- The token type of a grant that names none. -/
def defaultTokenType : String := "Bearer"

/-- A new access credential. -/
structure AccessGrant where
  access : Secret
  tokenType : String
  deriving DecidableEq

/-- Both credentials, as a login grants them. -/
structure TokenPair where
  access : Secret
  refresh : Secret
  tokenType : String
  deriving DecidableEq

/-- The store keys of the two credentials. -/
structure CredentialKeys where
  access : String := "accessToken"
  refresh : String := "refreshToken"
  deriving DecidableEq

namespace AccessGrant

def encode (g : AccessGrant) : Value :=
  .object [("accessToken", g.access.encode), ("tokenType", .string g.tokenType)]

/-- A grant that is being read. -/
structure Draft where
  access : Option Secret := none
  tokenType : Option String := none

/-- The fields of a grant. -/
def fields : List (Json.Field Draft) := [
  .of "accessToken" false (·.access) (fun a d => { d with access := some a }) Secret.read,
  .of "tokenType" true (·.tokenType) (fun a d => { d with tokenType := some a }) Json.readString]

def Draft.finish (d : Draft) : Except ReadError AccessGrant := do
  return ⟨← required "accessToken" d.access, d.tokenType.getD defaultTokenType⟩

def read : Reader AccessGrant := Json.readRecord "struct AccessGrant" fields {} Draft.finish

end AccessGrant

namespace TokenPair

/-- A pair as a value. -/
def encode (p : TokenPair) : Value :=
  .object [("accessToken", p.access.encode), ("refreshToken", p.refresh.encode),
    ("tokenType", .string p.tokenType)]

/-- A pair that is being read. -/
structure Draft where
  access : Option Secret := none
  refresh : Option Secret := none
  tokenType : Option String := none

/-- The fields of a pair. -/
def fields : List (Json.Field Draft) := [
  .of "accessToken" false (·.access) (fun a d => { d with access := some a }) Secret.read,
  .of "refreshToken" false (·.refresh) (fun a d => { d with refresh := some a }) Secret.read,
  .of "tokenType" true (·.tokenType) (fun a d => { d with tokenType := some a }) Json.readString]

/-- A pair needs both credentials. -/
def Draft.finish (d : Draft) : Except ReadError TokenPair := do
  return ⟨← required "accessToken" d.access, ← required "refreshToken" d.refresh,
    d.tokenType.getD defaultTokenType⟩

def read : Reader TokenPair := Json.readRecord "struct TokenPair" fields {} Draft.finish

/-- A pair as it may be shown. -/
def debug (p : TokenPair) : String :=
  "TokenPair " ++ String.singleton (Char.ofNat 0x7B) ++ " access_token: " ++ Secret.debug
    ++ ", refresh_token: " ++ Secret.debug ++ ", token_type: " ++ Quoted.text p.tokenType ++ " "
    ++ String.singleton (Char.ofNat 0x7D)

end TokenPair

namespace CredentialKeys

def encode (k : CredentialKeys) : Value :=
  .object [("access", .string k.access), ("refresh", .string k.refresh)]

/-- Keys that are being read. -/
structure Draft where
  access : Option String := none
  refresh : Option String := none

/-- The fields of the keys. -/
def fields : List (Json.Field Draft) := [
  .of "access" false (·.access) (fun a d => { d with access := some a }) Json.readString,
  .of "refresh" false (·.refresh) (fun a d => { d with refresh := some a }) Json.readString]

def Draft.finish (d : Draft) : Except ReadError CredentialKeys := do
  return ⟨← required "access" d.access, ← required "refresh" d.refresh⟩

def read : Reader CredentialKeys := Json.readRecord "struct CredentialKeys" fields {} Draft.finish

end CredentialKeys

end BearerSession
