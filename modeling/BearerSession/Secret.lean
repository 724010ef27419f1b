import BearerSession.Json.Reader

namespace BearerSession

/-- A text that is shown only on request. -/
structure Secret where
  expose : String
  deriving DecidableEq

namespace Secret

/-- What is shown in place of any secret. -/
def display : String := "[REDACTED]"

/-- What is shown in place of any secret among other data. -/
def debug : String := "Secret([REDACTED])"

/-- What is shown in place of any secret that may be absent, over indented lines. -/
def debugOptional : String := "Some(\n    " ++ debug ++ ",\n)"

def encode (s : Secret) : Json.Value := .string s.expose

def read : Json.Reader Secret := fun origin v => (Json.readString origin v).map Secret.mk

end Secret

end BearerSession
