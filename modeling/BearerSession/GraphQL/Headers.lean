import BearerSession.SortedMap

namespace BearerSession

/-- A set of headers, which may hold several spellings of one name. -/
abbrev Headers := SortedMap String

namespace Headers

/-- A name without the case of its ASCII letters. -/
def fold (name : String) : List Char := name.toList.map Char.toLower

/-- Whether two spellings are of one name. -/
def sameName (a b : String) : Bool := fold a = fold b

/-- Lays one set over another: of the lower set only names that the upper one has in no spelling
remain. -/
def overlay (base upper : Headers) : Headers :=
  (base.filter fun e => !upper.keys.any (sameName e.1)).union upper

end Headers

end BearerSession
