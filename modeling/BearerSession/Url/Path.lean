import BearerSession.Text.Characters
import BearerSession.Url.Percent

namespace BearerSession

/-- What follows the scheme of an address. -/
inductive UrlPath
  /-- Segments behind slashes, perhaps behind a host. -/
  | segments (names : List String)
  /-- A text that is no path. -/
  | flat (text : String)
  deriving DecidableEq, Repr

namespace UrlPath

/-- The text of a path. -/
def text : UrlPath → String
  | segments names => String.join (names.map ("/" ++ ·))
  | flat text => text

/-- Whether the text of a path begins with two slashes, as a host would. -/
def looksHosted : UrlPath → Bool
  | segments ("" :: _ :: _) => true
  | _ => false

/-- Whether a segment leads nowhere. -/
def isSingleDot (cs : List Char) : Bool :=
  cs = ['.'] || cs.map Char.toLower = ['%', '2', 'e']

/-- Whether a segment leads back up. -/
def isDoubleDot (cs : List Char) : Bool :=
  let cs := cs.map Char.toLower
  cs = ['.', '.'] || cs = ['.', '%', '2', 'e'] || cs = ['%', '2', 'e', '.']
    || cs = ['%', '2', 'e', '%', '2', 'e']

/-- Whether a text begins with a letter and a colon or a bar, and nothing but a backslash follows. -/
def beginsWithDrive : List Char → Bool
  | [letter, mark] => letter.isAlpha && (mark = ':' || mark = '|')
  | letter :: mark :: next :: _ => letter.isAlpha && (mark = ':' || mark = '|') && next = '\\'
  | _ => false

/-- Whether a text is a letter and a colon or a bar. -/
def isDrive (cs : List Char) : Bool := cs.length = 2 && beginsWithDrive cs

/-- The path above the last segment; a drive is never left. -/
def leave (names : List String) : List String :=
  if names.getLast?.any fun name => beginsWithDrive name.toList then names else names.dropLast

/-- The path below. The drive at the front of a path of a file is written with a colon. -/
def enter (ofFile : Bool) (names : List String) (segment : List Char) : List String :=
  if ofFile && names.isEmpty && isDrive segment then [String.ofList (segment.take 1 ++ [':'])]
  else names ++ [String.ofList (Percent.encode Percent.inPath segment)]

/-- Takes the segments of a path one by one, and resolves those that are dots. -/
def resolve (ofFile : Bool) (names : List String) : List (List Char) → List String
  | [] => names
  | [last] =>
    if isDoubleDot last then leave names ++ [""]
    else if isSingleDot last then names ++ [""]
    else enter ofFile names last
  | next :: rest =>
    if isDoubleDot next then resolve ofFile (leave names) rest
    else if isSingleDot next then resolve ofFile names rest
    else resolve ofFile (enter ofFile names next) rest

/-- Whether a character is a slash for a scheme. -/
def isSlash (special : Bool) (c : Char) : Bool := c = '/' || (special && c = '\\')

/-- The parts of a path between slashes; the slash in front of the first is left out. -/
def split (special : Bool) (cs : List Char) : List (List Char) :=
  let cs := cs.map fun c => if isSlash special c then '/' else c
  splitAll '/' (if cs.head? = some '/' then cs.drop 1 else cs)

/-- The path of an address whose scheme has no files. One that leads to a domain has at least one
segment. -/
def read (special : Bool) (cs : List Char) : UrlPath :=
  if cs.isEmpty && !special then segments [] else segments (resolve false [] (split special cs))

/-- The path of a file, without empty segments in front, and whether it begins with a drive. -/
def readFile (cs : List Char) : UrlPath × Bool :=
  let names := resolve true [] (split true cs)
  let path := names.dropWhile (·.isEmpty)
  (segments (if path.isEmpty then [""] else path), names.head?.any fun name => isDrive name.toList)

end UrlPath

end BearerSession
