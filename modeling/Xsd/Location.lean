import Xsd.FilePath
import Xsd.Text.Utf8
import Xsd.Url.Basic

/-!
# Locations

Where a document is: at a path, at an address, or under a key in memory.
-/

namespace Xsd

inductive Location where
  | path (path : String)
  | url (url : Url)
  | memory (key : String)
deriving DecidableEq, Repr, Inhabited

namespace Location

/-- A text that is an address with a scheme of more than one letter is that address, or the path
that it names if it is one of a file. Else a text that starts with a slash or a dot is a path. -/
def parse (text : String) : Location :=
  let other : Location :=
    match text.toList with
    | '/' :: _ => .path text
    | '.' :: _ => .path text
    | _ => .memory text
  match Url.parse text with
  | none => other
  | some u =>
    if u.scheme == "file" then
      match u.filePath? with
      | some bytes => .path (Text.ofUtf8Lossy bytes)
      | none => other
    else if 1 < u.scheme.length then .url u
    else other

def render : Location → String
  | .path p => p
  | .url u => u.render
  | .memory k => k

/-- The location that a reference means in a document at the base. -/
def join (base : Location) (reference : String) : Location :=
  let alone := parse reference
  let isOwn : Bool := match alone with
    | .url _ => true
    | .path p => FilePath.isAbsolute p.toList
    | .memory _ => false
  if isOwn then alone
  else
    match base with
    | .url u => ((u.join reference).map Location.url).getD (.memory reference)
    | .path p => .path (FilePath.join ((FilePath.parent? p).getD "") reference)
    | .memory _ => .memory reference

/-- The locations are the same; of paths only the parts that count are compared. -/
def isSame : Location → Location → Bool
  | .path a, .path b => FilePath.parts a == FilePath.parts b
  | .url a, .url b => a.render == b.render
  | .memory a, .memory b => a == b
  | _, _ => false

def isRemote : Location → Bool
  | .url _ => true
  | _ => false

def isFile : Location → Bool
  | .path _ => true
  | _ => false

end Location

end Xsd
