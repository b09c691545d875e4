import Xsd.Url.Percent

/-!
# Paths of addresses

A path is a text without structure, or it has names with a slash before each. Names that are one dot
or two are carried out while the path is read. A letter with a colon or a bar names a drive, which
two dots do not leave.
-/

namespace Xsd.Url

inductive Path where
  /-- A text without structure. -/
  | plain (text : String)
  | segments (names : List String)
deriving DecidableEq, Repr, Inhabited

def Path.render : Path → String
  | .plain text => text
  | .segments names => String.join (names.map ("/" ++ ·))

/-- The names of a path. -/
def Path.names : Path → List String
  | .plain _ => []
  | .segments names => names

/-- Tabs and line ends do not count. -/
def isIgnored (c : Char) : Bool := c == '\t' || c == '\n' || c == '\r'

def visible (cs : List Char) : List Char := cs.filter (!isIgnored ·)

def isLetter (c : Char) : Bool := ('a' ≤ c && c ≤ 'z') || ('A' ≤ c && c ≤ 'Z')

/-- A letter for a drive, and a colon or a bar. -/
def isDrive : List Char → Bool
  | [c, d] => isLetter c && (d == ':' || d == '|')
  | _ => false

/-- A drive with a colon. -/
def isColonDrive (name : String) : Bool :=
  isDrive name.toList && name.toList.getLast? == some ':'

/-- A drive, and nothing or an end of a name after it. -/
def startsWithDrive : List Char → Bool
  | c :: d :: rest =>
    isDrive [c, d] && rest.head?.all fun e => e == '/' || e == '\\' || e == '?' || e == '#'
  | _ => false

def isSingleDot (name : String) : Bool :=
  name == "." || name == "%2e" || name == "%2E"

def isDoubleDot (name : String) : Bool :=
  ["..", "%2e%2e", "%2e%2E", "%2E%2e", "%2E%2E", "%2e.", "%2E.", ".%2e", ".%2E"].contains name

/-- A path in progress: its names, the latest first. A name that has not been read yet is empty. -/
structure Names where
  names : List String
  /-- The first name is a drive. -/
  onDrive : Bool
deriving DecidableEq, Repr, Inhabited

namespace Names

/-- The path after a slash. -/
def start : Names := ⟨[""], false⟩

/-- The path without its last name, unless that is the drive of a file. -/
def parent (file : Bool) (names : List String) : Names :=
  match names.reverse with
  | [] => start
  | last :: before => ⟨(if file && isColonDrive last then last else "") :: before, false⟩

/-- The drive at the start of a name in which a tab or a line end follows it, and what is behind. -/
def cutDrive? (name : List Char) : Option (List Char × List Char) :=
  match name.dropWhile isIgnored with
  | letter :: rest =>
    match rest.dropWhile isIgnored with
    | ':' :: mark :: rest =>
      if isLetter letter && isIgnored mark && !(visible rest).isEmpty then
        some ([letter, ':'], visible rest)
      else none
    | _ => none
  | [] => none

/-- Two dots leave a name, but no drive. -/
def leave : List String → List String
  | "" :: last :: before =>
    if startsWithDrive last.toList then "" :: last :: before else "" :: before
  | names => names

/-- Two dots, one dot, the drive of a file or another name, read up to a slash if `slash` says
so. -/
def add (file slash : Bool) (path : Names) (name : List Char) : Names :=
  let close (names : List String) : List String := if slash then "" :: names else names
  let text := String.ofList (encode reservedInPath (visible name))
  match (if file && path.names == [""] then cutDrive? name else none) with
  | some (drive, rest) =>
    ⟨close [String.ofList (encode reservedInPath rest), String.ofList drive], path.onDrive⟩
  | none =>
    let names :=
      if file && path.names.length = 1 && path.names.all isColonDrive && text != "" then
        "" :: path.names
      else path.names
    if isDoubleDot text then
      let names := leave names
      { path with names := if names.head? == some "" then names else close names }
    else if isSingleDot text then
      { path with names := if names.head? == some "" then names else "" :: names }
    else if file && names == [""] && isDrive text.toList then
      ⟨close [String.ofList (text.toList.take 1 ++ [':'])], true⟩
    else
      match names with
      | last :: before => { path with names := close ((last ++ text) :: before) }
      | [] => { path with names := close [text] }

/-- Read names up to a query or a fragment; `buffer` holds the one in progress, last character
first. -/
def read (special file : Bool) (path : Names) (buffer : List Char) :
    List Char → Names × List Char
  | [] => (path.add file false buffer.reverse, [])
  | c :: cs =>
    if c == '/' || (special && c == '\\') then
      read special file (path.add file true buffer.reverse) [] cs
    else if c == '?' || c == '#' then (path.add file false buffer.reverse, c :: cs)
    else read special file path (c :: buffer) cs

/-- The path of a file starts with no empty name, unless that is all of it. -/
def dropEmpty : List String → List String
  | "" :: name :: rest => dropEmpty (name :: rest)
  | names => names

def toPath (file : Bool) (path : Names) : Path :=
  .segments (if file then dropEmpty path.names.reverse else path.names.reverse)

end Names

end Xsd.Url
