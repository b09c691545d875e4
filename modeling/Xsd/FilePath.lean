/-!
# File paths

Paths as texts with slashes between names. Empty names and single dots inside a path do not count;
double dots are kept as they are.
-/

namespace Xsd.FilePath

def isAbsolute (path : List Char) : Bool := path.head? == some '/'

/-- A relative path may start with a dot that counts. -/
def startsWithDot : List Char → Bool
  | ['.'] => true
  | '.' :: '/' :: _ => true
  | _ => false

/-- What stands before the names: the root, a dot, or nothing. -/
def splitStart (path : List Char) : List Char × List Char :=
  if isAbsolute path || startsWithDot path then (path.take 1, path.drop 1) else ([], path)

/-- The names between slashes. -/
def names (cs : List Char) : List (List Char) :=
  cs.foldr (fun c parts =>
    match c, parts with
    | '/', _ => [] :: parts
    | _, part :: rest => (c :: part) :: rest
    | _, [] => [[c]]) [[]]

def counts (name : List Char) : Bool := name != [] && name != ['.']

/-- The parts of a path that count. Two paths with the same parts are the same. -/
def parts (path : String) : List (List Char) :=
  let (start, rest) := splitStart path.toList
  (if start.isEmpty then [] else [start]) ++ (names rest).filter counts

/-- Leave out everything after the last slash, and then names and slashes at the end that do not
count. The text is given backwards. -/
def dropUncounted : (fuel : Nat) → List Char → List Char
  | 0, rev => rev
  | fuel + 1, rev =>
    let name := rev.takeWhile (· != '/')
    if counts name || (name.isEmpty && rev.isEmpty) then rev
    else dropUncounted fuel (rev.drop (name.length + 1))

/-- The path of the directory that holds the last name; a root and the empty path have none. -/
def parent? (path : String) : Option String :=
  let (start, rest) := splitStart path.toList
  let rev := dropUncounted (rest.length + 1) rest.reverse
  if rev.isEmpty then if start == ['.'] then some "" else none
  else
    let rev := rev.drop ((rev.takeWhile (· != '/')).length + 1)
    some (String.ofList (start ++ (dropUncounted (rest.length + 1) rev).reverse))

/-- The path that a reference means in a directory. -/
def join (dir reference : String) : String :=
  if isAbsolute reference.toList || dir.isEmpty then reference
  else if dir.toList.getLast? == some '/' then dir ++ reference
  else dir ++ "/" ++ reference

end Xsd.FilePath
