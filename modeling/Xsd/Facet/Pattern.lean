import Xsd.Regex.Reader
import Xsd.Regex.Size

/-!
# Patterns

A pattern facet holds the expressions of one level of derivation, of which a literal has to match
one as a whole. They are put together to one expression of the search syntax.
-/

namespace Xsd

/-- The alternatives of one level, and the expression that is searched for. -/
structure Pattern where
  sources : List String
  expression : Regex
deriving Repr, Inhabited

namespace Pattern

/-- What stands in the search syntax for a character after a backslash. -/
def searchEscape : Char → List Char
  | 'i' => "[_:A-Za-z]".toList
  | 'I' => "[^_:A-Za-z]".toList
  | 'c' => "[-._:A-Za-z0-9]".toList
  | 'C' => "[^-._:A-Za-z0-9]".toList
  | c => ['\\', c]

/-- The source in the search syntax, where a caret and a dollar sign are no ordinary characters.
`depth` is the number of classes that are open, `atStart` says that one has just been opened. -/
def searchSource (depth : Nat) (atStart : Bool) : List Char → List Char
  | [] => []
  | '\\' :: [] => ['\\', '\\']
  | '\\' :: c :: rest => searchEscape c ++ searchSource depth false rest
  | '[' :: rest => '[' :: searchSource (depth + 1) true rest
  | ']' :: rest => ']' :: searchSource (depth - 1) false rest
  | '^' :: rest =>
    (if depth = 0 || !atStart then ['\\', '^'] else ['^']) ++ searchSource depth false rest
  | '$' :: rest => (if depth = 0 then ['\\', '$'] else ['$']) ++ searchSource depth false rest
  | c :: rest => c :: searchSource depth false rest

/-- The expression that matches the whole of a text that one of the sources matches. -/
def searchText (sources : List String) : List Char :=
  let alternatives := sources.map fun s => "(?:".toList ++ searchSource 0 false s.toList ++ [')']
  "^(?:".toList ++ List.intercalate ['|'] alternatives ++ ")$".toList

/-- Put sources together; nothing if they are not well formed. -/
def read? (sources : List String) : Option Pattern :=
  (Regex.parse? (searchText sources)).map fun r => ⟨sources, r⟩

/-- The pattern of sources, if it is not too large. -/
def ofSources? (sources : List String) : Option Pattern :=
  (read? sources).filter (·.expression.fits)

/-- The literal matches. -/
def isMatch (p : Pattern) (value : String) : Bool :=
  p.expression.search value.toList

end Pattern

end Xsd
