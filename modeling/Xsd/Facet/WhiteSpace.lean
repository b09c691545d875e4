import Xsd.Text.Blank

/-!
# White space

How the blanks of a literal are dealt with before it is looked at.
-/

namespace Xsd

/-- The three treatments, the more thorough ones later. -/
inductive WhiteSpace where
  | preserve
  | replace
  | collapse
deriving DecidableEq, Repr, Inhabited, Ord

namespace WhiteSpace

def name : WhiteSpace → String
  | .preserve => "preserve"
  | .replace => "replace"
  | .collapse => "collapse"

def ofName? : String → Option WhiteSpace
  | "preserve" => some .preserve
  | "replace" => some .replace
  | "collapse" => some .collapse
  | _ => none

/-- A space in place of a tab, a line feed or a carriage return. -/
def replaceChar (c : Char) : Char :=
  if c == '\t' || c == '\n' || c == '\r' then ' ' else c

/-- The literal that counts. Collapsing leaves the words of the text with a space between them. -/
def normalize (w : WhiteSpace) (s : String) : String :=
  match w with
  | .preserve => s
  | .replace => String.ofList (s.toList.map replaceChar)
  | .collapse => " ".intercalate (Text.words s)

end WhiteSpace

end Xsd
