/-!
# Blank characters

The characters with the Unicode property White_Space, and the two ways in which a text goes by
them: dropping the blanks at its ends, and splitting it into its words.
-/

namespace Xsd.Text

/-- A character with the Unicode property White_Space. -/
def isBlank (c : Char) : Bool :=
  let n := c.toNat
  (0x09 ≤ n && n ≤ 0x0D) || n == 0x20 || n == 0x85 || n == 0xA0 || n == 0x1680 ||
    (0x2000 ≤ n && n ≤ 0x200A) || n == 0x2028 || n == 0x2029 || n == 0x202F || n == 0x205F ||
    n == 0x3000

/-- Leave out the blanks before the first and after the last other character. -/
def trimList (cs : List Char) : List Char :=
  ((cs.dropWhile isBlank).reverse.dropWhile isBlank).reverse

/-- Leave out the blanks at both ends of a text. -/
def trim (s : String) : String :=
  String.ofList (trimList s.toList)

/-- Leave out the blanks at the start of a text. -/
def trimStart (cs : List Char) : List Char :=
  cs.dropWhile isBlank

/-- The words that remain to be read, `word` being the one in progress, last character first. -/
def wordsFrom (word : List Char) : List Char → List (List Char)
  | [] => if word.isEmpty then [] else [word.reverse]
  | c :: cs =>
    if isBlank c then
      if word.isEmpty then wordsFrom [] cs else word.reverse :: wordsFrom [] cs
    else wordsFrom (c :: word) cs

/-- The maximal pieces of a text that hold no blank. -/
def words (s : String) : List String :=
  (wordsFrom [] s.toList).map String.ofList

/-- There is nothing but blanks in the text. -/
def isAllBlank (s : String) : Bool :=
  s.toList.all isBlank

end Xsd.Text
