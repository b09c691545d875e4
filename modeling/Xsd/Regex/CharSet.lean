import Xsd.Text.Blank
import Xsd.Text.Cut
import Xsd.Unicode.Age
import Xsd.Unicode.CaseFold
import Xsd.Unicode.DecimalDigit
import Xsd.Unicode.Property
import Xsd.Unicode.Segmentation

/-!
# Sets of characters

What can stand for one character of a text in a regular expression.
-/

namespace Xsd.Regex

inductive CharSet where
  | nothing
  | range (low high : Char)
  | table (members : Unicode.Ranges)
  | decimalDigit
  | blank
  | complement (s : CharSet)
  | union (a b : CharSet)
  | intersection (a b : CharSet)
  | difference (a b : CharSet)
  | symmetricDifference (a b : CharSet)
  /-- The characters that differ in case only from one of the set. -/
  | anyCase (s : CharSet)
  /-- The set, and the ASCII letters that differ in case only from one of the set. -/
  | anyAsciiCase (s : CharSet)
deriving Repr, Inhabited

namespace CharSet

def contains : CharSet → Char → Bool
  | .nothing, _ => false
  | .range low high, c => low ≤ c && c ≤ high
  | .table members, c => members.contains c.toNat
  | .decimalDigit, c => Unicode.isDecimalDigit c
  | .blank, c => Text.isBlank c
  | .complement s, c => !s.contains c
  | .union a b, c => a.contains c || b.contains c
  | .intersection a b, c => a.contains c && b.contains c
  | .difference a b, c => a.contains c && !b.contains c
  | .symmetricDifference a b, c => a.contains c != b.contains c
  | .anyCase s, c => (Unicode.caseVariants c.toNat).any fun n => s.contains (Char.ofNat n)
  | .anyAsciiCase s, c => s.contains c || s.contains c.toUpper || s.contains c.toLower

/-- The code points of the set. -/
def ranges : CharSet → Unicode.Ranges
  | .nothing => #[]
  | .range low high => #[(low.toNat, high.toNat)]
  | .table members => members
  | .decimalDigit => .ofList (Unicode.zeros.map fun start => (start, start + 9))
  | .blank => (Unicode.property? "space").getD #[]
  | .complement s => s.ranges.complement
  | .union a b => a.ranges.union b.ranges
  | .intersection a b => a.ranges.inter b.ranges
  | .difference a b => a.ranges.diff b.ranges
  | .symmetricDifference a b => (a.ranges.diff b.ranges).union (b.ranges.diff a.ranges)
  | .anyCase s => s.ranges.anyCase
  | .anyAsciiCase s =>
    let upper := s.ranges.inter #[(0x41, 0x5A)]
    let lower := s.ranges.inter #[(0x61, 0x7A)]
    s.ranges.union (.ofList
      ((upper.toList.map fun p => (p.1 + 0x20, p.2 + 0x20)) ++
        lower.toList.map fun p => (p.1 - 0x20, p.2 - 0x20)))

/-- The set of one character. -/
def single (c : Char) : CharSet := .range c c

/-- The set of all characters. -/
def all : CharSet := .complement .nothing

/-- The set of the characters in any of the sets. -/
def unions (sets : List CharSet) : CharSet := sets.foldr .union .nothing

/-- The characters of words. -/
def word : CharSet := .table Unicode.wordCharacters

def asciiDigit : CharSet := .range '0' '9'

def asciiLetter : CharSet := .union (.range 'a' 'z') (.range 'A' 'Z')

def asciiWord : CharSet := unions [asciiLetter, asciiDigit, single '_']

def asciiBlank : CharSet := .union (.range '\t' '\r') (single ' ')

/-- The set complemented if `negated`. -/
def negateIf (negated : Bool) (s : CharSet) : CharSet := if negated then .complement s else s

/-- The sets of ASCII characters that have a name between colons. -/
def ascii? : String → Option CharSet
  | "alnum" => some (.union asciiLetter asciiDigit)
  | "alpha" => some asciiLetter
  | "ascii" => some (.range '\x00' '\x7f')
  | "blank" => some (.union (single '\t') (single ' '))
  | "cntrl" => some (.union (.range '\x00' '\x1f') (single '\x7f'))
  | "digit" => some asciiDigit
  | "graph" => some (.range '!' '~')
  | "lower" => some (.range 'a' 'z')
  | "print" => some (.range ' ' '~')
  | "punct" =>
    some (unions [.range '!' '/', .range ':' '@', .range '[' '\x60', .range '\x7b' '~'])
  | "space" => some asciiBlank
  | "upper" => some (.range 'A' 'Z')
  | "word" => some asciiWord
  | "xdigit" => some (unions [asciiDigit, .range 'A' 'F', .range 'a' 'f'])
  | _ => none

/-- A property name without its case, blanks, hyphens, underscores and a leading `is`. -/
def propertyName (cs : List Char) : String :=
  let kept (cs : List Char) : List Char :=
    (cs.filter fun c => c != ' ' && c != '_' && c != '-' && c.toNat < 128).map Char.toLower
  match cs with
  | a :: b :: rest =>
    if a.toLower == 'i' && b.toLower == 's' then
      let name := kept rest
      if name == ['c'] then "isc" else String.ofList name
    else String.ofList (kept cs)
  | _ => String.ofList (kept cs)

/-- The category of a name, also of one of the three that are no category. -/
def category? (name : String) : Option CharSet :=
  match name with
  | "any" => some all
  | "ascii" => some (.range '\x00' '\x7f')
  | "assigned" => (Unicode.category? "cn").map fun r => .complement (.table r)
  | _ => (Unicode.categoryOrGroup? name).map .table

/-- The property, category or script of a name. -/
def property? (name : String) : Option CharSet :=
  let property :=
    -- these three name a category first
    if name == "cf" || name == "sc" || name == "lc" then none
    else (Unicode.property? name).map CharSet.table
  property <|> category? name <|> (Unicode.script? name).map .table

/-- The characters with a value of a property. -/
def propertyValue? (name value : String) : Option CharSet :=
  match name with
  | "gc" | "generalcategory" => category? value
  | "sc" | "script" => (Unicode.script? value).map .table
  | "scx" | "scriptextensions" => (Unicode.scriptUse? value).map .table
  | "age" => (Unicode.assignedBy? value).map .table
  | "gcb" | "graphemeclusterbreak" =>
    (Unicode.segment? Unicode.graphemeTexts value).map .table
  | "wb" | "wordbreak" => (Unicode.segment? Unicode.wordTexts value).map .table
  | "sb" | "sentencebreak" => (Unicode.segment? Unicode.sentenceTexts value).map .table
  | _ => none

/-- The parts before and after the first sign for being unequal. -/
def cutUnequal : List Char → Option (List Char × List Char)
  | '!' :: '=' :: rest => some ([], rest)
  | c :: rest => (cutUnequal rest).map fun p => (c :: p.1, p.2)
  | [] => none

/-- What is between the braces of a property: a name, or a name and a value. The second result says
that the characters without the value are meant. -/
def braced? (cs : List Char) : Option (CharSet × Bool) :=
  match cutUnequal cs with
  | some (name, value) =>
    (propertyValue? (propertyName name) (propertyName value)).map fun s => (s, true)
  | none =>
    match Text.cutList ':' cs <|> Text.cutList '=' cs with
    | some (name, value) =>
      (propertyValue? (propertyName name) (propertyName value)).map fun s => (s, false)
    | none => (property? (propertyName cs)).map fun s => (s, false)

end CharSet

end Xsd.Regex
