import Xsd.QName

/-!
# Names

The lexical classes of names: `Name`, `NCName`, `QName`, `NMTOKEN` and language tags. Letters are
those of the basic multilingual plane.
-/

namespace Xsd.Name

/-- The ranges of the characters with which a name can start, the colon apart. -/
def startRanges : List (Nat × Nat) :=
  [(0x41, 0x5A), (0x5F, 0x5F), (0x61, 0x7A), (0xC0, 0xD6), (0xD8, 0xF6), (0xF8, 0x2FF),
   (0x370, 0x37D), (0x37F, 0x1FFF), (0x200C, 0x200D), (0x2070, 0x218F), (0x2C00, 0x2FEF),
   (0x3001, 0xD7FF), (0xF900, 0xFDCF), (0xFDF0, 0xFFFD)]

/-- The ranges of the characters that can only follow in a name. -/
def followRanges : List (Nat × Nat) :=
  [(0x2D, 0x2E), (0x30, 0x39), (0xB7, 0xB7), (0x300, 0x36F), (0x203F, 0x2040)]

def within (ranges : List (Nat × Nat)) (c : Char) : Bool :=
  ranges.any fun r => r.1 ≤ c.toNat && c.toNat ≤ r.2

/-- A character with which an `NCName` can start. -/
def isStart (c : Char) : Bool := within startRanges c

/-- A character of an `NCName`. -/
def isPart (c : Char) : Bool := isStart c || within followRanges c

/-- A name without a colon. -/
def isNCName (s : String) : Bool :=
  match s.toList with
  | [] => false
  | c :: cs => isStart c && cs.all isPart

/-- A name, in which colons count as letters. -/
def isName (s : String) : Bool :=
  match s.toList with
  | [] => false
  | c :: cs => (isStart c || c == ':') && cs.all fun c => isPart c || c == ':'

/-- A non-empty run of name characters. -/
def isNmtoken (s : String) : Bool :=
  !s.isEmpty && s.toList.all fun c => isPart c || c == ':'

/-- An `NCName`, or two of them around a colon. -/
def isQName (s : String) : Bool :=
  match Text.cutAt ':' s with
  | some (mark, localName) => isNCName mark && isNCName localName
  | none => isNCName s

def isLetter (c : Char) : Bool := ('a' ≤ c && c ≤ 'z') || ('A' ≤ c && c ≤ 'Z')

def isAlphanumeric (c : Char) : Bool := isLetter c || ('0' ≤ c && c ≤ '9')

/-- The rest of a language tag, `room` characters being left in the subtag in progress, which holds
one already if `begun`. -/
def languageFrom (first begun : Bool) (room : Nat) : List Char → Bool
  | [] => begun
  | c :: cs =>
    if c == '-' then begun && languageFrom false false 8 cs
    else
      (if first then isLetter c else isAlphanumeric c) && 0 < room &&
        languageFrom first true (room - 1) cs

/-- Subtags of one to eight characters between hyphens, letters only in the first. -/
def isLanguage (s : String) : Bool :=
  languageFrom true false 8 s.toList

/-- Refuse a text that is not an `NCName`. -/
def checkNCName (s : String) : Except NameFault Unit :=
  if isNCName s then .ok () else .error (.invalidNCName s)

end Xsd.Name
