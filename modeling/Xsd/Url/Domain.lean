import Xsd.Unicode.Additions
import Xsd.Unicode.Composition
import Xsd.Unicode.Direction
import Xsd.Unicode.NameMapping
import Xsd.Url.Punycode

/-!
# Domains

The name of a host, which has labels with dots between them. Its characters are mapped to those that
stand for them in names, and labels that are not ASCII then are coded. A label that comes coded is
checked for what it stands for.
-/

namespace Xsd.Url.Domain

/-- The parts of a text between dots. -/
def splitDots (cs : List Char) : List (List Char) :=
  cs.foldr (fun c parts =>
    match c, parts with
    | '.', _ => [] :: parts
    | _, part :: rest => (c :: part) :: rest
    | _, [] => [[c]]) [[]]

/-- An ASCII character that cannot stand in a domain. -/
def isForbidden (c : Char) : Bool :=
  c.toNat ≤ 0x20 || c.toNat == 0x7F || "#%/:<>?@[\\]^|".toList.contains c

def isAscii (label : List Char) : Bool := label.all (·.toNat < 128)

/-- What starts a coded label. -/
def codeMark : List Char := "xn--".toList

/-- What becomes of a character in a name, if it is allowed. -/
def useOf (c : Char) : Unicode.NameUse :=
  if 'A' ≤ c && c ≤ 'Z' then .replaced [c.toNat + 32]
  else if c.toNat < 128 then .kept
  else Unicode.nameUse c.toNat

def composed (cs : List Char) : List Char :=
  (Unicode.compose (cs.map Char.toNat)).map Char.ofNat

/-- The characters that stand for those of a text, if all are allowed. -/
def mapped (cs : List Char) : Option (List Char) :=
  let one (c : Char) : Option (List Char) :=
    match useOf c with
    | .kept => some [c]
    | .replaced text => some (text.map Char.ofNat)
    | .disallowed => none
  (cs.mapM one).map fun parts => composed parts.flatten

/-! ## Joiners -/

/-- From here a character is reached that is joined in the wanted way, through others perhaps. -/
def reaches (wanted : Unicode.Joining) : List Char → Bool
  | [] => false
  | c :: cs =>
    match Unicode.joining c with
    | .both => true
    | .through => reaches wanted cs
    | way => way == wanted

/-- What joins characters or keeps them apart stands behind a virama, and what keeps them apart also
where they would be joined. `before` is what has been passed, the last first. -/
def joinersHold (before : List Char) : List Char → Bool
  | [] => true
  | c :: cs =>
    (if c == '\u200C' || c == '\u200D' then
      match before with
      | [] => false
      | last :: _ =>
        Unicode.markClass last.toNat = 9 ||
          (c == '\u200C' && reaches .after before && reaches .before cs)
    else true) && joinersHold (c :: before) cs

/-- A label does not start with a mark, its joiners have their places, and it is not too long to be
coded. -/
def isValid (label : List Char) : Bool :=
  label.head?.all (!Unicode.isMark ·) && joinersHold [] label &&
    (isAscii label || label.length ≤ 1000)

/-! ## Directions -/

/-- A label keeps to one direction: from its first character on, which has one, and up to its last
but for marks. From right to left it has numbers of one kind only. -/
def keepsDirection (label : List Char) : Bool :=
  match label.map Unicode.direction with
  | [] => true
  | first :: rest =>
    let rest := (rest.reverse.dropWhile (· == .mark)).reverse
    let last := rest.getLast?
    match first with
    | .left =>
      rest.all (fun d => d != .right && d != .arabicNumber) &&
        last.all fun d => d == .left || d == .europeanNumber
    | .right =>
      rest.all (· != .left) && last.all (fun d => d != .neutral) &&
        !(rest.contains .europeanNumber && rest.contains .arabicNumber)
    | _ => false

/-- Some character is written from right to left. -/
def isMixed (labels : List (List Char)) : Bool :=
  labels.any fun label => label.any fun c =>
    0x590 ≤ c.toNat &&
      (Unicode.direction c == .right || Unicode.direction c == .arabicNumber)

/-! ## Labels -/

/-- A label, and how it is written. -/
structure Label where
  text : List Char
  written : List Char
deriving DecidableEq, Repr, Inhabited

/-- The label that is coded behind the mark. It has to be one that is mapped to itself, and not all
of it ASCII. -/
def decodeLabel? (code : List Char) : Option (List Char) :=
  if code.isEmpty || code.getLast? == some '-' || 2000 < code.length then none
  else
    (Punycode.decode code).filter fun label =>
      label.all (fun c => useOf c == .kept && c != '.' && !isForbidden c) &&
        composed label == label && isValid label

/-- A label in ASCII, in small letters. -/
def asciiLabel? (label : List Char) : Option Label :=
  if codeMark.isPrefixOf label then
    (decodeLabel? (label.drop codeMark.length)).map fun text => ⟨text, label⟩
  else if label.any isForbidden then none
  else some ⟨label, label⟩

/-- A label whose characters have been mapped. -/
def label? (label : List Char) : Option Label :=
  if isAscii label then asciiLabel? label
  else if codeMark.isPrefixOf label || label.any isForbidden || !isValid label then none
  else some ⟨label, codeMark ++ Punycode.encode label⟩

/-- The labels of a part between dots, which may hold characters that stand for dots. -/
def labels? (part : List Char) : Option (List Label) :=
  if isAscii part then (asciiLabel? (part.map Char.toLower)).map fun label => [label]
  else (mapped part).bind fun cs => (splitDots cs).mapM label?

/-- The name in ASCII. -/
def toAscii? (name : List Char) : Option (List Char) := do
  let labels := (← (splitDots name).mapM labels?).flatten
  let texts := labels.map (·.text)
  if isMixed texts && !texts.all keepsDirection then none
  else some (List.intercalate ['.'] (labels.map (·.written)))

end Xsd.Url.Domain
