import Xsd.Url.Domain
import Xsd.Url.Percent

/-!
# Hosts

The host of an address: a domain, an address of version 4 or 6, or an opaque name.
-/

namespace Xsd.Url

inductive Host where
  | domain (name : String)
  | opaqueName (name : String)
  | ipv4 (address : Nat)
  | ipv6 (pieces : List Nat)
deriving DecidableEq, Repr, Inhabited

namespace Host

/-! ## Addresses of version 4 -/

/-- The parts, without an empty one at the end. -/
def dotParts (cs : List Char) : List (List Char) :=
  let parts := Domain.splitDots cs
  if parts.getLast? = some [] then parts.dropLast else parts

/-- Read digits in a base of up to sixteen. -/
def readBase (base : Nat) (cs : List Char) : Option Nat :=
  cs.foldl (fun n c => n.bind fun n =>
    (Unicode.hexDigit? c).bind fun d => if d < base then some (n * base + d) else none) (some 0)

/-- A number in decimal, octal after a zero, or hexadecimal after `0x`. -/
def readPart : List Char → Option Nat
  | [] => none
  | '0' :: 'x' :: rest => readBase 16 rest
  | '0' :: 'X' :: rest => readBase 16 rest
  | '0' :: c :: rest => readBase 8 (c :: rest)
  | cs => readBase 10 cs

/-- The last part of the name is a number, so that it has to be an address. -/
def endsInNumber (cs : List Char) : Bool :=
  match (dotParts cs).getLast? with
  | some last => (!last.isEmpty && last.all Text.isDigit) || (readPart last).isSome
  | none => false

/-- The address of up to four numbers, the last of which fills what is left. -/
def readIpv4 (cs : List Char) : Option Nat := do
  let numbers ← (dotParts cs).mapM readPart
  if 4 < numbers.length then none
  let last ← numbers.getLast?
  let before := numbers.dropLast
  if 1 <<< (8 * (4 - before.length)) ≤ last || before.any (255 < ·) then none
  some (before.zipIdx.foldl (fun n p => n + p.1 <<< (8 * (3 - p.2))) last)

def renderIpv4 (n : Nat) : String :=
  ".".intercalate ([n >>> 24, (n >>> 16) % 256, (n >>> 8) % 256, n % 256].map toString)

/-! ## Addresses of version 6 -/

/-- The four decimal numbers at the end of an address, as two pieces. -/
def readTail (cs : List Char) : Option (List Nat) := do
  let parts := Domain.splitDots cs
  if parts.length ≠ 4 then none
  let numbers ← parts.mapM fun part =>
    if part.isEmpty || (1 < part.length && part.head? = some '0') || 3 < part.length then none
    else (Text.digits? part).bind fun n => if n < 256 then some n else none
  match numbers with
  | [a, b, c, d] => some [a * 256 + b, c * 256 + d]
  | _ => none

/-- The pieces between colons. -/
def splitColons (cs : List Char) : List (List Char) :=
  cs.foldr (fun c parts =>
    match c, parts with
    | ':', _ => [] :: parts
    | _, part :: rest => (c :: part) :: rest
    | _, [] => [[c]]) [[]]

def readPieces (parts : List (List Char)) : Option (List Nat) := do
  match parts.getLast? with
  | none => some []
  | some last =>
    let piece (part : List Char) : Option Nat :=
      if part.isEmpty || 4 < part.length then none else readBase 16 part
    if last.contains '.' then
      let before ← parts.dropLast.mapM piece
      some (before ++ (← readTail last))
    else parts.mapM piece

/-- The parts around the first empty place between two colons. -/
def cutDouble : List Char → Option (List Char × List Char)
  | ':' :: ':' :: rest => some ([], rest)
  | c :: rest => (cutDouble rest).map fun p => (c :: p.1, p.2)
  | [] => none

/-- Eight pieces, of which two colons may stand for one or more that are zero. -/
def readIpv6 (cs : List Char) : Option (List Nat) := do
  let pieces (cs : List Char) : Option (List Nat) :=
    if cs.isEmpty then some [] else readPieces (splitColons cs)
  match cutDouble cs with
  | none =>
    let all ← pieces cs
    if all.length = 8 then some all else none
  | some (before, after) =>
    if before.contains '.' then none
    let head ← pieces before
    let tail ← pieces after
    if head.length + tail.length ≤ 7 then
      some (head ++ List.replicate (8 - head.length - tail.length) 0 ++ tail)
    else none

/-- The lengths of the runs of zeros that start at each piece. -/
def zeroRuns : List Nat → List Nat
  | [] => []
  | n :: rest =>
    let runs := zeroRuns rest
    (if n = 0 then runs.headD 0 + 1 else 0) :: runs

def renderIpv6 (pieces : List Nat) : String :=
  let hex (ns : List Nat) : String :=
    ":".intercalate (ns.map fun n => String.ofList (Nat.toDigits 16 n))
  let runs := zeroRuns pieces
  let longest := runs.foldl max 0
  if longest < 2 then hex pieces
  else
    let start := runs.idxOf longest
    hex (pieces.take start) ++ "::" ++ hex (pieces.drop (start + longest))

/-! ## Reading and writing -/

/-- The host of an address whose scheme is known. -/
def parse (cs : List Char) : Option Host := do
  match cs with
  | '[' :: rest =>
    if rest.getLast? = some ']' then (readIpv6 rest.dropLast).map .ipv6 else none
  | _ =>
    let text ← String.fromUTF8? ⟨(decode cs).toArray⟩
    let name ← Domain.toAscii? text.toList
    if name.isEmpty then none
    else if endsInNumber name then (readIpv4 name).map .ipv4
    else some (.domain (String.ofList name))

/-- The host of an address whose scheme has no rules for it. -/
def parseOpaque (cs : List Char) : Option Host :=
  match cs with
  | '[' :: rest =>
    if rest.getLast? = some ']' then (readIpv6 rest.dropLast).map .ipv6 else none
  | _ =>
    if cs.any fun c => "\x00\t\n\r #/:<>?@[\\]^|".toList.contains c then none
    else some (.opaqueName (String.ofList (encode [] cs)))

def render : Host → String
  | .domain name => name
  | .opaqueName name => name
  | .ipv4 address => renderIpv4 address
  | .ipv6 pieces => "[" ++ renderIpv6 pieces ++ "]"

end Host

end Xsd.Url
