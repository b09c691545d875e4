import Xsd.Text.Digits

/-!
# Decimal numbers of bounded precision

A decimal number is a natural number below `2 ^ 96` and the number of its digits that follow the
point, with a sign. A literal whose integer digits do not fit is no decimal; fraction digits that
do not fit are rounded away, a half going up.
-/

namespace Xsd

/-- The number `mantissa / 10 ^ scale`, or its negative. -/
structure Decimal where
  negative : Bool
  mantissa : Nat
  scale : Nat
deriving DecidableEq, Repr, Inhabited

namespace Decimal

/-- The mantissa is below this number. -/
def capacity : Nat := 1 <<< 96

/-- The scale is at most this number. -/
def maxScale : Nat := 28

/-- Zero has no sign. -/
def ofParts (negative : Bool) (mantissa scale : Nat) : Decimal :=
  ⟨negative && mantissa != 0, mantissa, scale⟩

/-- Round by the first digit that does not fit. Where this fills the mantissa up, one more digit is
given up. -/
def round (mantissa scale d : Nat) : Option (Nat × Nat) :=
  if d < 5 then some (mantissa, scale)
  else if mantissa + 1 < capacity then some (mantissa + 1, scale)
  else if scale = 0 then none
  else some ((mantissa + 1 + 4) / 10, scale - 1)

/-- Read the digits after the point. The first that does not fit decides the rounding, and those
that follow it do not count. -/
def readFraction (mantissa scale : Nat) : List Char → Option (Nat × Nat)
  | [] => some (mantissa, scale)
  | c :: cs =>
    (Text.digit? c).bind fun d =>
      if maxScale ≤ scale || capacity ≤ mantissa * 10 + d then
        if cs.all Text.isDigit then round mantissa scale d else none
      else readFraction (mantissa * 10 + d) (scale + 1) cs

/-- Read the digits before the point, and go on with those after it. -/
def readInteger (mantissa : Nat) : List Char → Option (Nat × Nat)
  | [] => some (mantissa, 0)
  | '.' :: cs => readFraction mantissa 0 cs
  | c :: cs =>
    (Text.digit? c).bind fun d =>
      if capacity ≤ mantissa * 10 + d then none else readInteger (mantissa * 10 + d) cs

/-- Read a number without a sign. A point may lead or end it. -/
def readUnsigned (cs : List Char) : Option (Nat × Nat) :=
  if cs.isEmpty || !cs.all (fun c => Text.isDigit c || c == '.') then none
  else
    let cs := if cs.getLast? = some '.' then cs.dropLast else cs
    if cs.isEmpty then none else readInteger 0 cs

/-- Read a number with or without a sign. -/
def parse (cs : List Char) : Option Decimal :=
  match cs with
  | '-' :: rest => (readUnsigned rest).map fun p => ofParts true p.1 p.2
  | '+' :: rest => (readUnsigned rest).map fun p => ofParts false p.1 p.2
  | _ => (readUnsigned cs).map fun p => ofParts false p.1 p.2

/-- The digits of the number with as many after the point as its scale says. -/
def render (d : Decimal) : String :=
  let digits := Nat.toDigits 10 d.mantissa
  let digits := List.replicate (d.scale + 1 - digits.length) '0' ++ digits
  let whole := digits.take (digits.length - d.scale)
  let fraction := digits.drop (digits.length - d.scale)
  let sign := if d.negative then ['-'] else []
  String.ofList (sign ++ whole ++ if fraction.isEmpty then [] else '.' :: fraction)

/-- The number times `10 ^ k`, for a `k` that is at least its scale. -/
def unscaled (d : Decimal) (k : Nat) : Int :=
  let n : Int := (d.mantissa * Nat.pow 10 (k - d.scale) : Nat)
  if d.negative then -n else n

/-- Numbers compare by value: the scale does not count. -/
def compare (a b : Decimal) : Ordering :=
  let k := max a.scale b.scale
  Ord.compare (a.unscaled k) (b.unscaled k)

/-- Take the zeros off the end of a fraction. -/
def stripZeros (mantissa : Nat) : Nat → Nat × Nat
  | 0 => (mantissa, 0)
  | scale + 1 =>
    if mantissa % 10 = 0 then stripZeros (mantissa / 10) scale else (mantissa, scale + 1)

/-- The same number with the least scale. -/
def normalize (d : Decimal) : Decimal :=
  let (mantissa, scale) := stripZeros d.mantissa d.scale
  ofParts d.negative mantissa scale

/-- How many digits the mantissa has. -/
def digitCount (d : Decimal) : Nat := (Nat.toDigits 10 d.mantissa).length

end Decimal

end Xsd
