import Xsd.Text.Digits

/-!
# Binary floating-point numbers

Numbers of double precision, as exact integers: a finite number is `mantissa * 2 ^ exponent`.
Reading rounds a decimal literal to the nearest number, a tie going to the even mantissa; writing
gives the fewest digits that read back, without an exponent.
-/

namespace Xsd

/-- A number of double precision. The mantissa is below `2 ^ 53`, and below `2 ^ 52` only with the
least exponent. -/
inductive Binary where
  | nan
  | infinity (negative : Bool)
  | finite (negative : Bool) (mantissa : Nat) (exponent : Int)
deriving DecidableEq, Repr, Inhabited

namespace Binary

def minExponent : Int := -1074

def maxExponent : Int := 971

/-- The quotient rounded to the nearest whole number, a tie going to the even one. -/
def divNearest (num den : Nat) : Nat :=
  let q := num / den
  let r := num % den
  if 2 * r < den then q else if den < 2 * r then q + 1 else q + q % 2

/-- The two sides of the quotient `num / (den * 2 ^ e)`. -/
def scaledBy (num den : Nat) (e : Int) : Nat × Nat :=
  if 0 ≤ e then (num, den <<< e.toNat) else (num <<< (-e).toNat, den)

/-- The number nearest to `num / den`. -/
def ofRatio (negative : Bool) (num den : Nat) : Binary :=
  if num = 0 then .finite negative 0 minExponent
  else
    let guess := max ((num.log2 : Int) - den.log2 - 53) minExponent
    let (n, d) := scaledBy num den guess
    let e := if n / d < 1 <<< 53 then guess else guess + 1
    let (n, d) := scaledBy num den e
    let m := divNearest n d
    let (m, e) := if m = 1 <<< 53 then (1 <<< 52, e + 1) else (m, e)
    if maxExponent < e then .infinity negative else .finite negative m e

/-- The number nearest to `n * 10 ^ e`. Far outside the range the power need not be computed. -/
def ofScientific (negative : Bool) (n : Nat) (e : Int) : Binary :=
  let size : Int := e + (Nat.toDigits 10 n).length
  if n = 0 || size < -330 then .finite negative 0 minExponent
  else if 310 < size then .infinity negative
  else if 0 ≤ e then ofRatio negative (n * Nat.pow 10 e.toNat) 1
  else ofRatio negative n (Nat.pow 10 (-e).toNat)

/-- Split off the leading digits. -/
def spanDigits (cs : List Char) : List Char × List Char :=
  (cs.takeWhile Text.isDigit, cs.dropWhile Text.isDigit)

/-- Read what follows the digits: nothing, or an exponent. -/
def readExponent (cs : List Char) : Option Int :=
  match cs with
  | [] => some 0
  | c :: rest =>
    if c == 'e' || c == 'E' then
      match rest with
      | '-' :: ds => (Text.digits? ds).map fun n => -(n : Int)
      | '+' :: ds => (Text.digits? ds).map Int.ofNat
      | _ => (Text.digits? rest).map Int.ofNat
    else none

/-- Read digits with an optional point and an optional exponent. -/
def readUnsigned (negative : Bool) (cs : List Char) : Option Binary :=
  let (whole, rest) := spanDigits cs
  let (fraction, rest) := match rest with
    | '.' :: tail => spanDigits tail
    | _ => ([], rest)
  (Text.digits? (whole ++ fraction)).bind fun n =>
    (readExponent rest).map fun e => ofScientific negative n (e - fraction.length)

/-- Read a literal: a number, or one of `INF`, `-INF` and `NaN`. -/
def parse (s : String) : Option Binary :=
  match s with
  | "INF" => some (.infinity false)
  | "-INF" => some (.infinity true)
  | "NaN" => some .nan
  | _ =>
    match s.toList with
    | '-' :: cs => readUnsigned true cs
    | '+' :: cs => readUnsigned false cs
    | cs => readUnsigned false cs

/-- A finite number times `2 ^ 1074`, which is whole. -/
def unscaled (negative : Bool) (mantissa : Nat) (exponent : Int) : Int :=
  let n : Int := (mantissa <<< (exponent - minExponent).toNat : Nat)
  if negative then -n else n

/-- The order of the numbers; what is not a number compares with nothing. -/
def compare : Binary → Binary → Option Ordering
  | .nan, _ => none
  | _, .nan => none
  | .infinity a, .infinity b =>
    some (if a = b then .eq else if a then .lt else .gt)
  | .infinity a, .finite .. => some (if a then .lt else .gt)
  | .finite .., .infinity b => some (if b then .gt else .lt)
  | .finite s m e, .finite t n f => some (Ord.compare (unscaled s m e) (unscaled t n f))

/-- The decimal `d * 10 ^ k` against the quotient `num / den`. -/
def compareScaled (d : Nat) (k : Int) (num den : Nat) : Ordering :=
  if 0 ≤ k then Ord.compare (d * Nat.pow 10 k.toNat * den) num
  else Ord.compare (d * den) (num * Nat.pow 10 (-k).toNat)

/-- The whole part of the quotient `num / den` in units of `10 ^ k`. -/
def divScaled (num den : Nat) (k : Int) : Nat :=
  if 0 ≤ k then num / (den * Nat.pow 10 k.toNat) else num * Nat.pow 10 (-k).toNat / den

/-- The reals that round to one number: the number and the ends, all over `den`. The ends belong to
the interval if `closed`. -/
structure RoundingInterval where
  low : Nat
  value : Nat
  high : Nat
  den : Nat
  closed : Bool
deriving Repr

namespace RoundingInterval

/-- The interval of a positive number. Its lower half is narrower where the exponent changes. -/
def ofNumber (mantissa : Nat) (exponent : Int) : RoundingInterval :=
  let below := if mantissa = 1 <<< 52 && exponent != minExponent then 1 else 2
  -- the unit is a quarter of the distance between neighbours, `2 ^ (exponent - 2)`
  let (unit, den) := scaledBy 1 1 (2 - exponent)
  ⟨(4 * mantissa - below) * unit, 4 * mantissa * unit, (4 * mantissa + 2) * unit, den,
    mantissa % 2 = 0⟩

def contains (r : RoundingInterval) (d : Nat) (k : Int) : Bool :=
  match compareScaled d k r.low r.den, compareScaled d k r.high r.den with
  | .gt, .lt => true
  | .eq, .lt => r.closed
  | .gt, .eq => r.closed
  | _, _ => false

/-- The power of ten of the leading digit. -/
def leading (r : RoundingInterval) : Int :=
  (Nat.toDigits 10 (r.value * Nat.pow 10 324 / r.den)).length - 325

/-- The first grid, from `count` digits on, on which a neighbour of the number lies in the interval;
of two such neighbours the nearer, and the upper one where they are as near. -/
def shortestFrom (r : RoundingInterval) : (fuel count : Nat) → Nat × Int
  | 0, count =>
    let k := r.leading + 1 - count
    (divScaled r.value r.den k, k)
  | fuel + 1, count =>
    let k := r.leading + 1 - count
    let below := divScaled r.value r.den k
    match r.contains below k, r.contains (below + 1) k with
    | true, false => (below, k)
    | false, true => (below + 1, k)
    | false, false => shortestFrom r fuel (count + 1)
    | true, true =>
      match compareScaled (2 * below + 1) k (2 * r.value) r.den with
      | .gt => (below, k)
      | .lt | .eq => (below + 1, k)

/-- The fewest digits that lie in the interval; seventeen always suffice. -/
def shortest (r : RoundingInterval) : Nat × Int := r.shortestFrom 17 1

end RoundingInterval

/-- Write `d * 10 ^ k` without an exponent. -/
def positional (d : Nat) (k : Int) : String :=
  let digits := Nat.toDigits 10 d
  if 0 ≤ k then String.ofList (digits ++ List.replicate k.toNat '0')
  else
    let places := (-k).toNat
    let digits := List.replicate (places + 1 - digits.length) '0' ++ digits
    let whole := digits.take (digits.length - places)
    let fraction := digits.drop (digits.length - places)
    let fraction := (fraction.reverse.dropWhile (· == '0')).reverse
    String.ofList (whole ++ if fraction.isEmpty then [] else '.' :: fraction)

/-- The fewest digits that read back. -/
def render : Binary → String
  | .nan => "NaN"
  | .infinity negative => if negative then "-inf" else "inf"
  | .finite negative m e =>
    let sign := if negative then "-" else ""
    if m = 0 then sign ++ "0"
    else
      let (d, k) := (RoundingInterval.ofNumber m e).shortest
      sign ++ positional d k

end Binary

end Xsd
