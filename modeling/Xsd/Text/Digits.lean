/-!
# Numbers in decimal digits

Reading and writing natural numbers in the ASCII digits. A number may carry one plus sign and any
number of leading zeros, and a reader refuses what exceeds its limit.
-/

namespace Xsd.Text

/-- The value of an ASCII digit. -/
def digit? (c : Char) : Option Nat :=
  if '0' ≤ c && c ≤ '9' then some (c.toNat - 48) else none

/-- The character is an ASCII digit. -/
def isDigit (c : Char) : Bool :=
  '0' ≤ c && c ≤ '9'

/-- The value of a run of digits that follows a number already read. -/
def digitsFrom (value : Nat) : List Char → Option Nat
  | [] => some value
  | c :: cs => (digit? c).bind fun d => digitsFrom (value * 10 + d) cs

/-- The value of a non-empty run of digits. -/
def digits? : List Char → Option Nat
  | [] => none
  | cs => digitsFrom 0 cs

/-- A natural number below `limit`, with or without a plus sign. -/
def natBelow? (limit : Nat) (cs : List Char) : Option Nat :=
  let digits := match cs with
    | '+' :: rest => rest
    | _ => cs
  (digits? digits).bind fun n => if n < limit then some n else none

/-- A whole number of at most 64 bits, with or without a sign. -/
def int64? (cs : List Char) : Option Int :=
  match cs with
  | '-' :: rest => (digits? rest).bind fun n => if n ≤ 1 <<< 63 then some (-(n : Int)) else none
  | _ => (natBelow? (1 <<< 63) cs).map Int.ofNat

/-- A number written in at least `width` digits. -/
def padded (width : Nat) (n : Nat) : String :=
  let digits := Nat.toDigits 10 n
  String.ofList (List.replicate (width - digits.length) '0' ++ digits)

end Xsd.Text
