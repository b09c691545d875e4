/-!
# Base 64

The standard alphabet with padding. Four characters stand for three bytes; the last four may stand
for two bytes or one, and then the bits that are left over are zero.
-/

namespace Xsd.Base64

/-- The six bits that a character stands for. -/
def sextet? (c : Char) : Option Nat :=
  let n := c.toNat
  if 'A' ≤ c && c ≤ 'Z' then some (n - 65)
  else if 'a' ≤ c && c ≤ 'z' then some (n - 71)
  else if '0' ≤ c && c ≤ '9' then some (n + 4)
  else if c = '+' then some 62
  else if c = '/' then some 63
  else none

/-- The number of bytes that a text without blanks stands for. -/
def byteCount? : List Char → Option Nat
  | [] => some 0
  | [a, b, '=', '='] => do
    let _ ← sextet? a
    let y ← sextet? b
    if y % 16 = 0 then some 1 else none
  | [a, b, c, '='] => do
    let _ ← sextet? a
    let _ ← sextet? b
    let z ← sextet? c
    if z % 4 = 0 then some 2 else none
  | a :: b :: c :: d :: rest => do
    let _ ← sextet? a
    let _ ← sextet? b
    let _ ← sextet? c
    let _ ← sextet? d
    let n ← byteCount? rest
    some (n + 3)
  | _ => none

end Xsd.Base64
