/-!
# Punycode

The coding of a label in letters, digits and hyphens: its ASCII characters as they are, and then a
number for each other character, which says how far its place and its code point are from those of
the one before it. Numbers are written with the least digit first, in digits whose range adapts to
the numbers that have been written.
-/

namespace Xsd.Url.Punycode

def digit (n : Nat) : Char := Char.ofNat (if n < 26 then 97 + n else 22 + n)

def digit? (c : Char) : Option Nat :=
  if 'a' ≤ c && c ≤ 'z' then some (c.toNat - 97)
  else if '0' ≤ c && c ≤ '9' then some (c.toNat - 22)
  else none

/-- A digit below the threshold of its place ends a number. -/
def threshold (bias place : Nat) : Nat :=
  if place ≤ bias then 1 else if bias + 26 ≤ place then 26 else place - bias

theorem threshold_pos (bias place : Nat) : 1 ≤ threshold bias place := by
  unfold threshold
  split
  · exact Nat.le_refl 1
  · split <;> omega

def adaptFrom (place delta : Nat) : Nat :=
  if 455 < delta then adaptFrom (place + 36) (delta / 35) else place + 36 * delta / (delta + 38)
termination_by delta
decreasing_by exact Nat.div_lt_self (by omega) (by omega)

/-- The bias after a number for the latest of `count` characters. -/
def adapt (delta count : Nat) (isFirst : Bool) : Nat :=
  let delta := if isFirst then delta / 700 else delta / 2
  adaptFrom 0 (delta + delta / count)

/-- The digits of a number, from a place on. -/
def digits (bias place n : Nat) : List Char :=
  let t := threshold bias place
  if n < t then [digit n]
  else digit (t + (n - t) % (36 - t)) :: digits bias (place + 36) ((n - t) / (36 - t))
termination_by n
decreasing_by
  have pos := threshold_pos bias place
  exact Nat.lt_of_le_of_lt (Nat.div_le_self _ _) (by omega)

/-! ## Writing -/

/-- What has been written: the number for the next character so far, and how many are done. -/
structure Encoding where
  written : List Char
  point : Nat
  delta : Nat
  bias : Nat
  done : Nat
deriving Repr, Inhabited

/-- Pass a character of the label while those of the code point `n` are written. -/
def Encoding.pass (basic n : Nat) (e : Encoding) (c : Char) : Encoding :=
  if c.toNat < n then { e with delta := e.delta + 1 }
  else if c.toNat = n then
    { e with
      written := e.written ++ digits e.bias 36 e.delta
      bias := adapt e.delta (e.done + 1) (e.done == basic)
      delta := 0
      done := e.done + 1 }
  else e

/-- Write the characters of a code point. -/
def Encoding.write (label : List Char) (basic : Nat) (e : Encoding) (n : Nat) : Encoding :=
  let before := { e with delta := e.delta + (n - e.point) * (e.done + 1) }
  let after := label.foldl (Encoding.pass basic n) before
  { after with delta := after.delta + 1, point := n + 1 }

def encode (label : List Char) : List Char :=
  let basic := label.filter (·.toNat < 128)
  let others := ((label.map Char.toNat).filter (128 ≤ ·)).mergeSort.eraseDups
  let e := others.foldl (Encoding.write label basic.length) ⟨[], 128, 0, 72, basic.length⟩
  (if basic.isEmpty then [] else basic ++ ['-']) ++ e.written

/-! ## Reading -/

/-- What has been read: `start` is where the number in progress counts from, and `sum` is its value
so far, the next digit having the given place and weight. -/
structure Decoding where
  text : List Char
  point : Nat
  bias : Nat
  start : Nat
  sum : Nat
  place : Nat
  weight : Nat
deriving Repr, Inhabited

/-- Numbers are below this one. -/
def bound : Nat := 1 <<< 32

/-- Put the character in whose number is complete. -/
def Decoding.insert? (d : Decoding) : Option Decoding :=
  let count := d.text.length + 1
  let point := d.point + d.sum / count
  let at_ := d.sum % count
  if point < 0xD800 || (0xE000 ≤ point && point < 0x110000) then
    some ⟨d.text.take at_ ++ Char.ofNat point :: d.text.drop at_, point,
      adapt (d.sum - d.start) count (d.start == 0), at_ + 1, at_ + 1, 36, 1⟩
  else none

/-- Read a digit. -/
def Decoding.read? (d : Decoding) (c : Char) : Option Decoding := do
  let n ← digit? c
  let sum := d.sum + n * d.weight
  if bound ≤ sum then none
  let t := threshold d.bias d.place
  if n < t then ({ d with sum := sum }).insert?
  else
    let weight := d.weight * (36 - t)
    if bound ≤ weight then none
    else some { d with sum := sum, place := d.place + 36, weight := weight }

/-- The label that is coded in small letters. A hyphen ends its ASCII characters, of which there has
to be one. -/
def decode (cs : List Char) : Option (List Char) := do
  let code := (cs.reverse.takeWhile (· != '-')).reverse
  let basic := (cs.take (cs.length - code.length)).dropLast
  let code := if basic.isEmpty then cs else code
  let d ← code.foldlM Decoding.read? ⟨basic, 128, 72, 0, 0, 36, 1⟩
  if d.place = 36 then some d.text else none

end Xsd.Url.Punycode
