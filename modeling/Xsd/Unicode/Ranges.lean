import Xsd.Text.Blank
import Xsd.Text.Cut

/-!
# Sets of code points

A set of code points as ranges in increasing order with gaps between them, the operations on such
sets, and their written form.
-/

namespace Xsd.Unicode

/-- Ranges of code points, both ends included. -/
abbrev Ranges := Array (Nat × Nat)

/-- The code points are the numbers below this one. -/
def codePointCount : Nat := 0x110000

namespace Ranges

def contains (r : Ranges) (n : Nat) : Bool :=
  r.any fun p => p.1 ≤ n && n ≤ p.2

/-- Join ranges that overlap or touch; their lower ends are in order. -/
def join : List (Nat × Nat) → List (Nat × Nat)
  | a :: b :: rest =>
    if b.1 ≤ a.2 + 1 then join ((a.1, max a.2 b.2) :: rest) else a :: join (b :: rest)
  | rest => rest
termination_by ranges => ranges.length

/-- The set of the code points in any of the ranges. -/
def ofList (ranges : List (Nat × Nat)) : Ranges :=
  (join (ranges.mergeSort fun a b => a.1 ≤ b.1)).toArray

def union (a b : Ranges) : Ranges := ofList (a.toList ++ b.toList)

/-- The ranges between those of a set, from `start` on. -/
def gaps (start : Nat) : List (Nat × Nat) → List (Nat × Nat)
  | [] => if start < codePointCount then [(start, codePointCount - 1)] else []
  | (low, high) :: rest =>
    if start < low then (start, low - 1) :: gaps (high + 1) rest else gaps (high + 1) rest

def complement (r : Ranges) : Ranges := (gaps 0 r.toList).toArray

def inter (a b : Ranges) : Ranges := (a.complement.union b.complement).complement

def diff (a b : Ranges) : Ranges := a.inter b.complement

end Ranges

/-- The value of a hexadecimal digit. -/
def hexDigit? (c : Char) : Option Nat :=
  if '0' ≤ c && c ≤ '9' then some (c.toNat - 48)
  else if 'A' ≤ c && c ≤ 'F' then some (c.toNat - 55)
  else if 'a' ≤ c && c ≤ 'f' then some (c.toNat - 87)
  else none

/-- The number that hexadecimal digits write. -/
def hexValue (cs : List Char) : Nat :=
  cs.foldl (fun n c => n * 16 + (hexDigit? c).getD 0) 0

/-- The range that a word writes: a number, or its two ends with a hyphen between them. -/
def rangeOfWord (word : List Char) : Nat × Nat :=
  match Text.cutList '-' word with
  | some (low, high) => (hexValue low, hexValue high)
  | none => (hexValue word, hexValue word)

/-- A range, and the step in which it is counted: a colon and a number after the range, or one. -/
def stepsOfWord (word : List Char) : (Nat × Nat) × Nat :=
  match Text.cutList ':' word with
  | none => (rangeOfWord word, 1)
  | some (range, step) => (rangeOfWord range, hexValue step)

/-- The ranges that a word writes, which has a range and perhaps a step. -/
def rangesOfWord (word : List Char) : List (Nat × Nat) :=
  let ((low, high), step) := stepsOfWord word
  if step = 1 then [(low, high)]
  else (List.range ((high - low) / step + 1)).map fun i => (low + i * step, low + i * step)

/-- The set that a text writes: hexadecimal numbers and ranges with blanks between them. -/
def Ranges.ofText (s : String) : Ranges :=
  .ofList ((Text.wordsFrom [] s.toList).flatMap rangesOfWord)

/-- A word of a text writes a range with the code point. -/
def isInText (n : Nat) (text : String) : Bool :=
  (Text.wordsFrom [] text.toList).any fun word =>
    let ((low, high), step) := stepsOfWord word
    low ≤ n && n ≤ high && (n - low) % step == 0

/-- The set that a text writes by ranges and by the names of other sets, in small letters. It is
read from left to right, and what stands behind a hyphen is taken away from what was there. -/
def Ranges.ofFormula (named : String → Ranges) (s : String) : Ranges :=
  let isMinus (word : List Char) : Bool := word.head? == some '-'
  let members (word : List Char) : List (Nat × Nat) :=
    if word.head?.any Char.isLower then (named (String.ofList word)).toList else rangesOfWord word
  ((Text.wordsFrom [] s.toList).splitBy fun a b => isMinus a == isMinus b).foldl (fun set run =>
    if run.any isMinus then set.diff (ofList (run.flatMap fun word => members word.tail))
    else set.union (ofList (run.flatMap members))) #[]

end Xsd.Unicode
