import Xsd.Regex.CharSet

/-!
# Regular expressions

The expressions, the relation that says which part of a text one matches, and the search for a
match. Positions of a text are numbered from zero; a set of positions is a number whose bits they
are, so that the search walks all ways through an expression at once.
-/

namespace Xsd

/-- Which characters make up words. -/
inductive Regex.Words where
  | unicode
  | ascii
deriving DecidableEq, Repr, Inhabited

/-- What can be required of a position. -/
inductive Regex.Look where
  | start
  | finish
  | lineStart
  | lineFinish
  /-- As for lines, but a carriage return and a line feed together also end one. -/
  | lineStartCR
  | lineFinishCR
  | wordBoundary (words : Regex.Words)
  | noWordBoundary (words : Regex.Words)
  | wordStart (words : Regex.Words)
  | wordFinish (words : Regex.Words)
  | wordStartHalf (words : Regex.Words)
  | wordFinishHalf (words : Regex.Words)
deriving DecidableEq, Repr, Inhabited

inductive Regex where
  | empty
  | set (s : Regex.CharSet)
  | look (l : Regex.Look)
  | seq (a b : Regex)
  | alt (a b : Regex)
  /-- Between `min` and `max` times; without a `max` any number of times. Whether many times or few
  are tried first makes no difference to what is matched. -/
  | rep (a : Regex) (min : Nat) (max : Option Nat) (greedy : Bool)
  /-- A part in parentheses. Those that stand for what they match are numbered. -/
  | group (a : Regex) (index : Option Nat)
deriving Repr, Inhabited

namespace Regex

def Words.set : Words → CharSet
  | .unicode => .word
  | .ascii => .asciiWord

/-- A requirement, given the characters before and after the position. -/
def Look.holds (l : Look) (before after : Option Char) : Bool :=
  let isIn (w : Words) (c : Option Char) : Bool := c.any w.set.contains
  match l with
  | .start => before.isNone
  | .finish => after.isNone
  | .lineStart => before.isNone || before == some '\n'
  | .lineFinish => after.isNone || after == some '\n'
  | .lineStartCR =>
    before.isNone || before == some '\n' || (before == some '\r' && after != some '\n')
  | .lineFinishCR =>
    after.isNone || after == some '\r' || (after == some '\n' && before != some '\r')
  | .wordBoundary w => isIn w before != isIn w after
  | .noWordBoundary w => isIn w before == isIn w after
  | .wordStart w => !isIn w before && isIn w after
  | .wordFinish w => isIn w before && !isIn w after
  | .wordStartHalf w => !isIn w before
  | .wordFinishHalf w => !isIn w after

/-- The positions at which a requirement holds, those of `cs` being numbered from zero. -/
def Look.positions (l : Look) (before : Option Char) : List Char → Nat
  | [] => if l.holds before none then 1 else 0
  | c :: cs => 2 * l.positions (some c) cs + if l.holds before (some c) then 1 else 0

/-- The positions at which a character of a set stands. -/
def CharSet.positions (s : CharSet) : List Char → Nat
  | [] => 0
  | c :: cs => 2 * s.positions cs + if s.contains c then 1 else 0

/-- Take a step so many times. A step that changes nothing need not be taken again. -/
def times (step : Nat → Nat) : Nat → Nat → Nat
  | 0, from_ => from_
  | n + 1, from_ => if step from_ = from_ then from_ else times step n (step from_)

/-- Take a step up to so many times, and keep what has been reached on the way. -/
def upTo (step : Nat → Nat) : Nat → Nat → Nat
  | 0, reached => reached
  | n + 1, reached =>
    if reached ||| step reached = reached then reached else upTo step n (reached ||| step reached)

/-- The positions at which a match ends that starts at one of the given positions. -/
def reach (text : List Char) : Regex → Nat → Nat
  | .empty, from_ => from_
  | .set s, from_ => (from_ &&& s.positions text) <<< 1
  | .look l, from_ => from_ &&& l.positions none text
  | .seq a b, from_ => reach text b (reach text a from_)
  | .alt a b, from_ => reach text a from_ ||| reach text b from_
  | .rep a min max _, from_ =>
    let more := match max with
      | some max => max - min
      | none => text.length + 1
    upTo (reach text a) more (times (reach text a) min from_)
  | .group a _, from_ => reach text a from_

/-- Some part of the text matches. -/
def search (r : Regex) (text : List Char) : Bool :=
  reach text r ((1 <<< (text.length + 1)) - 1) != 0

/-- The expression matches the text between two positions. -/
inductive Matches (text : List Char) : Regex → Nat → Nat → Prop where
  | empty (i : Nat) : Matches text .empty i i
  | set {s : CharSet} {i : Nat} {c : Char} (at_i : text[i]? = some c)
      (member : s.contains c = true) : Matches text (.set s) i (i + 1)
  | look {l : Look} {i : Nat} (inside : i ≤ text.length)
      (holds : l.holds (if i = 0 then none else text[i - 1]?) text[i]? = true) :
      Matches text (.look l) i i
  | seq {a b : Regex} {i j k : Nat} (first : Matches text a i j) (second : Matches text b j k) :
      Matches text (.seq a b) i k
  | altLeft {a b : Regex} {i j : Nat} (left : Matches text a i j) : Matches text (.alt a b) i j
  | altRight {a b : Regex} {i j : Nat} (right : Matches text b i j) : Matches text (.alt a b) i j
  | repDone {a : Regex} {max : Option Nat} {greedy : Bool} (i : Nat) :
      Matches text (.rep a 0 max greedy) i i
  | repLast {a : Regex} {min max : Nat} {greedy : Bool} {i j k : Nat} (bound : max ≠ 0)
      (first : Matches text a i j)
      (rest : Matches text (.rep a (min - 1) (some (max - 1)) greedy) j k) :
      Matches text (.rep a min (some max) greedy) i k
  | repMore {a : Regex} {min : Nat} {greedy : Bool} {i j k : Nat}
      (first : Matches text a i j) (rest : Matches text (.rep a (min - 1) none greedy) j k) :
      Matches text (.rep a min none greedy) i k
  | group {a : Regex} {index : Option Nat} {i j : Nat} (inner : Matches text a i j) :
      Matches text (.group a index) i j

end Regex

end Xsd
