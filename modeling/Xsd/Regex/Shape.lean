import Xsd.Regex.Basic
import Xsd.Regex.ByteRanges

/-!
# Shapes of expressions

An expression in the normal form from which an automaton is built: without parentheses that only
group, with neighbouring characters joined to literals, with alternatives of single characters
joined to sets, and with what alternatives start with in common taken out of them.
-/

namespace Xsd.Regex

/-- Sequences and alternatives lean to the right: the first part of one is none itself. -/
inductive Shape where
  | empty
  | literal (cs : List Char)
  /-- A set, with its sequences of bytes. -/
  | chars (members : Unicode.Ranges) (sequences : List (List ByteRange))
  | look (l : Look)
  | rep (a : Shape) (min : Nat) (max : Option Nat) (greedy : Bool)
  | group (a : Shape) (index : Nat)
  | seq (a b : Shape)
  | alt (a b : Shape)
deriving DecidableEq, Repr, Inhabited

namespace Shape

/-! ## What is known of a shape -/

/-- A lower bound for the length of a match, which is zero only if an empty match is possible. There
is none if a set without members is needed for a match. -/
def minLength? : Shape → Option Nat
  | .empty => some 0
  | .literal cs => some cs.length
  | .chars members _ => if members.isEmpty then none else some 1
  | .look _ => some 0
  | .rep a min _ _ => a.minLength?.map (min * ·)
  | .group a _ => a.minLength?
  | .seq a b => a.minLength?.bind fun m => b.minLength?.map (m + ·)
  | .alt a b => a.minLength?.bind fun m => b.minLength?.map (min m ·)

/-- A match is empty. -/
def isEmptyOnly : Shape → Bool
  | .empty => true
  | .literal _ => false
  | .chars _ _ => false
  | .look _ => true
  | .rep a _ max _ => max.isSome && a.isEmptyOnly
  | .group a _ => a.isEmptyOnly
  | .seq a b => a.isEmptyOnly && b.isEmptyOnly
  | .alt a b => a.isEmptyOnly && b.isEmptyOnly

/-- A match starts where the requirement holds. -/
def starts (l : Look) : Shape → Bool
  | .look m => m == l
  | .rep a min _ _ => 0 < min && a.starts l
  | .group a _ => a.starts l
  | .seq a b => a.starts l || (a.isEmptyOnly && b.starts l)
  | .alt a b => a.starts l && b.starts l
  | _ => false

/-- A match ends where the requirement holds. -/
def finishes (l : Look) : Shape → Bool
  | .look m => m == l
  | .rep a min _ _ => 0 < min && a.finishes l
  | .group a _ => a.finishes l
  | .seq a b => b.finishes l || (b.isEmptyOnly && a.finishes l)
  | .alt a b => a.finishes l && b.finishes l
  | _ => false

/-! ## Sequences -/

/-- What stands one after the other. -/
def parts : Shape → List Shape
  | .empty => []
  | .seq a b => a :: b.parts
  | s => [s]

def ofParts : List Shape → Shape
  | [] => .empty
  | [s] => s
  | s :: rest => .seq s (ofParts rest)

/-- The parts of one sequence and of one after it; literals that meet are joined. -/
def append : List Shape → List Shape → List Shape
  | [], after => after
  | [.literal a], .literal b :: after => .literal (a ++ b) :: after
  | s :: rest, after => s :: append rest after

/-! ## Sets and repetition -/

/-- The shape of a set: a set of one character is a literal. -/
def ofSet (members : Unicode.Ranges) : Shape :=
  let members := members.diff #[Unicode.surrogates]
  match members.toList with
  | [(low, high)] =>
    if low = high then .literal [Char.ofNat low] else .chars members (ByteRange.ofSet members)
  | _ => .chars members (ByteRange.ofSet members)

/-- What matches only nothing need not be repeated. -/
def repeated (a : Shape) (min : Nat) (max : Option Nat) (greedy : Bool) : Shape :=
  let (min, max) :=
    if a.isEmptyOnly then (Nat.min min 1, some (Nat.min (max.getD 1) 1)) else (min, max)
  if max = some 0 then .empty else if min = 1 && max = some 1 then a else .rep a min max greedy

/-! ## Alternatives -/

def branches : Shape → List Shape
  | .alt a b => a :: b.branches
  | s => [s]

def ofBranches : List Shape → Shape
  | [] => ofSet #[]
  | [s] => s
  | s :: rest => .alt s (ofBranches rest)

/-- The set of all the branches, if they are single characters or if they are sets. -/
def joinSets? (branches : List Shape) : Option Shape :=
  let single : Shape → Option (Nat × Nat)
    | .literal [c] => some (c.toNat, c.toNat)
    | _ => none
  let set : Shape → Option (List (Nat × Nat))
    | .chars members _ => some members.toList
    | _ => none
  match branches.mapM single with
  | some ranges => some (ofSet (.ofList ranges))
  | none => (branches.mapM set).map fun sets => ofSet (.ofList sets.flatten)

def commonParts : List Shape → List Shape → List Shape
  | a :: as, b :: bs => if a = b then a :: commonParts as bs else []
  | _, _ => []

/-- What the branches start with in common, if each is a sequence. -/
def commonStart (branches : List Shape) : List Shape :=
  let isSequence : Shape → Bool
    | .seq _ _ => true
    | _ => false
  match branches with
  | s :: rest =>
    if branches.all isSequence then rest.foldl (fun start s => commonParts start s.parts) s.parts
    else []
  | [] => []

/-- The shape of alternatives. What they start with in common is taken out as long as `fuel`
lasts. -/
def alternatives (fuel : Nat) (shapes : List Shape) : Shape :=
  let all := shapes.flatMap branches
  if all.length ≤ 1 then ofBranches all
  else
    match joinSets? all, commonStart all, fuel with
    | some s, _, _ => s
    | none, start :: more, fuel + 1 =>
      let start := start :: more
      let rest := all.map fun s => ofParts (s.parts.drop start.length)
      ofParts (append start (alternatives fuel rest).parts)
    | none, _, _ => ofBranches all

/-- The number of parts of all kinds. -/
def weight : Shape → Nat
  | .rep a _ _ _ => a.weight + 1
  | .group a _ => a.weight + 1
  | .seq a b => a.weight + b.weight + 1
  | .alt a b => a.weight + b.weight + 1
  | _ => 1

/-- The shapes of the alternatives of an expression, or else of the parts that stand one after the
other in it. -/
def shapes (alternative : Bool) : Regex → List Shape
  | .empty => give .empty
  | .set s => give (ofSet s.ranges)
  | .look l => give (.look l)
  | .seq a b =>
    let all := append (shapes false a) (shapes false b)
    if alternative then [ofParts all] else all
  | .alt a b =>
    let all := shapes true a ++ shapes true b
    if alternative then all
    else (alternatives (all.foldl (fun n s => n + s.weight) 0) all).parts
  | .rep a min max greedy => give (repeated (ofParts (shapes false a)) min max greedy)
  | .group a none => give (ofParts (shapes false a))
  | .group a (some index) => give (.group (ofParts (shapes false a)) index)
where
  give (s : Shape) : List Shape := if alternative then [s] else s.parts

/-- The shape of an expression. -/
def ofRegex (r : Regex) : Shape := ofParts (shapes false r)

end Shape

end Xsd.Regex
