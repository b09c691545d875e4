import Std.Data.HashMap
import Xsd.Regex.Shape

/-!
# Sizes of automata

How large the two automata of an expression are that read the bytes of a text, one from its start
and one from its end. An expression is refused if one of them is larger than `limit`.

States are numbered as they are added. A set of characters shares states that would be equal, as far
as it remembers them: the memory has so many places, and of two states that want the same place only
the later one is remembered.
-/

namespace Xsd.Regex

/-- The number of states, and the bytes that they take. -/
structure Size where
  states : Nat
  bytes : Nat
deriving DecidableEq, Repr, Inhabited

namespace Size

/-- The bytes that an automaton may take. -/
def limit : Nat := 10 * 1024 * 1024

/-- Add states, and `extra` bytes for the ways that lead out of them, within the limit. -/
def grow (states extra : Nat) (size : Size) : Option Size :=
  let bytes := size.bytes + 32 * states + extra
  if bytes ≤ limit then some ⟨size.states + states, bytes⟩ else none

/-- Take a step so many times. -/
def times (step : Size → Option Size) : Nat → Size → Option Size
  | 0, size => some size
  | n + 1, size =>
    match step size with
    | some size => times step n size
    | none => none

/-! ## Sets of characters -/

/-- The states that are remembered by what they do, and the size so far. -/
structure Memory where
  places : Std.HashMap Nat (List Nat × Nat)
  size : Size

/-- The place of a state among so many. -/
def place (capacity : Nat) (state : List Nat) : Nat :=
  let mixed : UInt64 := state.foldl
    (fun hash n => (hash ^^^ n.toUInt64) * 1099511628211) 14695981039346656037
  mixed.toNat % capacity

/-- The number of a state that does the same, or else of one that is added. -/
def Memory.intern (memory : Memory) (capacity extra : Nat) (state : List Nat) :
    Option (Nat × Memory) :=
  let at_ := place capacity state
  let known : Option Nat :=
    match memory.places[at_]? with
    | some (other, number) => if other = state then some number else none
    | none => none
  match known with
  | some number => some (number, memory)
  | none =>
    (memory.size.grow 1 extra).map fun size =>
      let number := memory.size.states
      (number, ⟨memory.places.insert at_ (state, number), size⟩)

/-- Add the states that read one of the sequences and then go to `final`; sequences that start with
the same range are next to one another. -/
def addSequences (final : Nat) :
    (fuel : Nat) → List (List ByteRange) → Memory → Option (Nat × Memory)
  | 0, _, memory => some (final, memory)
  | fuel + 1, sequences, memory => do
    let runs := sequences.splitBy fun a b => a.head? == b.head?
    let step (sum : List Nat × Memory) (run : List (List ByteRange)) : Option (List Nat × Memory) :=
      match run with
      | [range] :: _ => some (final :: range.2 :: range.1 :: sum.1, sum.2)
      | (range :: _) :: _ =>
        (addSequences final fuel (run.map List.tail) sum.2).map fun (next, memory) =>
          (next :: range.2 :: range.1 :: sum.1, memory)
      | _ => some sum
    let (ways, memory) ← runs.foldlM step ([], memory)
    memory.intern 10000 (8 * runs.length) ways.reverse

/-- Add the states that read one of the sequences from its end. -/
def addReversed (final : Nat) (sequences : List (List ByteRange)) (memory : Memory) :
    Option Memory :=
  let step (last : Nat × Memory) (range : ByteRange) : Option (Nat × Memory) :=
    last.2.intern 1000 0 [last.1, range.1, range.2]
  sequences.foldlM (fun memory sequence => (sequence.foldlM step (final, memory)).map (·.2)) memory

/-- Add a set of characters. -/
def addSet (backward : Bool) (members : Unicode.Ranges) (sequences : List (List ByteRange))
    (size : Size) : Option Size := do
  if members.all fun p => p.2 < 0x80 then size.grow 2 (8 * members.size)
  else if backward then
    let start ← size.grow 2 (4 * sequences.length)
    (addReversed (size.states + 1) sequences ⟨∅, start⟩).map (·.size)
  else
    let start ← size.grow 1 0
    (addSequences size.states 4 sequences ⟨∅, start⟩).map (·.2.size)

/-! ## Alternatives of literals -/

/-- The runs of texts that an empty one ends, and the texts after the last. An empty text that
follows an empty one before all others does not count. -/
def runsOf : List (List Nat) → List (List (List Nat))
  | texts =>
    let isFirstEmpty := texts.head? == some []
    let texts := if isFirstEmpty then [] :: texts.dropWhile List.isEmpty else texts
    texts.foldr (fun text runs =>
      match text, runs with
      | [], _ => [] :: runs
      | _, run :: rest => (text :: run) :: rest
      | _, [] => [[text]]) [[]]

/-- The states and the further bytes of a tree of texts, in which texts that start with the same
byte share a state as long as no text ends there between them. -/
def treeSize : (fuel : Nat) → List (List Nat) → Nat × Nat
  | 0, _ => (0, 0)
  | fuel + 1, texts =>
    if texts.all List.isEmpty then (0, 0)
    else
      let runs := runsOf texts
      let ways := runs.length - 1 + (runs.filter (!·.isEmpty)).length
      runs.foldl (fun sum run =>
        let heads := (run.filterMap List.head?).eraseDups
        let own : Nat × Nat :=
          if heads.isEmpty then (0, 0)
          else (1, if heads.length = 1 then 0 else 8 * heads.length)
        heads.foldl (fun sum head =>
          let below := treeSize fuel
            ((run.filter fun text => text.head? == some head).map List.tail)
          (sum.1 + below.1, sum.2 + below.2)) (sum.1 + own.1, sum.2 + own.2)) (1, 4 * ways)

/-- The texts of alternatives that are all literals. -/
def literals? : Shape → Option (List (List Char))
  | .alt (.literal cs) rest => (literals? rest).map (cs :: ·)
  | .literal cs => some [cs]
  | _ => none

/-- Add alternatives that are all literals. -/
def addLiterals (backward : Bool) (texts : List (List Char)) (size : Size) : Option Size :=
  let coded := texts.map fun cs => cs.flatMap fun c => ByteRange.bytes c.toNat
  let coded := if backward then coded.map List.reverse else coded
  let fuel := coded.foldl (fun n text => max n text.length) 0
  let (states, extra) := treeSize (fuel + 1) coded
  size.grow (states + 1) extra

/-! ## Expressions -/

/-- Which of several alternatives a shape starts. -/
inductive Turn where
  | first
  | second
  | later
deriving DecidableEq, Repr, Inhabited

/-- Add what leads from the start of all alternatives to this one. Both ends that alternatives have
in common are added with the second. -/
def join : Turn → Size → Option Size
  | .first, size => some size
  | .second, size => size.grow 2 8
  | .later, size => size.grow 0 4

/-- Add a shape. Alternatives are added one by one, and `turn` says how many there are before. -/
def add (backward : Bool) (turn : Turn) (shape : Shape) (size : Size) : Option Size :=
  match shape with
  | .alt a b =>
    match turn, literals? (.alt a b) with
    | .first, some texts => addLiterals backward texts size
    | .first, none =>
      (add backward .first a size).bind fun size => add backward .second b size
    | turn, _ =>
      ((add backward .first a size).bind (join turn)).bind fun size => add backward .later b size
  | .empty => (size.grow 1 0).bind (join turn)
  | .literal cs => (size.grow (cs.foldl (fun n c => n + c.utf8Size) 0) 0).bind (join turn)
  | .chars members sequences => (addSet backward members sequences size).bind (join turn)
  | .look _ => (size.grow 1 0).bind (join turn)
  | .group a _ =>
    if backward then (add backward .first a size).bind (join turn)
    else
      (((size.grow 1 0).bind fun size => add backward .first a size).bind (grow 1 0)).bind
        (join turn)
  | .seq a b =>
    let (a, b) : (Size → Option Size) × (Size → Option Size) :=
      (add backward .first a, add backward .first b)
    ((if backward then b size else a size).bind (if backward then a else b)).bind (join turn)
  | .rep a min max _ =>
    let once := add backward .first a
    let exactly (n : Nat) (size : Size) : Option Size :=
      if n = 0 then size.grow 1 0 else times once n size
    let all : Option Size :=
      match min, max with
      | 0, some 1 => ((size.grow 1 8).bind once).bind (grow 1 0)
      | 0, none =>
        if a.minLength?.any (0 < ·) then (size.grow 1 8).bind once
        else (once size).bind (grow 3 16)
      | n + 1, none => (exactly (n + 1) size).bind (grow 1 8)
      | n, some m =>
        if n = m then exactly n size
        else
          ((exactly n size).bind (grow 1 0)).bind
            (times (fun size => (size.grow 1 8).bind once) (m - n))
    all.bind (join turn)

/-- The size of the automaton, if it is within the limit. A match that need not start at the start
of the text, or at its end for the automaton that reads from there, is looked for at every place. -/
def ofShape? (backward : Bool) (shape : Shape) : Option Size := do
  let anchored := if backward then shape.finishes .finish else shape.starts .start
  let size ← if anchored then grow 1 0 ⟨0, 0⟩ else grow 3 16 ⟨0, 0⟩
  if backward then (← add true .first shape size).grow 1 0
  else (← add false .first shape (← size.grow 1 0)).grow 2 0

end Size

/-- Both automata of the expression are within the limit. -/
def fits (r : Regex) : Bool :=
  let shape := Shape.ofRegex r
  (Size.ofShape? false shape).isSome && (Size.ofShape? true shape).isSome

end Xsd.Regex
