import Std.Data.HashMap
import Xsd.Automaton.Nfa

/-!
# Determinization

The deterministic automaton whose states are the sets of states of a nondeterministic one. Where
two different wildcards could read the same name next, there is none.
-/

namespace Xsd.Nfa

/-- The states that can be reached from the given ones without reading, in order. -/
def closure (nfa : Nfa) (seeds : List Nat) : List Nat :=
  (reachable nfa.epsilon nfa.states.size seeds).toList

/-- The symbols on which a move reads what the given symbol of the alphabet stands for: an element
symbol itself, and the wildcards that admit its namespace. -/
def sources (alphabet : Array Symbol) (index : Nat) : List Nat :=
  match alphabet[index]? with
  | some (.element name _) =>
    index :: (List.range alphabet.size).filter fun other =>
      match alphabet[other]? with
      | some (.wildcard w) => w.allows name.ns
      | _ => false
  | _ => [index]

/-- The wildcards among the symbols, each of them once, in the order in which they first occur. -/
def wildcardsOf (alphabet : Array Symbol) (symbols : List Nat) : List Wildcard :=
  symbols.eraseDups.filterMap fun (n : Nat) =>
    match alphabet[n]? with
    | some (.wildcard w) => some w
    | _ => none

/-- The first wildcard that overlaps with one before it, and that one. -/
def overlap? (before : List Wildcard) : List Wildcard → Option (Wildcard × Wildcard)
  | [] => none
  | w :: rest =>
    match before.find? fun v => v.constraint.overlaps w.constraint with
    | some v => some (v, w)
    | none => overlap? (before ++ [w]) rest

/-- The sets of states found so far, and the number of each. -/
structure Subsets where
  sets : Array (List Nat)
  index : Std.HashMap (List Nat) Nat

/-- The number of a set, which is entered if it is new. -/
def Subsets.number (s : Subsets) (limits : Limits) (owner : String) (set : List Nat) :
    Except LimitExcess (Nat × Subsets) :=
  match s.index[set]? with
  | some n => .ok (n, s)
  | none => do
    limits.checkAutomatonStates owner (s.sets.size + 1)
    return (s.sets.size, ⟨s.sets.push set, s.index.insert set s.sets.size⟩)

/-- What the determinization of an automaton works with; each symbol comes with those on which
moves read what it stands for. -/
structure Task where
  nfa : Nfa
  alphabet : Array Symbol
  readers : List (Nat × List Nat)
  limits : Limits
  owner : String

/-- The transition on a symbol, given the moves that leave a set of states; a wildcard takes the
place of an element symbol on which there is no move. -/
def Task.transition (t : Task) (moves : List (Nat × Nat)) (symbol : Nat) (readers : List Nat)
    (s : Subsets) : Except LimitExcess (Option Transition × Subsets) :=
  let moves := moves.filter fun m => readers.contains m.1
  match moves with
  | [] => .ok (none, s)
  | (first, _) :: _ => do
    let wildcard := if moves.any fun m => m.1 == symbol then none else some first
    let (target, s) ← s.number t.limits t.owner (t.nfa.closure (moves.map (·.2)))
    return (some ⟨symbol, target, wildcard⟩, s)

/-- The transitions on the given symbols. -/
def Task.transitions (t : Task) (moves : List (Nat × Nat)) :
    List (Nat × List Nat) → Subsets → Except LimitExcess (List Transition × Subsets)
  | [], s => .ok ([], s)
  | (symbol, readers) :: rest, s => do
    let (first, s) ← t.transition moves symbol readers s
    let (others, s) ← t.transitions moves rest s
    return (first.toList ++ others, s)

/-- The state that stands for a set of states. -/
def Task.state (t : Task) (set : List Nat) (s : Subsets) : Except Error (State × Subsets) :=
  let moves := set.flatMap t.nfa.moves
  match overlap? [] (wildcardsOf t.alphabet (moves.map (·.1))) with
  | some (first, second) => .error (.ambiguousContentModel t.owner first second)
  | none =>
    match t.transitions moves t.readers s with
    | .error excess => .error (.limitExceeded excess)
    | .ok (transitions, s) => .ok (⟨set.contains t.nfa.accept, transitions⟩, s)

/-- The states for the sets from a number on. `fuel` bounds the number of sets. -/
def Task.explore (t : Task) : (fuel : Nat) → Subsets → (done : Array State) →
    Except Error (Array State)
  | 0, _, done => .ok done
  | fuel + 1, s, done =>
    match s.sets[done.size]? with
    | none => .ok done
    | some set =>
      match t.state set s with
      | .error e => .error e
      | .ok (state, s) => t.explore fuel s (done.push state)

/-- The states of the deterministic automaton, of which the first is the start. There are no more of
them than the limits admit, but always one. -/
def determinize (nfa : Nfa) (alphabet : Array Symbol) (limits : Limits) (owner : String) :
    Except Error (Array State) :=
  let start := nfa.closure [nfa.start]
  let readers := (List.range alphabet.size).map fun n => (n, sources alphabet n)
  let t : Task := ⟨nfa, alphabet, readers, limits, owner⟩
  let subsets : Subsets := ⟨#[start], Std.HashMap.emptyWithCapacity.insert start 0⟩
  t.explore (limits.automatonStates + 1) subsets #[]

end Xsd.Nfa
