import Xsd.Component.Basic
import Xsd.Wildcard

/-!
# Automata

Deterministic automata that read the names of elements. An element symbol reads its own name, a
wildcard the names of the namespaces that it admits.
-/

namespace Xsd

inductive Symbol where
  | element (name : QName) (id : ElementId)
  | wildcard (wildcard : Wildcard)
deriving DecidableEq, Repr, Inhabited

namespace Symbol

/-- The symbol reads the name. -/
def reads : Symbol → QName → Bool
  | .element own _, name => own == name
  | .wildcard w, name => w.allows name.ns

/-- The symbol is that of an element of the name. -/
def isElementNamed (name : QName) : Symbol → Bool
  | .element own _ => own == name
  | .wildcard _ => false

/-- The form in which messages name a symbol. -/
def render : Symbol → String
  | .element name _ => name.clark
  | .wildcard w => w.describe

end Symbol

/-- A transition on a symbol of the alphabet. Where a wildcard reads a name for which the alphabet
has an element symbol, the transition is on that symbol and `wildcard` is the one that reads. -/
structure Transition where
  symbol : Nat
  target : Nat
  wildcard : Option Nat
deriving DecidableEq, Repr, Inhabited

structure State where
  accepting : Bool
  transitions : List Transition
deriving DecidableEq, Repr, Inhabited

structure Automaton where
  alphabet : Array Symbol
  states : Array State
  start : Nat
deriving DecidableEq, Repr, Inhabited

namespace Automaton

/-- The alphabet has an element symbol of the name. -/
def knows (a : Automaton) (name : QName) : Bool := a.alphabet.any (·.isElementNamed name)

/-- The transition is taken on the name. Wildcards leave to element symbols the names that the
alphabet has. -/
def isTaken (a : Automaton) (name : QName) (t : Transition) : Bool :=
  match a.alphabet[t.symbol]? with
  | some (.element own _) => own == name
  | some (.wildcard w) => !a.knows name && w.allows name.ns
  | none => false

/-- The symbol that reads when a transition is taken. -/
def reader? (a : Automaton) (t : Transition) : Option Symbol :=
  a.alphabet[t.wildcard.getD t.symbol]?

/-- The state after reading a name, and the symbol that has read it. -/
def step (a : Automaton) (state : Nat) (name : QName) : Option (Nat × Symbol) := do
  let s ← a.states[state]?
  let t ← s.transitions.find? (a.isTaken name)
  return (t.target, ← a.reader? t)

def isAccepting (a : Automaton) (state : Nat) : Bool :=
  ((a.states[state]?).map (·.accepting)).getD false

/-- What can be read in a state. -/
def expected (a : Automaton) (state : Nat) : List String :=
  match a.states[state]? with
  | none => []
  | some s => s.transitions.filterMap fun t => (a.alphabet[t.symbol]?).map (·.render)

/-- The state after reading names one by one. -/
def run (a : Automaton) (state : Nat) : List QName → Option Nat
  | [] => some state
  | name :: rest => (a.step state name).bind fun next => run a next.1 rest

def accepts (a : Automaton) (names : List QName) : Bool :=
  ((a.run a.start names).map a.isAccepting).getD false

def transitionCount (a : Automaton) : Nat :=
  a.states.foldl (fun count s => count + s.transitions.length) 0

end Automaton

end Xsd
