import Xsd.Automaton.Basic
import Xsd.Substitution

/-!
# Automata of contents

A nondeterministic automaton that reads what a content admits, one fragment for each part of it,
put together by moves that read nothing.
-/

namespace Xsd

structure NfaState where
  /-- The states to which moves lead that read nothing. -/
  epsilon : List Nat
  /-- Symbols, and the states to which reading them leads. -/
  moves : List (Nat × Nat)
deriving DecidableEq, Repr, Inhabited

structure Nfa where
  states : Array NfaState
  start : Nat
  accept : Nat
deriving DecidableEq, Repr, Inhabited

namespace Nfa

def epsilon (nfa : Nfa) (state : Nat) : List Nat :=
  ((nfa.states[state]?).map (·.epsilon)).getD []

def moves (nfa : Nfa) (state : Nat) : List (Nat × Nat) :=
  ((nfa.states[state]?).map (·.moves)).getD []

/-- Where the automata are built: the declarations, and how large they may get. -/
structure Environment where
  arena : Arena
  substitutions : SubstitutionGroups
  limits : Limits
  owner : String

/-- The symbols and states so far. -/
structure Draft where
  alphabet : Array Symbol
  states : Array NfaState
deriving Inhabited

/-- A step of the construction. -/
abbrev Construct (α : Type) : Type := StateT Draft (Except Error) α

/-- A part of the automaton with one way in and one way out. -/
structure Fragment where
  start : Nat
  finish : Nat

namespace Construct

/-- Stay within a limit. -/
def keep (check : Except LimitExcess Unit) : Construct Unit :=
  match check with
  | .ok () => return ()
  | .error excess => throw (.limitExceeded excess)

/-- A new state without moves. -/
def newState (env : Environment) : Construct Nat := do
  let n := (← get).states.size
  keep (env.limits.checkAutomatonStates env.owner (n + 1))
  modifyGet fun d => (n, { d with states := d.states.push ⟨[], []⟩ })

/-- So many new states, whose numbers follow each other; the answer is the first. -/
def newStates (env : Environment) (count : Nat) : Construct Nat := do
  let first := (← get).states.size
  keep (env.limits.checkAutomatonStates env.owner (first + count))
  modifyGet fun d => (first, { d with states := d.states ++ Array.replicate count ⟨[], []⟩ })

def addEpsilon (source target : Nat) : Construct Unit :=
  modify fun d =>
    { d with
      states := d.states.modify source fun s => { s with epsilon := s.epsilon ++ [target] } }

def addMove (source symbol target : Nat) : Construct Unit :=
  modify fun d =>
    { d with
      states := d.states.modify source fun s => { s with moves := s.moves ++ [(symbol, target)] } }

/-- The number of a symbol, which is entered unless `isThere` holds of one that there is. -/
def symbol (isThere : Symbol → Bool) (new : Symbol) : Construct Nat :=
  modifyGet fun d =>
    match d.alphabet.findIdx? isThere with
    | some index => (index, d)
    | none => (d.alphabet.size, { d with alphabet := d.alphabet.push new })

def wildcardSymbol (w : Wildcard) : Construct Nat :=
  symbol (fun s => s == .wildcard w) (.wildcard w)

/-- Add the symbol of an element. An abstract one has none. -/
def addElementSymbol (env : Environment) (symbols : List Nat) (id : ElementId) :
    Construct (List Nat) := do
  match env.arena.element? id with
  | none => return symbols
  | some e =>
    match e.isAbstract, e.info.name with
    | false, some name =>
      let n ← symbol (·.isElementNamed name) (.element name id)
      return if symbols.contains n then symbols else symbols ++ [n]
    | _, _ => return symbols

/-- The symbols of an element and of those that may stand in for it. -/
def elementSymbols (env : Environment) (id : ElementId) : Construct (List Nat) :=
  (id :: env.substitutions.members id).foldlM (addElementSymbol env) []

/-! ## Repetition -/

/-- Copies one after the other; the last one can be repeated if `loops`. -/
def copies (build : Construct Fragment) (loops : Bool) : (count : Nat) → (current : Nat) →
    Construct Nat
  | 0, current => return current
  | count + 1, current => do
    let copy ← build
    addEpsilon current copy.start
    if loops && count == 0 then addEpsilon copy.finish copy.start
    copies build loops count copy.finish

/-- Copies one after the other, after each of which the rest can be left out. -/
def optionalCopies (build : Construct Fragment) (finish : Nat) : (count : Nat) →
    (current : Nat) → Construct Unit
  | 0, _ => return ()
  | count + 1, current => do
    let copy ← build
    addEpsilon current copy.start
    addEpsilon copy.finish finish
    optionalCopies build finish count copy.finish

/-- What is built can occur within bounds. -/
def repeated (env : Environment) (occurs : Occurs) (build : Construct Fragment) :
    Construct Fragment := do
  let start ← newState env
  let current ← copies build occurs.max.isNone occurs.min start
  match occurs.max with
  | none =>
    if occurs.min = 0 then
      let copy ← build
      addEpsilon current copy.start
      addEpsilon copy.finish current
    return ⟨start, current⟩
  | some max =>
    let finish ← newState env
    addEpsilon current finish
    optionalCopies build finish (max - occurs.min) current
    return ⟨start, finish⟩

/-! ## Groups -/

/-- A member of a group, and how to build it once. -/
structure Member where
  content : Content
  build : Construct Fragment

/-- The member as often as it may occur. -/
def Member.repeated (env : Environment) (m : Member) : Construct Fragment :=
  Construct.repeated env m.content.occurs m.build

/-- A fragment that reads one of several symbols. -/
def reading (env : Environment) (symbols : Construct (List Nat)) : Construct Fragment := do
  let start ← newState env
  let finish ← newState env
  (← symbols).forM fun n => addMove start n finish
  return ⟨start, finish⟩

def sequenceFrom (env : Environment) : List Member → (current : Nat) → Construct Nat
  | [], current => return current
  | m :: rest, current => do
    let f ← m.repeated env
    addEpsilon current f.start
    sequenceFrom env rest f.finish

def sequence (env : Environment) (members : List Member) : Construct Fragment := do
  let start ← newState env
  return ⟨start, ← sequenceFrom env members start⟩

def choice (env : Environment) (members : List Member) : Construct Fragment := do
  let start ← newState env
  let finish ← newState env
  members.forM fun m => do
    let f ← m.repeated env
    addEpsilon start f.start
    addEpsilon f.finish finish
  return ⟨start, finish⟩

/-- The symbols that a member consists of; a group is not one of them. -/
def memberSymbols? (env : Environment) (m : Member) : Construct (Option (List Nat)) := do
  match m.content with
  | .element _ id => return some (← elementSymbols env id)
  | .wildcard _ w => return some [← wildcardSymbol w]
  | .group _ _ _ => return none

/-- Lead from one place of a lattice to another over a member. -/
def lead (m : Member) (symbols : Option (List Nat)) (source target : Nat) : Construct Unit := do
  match symbols with
  | some symbols => symbols.forM fun n => addMove source n target
  | none =>
    let copy ← m.build
    addEpsilon source copy.start
    addEpsilon copy.finish target

/-- The members that are required, as a set of their places. -/
def requiredMask (members : List Member) : Nat :=
  (members.zipIdx.filter fun p => 0 < p.1.content.occurs.min).foldl
    (fun mask p => mask ||| 1 <<< p.2) 0

/-- A set of members is a word of so many bits, one for each member, and so is the number of
sets. -/
def wordBits : Nat := 64

/-- Members in any order: a state for each set of members that have been read. -/
def all (env : Environment) (members : List Member) : Construct Fragment := do
  let members := members.filter fun m => !m.content.isEmpty
  keep (env.limits.checkAllGroupMembers env.owner members.length)
  if wordBits ≤ members.length then throw (.memberSets env.owner members.length)
  let size := 1 <<< members.length
  keep (env.limits.checkAutomatonStates env.owner ((← get).states.size + size))
  let readers ← members.mapM fun m => do return (m, ← memberSymbols? env m)
  let first ← newStates env size
  let finish ← newState env
  let required := requiredMask members
  (List.range size).forM fun mask => do
    if mask &&& required = required then addEpsilon (first + mask) finish
    readers.zipIdx.forM fun ((m, symbols), place) => do
      if !mask.testBit place then
        lead m symbols (first + mask) (first + (mask ||| 1 <<< place))
  return ⟨first, finish⟩

mutual

/-- The fragment of a content that occurs once. -/
def once (env : Environment) : Content → Construct Fragment
  | .element _ id => reading env (elementSymbols env id)
  | .wildcard _ w => reading env do return [← wildcardSymbol w]
  | .group _ .sequence members => sequence env (membersOf env members)
  | .group _ .choice members => choice env (membersOf env members)
  | .group _ .all members => all env (membersOf env members)

def membersOf (env : Environment) : List Content → List Member
  | [] => []
  | c :: cs => ⟨c, once env c⟩ :: membersOf env cs

end

/-- The fragment of a content as often as it may occur; nothing is read where there is none. -/
def content (env : Environment) : Option Content → Construct Fragment
  | some c => repeated env c.occurs (once env c)
  | none => do
    let state ← newState env
    return ⟨state, state⟩

end Construct

/-- The automaton that reads a content, and its alphabet. -/
def ofContent (env : Environment) (content : Option Content) :
    Except Error (Nfa × Array Symbol) := do
  let (fragment, draft) ← (Construct.content env content).run ⟨#[], #[]⟩
  return (⟨draft.states, fragment.start, fragment.finish⟩, draft.alphabet)

end Nfa

end Xsd
