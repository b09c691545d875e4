import Xsd.Automaton.Nfa
import Xsd.Proofs.Reachability

/-!
# Walks through a nondeterministic automaton

A walk is a chain of moves, silent or reading. It reads the names of its reading moves in their
order; what a move on a symbol reads is said by the symbol alone, whatever else the alphabet has.
-/

namespace Xsd

@[simp] theorem Symbol.reads_element {own name : QName} {id : ElementId} :
    (Symbol.element own id).reads name = true ↔ own = name := by
  simp [Symbol.reads]

@[simp] theorem Symbol.reads_wildcard {w : Wildcard} {name : QName} :
    (Symbol.wildcard w).reads name = true ↔ w.allows name.ns = true := by
  simp [Symbol.reads]

/-- The names can be read on the way from one state to another. -/
inductive Walk (alphabet : Array Symbol) (states : Array NfaState) :
    Nat → List QName → Nat → Prop
  | stay (p : Nat) : Walk alphabet states p [] p
  | silent {p q r : Nat} {s : NfaState} {names : List QName} (at_p : states[p]? = some s)
      (edge : q ∈ s.epsilon) (rest : Walk alphabet states q names r) :
      Walk alphabet states p names r
  | read {p q r n : Nat} {s : NfaState} {symbol : Symbol} {name : QName} {names : List QName}
      (at_p : states[p]? = some s) (move : (n, q) ∈ s.moves) (at_n : alphabet[n]? = some symbol)
      (reads : symbol.reads name = true) (rest : Walk alphabet states q names r) :
      Walk alphabet states p (name :: names) r

namespace Walk

variable {alphabet : Array Symbol} {states : Array NfaState}

theorem append {p q r : Nat} {first second : List QName} (hf : Walk alphabet states p first q)
    (hs : Walk alphabet states q second r) : Walk alphabet states p (first ++ second) r := by
  induction hf with
  | stay p => exact hs
  | silent at_p edge _ ih => exact .silent at_p edge (ih hs)
  | read at_p move at_n reads _ ih => exact .read at_p move at_n reads (ih hs)

end Walk

namespace Nfa

theorem mem_epsilon_iff {nfa : Nfa} {p q : Nat} :
    q ∈ nfa.epsilon p ↔ ∃ s, nfa.states[p]? = some s ∧ q ∈ s.epsilon := by
  rw [Nfa.epsilon]
  cases nfa.states[p]? <;> simp

theorem mem_moves_iff {nfa : Nfa} {p : Nat} {m : Nat × Nat} :
    m ∈ nfa.moves p ↔ ∃ s, nfa.states[p]? = some s ∧ m ∈ s.moves := by
  rw [Nfa.moves]
  cases nfa.states[p]? <;> simp

/-- The automaton speaks only of its own states and of symbols of the alphabet. -/
structure InRange (nfa : Nfa) (alphabet : Array Symbol) : Prop where
  start : nfa.start < nfa.states.size
  accept : nfa.accept < nfa.states.size
  epsilon : ∀ s ∈ nfa.states, ∀ q ∈ s.epsilon, q < nfa.states.size
  moves : ∀ s ∈ nfa.states, ∀ m ∈ s.moves, m.1 < alphabet.size ∧ m.2 < nfa.states.size

theorem InRange.epsilon_lt {nfa : Nfa} {alphabet : Array Symbol} (h : nfa.InRange alphabet)
    {p q : Nat} (edge : q ∈ nfa.epsilon p) : q < nfa.states.size := by
  obtain ⟨s, at_p, hq⟩ := mem_epsilon_iff.mp edge
  exact h.epsilon s (Array.mem_of_getElem? at_p) q hq

theorem InRange.moves_lt {nfa : Nfa} {alphabet : Array Symbol} (h : nfa.InRange alphabet)
    {p : Nat} {m : Nat × Nat} (move : m ∈ nfa.moves p) :
    m.1 < alphabet.size ∧ m.2 < nfa.states.size := by
  obtain ⟨s, at_p, hm⟩ := mem_moves_iff.mp move
  exact h.moves s (Array.mem_of_getElem? at_p) m hm

/-- The names can be read on the way from the start to the accepting state. -/
def Accepts (nfa : Nfa) (alphabet : Array Symbol) (names : List QName) : Prop :=
  Walk alphabet nfa.states nfa.start names nfa.accept

theorem walk_of_leads {nfa : Nfa} {alphabet : Array Symbol} {p q r : Nat} {names : List QName}
    (way : Leads nfa.epsilon p q) (walk : Walk alphabet nfa.states q names r) :
    Walk alphabet nfa.states p names r := by
  induction way using Relation.ReflTransGen.head_induction_on with
  | refl => exact walk
  | head edge _ ih =>
    obtain ⟨s, at_p, he⟩ := mem_epsilon_iff.mp edge
    exact .silent at_p he ih

/-- Whatever reads no name follows silent moves only. -/
theorem leads_of_walk_nil {nfa : Nfa} {alphabet : Array Symbol} {p r : Nat}
    (walk : Walk alphabet nfa.states p [] r) : Leads nfa.epsilon p r := by
  generalize hn : ([] : List QName) = names at walk
  induction walk with
  | stay p => exact .refl
  | silent at_p edge _ ih => exact .head (mem_epsilon_iff.mpr ⟨_, at_p, edge⟩) (ih hn)
  | read => cases hn

theorem walk_nil_iff {nfa : Nfa} {alphabet : Array Symbol} {p r : Nat} :
    Walk alphabet nfa.states p [] r ↔ Leads nfa.epsilon p r :=
  ⟨leads_of_walk_nil, fun way => walk_of_leads way (.stay r)⟩

/-- A walk that reads starts with silent moves and a move that reads the first name. -/
theorem walk_cons_iff {nfa : Nfa} {alphabet : Array Symbol} {p r : Nat} {name : QName}
    {names : List QName} :
    Walk alphabet nfa.states p (name :: names) r ↔
      ∃ q m s, Leads nfa.epsilon p q ∧ m ∈ nfa.moves q ∧ alphabet[m.1]? = some s ∧
        s.reads name = true ∧ Walk alphabet nfa.states m.2 names r := by
  constructor
  · intro walk
    generalize hn : name :: names = all at walk
    induction walk with
    | stay => cases hn
    | silent at_p edge _ ih =>
      obtain ⟨q, m, s, way, rest⟩ := ih hn
      exact ⟨q, m, s, .head (mem_epsilon_iff.mpr ⟨_, at_p, edge⟩) way, rest⟩
    | read at_p move at_n reads rest _ =>
      cases hn
      exact ⟨_, _, _, .refl, mem_moves_iff.mpr ⟨_, at_p, move⟩, at_n, reads, rest⟩
  · rintro ⟨q, m, s, way, move, at_n, reads, rest⟩
    obtain ⟨state, at_q, hm⟩ := mem_moves_iff.mp move
    exact walk_of_leads way (.read at_q hm at_n reads rest)

end Nfa

end Xsd
