import Xsd.Proofs.Automaton.Determinize

/-!
# Well-formed automata

The table of a deterministic automaton speaks only of its own states and of symbols of its alphabet,
and has no state that nothing leads to. A set of states is entered when a transition to it is made,
and the transitions of a state are made in the order of the symbols; so both are said of the sets that
are entered on the way, not of the finished table.
-/

namespace Xsd

namespace Automaton

/-- A transition leads from the first state to the second. -/
def Connects (a : Automaton) (p q : Nat) : Prop :=
  ∃ s, a.states[p]? = some s ∧ ∃ t ∈ s.transitions, t.target = q

/-- The first symbol is a wildcard that admits the name of the second, which is that of an element. -/
def StandsFor (a : Automaton) (w symbol : Nat) : Prop :=
  ∃ name id v, a.alphabet[symbol]? = some (.element name id) ∧
    a.alphabet[w]? = some (.wildcard v) ∧ v.allows name.ns = true

/-- Transitions are in the order of their symbols, and they and the wildcards that they name are within
the table; every state is reached from the start. -/
structure IsWellFormed (a : Automaton) : Prop where
  start : a.start < a.states.size
  ordered : ∀ s ∈ a.states, s.transitions.Pairwise fun t u => t.symbol < u.symbol
  symbol : ∀ s ∈ a.states, ∀ t ∈ s.transitions, t.symbol < a.alphabet.size
  target : ∀ s ∈ a.states, ∀ t ∈ s.transitions, t.target < a.states.size
  wildcard : ∀ s ∈ a.states, ∀ t ∈ s.transitions, ∀ w, t.wildcard = some w → a.StandsFor w t.symbol
  reached : ∀ n < a.states.size, Relation.ReflTransGen a.Connects a.start n

namespace IsWellFormed

variable {a : Automaton} {n : Nat} {s : State} {t : Transition}

theorem exists_symbol (formed : a.IsWellFormed) (at_n : a.states[n]? = some s)
    (ht : t ∈ s.transitions) : ∃ symbol, a.alphabet[t.symbol]? = some symbol :=
  ⟨_, Array.getElem?_eq_getElem (formed.symbol s (Array.mem_of_getElem? at_n) t ht)⟩

theorem exists_next (formed : a.IsWellFormed) (at_n : a.states[n]? = some s)
    (ht : t ∈ s.transitions) : ∃ next, a.states[t.target]? = some next :=
  ⟨_, Array.getElem?_eq_getElem (formed.target s (Array.mem_of_getElem? at_n) t ht)⟩

theorem exists_reader (formed : a.IsWellFormed) (at_n : a.states[n]? = some s)
    (ht : t ∈ s.transitions) : ∃ reader, a.reader? t = some reader := by
  rw [reader?]
  cases hw : t.wildcard with
  | none => exact formed.exists_symbol at_n ht
  | some w =>
    obtain ⟨_, _, v, -, at_w, -⟩ := formed.wildcard s (Array.mem_of_getElem? at_n) t ht w hw
    exact ⟨_, at_w⟩

/-- Where there is no step, no transition is taken; it is not for want of a symbol. -/
theorem step_eq_none_iff (formed : a.IsWellFormed) (at_n : a.states[n]? = some s) (name : QName) :
    a.step n name = none ↔ ∀ t ∈ s.transitions, a.isTaken name t = false := by
  constructor
  · intro stuck t ht
    by_contra taken
    cases found : s.transitions.find? (a.isTaken name) with
    | none => exact List.find?_eq_none.mp found t ht (by simpa using taken)
    | some u =>
      obtain ⟨reader, hr⟩ := formed.exists_reader at_n (List.mem_of_find?_eq_some found)
      simp [step, at_n, found, hr] at stuck
  · intro idle
    have found : s.transitions.find? (a.isTaken name) = none := by
      rw [List.find?_eq_none]
      intro t ht
      simp [idle t ht]
    simp [step, at_n, found]

/-- Every transition is expected under the name of its symbol. -/
theorem length_expected (formed : a.IsWellFormed) (at_n : a.states[n]? = some s) :
    (a.expected n).length = s.transitions.length := by
  have named : ∀ ts : List Transition, ts ⊆ s.transitions →
      (ts.filterMap fun t => (a.alphabet[t.symbol]?).map (·.render)).length = ts.length := by
    intro ts sub
    induction ts with
    | nil => rfl
    | cons t ts ih =>
      obtain ⟨symbol, at_t⟩ := formed.exists_symbol at_n (sub List.mem_cons_self)
      have rest := ih fun u hu => sub (List.mem_cons_of_mem t hu)
      simp [at_t, rest]
  rw [expected, at_n]
  exact named s.transitions fun _ ht => ht

end IsWellFormed

end Automaton

namespace Nfa

/-! ## Sets that are entered -/

namespace Subsets

/-- The second table has all that the first has, and further sets under the given numbers only. -/
structure Widens (s u : Subsets) (numbers : List Nat) : Prop where
  size_le : s.sets.size ≤ u.sets.size
  listed : ∀ n, s.sets.size ≤ n → n < u.sets.size → n ∈ numbers

theorem Widens.refl (s : Subsets) : Widens s s [] :=
  ⟨Nat.le_refl _, fun n old new => by omega⟩

theorem Widens.trans {s t u : Subsets} {numbers more : List Nat} (st : Widens s t numbers)
    (tu : Widens t u more) : Widens s u (numbers ++ more) := by
  refine ⟨st.size_le.trans tu.size_le, fun n old new => ?_⟩
  by_cases early : n < t.sets.size
  · exact List.mem_append_left _ (st.listed n old early)
  · exact List.mem_append_right _ (tu.listed n (by omega) new)

theorem widens_number {s t : Subsets} {limits : Limits} {owner : String} {set : List Nat} {n : Nat}
    (h : s.number limits owner set = .ok (n, t)) : Widens s t [n] := by
  rw [number] at h
  cases hi : s.index[set]? with
  | some k =>
    simp only [hi, Except.ok.injEq, Prod.mk.injEq] at h
    obtain ⟨-, rfl⟩ := h
    exact ⟨Nat.le_refl _, fun n old new => by omega⟩
  | none =>
    simp only [hi, bind_eq_ok_iff, pure_eq_ok_iff, Prod.mk.injEq] at h
    obtain ⟨⟨⟩, -, rfl, rfl⟩ := h
    refine ⟨by simp, fun n old new => ?_⟩
    have last : n < s.sets.size + 1 := by simpa using new
    have same : n = s.sets.size := by omega
    exact List.mem_singleton.mpr same

end Subsets

namespace Task

variable {t : Task} {moves : List (Nat × Nat)} {s u : Subsets}

/-- A symbol has one transition at most, and a set that is new is where that leads. -/
theorem transition_widens {symbol : Nat} {readers : List Nat} {found : Option Transition}
    (h : t.transition moves symbol readers s = .ok (found, u)) :
    (found.toList.map (·.symbol)).Sublist [symbol] ∧ s.Widens u (found.toList.map (·.target)) := by
  rw [transition] at h
  cases hf : moves.filter fun m => readers.contains m.1 with
  | nil =>
    simp only [hf, Except.ok.injEq, Prod.mk.injEq] at h
    obtain ⟨rfl, rfl⟩ := h
    exact ⟨List.nil_sublist _, .refl s⟩
  | cons first rest =>
    simp only [hf, bind_eq_ok_iff, pure_eq_ok_iff, Prod.mk.injEq] at h
    obtain ⟨⟨target, v⟩, entered, rfl, rfl⟩ := h
    exact ⟨List.Sublist.refl _, Subsets.widens_number entered⟩

theorem transitions_widens {symbols : List (Nat × List Nat)} {found : List Transition}
    (h : t.transitions moves symbols s = .ok (found, u)) :
    (found.map (·.symbol)).Sublist (symbols.map (·.1)) ∧ s.Widens u (found.map (·.target)) := by
  induction symbols generalizing s found with
  | nil =>
    simp only [transitions, Except.ok.injEq, Prod.mk.injEq] at h
    obtain ⟨rfl, rfl⟩ := h
    exact ⟨List.Sublist.refl _, .refl s⟩
  | cons head rest ih =>
    obtain ⟨symbol, readers⟩ := head
    simp only [transitions, bind_eq_ok_iff, pure_eq_ok_iff, Prod.mk.injEq] at h
    obtain ⟨⟨first, v⟩, hfirst, ⟨others, w⟩, hothers, rfl, rfl⟩ := h
    obtain ⟨sub, widens⟩ := transition_widens hfirst
    obtain ⟨subRest, widensMore⟩ := ih hothers
    rw [List.map_append, List.map_append]
    exact ⟨sub.append subRest, widens.trans widensMore⟩

theorem state_widens {set : List Nat} {state : State} (h : t.state set s = .ok (state, u)) :
    (state.transitions.map (·.symbol)).Sublist (t.readers.map (·.1)) ∧
      s.Widens u (state.transitions.map (·.target)) := by
  rw [Task.state] at h
  cases ho : overlap? [] (wildcardsOf t.alphabet ((set.flatMap t.nfa.moves).map (·.1))) with
  | some pair => simp [ho] at h
  | none =>
    cases ht : t.transitions (set.flatMap t.nfa.moves) t.readers s with
    | error excess => simp [ho, ht] at h
    | ok result =>
      obtain ⟨found, v⟩ := result
      simp only [ho, ht, Except.ok.injEq, Prod.mk.injEq] at h
      obtain ⟨rfl, rfl⟩ := h
      exact transitions_widens ht

/-- To each set but the first one a transition leads from the state of an earlier one, and states have
their transitions in the order of the symbols. -/
structure IsLinked (sets : Array (List Nat)) (done : Array State) : Prop where
  size_le : done.size ≤ sets.size
  ordered : ∀ state ∈ done, state.transitions.Pairwise fun t u => t.symbol < u.symbol
  found : ∀ n, 0 < n → n < sets.size →
    ∃ k < n, ∃ state, done[k]? = some state ∧ ∃ tr ∈ state.transitions, tr.target = n

/-- The state of the next set keeps the table linked: what it enters comes after its own number. -/
theorem IsLinked.push {done : Array State} {set : List Nat} {state : State}
    (sorted : (t.readers.map (·.1)).Pairwise (· < ·)) (linked : IsLinked s.sets done)
    (next : s.sets[done.size]? = some set) (h : t.state set s = .ok (state, u)) :
    IsLinked u.sets (done.push state) := by
  obtain ⟨sub, widens⟩ := state_widens h
  have inside : done.size < s.sets.size := (Array.getElem?_eq_some_iff.mp next).1
  constructor
  case size_le =>
    have := widens.size_le
    rw [Array.size_push]
    omega
  case ordered =>
    intro other hother
    rcases Array.mem_push.mp hother with old | rfl
    · exact linked.ordered other old
    · exact List.pairwise_map.mp (sorted.sublist sub)
  case found =>
    intro n pos small
    by_cases old : n < s.sets.size
    · obtain ⟨k, before, other, at_k, leads⟩ := linked.found n pos old
      refine ⟨k, before, other, ?_, leads⟩
      rw [Array.getElem?_push_lt (Array.getElem?_eq_some_iff.mp at_k).1]
      exact (Array.getElem?_eq_getElem _).symm.trans at_k
    · obtain ⟨tr, htr, target⟩ := List.mem_map.mp (widens.listed n (by omega) small)
      exact ⟨done.size, by omega, state, Array.getElem?_push_size, tr, htr, target⟩

/-- By induction on the fuel: one more state in every round. -/
theorem exists_isLinked_of_explore {fuel : Nat} {done states : Array State}
    (sorted : (t.readers.map (·.1)).Pairwise (· < ·)) (linked : IsLinked s.sets done)
    (h : t.explore fuel s done = .ok states) : ∃ sets, IsLinked sets states := by
  induction fuel generalizing s done with
  | zero =>
    cases h
    exact ⟨s.sets, linked⟩
  | succ fuel ih =>
    rw [explore] at h
    cases hs : s.sets[done.size]? with
    | none =>
      simp only [hs, Except.ok.injEq] at h
      subst h
      exact ⟨s.sets, linked⟩
    | some set =>
      cases ht : t.state set s with
      | error e => simp [hs, ht] at h
      | ok result =>
        obtain ⟨state, v⟩ := result
        simp only [hs, ht] at h
        exact ih (linked.push sorted hs ht) h

end Task

/-! ## The finished table -/

section

variable {nfa : Nfa} {alphabet : Array Symbol} {limits : Limits} {owner : String}
  {states : Array State}

/-- The symbols of the alphabet are gone through in their order. -/
theorem pairwise_readers : (((task nfa alphabet limits owner).readers).map (·.1)).Pairwise (· < ·) := by
  have symbols : ((task nfa alphabet limits owner).readers).map (·.1) = List.range alphabet.size := by
    simp [task, Function.comp_def]
  rw [symbols]
  exact List.pairwise_lt_range

theorem exists_isLinked (h : nfa.determinize alphabet limits owner = .ok states) :
    ∃ sets, Task.IsLinked sets states := by
  refine Task.exists_isLinked_of_explore (t := task nfa alphabet limits owner) pairwise_readers ?_ h
  exact ⟨by simp, by simp, fun n pos small => by simp at small; omega⟩

/-- By strong induction: a transition from an earlier state leads to each state but the first. -/
theorem Task.IsLinked.reached {sets : Array (List Nat)} (linked : Task.IsLinked sets states) (n : Nat)
    (small : n < states.size) :
    Relation.ReflTransGen (⟨alphabet, states, 0⟩ : Automaton).Connects 0 n := by
  induction n using Nat.strongRecOn with
  | ind n ih =>
    by_cases first : n = 0
    · subst first
      exact .refl
    · have := linked.size_le
      obtain ⟨k, before, state, at_k, leads⟩ := linked.found n (by omega) (by omega)
      exact (ih k before (by omega)).tail ⟨state, at_k, leads⟩

/-- A further source of a symbol is a wildcard that reads in its place. -/
theorem standsFor_of_mem_sources {w symbol : Nat} (mem : w ∈ sources alphabet symbol)
    (other : w ≠ symbol) : (⟨alphabet, states, 0⟩ : Automaton).StandsFor w symbol := by
  rw [sources] at mem
  split at mem
  · rename_i name id at_symbol
    rcases List.mem_cons.mp mem with same | mem
    · exact absurd same other
    · have admits := (List.mem_filter.mp mem).2
      split at admits
      · rename_i v at_w
        exact ⟨name, id, v, at_symbol, at_w, admits⟩
      · cases admits
  · exact absurd (List.mem_singleton.mp mem) other

/-- A wildcard is named only where no move is on the symbol itself. -/
theorem standsFor_of_isTransition {sets : Array (List Nat)} {moves : List (Nat × Nat)}
    {tr : Transition} {w : Nat} (h : (task nfa alphabet limits owner).IsTransition sets moves tr)
    (named : tr.wildcard = some w) : (⟨alphabet, states, 0⟩ : Automaton).StandsFor w tr.symbol := by
  obtain ⟨readers, mem, -, -, wildcard, own⟩ := h
  obtain ⟨-, rfl⟩ := mem_readers_iff.mp mem
  obtain ⟨m, hm, rfl⟩ := wildcard w named
  refine standsFor_of_mem_sources ?_ fun same => ?_
  · simpa using (List.mem_filter.mp hm).2
  · rw [own.mpr ⟨m, hm, same⟩] at named
    cases named

end

/-- The deterministic automaton is well formed, so that whatever a step or the list of what is expected
looks up is there: the symbol of a transition, what reads on it, and the state to which it leads. -/
theorem determinize_isWellFormed (nfa : Nfa) (alphabet : Array Symbol) (limits : Limits)
    (owner : String) (states : Array State)
    (h : nfa.determinize alphabet limits owner = .ok states) :
    (⟨alphabet, states, 0⟩ : Automaton).IsWellFormed ∧
    ∀ n s, states[n]? = some s →
      (∀ t ∈ s.transitions, ∃ symbol reader next, alphabet[t.symbol]? = some symbol ∧
        (⟨alphabet, states, 0⟩ : Automaton).reader? t = some reader ∧
        states[t.target]? = some next) ∧
      (∀ name, (⟨alphabet, states, 0⟩ : Automaton).step n name = none ↔
        ∀ t ∈ s.transitions, (⟨alphabet, states, 0⟩ : Automaton).isTaken name t = false) ∧
      ((⟨alphabet, states, 0⟩ : Automaton).expected n).length = s.transitions.length := by
  obtain ⟨sets, table⟩ := exists_table h
  obtain ⟨entered, linked⟩ := exists_isLinked h
  have isTransition : ∀ s ∈ states, ∀ t ∈ s.transitions,
      ∃ moves, (task nfa alphabet limits owner).IsTransition sets moves t := by
    intro s hs t ht
    obtain ⟨n, at_n⟩ := Array.mem_iff_getElem?.mp hs
    obtain ⟨set, -, desc⟩ := table.done n s at_n
    exact ⟨_, desc.leads t ht⟩
  have formed : (⟨alphabet, states, 0⟩ : Automaton).IsWellFormed := by
    constructor
    case start =>
      have := (Array.getElem?_eq_some_iff.mp table.start).1
      have := table.all
      change 0 < states.size
      omega
    case ordered => exact linked.ordered
    case symbol =>
      intro s hs t ht
      obtain ⟨moves, readers, mem, -⟩ := isTransition s hs t ht
      exact (mem_readers_iff.mp mem).1
    case target =>
      intro s hs t ht
      obtain ⟨moves, readers, -, -, target, -⟩ := isTransition s hs t ht
      exact (Array.getElem?_eq_some_iff.mp target).1.trans_le table.all
    case wildcard =>
      intro s hs t ht w named
      obtain ⟨moves, isTransition⟩ := isTransition s hs t ht
      exact standsFor_of_isTransition isTransition named
    case reached => exact linked.reached
  refine ⟨formed, fun n s at_n => ⟨fun t ht => ?_, formed.step_eq_none_iff at_n,
    formed.length_expected at_n⟩⟩
  obtain ⟨symbol, at_t⟩ := formed.exists_symbol at_n ht
  obtain ⟨reader, hr⟩ := formed.exists_reader at_n ht
  obtain ⟨next, at_next⟩ := formed.exists_next at_n ht
  exact ⟨symbol, reader, next, at_t, hr, at_next⟩

/-- A name, and then any names. -/
private def openEnded : Nfa := ⟨#[⟨[], [(0, 1)]⟩, ⟨[], [(1, 1)]⟩], 0, 1⟩

private def openEndedAlphabet : Array Symbol :=
  #[.element ⟨none, "a"⟩ ⟨0⟩, .wildcard ⟨.any, .skip⟩]

private def openEndedStates : Array State :=
  #[⟨false, [⟨0, 1, none⟩]⟩, ⟨true, [⟨0, 1, some 1⟩, ⟨1, 1, none⟩]⟩]

/-- Once the name has been read, the wildcard stands for it, and both symbols are expected. -/
theorem openEnded_isWellFormed :
    openEnded.determinize openEndedAlphabet .standard "" = .ok openEndedStates ∧
      (⟨openEndedAlphabet, openEndedStates, 0⟩ : Automaton).IsWellFormed ∧
      (⟨openEndedAlphabet, openEndedStates, 0⟩ : Automaton).StandsFor 1 0 ∧
      (⟨openEndedAlphabet, openEndedStates, 0⟩ : Automaton).Connects 0 1 ∧
      ((⟨openEndedAlphabet, openEndedStates, 0⟩ : Automaton).expected 1).length = 2 := by
  have computed : openEnded.determinize openEndedAlphabet .standard "" = .ok openEndedStates := by
    cbv
  obtain ⟨formed, found⟩ :=
    determinize_isWellFormed openEnded openEndedAlphabet .standard "" openEndedStates computed
  have at_one : openEndedStates[1]? = some ⟨true, [⟨0, 1, some 1⟩, ⟨1, 1, none⟩]⟩ := rfl
  obtain ⟨-, -, expected⟩ := found 1 _ at_one
  have standsFor := formed.wildcard _ (Array.mem_of_getElem? at_one) _ List.mem_cons_self 1 rfl
  exact ⟨computed, formed, standsFor, ⟨_, rfl, ⟨0, 1, none⟩, by decide, rfl⟩, expected⟩

end Nfa

end Xsd
