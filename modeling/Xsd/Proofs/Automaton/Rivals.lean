import Xsd.Proofs.Automaton.NextName

/-!
# Rival wildcards

Two wildcards are rivals in a set of states if moves on both go out from it and some name is read by
both: nothing would say then which of them reads it. Determinization refuses exactly the sets with
rivals, and names two that are. Where it succeeds, no names lead to rivals.
-/

namespace Xsd.Nfa

/-- A move on the symbol goes out from a state of the set. -/
def LeavesOn (nfa : Nfa) (set : List Nat) (symbol : Nat) : Prop :=
  ∃ p ∈ set, ∃ target, (symbol, target) ∈ nfa.moves p

/-- Moves on the symbols of the two wildcards go out from the set, and a name is read by both. -/
def Rivals (nfa : Nfa) (alphabet : Array Symbol) (set : List Nat) (v w : Wildcard) : Prop :=
  ∃ i j, i ≠ j ∧ nfa.LeavesOn set i ∧ nfa.LeavesOn set j ∧
    alphabet[i]? = some (.wildcard v) ∧ alphabet[j]? = some (.wildcard w) ∧
    ∃ name : QName, (Symbol.wildcard v).reads name = true ∧ (Symbol.wildcard w).reads name = true

theorem leavesOn_iff {nfa : Nfa} {set : List Nat} {symbol : Nat} :
    nfa.LeavesOn set symbol ↔ symbol ∈ (set.flatMap nfa.moves).map (·.1) := by
  simp only [LeavesOn, List.mem_map, List.mem_flatMap]
  constructor
  · rintro ⟨p, hp, target, move⟩
    exact ⟨(symbol, target), ⟨p, hp, move⟩, rfl⟩
  · rintro ⟨m, ⟨p, hp, move⟩, rfl⟩
    exact ⟨p, hp, m.2, move⟩

/-! ## One set -/

/-- Where a wildcard overlaps with one before it, the two that are found do. -/
theorem sublist_of_overlap?_eq_some {before rest : List Wildcard} {v w : Wildcard}
    (h : overlap? before rest = some (v, w)) :
    [v, w].Sublist (before ++ rest) ∧ v.constraint.overlaps w.constraint = true := by
  induction rest generalizing before with
  | nil => cases h
  | cons u rest ih =>
    rw [overlap?] at h
    cases hf : before.find? fun v => v.constraint.overlaps u.constraint with
    | some v' =>
      rw [hf] at h
      cases h
      have there : [v].Sublist before :=
        List.singleton_sublist.mpr (List.mem_of_find?_eq_some hf)
      exact ⟨there.append (List.singleton_sublist.mpr List.mem_cons_self),
        by simpa using List.find?_some hf⟩
    | none =>
      rw [hf] at h
      simpa using ih h

/-- Wildcards that come one after the other are on different symbols. -/
theorem exists_symbols_of_sublist {alphabet : Array Symbol} {symbols : List Nat} {v w : Wildcard}
    (h : [v, w].Sublist (wildcardsOf alphabet symbols)) :
    ∃ i ∈ symbols, ∃ j ∈ symbols, i ≠ j ∧
      alphabet[i]? = some (.wildcard v) ∧ alphabet[j]? = some (.wildcard w) := by
  obtain ⟨some_symbols, sub, eq⟩ := List.sublist_filterMap_iff.mp h
  obtain ⟨_, i, others, rfl, -, at_i, eq'⟩ := List.filterMap_eq_cons_iff.mp eq.symm
  obtain ⟨_, j, _, rfl, -, at_j, -⟩ := List.filterMap_eq_cons_iff.mp eq'
  have at_i : alphabet[i]? = some (.wildcard v) := by
    split at at_i
    · cases at_i
      assumption
    · cases at_i
  have at_j : alphabet[j]? = some (.wildcard w) := by
    split at at_j
    · cases at_j
      assumption
    · cases at_j
  have once := (nodup_eraseDups symbols).sublist sub
  have ne : i ≠ j := by
    rintro rfl
    exact (List.nodup_cons.mp once.of_append_right).1 (by simp)
  exact ⟨i, List.mem_eraseDups.mp (sub.subset (by simp)), j,
    List.mem_eraseDups.mp (sub.subset (by simp)), ne, at_i, at_j⟩

/-- A set without rivals is one from which no two symbols go out that compete. -/
theorem exists_rivals_iff {nfa : Nfa} {alphabet : Array Symbol} {set : List Nat} :
    (∃ v w, nfa.Rivals alphabet set v w) ↔
      overlap? [] (wildcardsOf alphabet ((set.flatMap nfa.moves).map (·.1))) ≠ none := by
  rw [ne_eq, overlap?_wildcardsOf_eq_none_iff]
  constructor
  · rintro ⟨v, w, i, j, ne, hi, hj, at_i, at_j, name, hv, hw⟩ same
    refine ne (same i (leavesOn_iff.mp hi) j (leavesOn_iff.mp hj) name.ns ?_)
    exact ⟨v, w, at_i, at_j, Symbol.reads_wildcard.mp hv, Symbol.reads_wildcard.mp hw⟩
  · intro differ
    push Not at differ
    obtain ⟨i, hi, j, hj, ns, ⟨v, w, at_i, at_j, hv, hw⟩, ne⟩ := differ
    exact ⟨v, w, i, j, ne, leavesOn_iff.mpr hi, leavesOn_iff.mpr hj, at_i, at_j, ⟨ns, "a"⟩,
      Symbol.reads_wildcard.mpr hv, Symbol.reads_wildcard.mpr hw⟩

namespace Task

variable {t : Task} {set : List Nat} {s : Subsets} {v w : Wildcard}

theorem state_eq_ambiguous_iff :
    t.state set s = .error (.ambiguousContentModel t.owner v w) ↔
      overlap? [] (wildcardsOf t.alphabet ((set.flatMap t.nfa.moves).map (·.1))) = some (v, w) := by
  rw [state]
  cases overlap? [] (wildcardsOf t.alphabet ((set.flatMap t.nfa.moves).map (·.1))) with
  | some pair => simp [Prod.ext_iff]
  | none => cases t.transitions (set.flatMap t.nfa.moves) t.readers s <;> simp

/-- The wildcards for which a set is refused are rivals. -/
theorem rivals_of_state_eq_ambiguous
    (h : t.state set s = .error (.ambiguousContentModel t.owner v w)) :
    t.nfa.Rivals t.alphabet set v w := by
  obtain ⟨sub, overlaps⟩ := sublist_of_overlap?_eq_some (state_eq_ambiguous_iff.mp h)
  obtain ⟨i, hi, j, hj, ne, at_i, at_j⟩ := exists_symbols_of_sublist sub
  obtain ⟨ns, hv, hw⟩ := NamespaceConstraint.overlaps_iff.mp overlaps
  exact ⟨i, j, ne, leavesOn_iff.mpr hi, leavesOn_iff.mpr hj, at_i, at_j, ⟨ns, "a"⟩,
    Symbol.reads_wildcard.mpr hv, Symbol.reads_wildcard.mpr hw⟩

end Task

/-- Constraints overlap exactly if some namespace is admitted by both, and so a set of states is
refused exactly if there are rivals in it. -/
theorem overlaps_decides_rivals :
    (∀ a b : NamespaceConstraint,
      a.overlaps b = true ↔ ∃ ns, a.allows ns = true ∧ b.allows ns = true) ∧
    ∀ (t : Task) (set : List Nat) (s : Subsets),
      (∃ v w, t.state set s = .error (.ambiguousContentModel t.owner v w)) ↔
        ∃ v w, t.nfa.Rivals t.alphabet set v w := by
  refine ⟨fun a b => NamespaceConstraint.overlaps_iff, fun t set s => ?_⟩
  rw [exists_rivals_iff, Option.ne_none_iff_exists']
  simp only [Task.state_eq_ambiguous_iff, Prod.exists]

/-! ## The whole automaton -/

/-- An exploration that is refused has come to a set with rivals. -/
theorem Task.exists_rivals_of_explore {t : Task} {fuel : Nat} {s : Subsets} {done : Array State}
    {v w : Wildcard} (h : t.explore fuel s done = .error (.ambiguousContentModel t.owner v w)) :
    ∃ set, t.nfa.Rivals t.alphabet set v w := by
  induction fuel generalizing s done with
  | zero => cases h
  | succ fuel ih =>
    rw [explore] at h
    split at h
    · cases h
    · rename_i set _
      split at h
      · rename_i e refused
        cases h
        exact ⟨set, rivals_of_state_eq_ambiguous refused⟩
      · exact ih h

theorem exists_rivals_of_determinize {nfa : Nfa} {alphabet : Array Symbol} {limits : Limits}
    {owner : String} {v w : Wildcard}
    (h : nfa.determinize alphabet limits owner = .error (.ambiguousContentModel owner v w)) :
    ∃ set, nfa.Rivals alphabet set v w :=
  Task.exists_rivals_of_explore h

/-- Where there is a deterministic automaton, names that it reads lead to no rivals. -/
theorem not_rivals_of_determinize {nfa : Nfa} {alphabet : Array Symbol} {limits : Limits}
    {owner : String} {states : Array State} (inRange : nfa.InRange alphabet)
    (once : NamesOnce alphabet) (h : nfa.determinize alphabet limits owner = .ok states)
    {names : List QName} {n : Nat}
    (reached : (⟨alphabet, states, 0⟩ : Automaton).run 0 names = some n) {set : List Nat}
    (leads : ∀ p ∈ set, Walk alphabet nfa.states nfa.start names p) (v w : Wildcard) :
    ¬ nfa.Rivals alphabet set v w := by
  rintro ⟨i, j, ne, ⟨p, hp, target, move⟩, ⟨q, hq, target', move'⟩, at_i, at_j, name, hv, hw⟩
  obtain ⟨sets, table⟩ := exists_table h
  obtain ⟨all, at_n, mem⟩ := exists_set_of_run inRange once table reached
  obtain ⟨state, -, desc⟩ := table.describes at_n
  have rivals : ∃ v w, nfa.Rivals alphabet all v w :=
    ⟨v, w, i, j, ne, ⟨p, (mem p).mpr (leads p hp), target, move⟩,
      ⟨q, (mem q).mpr (leads q hq), target', move'⟩, at_i, at_j, name, hv, hw⟩
  exact exists_rivals_iff.mp rivals desc.apart

end Xsd.Nfa
