import Mathlib
import Xsd.Automaton.Determinize
import Xsd.Proofs.Automaton.Walk
import Xsd.Proofs.Steps
import Xsd.Proofs.Wildcard

/-!
# Determinization keeps the language

The states of the deterministic automaton stand for sets of states. What a transition leads to is
said for sets first, then for the table with its numbers; the names in the alphabet and those
outside of it are read by different rules, and both agree with the walks.
-/

namespace Xsd.Nfa

/-! ## Wildcards that could read the same name -/

/-- None overlaps with one before it exactly if no two of them overlap. -/
theorem overlap?_eq_none_iff {before rest : List Wildcard} :
    overlap? before rest = none ↔
      (∀ v ∈ before, ∀ w ∈ rest, ¬ v.constraint.overlaps w.constraint = true) ∧
        rest.Pairwise fun v w => ¬ v.constraint.overlaps w.constraint = true := by
  induction rest generalizing before with
  | nil => simp [overlap?]
  | cons w rest ih =>
    rw [overlap?]
    cases hf : before.find? fun v => v.constraint.overlaps w.constraint with
    | some v =>
      refine iff_of_false nofun fun ⟨across, _⟩ => ?_
      have meets : v.constraint.overlaps w.constraint = true := by simpa using List.find?_some hf
      exact across v (List.mem_of_find?_eq_some hf) w List.mem_cons_self meets
    | none =>
      have apart : ∀ v ∈ before, ¬ v.constraint.overlaps w.constraint = true :=
        List.find?_eq_none.mp hf
      refine ih.trans ?_
      rw [List.pairwise_cons]
      constructor
      · rintro ⟨across, within⟩
        refine ⟨fun v hv u hu => ?_, fun u hu => across w (by simp) u hu, within⟩
        rcases List.mem_cons.mp hu with rfl | hu
        · exact apart v hv
        · exact across v (List.mem_append_left _ hv) u hu
      · rintro ⟨across, first, within⟩
        refine ⟨fun v hv u hu => ?_, within⟩
        rcases List.mem_append.mp hv with hv | hv
        · exact across v hv u (List.mem_cons_of_mem _ hu)
        · cases List.mem_singleton.mp hv
          exact first u hu

/-- Symbols of which both read names of the namespace, both being wildcards. -/
def Compete (alphabet : Array Symbol) (ns : Namespace) (i j : Nat) : Prop :=
  ∃ v w : Wildcard, alphabet[i]? = some (.wildcard v) ∧ alphabet[j]? = some (.wildcard w) ∧
    v.allows ns = true ∧ w.allows ns = true

theorem Compete.symm {alphabet : Array Symbol} {ns : Namespace} {i j : Nat}
    (h : Compete alphabet ns i j) : Compete alphabet ns j i := by
  obtain ⟨v, w, at_i, at_j, hv, hw⟩ := h
  exact ⟨w, v, at_j, at_i, hw, hv⟩

theorem nodup_eraseDups : ∀ symbols : List Nat, symbols.eraseDups.Nodup
  | [] => by simp
  | n :: symbols => by
    rw [List.eraseDups_cons, List.nodup_cons]
    exact ⟨by simp [List.mem_eraseDups], nodup_eraseDups _⟩
termination_by symbols => symbols.length
decreasing_by exact Nat.lt_succ_of_le (List.length_filter_le _ _)

/-- Wildcards of the symbols overlap exactly if different symbols compete. -/
theorem overlap?_wildcardsOf_eq_none_iff {alphabet : Array Symbol} {symbols : List Nat} :
    overlap? [] (wildcardsOf alphabet symbols) = none ↔
      ∀ i ∈ symbols, ∀ j ∈ symbols, ∀ ns, Compete alphabet ns i j → i = j := by
  have symm : Std.Symm fun i j => ∀ ns, ¬ Compete alphabet ns i j :=
    ⟨fun _ _ h ns compete => h ns compete.symm⟩
  rw [overlap?_eq_none_iff, and_iff_right (by simp), wildcardsOf, List.pairwise_filterMap,
    List.Pairwise.iff (S := fun i j => ∀ ns, ¬ Compete alphabet ns i j)]
  · constructor
    · intro calm i hi j hj ns compete
      by_contra ne
      exact calm.forall (List.mem_eraseDups.mpr hi) (List.mem_eraseDups.mpr hj) ne ns compete
    · intro same
      refine (nodup_eraseDups symbols).pairwise_of_forall_ne fun i hi j hj ne ns compete => ?_
      exact ne (same i (List.mem_eraseDups.mp hi) j (List.mem_eraseDups.mp hj) ns compete)
  · intro i j
    constructor
    · rintro apart ns ⟨v, w, at_i, at_j, hv, hw⟩
      exact apart v (by simp [at_i]) w (by simp [at_j])
        (NamespaceConstraint.overlaps_iff.mpr ⟨ns, hv, hw⟩)
    · intro calm v hv w hw overlaps
      obtain ⟨ns, admits, admits'⟩ := NamespaceConstraint.overlaps_iff.mp overlaps
      refine calm ns ⟨v, w, ?_, ?_, admits, admits'⟩
      · split at hv <;> simp_all
      · split at hw <;> simp_all

/-- Where no wildcards overlap, different symbols do not compete. -/
theorem eq_of_compete {alphabet : Array Symbol} {symbols : List Nat} {ns : Namespace}
    (apart : overlap? [] (wildcardsOf alphabet symbols) = none) {i j : Nat}
    (hi : i ∈ symbols) (hj : j ∈ symbols) (compete : Compete alphabet ns i j) : i = j :=
  overlap?_wildcardsOf_eq_none_iff.mp apart i hi j hj ns compete

/-! ## Sets of states -/

/-- The states that the name leads to from a set of states, silent moves after it included. -/
def After (nfa : Nfa) (alphabet : Array Symbol) (set : List Nat) (name : QName) (q : Nat) : Prop :=
  ∃ p ∈ set, ∃ m ∈ nfa.moves p, ∃ s, alphabet[m.1]? = some s ∧ s.reads name = true ∧
    Leads nfa.epsilon m.2 q

theorem mem_closure_iff {nfa : Nfa} {alphabet : Array Symbol} (inRange : nfa.InRange alphabet)
    {seeds : List Nat} (hseeds : ∀ s ∈ seeds, s < nfa.states.size) {q : Nat} :
    q ∈ nfa.closure seeds ↔ ∃ s ∈ seeds, Leads nfa.epsilon s q := by
  rw [closure, Std.TreeSet.mem_toList, mem_reachable_iff _ hseeds]
  exact fun p _ q edge => inRange.epsilon_lt edge

/-! ## The table of sets -/

namespace Subsets

/-- A number under which a set is entered is its place in the table. -/
def Sound (s : Subsets) : Prop :=
  ∀ (set : List Nat) (n : Nat), s.index[set]? = some n → s.sets[n]? = some set

/-- A table of one set. -/
theorem sound_single (set : List Nat) :
    Sound ⟨#[set], Std.HashMap.emptyWithCapacity.insert set 0⟩ := by
  intro other n hn
  rw [Std.HashMap.getElem?_insert] at hn
  split at hn
  · rename_i same
    cases hn
    simpa using same
  · simp at hn

/-- The second table has all sets of the first one in their places. -/
def Extends (s t : Array (List Nat)) : Prop :=
  ∀ (n : Nat) (set : List Nat), s[n]? = some set → t[n]? = some set

theorem Extends.refl (s : Array (List Nat)) : Extends s s := fun _ _ h => h

theorem Extends.trans {s t u : Array (List Nat)} (st : Extends s t) (tu : Extends t u) :
    Extends s u := fun n set h => tu n set (st n set h)

/-- What one or several entries do to a table: sets stay where they are, and no more are there than
the limit admits or than there were. -/
structure Grows (limit : Nat) (s t : Subsets) : Prop where
  sound : t.Sound
  keeps : Extends s.sets t.sets
  bounded : t.sets.size ≤ max s.sets.size limit

theorem Grows.refl {limit : Nat} {s : Subsets} (sound : s.Sound) : Grows limit s s :=
  ⟨sound, .refl _, by omega⟩

theorem Grows.trans {limit : Nat} {s t u : Subsets} (st : Grows limit s t)
    (tu : Grows limit t u) : Grows limit s u := by
  refine ⟨tu.sound, st.keeps.trans tu.keeps, ?_⟩
  have := st.bounded
  have := tu.bounded
  omega

theorem number_spec {s t : Subsets} {limits : Limits} {owner : String} {set : List Nat} {n : Nat}
    (sound : s.Sound) (h : s.number limits owner set = .ok (n, t)) :
    Grows limits.automatonStates s t ∧ t.sets[n]? = some set := by
  rw [number] at h
  cases hi : s.index[set]? with
  | some k =>
    simp only [hi, Except.ok.injEq, Prod.mk.injEq] at h
    obtain ⟨rfl, rfl⟩ := h
    exact ⟨.refl sound, sound set _ hi⟩
  | none =>
    simp only [hi, bind_eq_ok_iff, pure_eq_ok_iff, Prod.mk.injEq] at h
    obtain ⟨⟨⟩, hl, rfl, rfl⟩ := h
    have fits : s.sets.size + 1 ≤ limits.automatonStates := Limits.check_eq_ok_iff.mp hl
    have keeps : Extends s.sets (s.sets.push set) := by
      intro n other hn
      have lt := (Array.getElem?_eq_some_iff.mp hn).1
      rw [Array.getElem?_push_lt lt]
      rw [Array.getElem?_eq_getElem lt] at hn
      exact hn
    refine ⟨⟨?_, keeps, by simp; omega⟩, by simp⟩
    intro other n hn
    rw [Std.HashMap.getElem?_insert] at hn
    split at hn
    · rename_i same
      cases hn
      simpa using same
    · exact keeps n other (sound other n hn)

end Subsets

/-! ## Transitions of one state -/

namespace Task

/-- The moves that a symbol with the given readers follows. -/
def followed (moves : List (Nat × Nat)) (readers : List Nat) : List (Nat × Nat) :=
  moves.filter fun m => readers.contains m.1

/-- A transition leads to the set that follows the moves of its symbol, of which there are some;
a wildcard that it names is on one of them, and it names none where one is on the symbol itself. -/
def IsTransition (t : Task) (sets : Array (List Nat)) (moves : List (Nat × Nat))
    (tr : Transition) : Prop :=
  ∃ readers, (tr.symbol, readers) ∈ t.readers ∧ followed moves readers ≠ [] ∧
    sets[tr.target]? = some (t.nfa.closure ((followed moves readers).map (·.2))) ∧
    (∀ w, tr.wildcard = some w → ∃ m ∈ followed moves readers, m.1 = w) ∧
    (tr.wildcard = none ↔ ∃ m ∈ followed moves readers, m.1 = tr.symbol)

theorem IsTransition.mono {t : Task} {sets more : Array (List Nat)} {moves : List (Nat × Nat)}
    {tr : Transition} (keeps : Subsets.Extends sets more) (h : t.IsTransition sets moves tr) :
    t.IsTransition more moves tr := by
  obtain ⟨readers, mem, some_move, target, wildcard, own⟩ := h
  exact ⟨readers, mem, some_move, keeps _ _ target, wildcard, own⟩

theorem transition_spec {t : Task} {moves : List (Nat × Nat)} {symbol : Nat} {readers : List Nat}
    {s u : Subsets} {found : Option Transition} (sound : s.Sound)
    (mem : (symbol, readers) ∈ t.readers)
    (h : t.transition moves symbol readers s = .ok (found, u)) :
    Subsets.Grows t.limits.automatonStates s u ∧
      (∀ tr, found = some tr → tr.symbol = symbol ∧ t.IsTransition u.sets moves tr) ∧
      (found = none → followed moves readers = []) := by
  rw [transition] at h
  cases hf : moves.filter fun m => readers.contains m.1 with
  | nil =>
    simp only [hf, Except.ok.injEq, Prod.mk.injEq] at h
    obtain ⟨rfl, rfl⟩ := h
    exact ⟨.refl sound, by simp, fun _ => hf⟩
  | cons first rest =>
    simp only [hf, bind_eq_ok_iff, pure_eq_ok_iff, Prod.mk.injEq] at h
    obtain ⟨⟨target, v⟩, hn, rfl, rfl⟩ := h
    obtain ⟨grows, entered⟩ := Subsets.number_spec sound hn
    refine ⟨grows, ?_, by simp⟩
    have eq : followed moves readers = first :: rest := hf
    intro tr htr
    cases htr
    refine ⟨rfl, readers, mem, by simp [eq], by rw [eq]; exact entered, ?_, ?_⟩
    · intro w hw
      refine ⟨first, by simp [eq], ?_⟩
      split at hw
      · cases hw
      · exact Option.some.inj hw
    · have listed : ((first :: rest).any fun m => m.1 == symbol) = true ↔
          ∃ m ∈ first :: rest, m.1 = symbol := by
        simp only [List.any_eq_true, beq_iff_eq]
      rw [eq, ← listed]
      split
      · rename_i own
        exact iff_of_true rfl own
      · rename_i other
        exact iff_of_false nofun other

theorem transitions_spec {t : Task} {moves : List (Nat × Nat)} {symbols : List (Nat × List Nat)}
    {s u : Subsets} {found : List Transition} (sound : s.Sound) (sub : symbols ⊆ t.readers)
    (h : t.transitions moves symbols s = .ok (found, u)) :
    Subsets.Grows t.limits.automatonStates s u ∧
      (∀ tr ∈ found, t.IsTransition u.sets moves tr) ∧
      ∀ symbol readers, (symbol, readers) ∈ symbols → followed moves readers ≠ [] →
        ∃ tr ∈ found, tr.symbol = symbol := by
  induction symbols generalizing s found with
  | nil =>
    simp only [transitions, Except.ok.injEq, Prod.mk.injEq] at h
    obtain ⟨rfl, rfl⟩ := h
    exact ⟨.refl sound, by simp, by simp⟩
  | cons head rest ih =>
    obtain ⟨symbol, readers⟩ := head
    simp only [transitions, bind_eq_ok_iff, pure_eq_ok_iff, Prod.mk.injEq] at h
    obtain ⟨⟨first, v⟩, hfirst, ⟨others, u'⟩, hothers, rfl, rfl⟩ := h
    obtain ⟨grows, isFirst, noFirst⟩ := transition_spec sound (sub List.mem_cons_self) hfirst
    obtain ⟨growsMore, areOthers, covers⟩ :=
      ih grows.sound (fun _ hx => sub (List.mem_cons_of_mem _ hx)) hothers
    refine ⟨grows.trans growsMore, ?_, ?_⟩
    · intro tr htr
      rcases List.mem_append.mp htr with htr | htr
      · exact (isFirst tr (Option.mem_toList.mp htr)).2.mono growsMore.keeps
      · exact areOthers tr htr
    · intro symbol' readers' mem some_move
      rcases List.mem_cons.mp mem with eq | mem
      · cases eq
        cases hf : first with
        | none => exact absurd (noFirst hf) some_move
        | some tr => exact ⟨tr, by simp, (isFirst tr hf).1⟩
      · obtain ⟨tr, htr, eq⟩ := covers symbol' readers' mem some_move
        exact ⟨tr, List.mem_append_right _ htr, eq⟩

/-! ## All states -/

/-- A state of the table stands for a set of states of the automaton. -/
structure Describes (t : Task) (sets : Array (List Nat)) (set : List Nat) (state : State) :
    Prop where
  accepting : state.accepting = set.contains t.nfa.accept
  apart : overlap? [] (wildcardsOf t.alphabet ((set.flatMap t.nfa.moves).map (·.1))) = none
  leads : ∀ tr ∈ state.transitions, t.IsTransition sets (set.flatMap t.nfa.moves) tr
  covers : ∀ symbol readers, (symbol, readers) ∈ t.readers →
    followed (set.flatMap t.nfa.moves) readers ≠ [] → ∃ tr ∈ state.transitions, tr.symbol = symbol

theorem Describes.mono {t : Task} {sets more : Array (List Nat)} {set : List Nat} {state : State}
    (keeps : Subsets.Extends sets more) (h : t.Describes sets set state) :
    t.Describes more set state :=
  ⟨h.accepting, h.apart, fun tr htr => (h.leads tr htr).mono keeps, h.covers⟩

theorem state_spec {t : Task} {set : List Nat} {s u : Subsets} {state : State} (sound : s.Sound)
    (h : t.state set s = .ok (state, u)) :
    Subsets.Grows t.limits.automatonStates s u ∧ t.Describes u.sets set state := by
  rw [Task.state] at h
  cases ho : overlap? [] (wildcardsOf t.alphabet ((set.flatMap t.nfa.moves).map (·.1))) with
  | some pair => simp [ho] at h
  | none =>
    cases ht : t.transitions (set.flatMap t.nfa.moves) t.readers s with
    | error excess => simp [ho, ht] at h
    | ok result =>
      obtain ⟨found, v⟩ := result
      simp only [ho, ht, Except.ok.injEq, Prod.mk.injEq] at h
      obtain ⟨rfl, rfl⟩ := h
      obtain ⟨grows, leads, covers⟩ := transitions_spec sound (fun _ hx => hx) ht
      exact ⟨grows, rfl, ho, leads, covers⟩

/-- The states that are done describe the first sets of the table. -/
def Done (t : Task) (sets : Array (List Nat)) (done : Array State) : Prop :=
  ∀ (n : Nat) (state : State), done[n]? = some state →
    ∃ set, sets[n]? = some set ∧ t.Describes sets set state

/-- With enough fuel for the sets that the limit admits, the exploration ends when all sets that
were found have their states. -/
theorem explore_spec {t : Task} {fuel : Nat} {s : Subsets} {done states : Array State}
    (sound : s.Sound) (isDone : t.Done s.sets done)
    (bounded : s.sets.size ≤ max 1 t.limits.automatonStates)
    (enough : max 1 t.limits.automatonStates ≤ done.size + fuel)
    (h : t.explore fuel s done = .ok states) :
    ∃ sets, Subsets.Extends s.sets sets ∧ sets.size ≤ states.size ∧ t.Done sets states := by
  induction fuel generalizing s done with
  | zero =>
    cases h
    exact ⟨s.sets, .refl _, by omega, isDone⟩
  | succ fuel ih =>
    rw [explore] at h
    cases hs : s.sets[done.size]? with
    | none =>
      simp only [hs, Except.ok.injEq] at h
      subst h
      exact ⟨s.sets, .refl _, Array.getElem?_eq_none_iff.mp hs, isDone⟩
    | some set =>
      cases ht : t.state set s with
      | error e => simp [hs, ht] at h
      | ok result =>
        obtain ⟨state, u⟩ := result
        simp only [hs, ht] at h
        obtain ⟨grows, describes⟩ := state_spec sound ht
        have moreDone : t.Done u.sets (done.push state) := by
          intro n other hn
          rw [Array.getElem?_push] at hn
          split at hn
          · rename_i last
            cases hn
            exact ⟨set, last ▸ grows.keeps _ _ hs, describes⟩
          · obtain ⟨before, at_n, desc⟩ := isDone n other hn
            exact ⟨before, grows.keeps _ _ at_n, desc.mono grows.keeps⟩
        have small := grows.bounded
        obtain ⟨sets, keeps, size, all⟩ :=
          ih grows.sound moreDone (by omega) (by simp; omega) h
        exact ⟨sets, grows.keeps.trans keeps, size, all⟩

end Task

/-- What the determinization of an automaton works with. -/
def task (nfa : Nfa) (alphabet : Array Symbol) (limits : Limits) (owner : String) : Task :=
  ⟨nfa, alphabet, (List.range alphabet.size).map fun n => (n, sources alphabet n), limits, owner⟩

/-- Each state stands for a set; the first one stands for what silent moves reach from the start,
and every transition leads to a state that stands for its set. -/
structure Table (nfa : Nfa) (alphabet : Array Symbol) (limits : Limits) (owner : String)
    (sets : Array (List Nat)) (states : Array State) : Prop where
  start : sets[0]? = some (nfa.closure [nfa.start])
  all : sets.size ≤ states.size
  done : (task nfa alphabet limits owner).Done sets states

theorem exists_table {nfa : Nfa} {alphabet : Array Symbol} {limits : Limits} {owner : String}
    {states : Array State} (h : nfa.determinize alphabet limits owner = .ok states) :
    ∃ sets, Table nfa alphabet limits owner sets states := by
  have nothing : (task nfa alphabet limits owner).Done #[nfa.closure [nfa.start]] #[] := by
    intro n state hn
    simp at hn
  obtain ⟨sets, keeps, size, done⟩ :=
    Task.explore_spec (Subsets.sound_single _) nothing (by simp) (by simp [task]) h
  exact ⟨sets, keeps 0 _ (by simp), size, done⟩

namespace Table

variable {nfa : Nfa} {alphabet : Array Symbol} {limits : Limits} {owner : String}
  {sets : Array (List Nat)} {states : Array State}

theorem describes (table : Table nfa alphabet limits owner sets states) {n : Nat}
    {set : List Nat} (at_n : sets[n]? = some set) :
    ∃ state, states[n]? = some state ∧
      (task nfa alphabet limits owner).Describes sets set state := by
  have lt : n < states.size := by
    have := (Array.getElem?_eq_some_iff.mp at_n).1
    have := table.all
    omega
  obtain ⟨other, at_other, describes⟩ :=
    table.done n states[n] (Array.getElem?_eq_getElem lt)
  have eq : other = set := Option.some.inj (at_other.symm.trans at_n)
  exact ⟨states[n], Array.getElem?_eq_getElem lt, eq ▸ describes⟩

end Table

/-! ## Names in the alphabet and names outside of it -/

/-- The name that an element symbol carries. -/
def elementName? : Symbol → Option QName
  | .element name _ => some name
  | .wildcard _ => none

/-- No two element symbols of the alphabet carry the same name. -/
def NamesOnce (alphabet : Array Symbol) : Prop :=
  (alphabet.toList.filterMap elementName?).Nodup

theorem NamesOnce.eq {alphabet : Array Symbol} (once : NamesOnce alphabet) {i j : Nat}
    {name : QName} {a b : ElementId} (at_i : alphabet[i]? = some (.element name a))
    (at_j : alphabet[j]? = some (.element name b)) : i = j := by
  rw [NamesOnce, List.Nodup, List.pairwise_filterMap, List.pairwise_iff_getElem] at once
  obtain ⟨li, ei⟩ := Array.getElem?_eq_some_iff.mp at_i
  obtain ⟨lj, ej⟩ := Array.getElem?_eq_some_iff.mp at_j
  rcases Nat.lt_trichotomy i j with lt | eq | lt
  · exact absurd rfl (once i j li lj lt name (by simp [ei, elementName?]) name
      (by simp [ej, elementName?]))
  · exact eq
  · exact absurd rfl (once j i lj li lt name (by simp [ej, elementName?]) name
      (by simp [ei, elementName?]))

theorem knows_iff {a : Automaton} {name : QName} :
    a.knows name = true ↔ ∃ (i : Nat) (id : ElementId), a.alphabet[i]? = some (.element name id) := by
  rw [Automaton.knows, Array.any_eq_true]
  constructor
  · rintro ⟨i, hi, h⟩
    cases hs : a.alphabet[i] with
    | wildcard w => simp [hs, Symbol.isElementNamed] at h
    | element own id =>
      have eq : own = name := by simpa [hs, Symbol.isElementNamed] using h
      exact ⟨i, id, by rw [Array.getElem?_eq_getElem hi, hs, eq]⟩
  · rintro ⟨i, id, h⟩
    obtain ⟨hi, eq⟩ := Array.getElem?_eq_some_iff.mp h
    exact ⟨i, hi, by simp [eq, Symbol.isElementNamed]⟩

theorem mem_readers_iff {nfa : Nfa} {alphabet : Array Symbol} {limits : Limits} {owner : String}
    {symbol : Nat} {readers : List Nat} :
    (symbol, readers) ∈ (task nfa alphabet limits owner).readers ↔
      symbol < alphabet.size ∧ readers = sources alphabet symbol := by
  simp only [task, List.mem_map, List.mem_range, Prod.mk.injEq]
  constructor
  · rintro ⟨n, hn, rfl, rfl⟩
    exact ⟨hn, rfl⟩
  · rintro ⟨hn, rfl⟩
    exact ⟨symbol, hn, rfl, rfl⟩

/-- The sources of an element symbol are the symbols that read its name. -/
theorem mem_sources_element_iff {alphabet : Array Symbol} (once : NamesOnce alphabet) {i j : Nat}
    {name : QName} {id : ElementId} (at_i : alphabet[i]? = some (.element name id)) :
    j ∈ sources alphabet i ↔ ∃ s, alphabet[j]? = some s ∧ s.reads name = true := by
  simp only [sources, at_i, List.mem_cons, List.mem_filter, List.mem_range]
  constructor
  · rintro (rfl | ⟨_, h⟩)
    · exact ⟨_, at_i, Symbol.reads_element.mpr rfl⟩
    · cases hs : alphabet[j]? with
      | none => simp [hs] at h
      | some s =>
        cases s with
        | element => simp [hs] at h
        | wildcard w => exact ⟨_, rfl, Symbol.reads_wildcard.mpr (by simpa [hs] using h)⟩
  · rintro ⟨s, at_j, reads⟩
    cases s with
    | element own other =>
      have eq : own = name := Symbol.reads_element.mp reads
      exact Or.inl (once.eq (eq ▸ at_j) at_i)
    | wildcard w =>
      exact Or.inr ⟨(Array.getElem?_eq_some_iff.mp at_j).1,
        by simpa [at_j] using Symbol.reads_wildcard.mp reads⟩

section Steps

variable {nfa : Nfa} {alphabet : Array Symbol} {limits : Limits} {owner : String}
  {sets : Array (List Nat)} {states : Array State}

/-- Where a transition is taken, the moves that it follows are those that read the name. -/
theorem mem_followed_iff (once : NamesOnce alphabet) {set : List Nat} {state : State}
    (desc : (task nfa alphabet limits owner).Describes sets set state) {tr : Transition}
    {name : QName} {readers : List Nat}
    (mem : (tr.symbol, readers) ∈ (task nfa alphabet limits owner).readers)
    (some_move : Task.followed (set.flatMap nfa.moves) readers ≠ [])
    (taken : (⟨alphabet, states, 0⟩ : Automaton).isTaken name tr = true) {m : Nat × Nat} :
    m ∈ Task.followed (set.flatMap nfa.moves) readers ↔
      m ∈ set.flatMap nfa.moves ∧ ∃ s, alphabet[m.1]? = some s ∧ s.reads name = true := by
  obtain ⟨_, rfl⟩ := mem_readers_iff.mp mem
  rw [Task.followed, List.mem_filter, List.contains_iff_mem]
  refine and_congr_right fun hm => ?_
  simp only [Automaton.isTaken] at taken
  cases at_tr : alphabet[tr.symbol]? with
  | none => simp [at_tr] at taken
  | some s =>
    cases s with
    | element own id =>
      have eq : own = name := by simpa [at_tr] using taken
      exact mem_sources_element_iff once (eq ▸ at_tr)
    | wildcard w =>
      have unknown : ¬ (⟨alphabet, states, 0⟩ : Automaton).knows name = true := by
        intro known
        simp [at_tr, known] at taken
      have allows : w.allows name.ns = true := by
        simp [at_tr] at taken
        exact taken.2
      have single : sources alphabet tr.symbol = [tr.symbol] := by simp [sources, at_tr]
      rw [single, List.mem_singleton]
      constructor
      · intro eq
        exact ⟨_, eq ▸ at_tr, Symbol.reads_wildcard.mpr allows⟩
      · rintro ⟨s, at_m, reads⟩
        cases s with
        | element other id =>
          have eq : other = name := Symbol.reads_element.mp reads
          exact absurd (knows_iff.mpr ⟨m.1, id, eq ▸ at_m⟩) unknown
        | wildcard v =>
          obtain ⟨k, hk⟩ := List.exists_mem_of_ne_nil _ some_move
          rw [Task.followed, single, List.mem_filter] at hk
          have on : k.1 = tr.symbol := by simpa using hk.2
          exact eq_of_compete desc.apart (List.mem_map_of_mem hm)
            (on ▸ List.mem_map_of_mem hk.1) ⟨v, w, at_m, at_tr, Symbol.reads_wildcard.mp reads, allows⟩

/-- Where a move reads the name, some transition is taken. -/
theorem exists_taken (states : Array State) (once : NamesOnce alphabet) {set : List Nat} {state : State}
    (desc : (task nfa alphabet limits owner).Describes sets set state) {name : QName}
    {m : Nat × Nat} (hm : m ∈ set.flatMap nfa.moves) {s : Symbol}
    (at_m : alphabet[m.1]? = some s) (reads : s.reads name = true) :
    ∃ tr ∈ state.transitions, (⟨alphabet, states, 0⟩ : Automaton).isTaken name tr = true := by
  have covered : ∀ i, i < alphabet.size → m.1 ∈ sources alphabet i →
      ∃ tr ∈ state.transitions, tr.symbol = i := by
    intro i hi source
    refine desc.covers i (sources alphabet i) (mem_readers_iff.mpr ⟨hi, rfl⟩) ?_
    refine List.ne_nil_of_mem (a := m) ?_
    rw [Task.followed, List.mem_filter]
    exact ⟨hm, by simpa using source⟩
  by_cases known : (⟨alphabet, states, 0⟩ : Automaton).knows name = true
  · obtain ⟨i, id, at_i⟩ := knows_iff.mp known
    obtain ⟨tr, htr, eq⟩ := covered i (Array.getElem?_eq_some_iff.mp at_i).1
      ((mem_sources_element_iff once at_i).mpr ⟨s, at_m, reads⟩)
    refine ⟨tr, htr, ?_⟩
    have at_tr : alphabet[tr.symbol]? = some (.element name id) := eq ▸ at_i
    simp [Automaton.isTaken, at_tr]
  · cases s with
    | element own id =>
      have eq : own = name := Symbol.reads_element.mp reads
      exact absurd (knows_iff.mpr ⟨m.1, id, eq ▸ at_m⟩) known
    | wildcard w =>
      obtain ⟨tr, htr, eq⟩ := covered m.1 (Array.getElem?_eq_some_iff.mp at_m).1
        (by simp [sources, at_m])
      refine ⟨tr, htr, ?_⟩
      have at_tr : alphabet[tr.symbol]? = some (.wildcard w) := eq ▸ at_m
      have allows := Symbol.reads_wildcard.mp reads
      simp [Automaton.isTaken, at_tr, known, allows]

/-- A step of the deterministic automaton leads to the state of all that the name leads to, and
there is none where the name leads nowhere. -/
theorem step_spec (inRange : nfa.InRange alphabet) (once : NamesOnce alphabet)
    (table : Table nfa alphabet limits owner sets states) {n : Nat} {set : List Nat}
    (at_n : sets[n]? = some set) (name : QName) :
    (∃ target reader more,
      (⟨alphabet, states, 0⟩ : Automaton).step n name = some (target, reader) ∧
        sets[target]? = some more ∧ ∀ q, q ∈ more ↔ nfa.After alphabet set name q) ∨
      (⟨alphabet, states, 0⟩ : Automaton).step n name = none ∧
        ∀ q, ¬ nfa.After alphabet set name q := by
  obtain ⟨state, at_state, desc⟩ := table.describes at_n
  cases hf : state.transitions.find? ((⟨alphabet, states, 0⟩ : Automaton).isTaken name) with
  | none =>
    refine Or.inr ⟨by simp [Automaton.step, at_state, hf], ?_⟩
    rintro q ⟨p, hp, m, hm, s, at_m, reads, _⟩
    obtain ⟨tr, htr, taken⟩ :=
      exists_taken states once desc (List.mem_flatMap.mpr ⟨p, hp, hm⟩) at_m reads
    exact List.find?_eq_none.mp hf tr htr taken
  | some tr =>
    have taken := List.find?_some hf
    obtain ⟨readers, mem, some_move, target, wildcard, -⟩ :=
      desc.leads tr (List.mem_of_find?_eq_some hf)
    have follows := fun m => mem_followed_iff (m := m) once desc mem some_move taken
    have reader : ∃ reader, (⟨alphabet, states, 0⟩ : Automaton).reader? tr = some reader := by
      rw [Automaton.reader?]
      refine ⟨_, Array.getElem?_eq_getElem (?_ : tr.wildcard.getD tr.symbol < alphabet.size)⟩
      cases hw : tr.wildcard with
      | none => exact (mem_readers_iff.mp mem).1
      | some w =>
        obtain ⟨m, hm, rfl⟩ := wildcard w hw
        obtain ⟨p, _, hp⟩ := List.mem_flatMap.mp ((follows m).mp hm).1
        exact (inRange.moves_lt hp).1
    obtain ⟨reader, hr⟩ := reader
    refine Or.inl ⟨tr.target, reader, _, by simp [Automaton.step, at_state, hf, hr], target, ?_⟩
    intro q
    rw [task, mem_closure_iff inRange]
    · constructor
      · rintro ⟨seed, hseed, way⟩
        obtain ⟨m, hm, rfl⟩ := List.mem_map.mp hseed
        obtain ⟨from_set, s, at_m, reads⟩ := (follows m).mp hm
        obtain ⟨p, hp, hm⟩ := List.mem_flatMap.mp from_set
        exact ⟨p, hp, m, hm, s, at_m, reads, way⟩
      · rintro ⟨p, hp, m, hm, s, at_m, reads, way⟩
        have hm := (follows m).mpr ⟨List.mem_flatMap.mpr ⟨p, hp, hm⟩, s, at_m, reads⟩
        exact ⟨m.2, List.mem_map_of_mem hm, way⟩
    · intro seed hseed
      obtain ⟨m, hm, rfl⟩ := List.mem_map.mp hseed
      obtain ⟨p, _, hp⟩ := List.mem_flatMap.mp ((follows m).mp hm).1
      exact (inRange.moves_lt hp).2

/-! ## Runs -/

/-- With every state the set has those to which silent moves lead. -/
def SilentlyClosed (nfa : Nfa) (set : List Nat) : Prop :=
  ∀ p ∈ set, ∀ q, Leads nfa.epsilon p q → q ∈ set

theorem silentlyClosed_of_after {set more : List Nat} {name : QName}
    (h : ∀ q, q ∈ more ↔ nfa.After alphabet set name q) : nfa.SilentlyClosed more := by
  intro p hp q way
  obtain ⟨r, hr, m, hm, s, at_m, reads, before⟩ := (h p).mp hp
  exact (h q).mpr ⟨r, hr, m, hm, s, at_m, reads, before.trans way⟩

/-- A run from the state of a set accepts what can be read from some member of the set. -/
theorem run_accepts_iff (inRange : nfa.InRange alphabet) (once : NamesOnce alphabet)
    (table : Table nfa alphabet limits owner sets states) {names : List QName} {n : Nat}
    {set : List Nat} (at_n : sets[n]? = some set) (closed : nfa.SilentlyClosed set) :
    (((⟨alphabet, states, 0⟩ : Automaton).run n names).map
        (⟨alphabet, states, 0⟩ : Automaton).isAccepting).getD false = true ↔
      ∃ p ∈ set, Walk alphabet nfa.states p names nfa.accept := by
  induction names generalizing n set with
  | nil =>
    obtain ⟨state, at_state, desc⟩ := table.describes at_n
    have accepting := desc.accepting
    simp only [Automaton.run, Automaton.isAccepting, at_state, Option.map_some, Option.getD_some,
      accepting, List.contains_iff_mem, walk_nil_iff, task]
    constructor
    · intro h
      exact ⟨nfa.accept, h, .refl⟩
    · rintro ⟨p, hp, way⟩
      exact closed p hp _ way
  | cons name names ih =>
    rw [Automaton.run]
    rcases step_spec inRange once table at_n name with
      ⟨target, reader, more, hstep, at_target, after⟩ | ⟨hstep, nowhere⟩
    · simp only [hstep, Option.bind_some, ih at_target (silentlyClosed_of_after after)]
      constructor
      · rintro ⟨q, hq, walk⟩
        obtain ⟨p, hp, m, hm, s, at_m, reads, way⟩ := (after q).mp hq
        exact ⟨p, hp, walk_cons_iff.mpr ⟨p, m, s, .refl, hm, at_m, reads, walk_of_leads way walk⟩⟩
      · rintro ⟨p, hp, walk⟩
        obtain ⟨q, m, s, way, hm, at_m, reads, rest⟩ := walk_cons_iff.mp walk
        exact ⟨m.2, (after m.2).mpr ⟨q, closed p hp q way, m, hm, s, at_m, reads, .refl⟩, rest⟩
    · simp only [hstep, Option.bind_none, Option.map_none, Option.getD_none, Bool.false_eq_true,
        false_iff]
      rintro ⟨p, hp, walk⟩
      obtain ⟨q, m, s, way, hm, at_m, reads, _⟩ := walk_cons_iff.mp walk
      exact nowhere m.2 ⟨q, closed p hp q way, m, hm, s, at_m, reads, .refl⟩

theorem accepts_iff_of_table (inRange : nfa.InRange alphabet) (once : NamesOnce alphabet)
    (table : Table nfa alphabet limits owner sets states) (names : List QName) :
    (⟨alphabet, states, 0⟩ : Automaton).accepts names = true ↔ nfa.Accepts alphabet names := by
  have start : ∀ q, q ∈ nfa.closure [nfa.start] ↔ Leads nfa.epsilon nfa.start q := by
    intro q
    rw [mem_closure_iff inRange (by simpa using inRange.start)]
    simp
  rw [Automaton.accepts, run_accepts_iff inRange once table table.start
    (fun p hp q way => (start q).mpr (((start p).mp hp).trans way))]
  constructor
  · rintro ⟨p, hp, walk⟩
    exact walk_of_leads ((start p).mp hp) walk
  · intro walk
    exact ⟨nfa.start, (start _).mpr .refl, walk⟩

end Steps

/-- The deterministic automaton accepts exactly the sequences of names that walks from the start to
the accepting state read. -/
theorem determinize_accepts_iff (nfa : Nfa) (alphabet : Array Symbol) (limits : Limits)
    (owner : String) (states : Array State) (inRange : nfa.InRange alphabet)
    (once : NamesOnce alphabet) (h : nfa.determinize alphabet limits owner = .ok states)
    (names : List QName) :
    (⟨alphabet, states, 0⟩ : Automaton).accepts names = true ↔ nfa.Accepts alphabet names := by
  obtain ⟨sets, table⟩ := exists_table h
  exact accepts_iff_of_table inRange once table names

/-- A name followed by a second one, or any name followed by a third one, with a silent circle
at the start. -/
private def branching : Nfa :=
  ⟨#[⟨[1], [(0, 2), (2, 3)]⟩, ⟨[0], []⟩, ⟨[], [(1, 4)]⟩, ⟨[], [(3, 4)]⟩, ⟨[], []⟩], 0, 4⟩

private def branchingAlphabet : Array Symbol :=
  #[.element ⟨none, "a"⟩ ⟨0⟩, .element ⟨none, "b"⟩ ⟨1⟩, .wildcard ⟨.any, .skip⟩,
    .element ⟨none, "c"⟩ ⟨2⟩]

theorem branching_accepts_iff :
    ∃ states, branching.InRange branchingAlphabet ∧ NamesOnce branchingAlphabet ∧
      branching.determinize branchingAlphabet .standard "" = .ok states ∧
      ((⟨branchingAlphabet, states, 0⟩ : Automaton).accepts [⟨none, "a"⟩, ⟨none, "c"⟩] = true ↔
        branching.Accepts branchingAlphabet [⟨none, "a"⟩, ⟨none, "c"⟩]) := by
  have inRange : branching.InRange branchingAlphabet :=
    ⟨by decide, by decide, by decide, by decide⟩
  have once : NamesOnce branchingAlphabet := by
    rw [NamesOnce]
    decide
  have succeeds : (branching.determinize branchingAlphabet .standard "").toOption.isSome = true := by
    cbv
  cases h : branching.determinize branchingAlphabet .standard "" with
  | error e =>
    rw [h] at succeeds
    cases succeeds
  | ok states =>
    exact ⟨states, inRange, once, rfl, determinize_accepts_iff _ _ _ _ _ inRange once h _⟩

end Xsd.Nfa
