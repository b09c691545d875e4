import Xsd.Proofs.Automaton.Determinize

/-!
# What reads the next name

A state of the deterministic automaton stands for the states to which the names so far can lead. The
next name is read exactly if one of its transitions is on a symbol that reads it, although wildcards
leave the names of the alphabet to element symbols. The element symbol reads wherever there is a move
on it, and otherwise the only wildcard that could.
-/

namespace Xsd.Nfa

section Table

variable {nfa : Nfa} {alphabet : Array Symbol} {limits : Limits} {owner : String}
  {sets : Array (List Nat)} {states : Array State} {set : List Nat} {n : Nat}

/-- A run leads to the state of all that its names can lead to. -/
theorem mem_of_run (inRange : nfa.InRange alphabet) (once : NamesOnce alphabet)
    (table : Table nfa alphabet limits owner sets states) {names : List QName} {last : Nat}
    (at_n : sets[n]? = some set) (closed : nfa.SilentlyClosed set)
    (reached : (⟨alphabet, states, 0⟩ : Automaton).run n names = some last) :
    ∃ more, sets[last]? = some more ∧
      ∀ q, q ∈ more ↔ ∃ p ∈ set, Walk alphabet nfa.states p names q := by
  induction names generalizing n set with
  | nil =>
    cases reached
    refine ⟨set, at_n, fun q => ⟨fun hq => ⟨q, hq, .stay q⟩, ?_⟩⟩
    rintro ⟨p, hp, walk⟩
    exact closed p hp q (walk_nil_iff.mp walk)
  | cons name names ih =>
    rcases step_spec inRange once table at_n name with
      ⟨target, reader, next, hstep, at_target, after⟩ | ⟨hstep, -⟩
    · rw [Automaton.run, hstep] at reached
      obtain ⟨more, at_last, mem⟩ := ih at_target (silentlyClosed_of_after after) reached
      refine ⟨more, at_last, fun q => (mem q).trans ⟨?_, ?_⟩⟩
      · rintro ⟨r, hr, walk⟩
        obtain ⟨p, hp, m, hm, s, at_m, reads, way⟩ := (after r).mp hr
        exact ⟨p, hp, walk_cons_iff.mpr ⟨p, m, s, .refl, hm, at_m, reads, walk_of_leads way walk⟩⟩
      · rintro ⟨p, hp, walk⟩
        obtain ⟨r, m, s, way, hm, at_m, reads, rest⟩ := walk_cons_iff.mp walk
        exact ⟨m.2, (after m.2).mpr ⟨r, closed p hp r way, m, hm, s, at_m, reads, .refl⟩, rest⟩
    · rw [Automaton.run, hstep] at reached
      cases reached

/-- A transition is on some move, and that reads whatever the symbol of the transition reads. -/
theorem exists_move_of_transition (once : NamesOnce alphabet) {state : State}
    (desc : (task nfa alphabet limits owner).Describes sets set state) {tr : Transition}
    (htr : tr ∈ state.transitions) {symbol : Symbol} (at_tr : alphabet[tr.symbol]? = some symbol)
    {name : QName} (reads : symbol.reads name = true) :
    ∃ m ∈ set.flatMap nfa.moves, ∃ s, alphabet[m.1]? = some s ∧ s.reads name = true := by
  obtain ⟨readers, mem, some_move, -⟩ := desc.leads tr htr
  obtain ⟨-, rfl⟩ := mem_readers_iff.mp mem
  obtain ⟨m, hm⟩ := List.exists_mem_of_ne_nil _ some_move
  obtain ⟨listed, source⟩ := List.mem_filter.mp hm
  rw [List.contains_iff_mem] at source
  refine ⟨m, listed, ?_⟩
  cases symbol with
  | element own id =>
    cases Symbol.reads_element.mp reads
    exact (mem_sources_element_iff once at_tr).mp source
  | wildcard w =>
    have self : m.1 = tr.symbol := by simpa [sources, at_tr] using source
    exact ⟨_, self ▸ at_tr, reads⟩

/-- What reads in a step is on a move itself. It is the element symbol of the name if that one is. -/
theorem reader_spec (once : NamesOnce alphabet) {state : State}
    (desc : (task nfa alphabet limits owner).Describes sets set state) {tr : Transition}
    (htr : tr ∈ state.transitions) {name : QName} {reader : Symbol}
    (taken : (⟨alphabet, states, 0⟩ : Automaton).isTaken name tr = true)
    (hr : (⟨alphabet, states, 0⟩ : Automaton).reader? tr = some reader) :
    ∃ k, alphabet[k]? = some reader ∧ reader.reads name = true ∧
      (∃ m ∈ set.flatMap nfa.moves, m.1 = k) ∧
      ∀ i id, alphabet[i]? = some (.element name id) → (∃ m ∈ set.flatMap nfa.moves, m.1 = i) →
        i = k := by
  obtain ⟨readers, mem, some_move, -, wildcard, own⟩ := desc.leads tr htr
  have follows := fun m => mem_followed_iff (m := m) once desc mem some_move taken
  have on : ∃ m ∈ Task.followed (set.flatMap nfa.moves) readers,
      m.1 = tr.wildcard.getD tr.symbol := by
    cases hw : tr.wildcard with
    | none => exact own.mp hw
    | some w => exact wildcard w hw
  obtain ⟨m, hm, at_k⟩ := on
  obtain ⟨listed, s, at_m, reads⟩ := (follows m).mp hm
  have same : s = reader := Option.some.inj ((at_k ▸ at_m).symm.trans hr)
  refine ⟨_, hr, same ▸ reads, ⟨m, listed, at_k⟩, fun i id at_i ⟨other, hother, on_i⟩ => ?_⟩
  -- A move on the element symbol is followed by the transition, which is then on that symbol too.
  have followed := (follows other).mpr ⟨hother, _, on_i ▸ at_i, Symbol.reads_element.mpr rfl⟩
  have at_symbol : i = tr.symbol := by
    have known : (⟨alphabet, states, 0⟩ : Automaton).knows name = true := knows_iff.mpr ⟨i, id, at_i⟩
    cases at_tr : alphabet[tr.symbol]? with
    | none => simp [Automaton.isTaken, at_tr] at taken
    | some symbol =>
      cases symbol with
      | wildcard w => simp [Automaton.isTaken, at_tr, known] at taken
      | element named id' =>
        have eq : named = name := by simpa [Automaton.isTaken, at_tr] using taken
        exact once.eq at_i (eq ▸ at_tr)
  rw [own.mpr ⟨other, followed, on_i.trans at_symbol⟩, Option.getD_none, at_symbol]

/-- The set behind the state that a run from the start leads to. -/
theorem exists_set_of_run (inRange : nfa.InRange alphabet) (once : NamesOnce alphabet)
    (table : Table nfa alphabet limits owner sets states) {names : List QName}
    (reached : (⟨alphabet, states, 0⟩ : Automaton).run 0 names = some n) :
    ∃ set, sets[n]? = some set ∧ ∀ p, p ∈ set ↔ Walk alphabet nfa.states nfa.start names p := by
  have start : ∀ q, q ∈ nfa.closure [nfa.start] ↔ Leads nfa.epsilon nfa.start q := by
    intro q
    rw [mem_closure_iff inRange (by simpa using inRange.start)]
    simp
  have closed : nfa.SilentlyClosed (nfa.closure [nfa.start]) :=
    fun p hp q way => (start q).mpr (((start p).mp hp).trans way)
  obtain ⟨set, at_n, mem⟩ := mem_of_run inRange once table table.start closed reached
  refine ⟨set, at_n, fun p => (mem p).trans ⟨?_, fun walk => ?_⟩⟩
  · rintro ⟨q, hq, walk⟩
    exact walk_of_leads ((start q).mp hq) walk
  · exact ⟨nfa.start, (start _).mpr .refl, walk⟩

theorem step_eq_some_iff {name : QName} {target : Nat} {reader : Symbol} :
    (⟨alphabet, states, 0⟩ : Automaton).step n name = some (target, reader) ↔
      ∃ state tr, states[n]? = some state ∧
        state.transitions.find? ((⟨alphabet, states, 0⟩ : Automaton).isTaken name) = some tr ∧
        (⟨alphabet, states, 0⟩ : Automaton).reader? tr = some reader ∧ tr.target = target := by
  constructor
  · intro h
    obtain ⟨state, at_n, h⟩ := Option.bind_eq_some_iff.mp h
    obtain ⟨tr, found, h⟩ := Option.bind_eq_some_iff.mp h
    obtain ⟨symbol, hr, h⟩ := Option.bind_eq_some_iff.mp h
    cases h
    exact ⟨state, tr, at_n, found, hr, rfl⟩
  · rintro ⟨state, tr, at_n, found, hr, rfl⟩
    simp [Automaton.step, at_n, found, hr]

/-- A transition that is taken is on a symbol that reads the name. -/
theorem reads_of_isTaken {name : QName} {tr : Transition}
    (taken : (⟨alphabet, states, 0⟩ : Automaton).isTaken name tr = true) :
    ∃ symbol, alphabet[tr.symbol]? = some symbol ∧ symbol.reads name = true := by
  cases at_tr : alphabet[tr.symbol]? with
  | none => simp [Automaton.isTaken, at_tr] at taken
  | some symbol =>
    refine ⟨symbol, rfl, ?_⟩
    cases symbol with
    | element own id => simpa [Automaton.isTaken, at_tr, Symbol.reads] using taken
    | wildcard w =>
      simp only [Automaton.isTaken, at_tr, Bool.and_eq_true] at taken
      exact Symbol.reads_wildcard.mpr taken.2

end Table

/-- From one of the states to which the names lead from the start, a move on the symbol goes out. -/
def HasMove (nfa : Nfa) (alphabet : Array Symbol) (names : List QName) (symbol : Nat) : Prop :=
  ∃ p target, Walk alphabet nfa.states nfa.start names p ∧ (symbol, target) ∈ nfa.moves p

/-- The symbol is that of the wildcard, on which a move goes out, and no other wildcard with a move
admits the name. -/
structure IsOnlyWildcard (nfa : Nfa) (alphabet : Array Symbol) (names : List QName) (name : QName)
    (w : Wildcard) (symbol : Nat) : Prop where
  isWildcard : alphabet[symbol]? = some (.wildcard w)
  hasMove : nfa.HasMove alphabet names symbol
  allows : w.allows name.ns = true
  only : ∀ other v, alphabet[other]? = some (.wildcard v) → nfa.HasMove alphabet names other →
    v.allows name.ns = true → other = symbol

theorem hasMove_iff {nfa : Nfa} {alphabet : Array Symbol} {names : List QName} {set : List Nat}
    (mem : ∀ p, p ∈ set ↔ Walk alphabet nfa.states nfa.start names p) {symbol : Nat} :
    nfa.HasMove alphabet names symbol ↔ ∃ m ∈ set.flatMap nfa.moves, m.1 = symbol := by
  constructor
  · rintro ⟨p, target, walk, move⟩
    exact ⟨_, List.mem_flatMap.mpr ⟨p, (mem p).mpr walk, move⟩, rfl⟩
  · rintro ⟨m, hm, rfl⟩
    obtain ⟨p, hp, move⟩ := List.mem_flatMap.mp hm
    exact ⟨p, m.2, (mem p).mp hp, move⟩

/-- After names that the deterministic automaton has read, it reads a further one exactly if some
transition is on a symbol that reads it. The symbol with which it does so reads the name: it is the
element symbol of the name if a move on that goes out from the states behind, and otherwise the only
wildcard with a move that admits the name. -/
theorem determinize_step (nfa : Nfa) (alphabet : Array Symbol) (limits : Limits) (owner : String)
    (states : Array State) (inRange : nfa.InRange alphabet) (once : NamesOnce alphabet)
    (h : nfa.determinize alphabet limits owner = .ok states) (names : List QName) (n : Nat)
    (reached : (⟨alphabet, states, 0⟩ : Automaton).run 0 names = some n) (name : QName) :
    (((⟨alphabet, states, 0⟩ : Automaton).step n name).isSome = true ↔
      ∃ state tr symbol, states[n]? = some state ∧ tr ∈ state.transitions ∧
        alphabet[tr.symbol]? = some symbol ∧ symbol.reads name = true) ∧
    ∀ target reader, (⟨alphabet, states, 0⟩ : Automaton).step n name = some (target, reader) →
      reader.reads name = true ∧
      (∀ symbol id, alphabet[symbol]? = some (.element name id) →
        nfa.HasMove alphabet names symbol → reader = .element name id) ∧
      ((∀ symbol id, alphabet[symbol]? = some (.element name id) →
          ¬ nfa.HasMove alphabet names symbol) →
        ∃ symbol w, reader = .wildcard w ∧ nfa.IsOnlyWildcard alphabet names name w symbol) := by
  obtain ⟨sets, table⟩ := exists_table h
  obtain ⟨set, at_n, mem⟩ := exists_set_of_run inRange once table reached
  obtain ⟨state, at_state, desc⟩ := table.describes at_n
  refine ⟨⟨fun isSome => ?_, ?_⟩, fun target reader hstep => ?_⟩
  · obtain ⟨⟨target, reader⟩, hstep⟩ := Option.isSome_iff_exists.mp isSome
    obtain ⟨state', tr, at_state', found, -⟩ := step_eq_some_iff.mp hstep
    obtain ⟨symbol, at_tr, reads⟩ := reads_of_isTaken (List.find?_some found)
    exact ⟨state', tr, symbol, at_state', List.mem_of_find?_eq_some found, at_tr, reads⟩
  · rintro ⟨state', tr, symbol, at_state', htr, at_tr, reads⟩
    cases at_state.symm.trans at_state'
    obtain ⟨m, hm, s, at_m, reads⟩ := exists_move_of_transition once desc htr at_tr reads
    obtain ⟨p, hp, move⟩ := List.mem_flatMap.mp hm
    rcases step_spec inRange once table at_n name with ⟨target, reader, -, hstep, -⟩ | ⟨-, nowhere⟩
    · rw [hstep]
      rfl
    · exact absurd ⟨p, hp, m, move, s, at_m, reads, .refl⟩ (nowhere m.2)
  · obtain ⟨state', tr, at_state', found, hr, -⟩ := step_eq_some_iff.mp hstep
    cases at_state.symm.trans at_state'
    obtain ⟨k, at_k, reads, some_move, element⟩ :=
      reader_spec once desc (List.mem_of_find?_eq_some found) (List.find?_some found) hr
    refine ⟨reads, fun symbol id at_symbol move => ?_, fun none => ?_⟩
    · cases element symbol id at_symbol ((hasMove_iff mem).mp move)
      exact Option.some.inj (at_k.symm.trans at_symbol)
    · cases reader with
      | element own id =>
        cases Symbol.reads_element.mp reads
        exact absurd ((hasMove_iff mem).mpr some_move) (none k id at_k)
      | wildcard w =>
        have allows := Symbol.reads_wildcard.mp reads
        refine ⟨k, w, rfl, at_k, (hasMove_iff mem).mpr some_move, allows,
          fun other v at_other move admits => ?_⟩
        obtain ⟨m, hm, rfl⟩ := (hasMove_iff mem).mp move
        obtain ⟨m', hm', rfl⟩ := some_move
        exact eq_of_compete desc.apart (List.mem_map_of_mem hm) (List.mem_map_of_mem hm')
          ⟨v, w, at_other, at_k, admits, allows⟩

/-- A name, and then any name. -/
private def trailing : Nfa := ⟨#[⟨[], [(0, 1)]⟩, ⟨[], [(1, 2)]⟩, ⟨[], []⟩], 0, 2⟩

private def trailingAlphabet : Array Symbol :=
  #[.element ⟨none, "a"⟩ ⟨0⟩, .wildcard ⟨.any, .skip⟩]

private def trailingStates : Array State :=
  #[⟨false, [⟨0, 1, none⟩]⟩, ⟨false, [⟨0, 2, some 1⟩, ⟨1, 2, none⟩]⟩, ⟨true, []⟩]

/-- If the name comes twice, the second one is read by the wildcard. -/
theorem trailing_step : trailing.InRange trailingAlphabet ∧ NamesOnce trailingAlphabet ∧
    trailing.determinize trailingAlphabet .standard "" = .ok trailingStates ∧
    (⟨trailingAlphabet, trailingStates, 0⟩ : Automaton).run 0 [⟨none, "a"⟩] = some 1 ∧
    (⟨trailingAlphabet, trailingStates, 0⟩ : Automaton).step 1 ⟨none, "a"⟩ =
      some (2, .wildcard ⟨.any, .skip⟩) ∧
    ∃ symbol, trailing.IsOnlyWildcard trailingAlphabet [⟨none, "a"⟩] ⟨none, "a"⟩ ⟨.any, .skip⟩
      symbol := by
  have inRange : trailing.InRange trailingAlphabet :=
    ⟨by decide, by decide, by decide, by decide⟩
  have once : NamesOnce trailingAlphabet := by
    rw [NamesOnce]
    decide
  have computed : trailing.determinize trailingAlphabet .standard "" = .ok trailingStates := by
    cbv
  have reached : (⟨trailingAlphabet, trailingStates, 0⟩ : Automaton).run 0 [⟨none, "a"⟩] =
      some 1 := by
    decide
  have hstep : (⟨trailingAlphabet, trailingStates, 0⟩ : Automaton).step 1 ⟨none, "a"⟩ =
      some (2, .wildcard ⟨.any, .skip⟩) := by
    decide
  obtain ⟨-, reader⟩ := determinize_step trailing trailingAlphabet .standard "" trailingStates
    inRange once computed [⟨none, "a"⟩] 1 reached ⟨none, "a"⟩
  obtain ⟨-, element, wildcard⟩ := reader _ _ hstep
  obtain ⟨symbol, w, same, only⟩ := wildcard fun symbol id at_symbol move => by
    cases element symbol id at_symbol move
  cases same
  exact ⟨inRange, once, computed, reached, hstep, symbol, only⟩

end Xsd.Nfa
