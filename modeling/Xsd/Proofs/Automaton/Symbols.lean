import Xsd.Proofs.Automaton.Draft

/-!
# Symbols of elements and wildcards

Entering a symbol changes the alphabet alone, and keeps it free of second symbols for a name.
-/

namespace Xsd.Nfa

open Draft

variable {d e f : Draft} {env : Environment}

theorem NamesOnce.push {alphabet : Array Symbol} (once : NamesOnce alphabet) {new : Symbol}
    (isNew : ∀ name id, new = .element name id →
      ∀ s ∈ alphabet, s.isElementNamed name = false) : NamesOnce (alphabet.push new) := by
  rw [NamesOnce, Array.toList_push, List.filterMap_append]
  refine List.nodup_append.mpr ⟨once, ?_, ?_⟩
  · cases new <;> simp [List.filterMap_cons, elementName?]
  · intro name hname other hother eq
    cases new with
    | wildcard w => simp [elementName?] at hother
    | element own id =>
      obtain ⟨s, hs, named⟩ := List.mem_filterMap.mp hname
      have other_eq : other = own := by simpa [elementName?] using hother
      have := isNew own id rfl s (by simpa using hs)
      cases s with
      | wildcard w => simp [elementName?] at named
      | element present id => simp_all [elementName?, Symbol.isElementNamed]

namespace Draft

theorem Labels.of_states_eq {label : Nat → Language QName} (labels : d.Labels label)
    (formed : d.WellFormed) (grows : d.Grows e) (states : e.states = d.states) :
    e.Labels label := by
  refine ⟨fun p q h => labels.silent p q (by rwa [Silent, ← states]), ?_⟩
  intro p n q h
  have move : d.Moves p n q := by rwa [Moves, ← states]
  rw [grows.readBy_eq (formed.moves p n q move).1]
  exact labels.moves p n q move

/-- More symbols have been entered: beside the names that the former ones read, the latter ones
read the given names. -/
structure Enters (d : Draft) (former : List Nat) (names : Set QName) (latter : List Nat)
    (e : Draft) : Prop where
  grows : d.Grows e
  states : e.states = d.states
  range : ∀ n ∈ latter, n < e.alphabet.size
  reads : ∀ name, (∃ n ∈ latter, name ∈ e.readBy n) ↔
    (∃ n ∈ former, name ∈ d.readBy n) ∨ name ∈ names

theorem Enters.refl (formed : d.WellFormed) {symbols : List Nat}
    (range : ∀ n ∈ symbols, n < d.alphabet.size) : d.Enters symbols ∅ symbols d :=
  ⟨.refl formed, rfl, range, by simp⟩

theorem Enters.labels {symbols more : List Nat} {names : Set QName}
    (entered : d.Enters symbols names more e) (formed : d.WellFormed)
    {label : Nat → Language QName} (labels : d.Labels label) : e.Labels label :=
  labels.of_states_eq formed entered.grows entered.states

theorem Enters.trans {first second third : List Nat} {names more : Set QName}
    (de : d.Enters first names second e) (ef : e.Enters second more third f) :
    d.Enters first (names ∪ more) third f where
  grows := de.grows.trans ef.grows
  states := ef.states.trans de.states
  range := ef.range
  reads name := by rw [ef.reads, de.reads, or_assoc, Set.mem_union]

/-- One more symbol, unless it is among the former ones. -/
theorem Enters.insert (grows : d.Grows e) (states : e.states = d.states) {symbols : List Nat}
    (range : ∀ n ∈ symbols, n < d.alphabet.size) {n : Nat} (lt : n < e.alphabet.size) :
    d.Enters symbols (e.readBy n) (if symbols.contains n then symbols else symbols ++ [n]) e := by
  have members : ∀ k, k ∈ (if symbols.contains n then symbols else symbols ++ [n]) ↔
      k ∈ symbols ∨ k = n := by
    intro k
    by_cases there : n ∈ symbols
    · simp only [List.contains_iff_mem, there, if_true]
      exact ⟨Or.inl, fun hk => hk.elim id fun eq => eq ▸ there⟩
    · simp [there]
  have older : ∀ k ∈ symbols, e.readBy k = d.readBy k := fun k hk => grows.readBy_eq (range k hk)
  refine ⟨grows, states, ?_, ?_⟩
  · intro k hk
    rcases (members k).mp hk with hk | rfl
    · exact grows.symbol_lt (range k hk)
    · exact lt
  · intro name
    constructor
    · rintro ⟨k, hk, hr⟩
      rcases (members k).mp hk with hk | rfl
      · exact Or.inl ⟨k, hk, older k hk ▸ hr⟩
      · exact Or.inr hr
    · rintro (⟨k, hk, hr⟩ | hr)
      · exact ⟨k, (members k).mpr (Or.inl hk), (older k hk).symm ▸ hr⟩
      · exact ⟨n, (members n).mpr (Or.inr rfl), hr⟩

end Draft

namespace Construct

theorem symbol_spec (formed : d.WellFormed) {isThere : Symbol → Bool} {new : Symbol} {n : Nat}
    (isNew : ∀ name id, new = .element name id → isThere = (·.isElementNamed name))
    (h : (symbol isThere new).run d = .ok (n, e)) :
    d.Grows e ∧ e.states = d.states ∧
      ∃ s, e.alphabet[n]? = some s ∧ (isThere s = true ∨ s = new) := by
  unfold symbol at h
  replace h := Except.ok.inj h
  beta_reduce at h
  cases hf : d.alphabet.findIdx? isThere with
  | some index =>
    rw [hf] at h
    cases h
    obtain ⟨lt, there, _⟩ := Array.findIdx?_eq_some_iff_getElem.mp hf
    exact ⟨.refl formed, rfl, _, Array.getElem?_eq_getElem lt, Or.inl there⟩
  | none =>
    rw [hf] at h
    cases h
    have absent := Array.findIdx?_eq_none_iff.mp hf
    refine ⟨⟨⟨formed.silent, ?_, formed.once.push ?_⟩, Nat.le_refl _, ?_, fun _ _ h => h,
      fun _ _ _ h => h⟩, rfl, new, Array.getElem?_push_size, Or.inr rfl⟩
    · intro p n q h
      have := formed.moves p n q h
      exact ⟨by simp only [Array.size_push]; omega, this.2⟩
    · intro name id eq s hs
      rw [← absent s hs, isNew name id eq]
    · intro n s hn
      have lt := (Array.getElem?_eq_some_iff.mp hn).1
      rwa [Array.getElem?_push_lt lt, ← Array.getElem?_eq_getElem lt]

theorem wildcardSymbol_spec (formed : d.WellFormed) {w : Wildcard} {n : Nat}
    (h : (wildcardSymbol w).run d = .ok (n, e)) :
    d.Enters [] {name | w.allows name.ns = true} [n] e := by
  obtain ⟨grows, states, s, at_n, eq⟩ := symbol_spec formed (fun _ _ eq => by cases eq) h
  obtain rfl : s = .wildcard w := by simpa using eq
  have lt := (Array.getElem?_eq_some_iff.mp at_n).1
  refine ⟨grows, states, by simpa using lt, ?_⟩
  intro name
  simp [readBy, at_n]

theorem elementSymbol_spec (formed : d.WellFormed) {own : QName} {id : ElementId} {n : Nat}
    (h : (symbol (·.isElementNamed own) (.element own id)).run d = .ok (n, e)) :
    d.Grows e ∧ e.states = d.states ∧ n < e.alphabet.size ∧ e.readBy n = {own} := by
  obtain ⟨grows, states, s, at_n, eq⟩ :=
    symbol_spec formed (fun name id eq => by cases eq; rfl) h
  refine ⟨grows, states, (Array.getElem?_eq_some_iff.mp at_n).1, ?_⟩
  cases s with
  | wildcard w => simp [Symbol.isElementNamed] at eq
  | element present other =>
    obtain rfl : present = own := by
      rcases eq with eq | eq
      · simpa [Symbol.isElementNamed] using eq
      · cases eq
        rfl
    ext name
    constructor
    · rintro ⟨s, at_n', reads⟩
      cases at_n.symm.trans at_n'
      exact (Symbol.reads_element.mp reads).symm
    · rintro rfl
      exact ⟨_, at_n, Symbol.reads_element.mpr rfl⟩

/-- An element of which the symbol is entered reads its name, unless it is abstract. -/
theorem addElementSymbol_spec (formed : d.WellFormed) {symbols more : List Nat} {id : ElementId}
    (range : ∀ n ∈ symbols, n < d.alphabet.size)
    (h : (addElementSymbol env symbols id).run d = .ok (more, e)) :
    d.Enters symbols (Content.concreteNames env.arena id) more e := by
  rw [addElementSymbol] at h
  cases he : env.arena.element? id with
  | none =>
    rw [he] at h
    cases h
    have unnamed : Content.concreteNames env.arena id = ∅ := by
      ext name
      simp [Content.concreteNames, he]
    rw [unnamed]
    exact .refl formed range
  | some element =>
    rw [he] at h
    have names : Content.concreteNames env.arena id =
        {name | element.isAbstract = false ∧ element.info.name = some name} := by
      ext name
      simp [Content.concreteNames, he]
    cases ha : element.isAbstract with
    | true =>
      simp only [ha] at h
      cases h
      simp only [names, ha]
      simpa using Enters.refl formed range
    | false =>
      cases hn : element.info.name with
      | none =>
        simp only [ha, hn] at h
        cases h
        simp only [names, hn]
        simpa using Enters.refl formed range
      | some own =>
        simp only [ha, hn] at h
        obtain ⟨n, e', hs, h⟩ := run_bind_eq_ok_iff.mp h
        obtain ⟨rfl, rfl⟩ := run_pure_eq_ok_iff.mp h
        obtain ⟨grows, states, lt, reads⟩ := elementSymbol_spec formed hs
        have own_names : Content.concreteNames env.arena id = e'.readBy n := by
          ext name
          simp [names, ha, hn, reads, eq_comm]
        rw [own_names]
        exact .insert grows states range lt

theorem foldlM_addElementSymbol_spec {ids : List ElementId} {symbols more : List Nat}
    (formed : d.WellFormed) (range : ∀ n ∈ symbols, n < d.alphabet.size)
    (h : (ids.foldlM (addElementSymbol env) symbols).run d = .ok (more, e)) :
    d.Enters symbols {name | ∃ id ∈ ids, name ∈ Content.concreteNames env.arena id} more e := by
  induction ids generalizing d symbols with
  | nil =>
    obtain ⟨rfl, rfl⟩ := run_pure_eq_ok_iff.mp h
    simpa using Enters.refl formed range
  | cons id ids ih =>
    rw [List.foldlM_cons] at h
    obtain ⟨middle, e', first, rest⟩ := run_bind_eq_ok_iff.mp h
    have entered := addElementSymbol_spec formed range first
    have all := entered.trans (ih entered.grows.wellFormed entered.range rest)
    have names : {name | ∃ other ∈ id :: ids, name ∈ Content.concreteNames env.arena other} =
        Content.concreteNames env.arena id ∪
          {name | ∃ other ∈ ids, name ∈ Content.concreteNames env.arena other} := by
      ext name
      simp
    rwa [names]

theorem elementSymbols_spec (formed : d.WellFormed) {id : ElementId} {symbols : List Nat}
    (h : (elementSymbols env id).run d = .ok (symbols, e)) :
    d.Enters [] (Content.elementNames env.arena env.substitutions id) symbols e :=
  foldlM_addElementSymbol_spec formed (by simp) h

end Construct

end Xsd.Nfa
