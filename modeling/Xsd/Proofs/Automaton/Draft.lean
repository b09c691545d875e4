import Xsd.Proofs.Automaton.Determinize
import Xsd.Proofs.Automaton.Language

/-!
# Drafts of automata

What the construction works on, as a graph: its edges, how it grows, and labellings of its states
by languages. A labelling that no edge contradicts bounds what walks can read.
-/

namespace Xsd.Nfa

open Computability

namespace Draft

variable {d e f : Draft}

/-- There is a silent move. -/
def Silent (d : Draft) (p q : Nat) : Prop := ∃ s, d.states[p]? = some s ∧ q ∈ s.epsilon

/-- There is a move on a symbol. -/
def Moves (d : Draft) (p n q : Nat) : Prop := ∃ s, d.states[p]? = some s ∧ (n, q) ∈ s.moves

/-- The names that a symbol reads. -/
def readBy (d : Draft) (n : Nat) : Set QName :=
  {name | ∃ s, d.alphabet[n]? = some s ∧ s.reads name = true}

/-- Moves stay within the draft, and no name has two symbols. -/
structure WellFormed (d : Draft) : Prop where
  silent : ∀ p q, d.Silent p q → q < d.states.size
  moves : ∀ p n q, d.Moves p n q → n < d.alphabet.size ∧ q < d.states.size
  once : NamesOnce d.alphabet

/-- What is there stays there. -/
structure Grows (d e : Draft) : Prop where
  wellFormed : e.WellFormed
  size : d.states.size ≤ e.states.size
  symbols : ∀ (n : Nat) (s : Symbol), d.alphabet[n]? = some s → e.alphabet[n]? = some s
  silent : ∀ p q, d.Silent p q → e.Silent p q
  moves : ∀ p n q, d.Moves p n q → e.Moves p n q

theorem Grows.refl (h : d.WellFormed) : d.Grows d :=
  ⟨h, Nat.le_refl _, fun _ _ h => h, fun _ _ h => h, fun _ _ _ h => h⟩

theorem Grows.trans (de : d.Grows e) (ef : e.Grows f) : d.Grows f where
  wellFormed := ef.wellFormed
  size := Nat.le_trans de.size ef.size
  symbols n s h := ef.symbols n s (de.symbols n s h)
  silent p q h := ef.silent p q (de.silent p q h)
  moves p n q h := ef.moves p n q (de.moves p n q h)

/-- Names can be read on the way from one state of the draft to another. -/
abbrev Reads (d : Draft) (p : Nat) (names : List QName) (q : Nat) : Prop :=
  Walk d.alphabet d.states p names q

theorem Silent.reads {p q : Nat} (h : d.Silent p q) : d.Reads p [] q := by
  obtain ⟨s, at_p, edge⟩ := h
  exact .silent at_p edge (.stay q)

theorem Moves.reads {p n q : Nat} (h : d.Moves p n q) {name : QName} (hn : name ∈ d.readBy n) :
    d.Reads p [name] q := by
  obtain ⟨s, at_p, move⟩ := h
  obtain ⟨symbol, at_n, reads⟩ := hn
  exact .read at_p move at_n reads (.stay q)

theorem Grows.reads (grows : d.Grows e) {p q : Nat} {names : List QName} (walk : d.Reads p names q) :
    e.Reads p names q := by
  induction walk with
  | stay p => exact .stay p
  | silent at_p edge _ ih =>
    obtain ⟨s, at_p, edge⟩ := grows.silent _ _ ⟨_, at_p, edge⟩
    exact .silent at_p edge ih
  | read at_p move at_n reads _ ih =>
    obtain ⟨s, at_p, move⟩ := grows.moves _ _ _ ⟨_, at_p, move⟩
    exact .read at_p move (grows.symbols _ _ at_n) reads ih

/-! ## Labellings -/

/-- No edge contradicts the labelling: what can be read behind an edge can be read before it, with
the name that the edge reads put in front. -/
structure Labels (d : Draft) (label : Nat → Language QName) : Prop where
  silent : ∀ p q, d.Silent p q → label q ≤ label p
  moves : ∀ p n q, d.Moves p n q → Content.letters (d.readBy n) * label q ≤ label p

theorem Labels.append_mem {label : Nat → Language QName} (labels : d.Labels label) {p q : Nat}
    {names rest : List QName} (walk : d.Reads p names q) (hr : rest ∈ label q) :
    names ++ rest ∈ label p := by
  induction walk with
  | stay p => exact hr
  | silent at_p edge _ ih => exact labels.silent _ _ ⟨_, at_p, edge⟩ (ih hr)
  | read at_p move at_n reads _ ih =>
    refine labels.moves _ _ _ ⟨_, at_p, move⟩ ?_
    exact Language.append_mem_mul (a := [_]) ⟨_, ⟨_, at_n, reads⟩, rfl⟩ (ih hr)

/-- The second labelling goes on from the first one, which labels the smaller draft. -/
structure Continues (d e : Draft) (label more : Nat → Language QName) : Prop where
  labels : e.Labels more
  agrees : ∀ p < d.states.size, more p = label p

theorem Continues.refl {label : Nat → Language QName} (labels : d.Labels label) :
    d.Continues d label label :=
  ⟨labels, fun _ _ => rfl⟩

theorem Continues.trans {label more most : Nat → Language QName} (size : d.states.size ≤ e.states.size)
    (de : d.Continues e label more) (ef : e.Continues f more most) :
    d.Continues f label most :=
  ⟨ef.labels, fun p hp => (ef.agrees p (Nat.lt_of_lt_of_le hp size)).trans (de.agrees p hp)⟩

/-! ## Edges -/

/-- A way between two states, and what can be read on it. -/
structure Edge where
  source : Nat
  language : Language QName
  target : Nat

/-- Without new states the edges have come in: they can be followed, and a labelling that none of
them contradicts stays one. -/
structure Wires (d : Draft) (edges : Set Edge) (e : Draft) : Prop where
  grows : d.Grows e
  size : e.states.size = d.states.size
  reads : ∀ edge ∈ edges, ∀ names ∈ edge.language, e.Reads edge.source names edge.target
  labels : ∀ label, d.Labels label →
    (∀ edge ∈ edges, edge.language * label edge.target ≤ label edge.source) → e.Labels label

theorem Wires.none (formed : d.WellFormed) : d.Wires ∅ d where
  grows := .refl formed
  size := rfl
  reads _ h := h.elim
  labels _ labels _ := labels

theorem Wires.trans {first second : Set Edge} (de : d.Wires first e) (ef : e.Wires second f) :
    d.Wires (first ∪ second) f where
  grows := de.grows.trans ef.grows
  size := ef.size.trans de.size
  reads edge h names mem := by
    rcases h with h | h
    · exact ef.grows.reads (de.reads edge h names mem)
    · exact ef.reads edge h names mem
  labels label labels fits :=
    ef.labels label (de.labels label labels fun edge h => fits edge (Or.inl h))
      fun edge h => fits edge (Or.inr h)

theorem Grows.symbol_lt (grows : d.Grows e) {n : Nat} (hn : n < d.alphabet.size) :
    n < e.alphabet.size :=
  (Array.getElem?_eq_some_iff.mp (grows.symbols n _ (Array.getElem?_eq_getElem hn))).1

theorem Grows.readBy_eq (grows : d.Grows e) {n : Nat} (hn : n < d.alphabet.size) :
    e.readBy n = d.readBy n := by
  have at_d := Array.getElem?_eq_getElem hn
  have at_e := grows.symbols n _ at_d
  ext name
  simp only [readBy, at_d, at_e]

/-! ## Changes of a draft -/

/-- New states without moves. -/
def fresh (d : Draft) (count : Nat) : Draft :=
  { d with states := d.states ++ Array.replicate count ⟨[], []⟩ }

def withSilent (d : Draft) (p q : Nat) : Draft :=
  { d with states := d.states.modify p fun s => { s with epsilon := s.epsilon ++ [q] } }

def withMove (d : Draft) (p n q : Nat) : Draft :=
  { d with states := d.states.modify p fun s => { s with moves := s.moves ++ [(n, q)] } }

@[simp] theorem size_fresh {count : Nat} : (d.fresh count).states.size = d.states.size + count := by
  simp [fresh]

@[simp] theorem size_withSilent {p q : Nat} :
    (d.withSilent p q).states.size = d.states.size := by
  simp [withSilent]

@[simp] theorem size_withMove {p n q : Nat} : (d.withMove p n q).states.size = d.states.size := by
  simp [withMove]

theorem getElem?_fresh {count p : Nat} {s : NfaState} (h : (d.fresh count).states[p]? = some s) :
    d.states[p]? = some s ∨ s = ⟨[], []⟩ := by
  rw [fresh, Array.getElem?_append] at h
  split at h
  · exact Or.inl h
  · rw [Array.getElem?_replicate] at h
    split at h
    · exact Or.inr (Option.some.inj h).symm
    · cases h

@[simp] theorem silent_fresh_iff {count p q : Nat} :
    (d.fresh count).Silent p q ↔ d.Silent p q := by
  constructor
  · rintro ⟨s, at_p, edge⟩
    rcases getElem?_fresh at_p with at_p | rfl
    · exact ⟨s, at_p, edge⟩
    · cases edge
  · rintro ⟨s, at_p, edge⟩
    exact ⟨s, by rw [fresh, Array.getElem?_append_left (Array.getElem?_eq_some_iff.mp at_p).1, at_p],
      edge⟩

@[simp] theorem moves_fresh_iff {count p n q : Nat} :
    (d.fresh count).Moves p n q ↔ d.Moves p n q := by
  constructor
  · rintro ⟨s, at_p, move⟩
    rcases getElem?_fresh at_p with at_p | rfl
    · exact ⟨s, at_p, move⟩
    · cases move
  · rintro ⟨s, at_p, move⟩
    exact ⟨s, by rw [fresh, Array.getElem?_append_left (Array.getElem?_eq_some_iff.mp at_p).1, at_p],
      move⟩

theorem silent_withSilent_iff {p q p' q' : Nat} (hp : p < d.states.size) :
    (d.withSilent p q).Silent p' q' ↔ d.Silent p' q' ∨ p' = p ∧ q' = q := by
  have at_p := Array.getElem?_eq_getElem hp
  by_cases same : p = p'
  · subst same
    simp [Silent, withSilent, Array.getElem?_modify, at_p]
  · simp [Silent, withSilent, Array.getElem?_modify, same, Ne.symm same]

theorem moves_withSilent_iff {p q p' n q' : Nat} :
    (d.withSilent p q).Moves p' n q' ↔ d.Moves p' n q' := by
  by_cases same : p = p'
  · subst same
    cases h : d.states[p]? <;> simp [Moves, withSilent, Array.getElem?_modify, h]
  · simp [Moves, withSilent, Array.getElem?_modify, same]

theorem silent_withMove_iff {p n q p' q' : Nat} :
    (d.withMove p n q).Silent p' q' ↔ d.Silent p' q' := by
  by_cases same : p = p'
  · subst same
    cases h : d.states[p]? <;> simp [Silent, withMove, Array.getElem?_modify, h]
  · simp [Silent, withMove, Array.getElem?_modify, same]

theorem moves_withMove_iff {p n q p' n' q' : Nat} (hp : p < d.states.size) :
    (d.withMove p n q).Moves p' n' q' ↔ d.Moves p' n' q' ∨ p' = p ∧ n' = n ∧ q' = q := by
  have at_p := Array.getElem?_eq_getElem hp
  by_cases same : p = p'
  · subst same
    simp [Moves, withMove, Array.getElem?_modify, at_p]
  · simp [Moves, withMove, Array.getElem?_modify, same, Ne.symm same]

end Draft

/-! ## Steps of the construction -/

namespace Construct

open Draft

variable {d e : Draft} {env : Environment}

theorem keep_spec {check : Except LimitExcess Unit} {u : Unit} (h : (keep check).run d = .ok (u, e)) :
    check = .ok () ∧ d = e := by
  cases check with
  | error excess => cases h
  | ok v =>
    cases h
    exact ⟨rfl, rfl⟩

theorem newStates_run {count n : Nat} (h : (newStates env count).run d = .ok (n, e)) :
    n = d.states.size ∧ e = d.fresh count := by
  obtain ⟨_, _, hg, h⟩ := run_bind_eq_ok_iff.mp h
  cases hg
  obtain ⟨_, _, hk, h⟩ := run_bind_eq_ok_iff.mp h
  obtain ⟨_, rfl⟩ := keep_spec hk
  cases h
  exact ⟨rfl, rfl⟩

theorem newState_run {n : Nat} (h : (newState env).run d = .ok (n, e)) :
    n = d.states.size ∧ e = d.fresh 1 := by
  obtain ⟨_, _, hg, h⟩ := run_bind_eq_ok_iff.mp h
  cases hg
  obtain ⟨_, _, hk, h⟩ := run_bind_eq_ok_iff.mp h
  obtain ⟨_, rfl⟩ := keep_spec hk
  cases h
  exact ⟨rfl, rfl⟩

/-- New states are labelled as one likes. -/
theorem fresh_spec (formed : d.WellFormed) (count : Nat) :
    d.Grows (d.fresh count) ∧ ∀ label (new : Nat → Language QName), d.Labels label →
      ∃ more, d.Continues (d.fresh count) label more ∧
        ∀ i, more (d.states.size + i) = new i := by
  refine ⟨⟨⟨?_, ?_, formed.once⟩, by simp, fun _ _ h => h, by simp, by simp⟩, ?_⟩
  · intro p q h
    have := formed.silent p q (silent_fresh_iff.mp h)
    rw [size_fresh]
    omega
  · intro p n q h
    have := formed.moves p n q (moves_fresh_iff.mp h)
    rw [size_fresh]
    exact ⟨this.1, by omega⟩
  · intro label new labels
    let more : Nat → Language QName := fun p =>
      if p < d.states.size then label p else new (p - d.states.size)
    have old : ∀ p < d.states.size, more p = label p := fun p hp => if_pos hp
    refine ⟨more, ⟨⟨?_, ?_⟩, old⟩, fun i => by simp [more]⟩
    · intro p q h
      have h := silent_fresh_iff.mp h
      obtain ⟨s, at_p, _⟩ := id h
      rw [old q (formed.silent p q h), old p (Array.getElem?_eq_some_iff.mp at_p).1]
      exact labels.silent p q h
    · intro p n q h
      have h := moves_fresh_iff.mp h
      obtain ⟨s, at_p, _⟩ := id h
      rw [old q (formed.moves p n q h).2, old p (Array.getElem?_eq_some_iff.mp at_p).1]
      exact labels.moves p n q h

theorem addEpsilon_spec {p q : Nat} {u : Unit} (formed : d.WellFormed) (hp : p < d.states.size)
    (hq : q < d.states.size) (h : (addEpsilon p q).run d = .ok (u, e)) :
    d.Wires {⟨p, 1, q⟩} e := by
  obtain rfl : d.withSilent p q = e := by
    cases h
    rfl
  have silent : ∀ p' q', (d.withSilent p q).Silent p' q' ↔ d.Silent p' q' ∨ p' = p ∧ q' = q :=
    fun p' q' => silent_withSilent_iff hp
  refine ⟨⟨⟨?_, ?_, formed.once⟩, by simp, fun _ _ h => h, ?_, ?_⟩, by simp, ?_, ?_⟩
  · intro p' q' h
    rw [size_withSilent]
    rcases (silent p' q').mp h with h | ⟨rfl, rfl⟩
    · exact formed.silent p' q' h
    · exact hq
  · intro p' n q' h
    rw [size_withSilent]
    exact formed.moves p' n q' (moves_withSilent_iff.mp h)
  · exact fun p' q' h => (silent p' q').mpr (Or.inl h)
  · exact fun p' n q' h => moves_withSilent_iff.mpr h
  · rintro edge rfl names mem
    obtain rfl := (Language.mem_one names).mp mem
    exact ((silent p q).mpr (Or.inr ⟨rfl, rfl⟩)).reads
  · intro label labels fits
    refine ⟨?_, fun p' n q' h => labels.moves p' n q' (moves_withSilent_iff.mp h)⟩
    intro p' q' h
    rcases (silent p' q').mp h with h | ⟨rfl, rfl⟩
    · exact labels.silent p' q' h
    · simpa using fits _ rfl

theorem addMove_spec {p n q : Nat} {u : Unit} (formed : d.WellFormed) (hp : p < d.states.size)
    (hn : n < d.alphabet.size) (hq : q < d.states.size)
    (h : (addMove p n q).run d = .ok (u, e)) :
    d.Wires {⟨p, Content.letters (d.readBy n), q⟩} e := by
  obtain rfl : d.withMove p n q = e := by
    cases h
    rfl
  have moves : ∀ p' n' q', (d.withMove p n q).Moves p' n' q' ↔
      d.Moves p' n' q' ∨ p' = p ∧ n' = n ∧ q' = q := fun p' n' q' => moves_withMove_iff hp
  refine ⟨⟨⟨?_, ?_, formed.once⟩, by simp, fun _ _ h => h, ?_, ?_⟩, by simp, ?_, ?_⟩
  · intro p' q' h
    rw [size_withMove]
    exact formed.silent p' q' (silent_withMove_iff.mp h)
  · intro p' n' q' h
    rw [size_withMove]
    rcases (moves p' n' q').mp h with h | ⟨rfl, rfl, rfl⟩
    · exact formed.moves p' n' q' h
    · exact ⟨hn, hq⟩
  · exact fun p' q' h => silent_withMove_iff.mpr h
  · exact fun p' n' q' h => (moves p' n' q').mpr (Or.inl h)
  · rintro edge rfl names ⟨name, mem, rfl⟩
    exact ((moves p n q).mpr (Or.inr ⟨rfl, rfl, rfl⟩)).reads mem
  · intro label labels fits
    refine ⟨fun p' q' h => labels.silent p' q' (silent_withMove_iff.mp h), ?_⟩
    intro p' n' q' h
    rcases (moves p' n' q').mp h with h | ⟨rfl, rfl, rfl⟩
    · exact labels.moves p' n' q' h
    · exact fits _ rfl

/-- The edges of a loop are those of its rounds. -/
theorem forM_wires {α : Type} {xs : List α} {round : α → Construct Unit} {u : Unit}
    (edges : α → Set Edge) (formed : d.WellFormed)
    (wires : ∀ x ∈ xs, ∀ ⦃d' e' : Draft⦄, d.Grows d' → d'.states.size = d.states.size →
      (round x).run d' = .ok ((), e') → d'.Wires (edges x) e')
    (h : (xs.forM round).run d = .ok (u, e)) : d.Wires {edge | ∃ x ∈ xs, edge ∈ edges x} e := by
  induction xs generalizing d with
  | nil =>
    obtain ⟨-, rfl⟩ := run_pure_eq_ok_iff.mp h
    simpa using Wires.none formed
  | cons x xs ih =>
    obtain ⟨_, e₁, first, rest⟩ := run_bind_eq_ok_iff.mp h
    have one := wires x (by simp) (.refl formed) rfl first
    have others := ih one.grows.wellFormed (fun y hy d' e' grows size run =>
      wires y (by simp [hy]) (one.grows.trans grows) (size.trans one.size) run) rest
    have split : {edge | ∃ y ∈ x :: xs, edge ∈ edges y} =
        edges x ∪ {edge | ∃ y ∈ xs, edge ∈ edges y} := by
      ext edge
      simp
    rw [split]
    exact one.trans others

/-- Moves on several symbols read what one of the symbols reads. -/
theorem addMoves_spec {p q : Nat} {symbols : List Nat} {u : Unit} (formed : d.WellFormed)
    (hp : p < d.states.size) (hq : q < d.states.size) (range : ∀ n ∈ symbols, n < d.alphabet.size)
    (h : (symbols.forM fun n => addMove p n q).run d = .ok (u, e)) :
    d.Wires {⟨p, Content.letters {name | ∃ n ∈ symbols, name ∈ d.readBy n}, q⟩} e := by
  have wires : d.Wires {edge | ∃ n ∈ symbols, edge = ⟨p, Content.letters (d.readBy n), q⟩} e := by
    refine forM_wires (fun n => {⟨p, Content.letters (d.readBy n), q⟩}) formed ?_ h
    intro n hn d' e' grows size run
    have move := addMove_spec grows.wellFormed (by rwa [size]) (grows.symbol_lt (range n hn))
      (by rwa [size]) run
    rwa [grows.readBy_eq (range n hn)] at move
  refine ⟨wires.grows, wires.size, ?_, ?_⟩
  · rintro edge rfl names ⟨name, ⟨n, hn, reads⟩, rfl⟩
    exact wires.reads _ ⟨n, hn, rfl⟩ _ ⟨name, reads, rfl⟩
  · intro label labels fits
    refine wires.labels label labels ?_
    rintro edge ⟨n, hn, rfl⟩
    have sub : d.readBy n ⊆ {name | ∃ n ∈ symbols, name ∈ d.readBy n} :=
      fun name reads => ⟨n, hn, reads⟩
    exact le_trans (mul_le_mul_left (Content.letters_mono sub) _) (fits _ rfl)

end Construct

end Xsd.Nfa
