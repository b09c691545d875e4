import Xsd.Proofs.Automaton.Symbols

/-!
# Fragments and their languages

What the construction adds to a draft reads a language, no less and no more: the words of the
language are read by walks, and each labelling of what was there goes on to a labelling of what is
new, in which nothing but a word of the language leads from the way in to the way out.
-/

namespace Xsd.Nfa

open Computability Draft

variable {d e f : Draft} {env : Environment} {language other : Language QName} {p q r : Nat}

namespace Draft

/-- Between two states that were there the language can be read now. -/
structure Links (d : Draft) (p : Nat) (language : Language QName) (q : Nat) (e : Draft) : Prop where
  grows : d.Grows e
  reads : ∀ names ∈ language, e.Reads p names q
  labels : ∀ label, d.Labels label → language * label q ≤ label p → ∃ more, d.Continues e label more

/-- From a state that was there the language leads to another one, which may be new. -/
structure Joins (d : Draft) (p : Nat) (language : Language QName) (q : Nat) (e : Draft) : Prop where
  grows : d.Grows e
  target : q < e.states.size
  reads : ∀ names ∈ language, e.Reads p names q
  labels : ∀ label rest, d.Labels label → language * rest ≤ label p →
    ∃ more, d.Continues e label more ∧ rest ≤ more q

/-- A fragment has come in between whose two ends the language can be read. -/
structure Spans (d : Draft) (part : Fragment) (language : Language QName) (e : Draft) : Prop where
  grows : d.Grows e
  start : part.start < e.states.size
  finish : part.finish < e.states.size
  reads : ∀ names ∈ language, e.Reads part.start names part.finish
  labels : ∀ label rest, d.Labels label → ∃ more, d.Continues e label more ∧
    rest ≤ more part.finish ∧ more part.start ≤ language * rest

theorem Links.none (formed : d.WellFormed) : d.Links p 0 q d where
  grows := .refl formed
  reads names h := absurd h (Language.notMem_zero names)
  labels label labels _ := ⟨label, .refl labels⟩

theorem Wires.links (wires : d.Wires {⟨p, language, q⟩} e) : d.Links p language q e where
  grows := wires.grows
  reads := wires.reads _ rfl
  labels label labels le := by
    refine ⟨label, wires.labels label labels ?_, fun _ _ => rfl⟩
    rintro edge rfl
    exact le

/-- Either of two links can be followed. -/
theorem Links.add (hp : p < d.states.size) (hq : q < d.states.size)
    (first : d.Links p language q e) (second : e.Links p other q f) :
    d.Links p (language + other) q f where
  grows := first.grows.trans second.grows
  reads names h := by
    rcases (Language.mem_add _ _ _).mp h with h | h
    · exact second.grows.reads (first.reads names h)
    · exact second.reads names h
  labels label labels le := by
    rw [add_mul, add_le_iff] at le
    obtain ⟨more, cont⟩ := first.labels label labels le.1
    have le' : other * more q ≤ more p := by
      rw [cont.agrees q hq, cont.agrees p hp]
      exact le.2
    obtain ⟨most, cont'⟩ := second.labels more cont.labels le'
    exact ⟨most, cont.trans first.grows.size cont'⟩

theorem Joins.refl (formed : d.WellFormed) (hp : p < d.states.size) : d.Joins p 1 p d where
  grows := .refl formed
  target := hp
  reads names h := by
    obtain rfl := (Language.mem_one names).mp h
    exact .stay p
  labels label rest labels le := ⟨label, .refl labels, by rwa [one_mul] at le⟩

/-- Two stretches are read one after the other. -/
theorem Joins.trans (first : d.Joins p language q e) (second : e.Joins q other r f) :
    d.Joins p (language * other) r f where
  grows := first.grows.trans second.grows
  target := second.target
  reads names h := by
    obtain ⟨a, ha, b, hb, rfl⟩ := Language.mem_mul.mp h
    exact (second.grows.reads (first.reads a ha)).append (second.reads b hb)
  labels label rest labels le := by
    rw [mul_assoc] at le
    obtain ⟨more, cont, le⟩ := first.labels label _ labels le
    obtain ⟨most, cont', le⟩ := second.labels more rest cont.labels le
    exact ⟨most, cont.trans first.grows.size cont', le⟩

theorem Joins.link (hr : r < d.states.size) (first : d.Joins p language q e)
    (second : e.Links q other r f) : d.Links p (language * other) r f where
  grows := first.grows.trans second.grows
  reads names h := by
    obtain ⟨a, ha, b, hb, rfl⟩ := Language.mem_mul.mp h
    exact (second.grows.reads (first.reads a ha)).append (second.reads b hb)
  labels label labels le := by
    rw [mul_assoc] at le
    obtain ⟨more, cont, le⟩ := first.labels label _ labels le
    obtain ⟨most, cont'⟩ := second.labels more cont.labels (by rwa [cont.agrees r hr])
    exact ⟨most, cont.trans first.grows.size cont'⟩

/-- A link to a state that is new beforehand. -/
theorem Links.join (formed : d.WellFormed) (hp : p < d.states.size)
    (h : (d.fresh 1).Links p language d.states.size e) : d.Joins p language d.states.size e where
  grows := (Construct.fresh_spec formed 1).1.trans h.grows
  target := by
    have := h.grows.size
    rw [size_fresh] at this
    omega
  reads := h.reads
  labels label rest labels le := by
    obtain ⟨grows, labelled⟩ := Construct.fresh_spec formed 1
    obtain ⟨more, cont, new⟩ := labelled label (fun _ => rest) labels
    have new : more d.states.size = rest := new 0
    obtain ⟨most, cont'⟩ := h.labels more cont.labels (by rwa [new, cont.agrees p hp])
    refine ⟨most, cont.trans grows.size cont', ?_⟩
    rw [cont'.agrees d.states.size (by rw [size_fresh]; omega), new]

/-- What starts at a state that is new beforehand is a fragment. -/
theorem Joins.span (formed : d.WellFormed) (h : (d.fresh 1).Joins d.states.size language q e) :
    d.Spans ⟨d.states.size, q⟩ language e where
  grows := (Construct.fresh_spec formed 1).1.trans h.grows
  start := by
    have := h.grows.size
    rw [size_fresh] at this
    exact this
  finish := h.target
  reads := h.reads
  labels label rest labels := by
    obtain ⟨grows, labelled⟩ := Construct.fresh_spec formed 1
    obtain ⟨more, cont, new⟩ := labelled label (fun _ => language * rest) labels
    have new : more d.states.size = language * rest := new 0
    obtain ⟨most, cont', le⟩ := h.labels more rest cont.labels (le_of_eq new.symm)
    refine ⟨most, cont.trans grows.size cont', le, ?_⟩
    rw [cont'.agrees d.states.size (by rw [size_fresh]; omega), new]

end Draft

namespace Construct

/-- A silent move leads into a fragment. -/
theorem enter_spec {part : Fragment} {u : Unit} (hp : p < d.states.size)
    (spans : d.Spans part language e) (h : (addEpsilon p part.start).run e = .ok (u, f)) :
    d.Joins p language part.finish f := by
  have hp' := Nat.lt_of_lt_of_le hp spans.grows.size
  have wires := addEpsilon_spec spans.grows.wellFormed hp' spans.start h
  refine ⟨spans.grows.trans wires.grows, by rw [wires.size]; exact spans.finish, ?_, ?_⟩
  · intro names mem
    exact (wires.reads _ rfl [] rfl).append (wires.grows.reads (spans.reads names mem))
  · intro label rest labels le
    obtain ⟨more, cont, finish, start⟩ := spans.labels label rest labels
    refine ⟨more, ⟨wires.labels more cont.labels ?_, cont.agrees⟩, finish⟩
    rintro edge rfl
    rw [one_mul, cont.agrees p hp]
    exact start.trans le

/-- The step builds a fragment for the language. -/
def Builds (build : Construct Fragment) (language : Language QName) : Prop :=
  ∀ ⦃d e : Draft⦄ ⦃part : Fragment⦄, d.WellFormed → build.run d = .ok (part, e) →
    d.Spans part language e

/-! ## Repetition -/

theorem reads_kstar (circle : ∀ names ∈ language, d.Reads p names p) :
    ∀ names ∈ language∗, d.Reads p names p := by
  rintro names ⟨words, rfl, mem⟩
  induction words with
  | nil => exact .stay p
  | cons word words ih =>
    rw [List.flatten_cons]
    exact (circle word (mem word (by simp))).append (ih fun w hw => mem w (by simp [hw]))

theorem le_kstar_mul (language rest : Language QName) : rest ≤ language∗ * rest := by
  have := mul_le_mul_left (one_le_kstar (a := language)) rest
  rwa [one_mul] at this

theorem mul_kstar_mul_le (language rest : Language QName) :
    language * (language∗ * rest) ≤ language∗ * rest := by
  rw [← mul_assoc]
  exact mul_le_mul_left mul_kstar_le_kstar rest

/-- A silent move leads into a fragment, and another one from its end back to its start. -/
theorem loop_spec {part : Fragment} {u v : Unit} {g : Draft} (hp : p < d.states.size)
    (spans : d.Spans part language e) (enter : (addEpsilon p part.start).run e = .ok (u, f))
    (back : (addEpsilon part.finish part.start).run f = .ok (v, g)) :
    d.Joins p (language * language∗) part.finish g := by
  have hp' := Nat.lt_of_lt_of_le hp spans.grows.size
  have into := addEpsilon_spec spans.grows.wellFormed hp' spans.start enter
  have again := addEpsilon_spec into.grows.wellFormed (by rw [into.size]; exact spans.finish)
    (by rw [into.size]; exact spans.start) back
  have wires := into.trans again
  have across : ∀ names ∈ language, g.Reads part.start names part.finish := fun names mem =>
    wires.grows.reads (spans.reads names mem)
  refine ⟨spans.grows.trans wires.grows, by rw [wires.size]; exact spans.finish, ?_, ?_⟩
  · intro names mem
    obtain ⟨first, hf, others, ho, rfl⟩ := Language.mem_mul.mp mem
    have circle : ∀ names ∈ language, g.Reads part.finish names part.finish := fun names mem =>
      (wires.reads _ (Or.inr rfl) [] rfl).append (across names mem)
    exact ((wires.reads _ (Or.inl rfl) [] rfl).append (across first hf)).append
      (reads_kstar circle others ho)
  · intro label rest labels le
    rw [mul_assoc] at le
    obtain ⟨more, cont, finish, start⟩ := spans.labels label (language∗ * rest) labels
    refine ⟨more, ⟨wires.labels more cont.labels ?_, cont.agrees⟩,
      (le_kstar_mul language rest).trans finish⟩
    rintro edge (rfl | rfl)
    · rw [one_mul, cont.agrees p hp]
      exact start.trans le
    · rw [one_mul]
      exact (start.trans (mul_kstar_mul_le language rest)).trans finish

/-- Copies one after the other, of which the last one may be a loop. -/
theorem copies_spec {build : Construct Fragment} (builds : Builds build language) {loops : Bool}
    {count : Nat} (formed : d.WellFormed) (hp : p < d.states.size)
    (h : (copies build loops count p).run d = .ok (q, e)) :
    d.Joins p (language ^ count * if loops ∧ count ≠ 0 then language∗ else 1) q e := by
  induction count generalizing d p with
  | zero =>
    obtain ⟨rfl, rfl⟩ := run_pure_eq_ok_iff.mp h
    simpa using Joins.refl formed hp
  | succ count ih =>
    rw [copies] at h
    obtain ⟨part, e₁, built, h⟩ := run_bind_eq_ok_iff.mp h
    obtain ⟨_, e₂, enter, h⟩ := run_bind_eq_ok_iff.mp h
    have spans := builds formed built
    by_cases last : (loops && count == 0) = true
    · obtain ⟨rfl, rfl⟩ : loops = true ∧ count = 0 := by simpa using last
      rw [if_pos last] at h
      obtain ⟨_, e₃, back, h⟩ := run_bind_eq_ok_iff.mp h
      obtain ⟨rfl, rfl⟩ := run_pure_eq_ok_iff.mp h
      simpa using loop_spec hp spans enter back
    · rw [if_neg last] at h
      have first := enter_spec hp spans enter
      have all := first.trans (ih first.grows.wellFormed first.target h)
      have tail : (loops = true ∧ count + 1 ≠ 0) ↔ (loops = true ∧ count ≠ 0) := by
        simp only [Bool.and_eq_true, beq_iff_eq, not_and] at last
        exact ⟨fun h => ⟨h.1, last h.1⟩, fun h => ⟨h.1, by omega⟩⟩
      simpa only [tail, pow_succ', mul_assoc] using all

theorem optionalCopies_spec {build : Construct Fragment} (builds : Builds build language)
    {count : Nat} {u : Unit} (formed : d.WellFormed) (hp : p < d.states.size)
    (hq : q < d.states.size) (h : (optionalCopies build q count p).run d = .ok (u, e)) :
    d.Links p (Occurs.further language count) q e := by
  induction count generalizing d p with
  | zero =>
    obtain ⟨-, rfl⟩ := run_pure_eq_ok_iff.mp h
    exact .none formed
  | succ count ih =>
    obtain ⟨part, e₁, built, h⟩ := run_bind_eq_ok_iff.mp h
    obtain ⟨_, e₂, enter, h⟩ := run_bind_eq_ok_iff.mp h
    obtain ⟨_, e₃, leave, h⟩ := run_bind_eq_ok_iff.mp h
    have first := enter_spec hp (builds formed built) enter
    have hq' := Nat.lt_of_lt_of_le hq first.grows.size
    have exit := (addEpsilon_spec first.grows.wellFormed first.target hq' leave).links
    have size := exit.grows.size
    have others := ih exit.grows.wellFormed (Nat.lt_of_lt_of_le first.target size)
      (Nat.lt_of_lt_of_le hq' size) h
    exact first.link hq (exit.add first.target hq' others)

/-- A circle through a state that is new beforehand. -/
theorem circle_spec {part : Fragment} {u v : Unit} {g : Draft} (formed : d.WellFormed)
    (spans : (d.fresh 1).Spans part language e)
    (enter : (addEpsilon d.states.size part.start).run e = .ok (u, f))
    (leave : (addEpsilon part.finish d.states.size).run f = .ok (v, g)) :
    d.Spans ⟨d.states.size, d.states.size⟩ (language∗) g := by
  obtain ⟨grown, labelled⟩ := fresh_spec formed 1
  have isNew : d.states.size < (d.fresh 1).states.size := by simp
  have hp := Nat.lt_of_lt_of_le isNew spans.grows.size
  have into := addEpsilon_spec spans.grows.wellFormed hp spans.start enter
  have out := addEpsilon_spec into.grows.wellFormed (by rw [into.size]; exact spans.finish)
    (by rwa [into.size]) leave
  have wires := into.trans out
  have hp' : d.states.size < g.states.size := by rwa [wires.size]
  refine ⟨(grown.trans spans.grows).trans wires.grows, hp', hp', ?_, ?_⟩
  · refine reads_kstar fun names mem => ?_
    have across := wires.grows.reads (spans.reads names mem)
    simpa using ((wires.reads _ (Or.inl rfl) [] rfl).append across).append
      (wires.reads _ (Or.inr rfl) [] rfl)
  · intro label rest labels
    obtain ⟨more, cont, new⟩ := labelled label (fun _ => language∗ * rest) labels
    have new : more d.states.size = language∗ * rest := new 0
    obtain ⟨most, cont', finish, start⟩ := spans.labels more (language∗ * rest) cont.labels
    have kept : most d.states.size = language∗ * rest := (cont'.agrees _ isNew).trans new
    have edges : g.Labels most := by
      refine wires.labels most cont'.labels ?_
      rintro edge (rfl | rfl)
      · rw [one_mul, kept]
        exact start.trans (mul_kstar_mul_le language rest)
      · rw [one_mul, kept]
        exact finish
    exact ⟨most, cont.trans grown.size ⟨edges, cont'.agrees⟩,
      kept ▸ le_kstar_mul language rest, kept.le⟩

theorem repeated_spec {occurs : Occurs} {build : Construct Fragment}
    (builds : Builds build language) (proper : occurs.Proper) :
    Builds (repeated env occurs build) (occurs.repeats language) := by
  intro d e part formed h
  obtain ⟨min, max⟩ := occurs
  obtain ⟨start, d₁, hs, h⟩ := run_bind_eq_ok_iff.mp h
  obtain ⟨rfl, rfl⟩ := newState_run hs
  obtain ⟨current, d₂, hc, h⟩ := run_bind_eq_ok_iff.mp h
  have grown := (fresh_spec formed 1).1
  have isNew : d.states.size < (d.fresh 1).states.size := by simp
  have required := copies_spec builds grown.wellFormed isNew hc
  cases max with
  | none =>
    rw [Occurs.repeats_unbounded]
    by_cases zero : min = 0
    · subst zero
      obtain ⟨rfl, rfl⟩ := run_pure_eq_ok_iff.mp hc
      obtain ⟨copy, d₃, built, h⟩ := run_bind_eq_ok_iff.mp h
      obtain ⟨_, d₄, enter, h⟩ := run_bind_eq_ok_iff.mp h
      obtain ⟨_, d₅, leave, h⟩ := run_bind_eq_ok_iff.mp h
      obtain ⟨rfl, rfl⟩ := run_pure_eq_ok_iff.mp h
      rw [pow_zero, one_mul]
      exact circle_spec formed (builds grown.wellFormed built) enter leave
    · simp only [zero, if_false] at h
      obtain ⟨rfl, rfl⟩ := run_pure_eq_ok_iff.mp h
      simp only [Option.isNone_none, ne_eq, zero, not_false_eq_true, and_self, if_true] at required
      exact required.span formed
  | some max =>
    obtain ⟨finish, d₃, hf, h⟩ := run_bind_eq_ok_iff.mp h
    obtain ⟨rfl, rfl⟩ := newState_run hf
    obtain ⟨_, d₄, skip, h⟩ := run_bind_eq_ok_iff.mp h
    obtain ⟨_, d₅, others, h⟩ := run_bind_eq_ok_iff.mp h
    obtain ⟨rfl, rfl⟩ := run_pure_eq_ok_iff.mp h
    have grown' := (fresh_spec required.grows.wellFormed 1).1
    have isNew' : d₂.states.size < (d₂.fresh 1).states.size := by simp
    have target := Nat.lt_of_lt_of_le required.target grown'.size
    have exit := (addEpsilon_spec grown'.wellFormed target isNew' skip).links
    have more := optionalCopies_spec builds exit.grows.wellFormed
      (Nat.lt_of_lt_of_le target exit.grows.size) (Nat.lt_of_lt_of_le isNew' exit.grows.size) others
    have optional := (exit.add target isNew' more).join required.grows.wellFormed required.target
    rw [Occurs.repeats_bounded (proper max rfl)]
    simp only [Option.isNone_some, Bool.false_eq_true, false_and, if_false, mul_one] at required
    exact (required.trans optional).span formed

/-! ## Groups -/

/-- A step that enters symbols, said of all drafts. -/
def Yields (symbols : Construct (List Nat)) (names : Set QName) : Prop :=
  ∀ ⦃d e : Draft⦄ ⦃found : List Nat⦄, d.WellFormed → symbols.run d = .ok (found, e) →
    d.Enters [] names found e

theorem reading_spec {symbols : Construct (List Nat)} {names : Set QName}
    (yields : Yields symbols names) : Builds (reading env symbols) (Content.letters names) := by
  intro d e part formed h
  obtain ⟨start, d₁, hs, h⟩ := run_bind_eq_ok_iff.mp h
  obtain ⟨rfl, rfl⟩ := newState_run hs
  obtain ⟨finish, d₂, hf, h⟩ := run_bind_eq_ok_iff.mp h
  obtain ⟨rfl, rfl⟩ := newState_run hf
  obtain ⟨found, d₃, hy, h⟩ := run_bind_eq_ok_iff.mp h
  obtain ⟨_, d₄, moves, h⟩ := run_bind_eq_ok_iff.mp h
  obtain ⟨rfl, rfl⟩ := run_pure_eq_ok_iff.mp h
  have grown := (fresh_spec formed 1).1
  have grown' := (fresh_spec grown.wellFormed 1).1
  have entered := yields grown'.wellFormed hy
  have size := entered.grows.size
  simp only [size_fresh] at size
  have added := (addMoves_spec entered.grows.wellFormed (p := d.states.size)
    (q := (d.fresh 1).states.size) (by omega) (by rw [size_fresh]; omega) entered.range moves).links
  have names_eq : {name | ∃ n ∈ found, name ∈ d₃.readBy n} = names := by
    ext name
    simpa using entered.reads name
  rw [names_eq] at added
  have before : ((d.fresh 1).fresh 1).Links d.states.size 0 (d.fresh 1).states.size d₃ :=
    ⟨entered.grows, fun names h => absurd h (Language.notMem_zero names),
      fun label labels _ => ⟨label, entered.labels grown'.wellFormed labels, fun _ _ => rfl⟩⟩
  have both := before.add (by simp only [size_fresh]; omega) (by simp) added
  rw [zero_add] at both
  exact (both.join grown.wellFormed (by simp)).span formed

theorem sequenceFrom_spec {members : List Member} {languages : List (Language QName)}
    (builds : List.Forall₂ (fun m l => Builds (m.repeated env) l) members languages)
    (formed : d.WellFormed) (hp : p < d.states.size)
    (h : (sequenceFrom env members p).run d = .ok (q, e)) : d.Joins p languages.prod q e := by
  induction builds generalizing d p with
  | nil =>
    obtain ⟨rfl, rfl⟩ := run_pure_eq_ok_iff.mp h
    exact .refl formed hp
  | cons first _ ih =>
    obtain ⟨part, e₁, built, h⟩ := run_bind_eq_ok_iff.mp h
    obtain ⟨_, e₂, enter, h⟩ := run_bind_eq_ok_iff.mp h
    have joins := enter_spec hp (first formed built) enter
    rw [List.prod_cons]
    exact joins.trans (ih joins.grows.wellFormed joins.target h)

theorem sequence_spec {members : List Member} {languages : List (Language QName)}
    (builds : List.Forall₂ (fun m l => Builds (m.repeated env) l) members languages) :
    Builds (sequence env members) languages.prod := by
  intro d e part formed h
  obtain ⟨start, d₁, hs, h⟩ := run_bind_eq_ok_iff.mp h
  obtain ⟨rfl, rfl⟩ := newState_run hs
  obtain ⟨finish, d₂, hf, h⟩ := run_bind_eq_ok_iff.mp h
  obtain ⟨rfl, rfl⟩ := run_pure_eq_ok_iff.mp h
  have grown := (fresh_spec formed 1).1
  exact (sequenceFrom_spec builds grown.wellFormed (by simp) hf).span formed

theorem branches_spec {members : List Member} {languages : List (Language QName)} {u : Unit}
    (builds : List.Forall₂ (fun m l => Builds (m.repeated env) l) members languages)
    (formed : d.WellFormed) (hp : p < d.states.size) (hq : q < d.states.size)
    (h : (members.forM fun m => do
      let f ← m.repeated env
      addEpsilon p f.start
      addEpsilon f.finish q).run d = .ok (u, e)) : d.Links p languages.sum q e := by
  induction builds generalizing d with
  | nil =>
    obtain ⟨-, rfl⟩ := run_pure_eq_ok_iff.mp h
    exact .none formed
  | cons first _ ih =>
    obtain ⟨_, e₁, branch, rest⟩ := run_bind_eq_ok_iff.mp h
    obtain ⟨part, e₂, built, branch⟩ := run_bind_eq_ok_iff.mp branch
    obtain ⟨_, e₃, enter, leave⟩ := run_bind_eq_ok_iff.mp branch
    have joins := enter_spec hp (first formed built) enter
    have exit := addEpsilon_spec joins.grows.wellFormed joins.target
      (Nat.lt_of_lt_of_le hq joins.grows.size) leave
    have one := joins.link hq exit.links
    rw [mul_one] at one
    have others := ih one.grows.wellFormed (Nat.lt_of_lt_of_le hp one.grows.size)
      (Nat.lt_of_lt_of_le hq one.grows.size) rest
    rw [List.sum_cons]
    exact one.add hp hq others

theorem choice_spec {members : List Member} {languages : List (Language QName)}
    (builds : List.Forall₂ (fun m l => Builds (m.repeated env) l) members languages) :
    Builds (choice env members) languages.sum := by
  intro d e part formed h
  obtain ⟨start, d₁, hs, h⟩ := run_bind_eq_ok_iff.mp h
  obtain ⟨rfl, rfl⟩ := newState_run hs
  obtain ⟨finish, d₂, hf, h⟩ := run_bind_eq_ok_iff.mp h
  obtain ⟨rfl, rfl⟩ := newState_run hf
  obtain ⟨_, d₃, branches, h⟩ := run_bind_eq_ok_iff.mp h
  obtain ⟨rfl, rfl⟩ := run_pure_eq_ok_iff.mp h
  have grown := (fresh_spec formed 1).1
  have grown' := (fresh_spec grown.wellFormed 1).1
  have links := branches_spec (p := d.states.size) builds grown'.wellFormed (by simp only [size_fresh]; omega)
    (by simp) branches
  exact (links.join grown.wellFormed (by simp)).span formed

end Construct

end Xsd.Nfa
