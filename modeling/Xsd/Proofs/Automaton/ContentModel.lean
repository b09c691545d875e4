import Xsd.Automaton.ContentModel
import Xsd.Proofs.Automaton.AllGroup

/-!
# Automata of contents keep their language

The construction is followed over the tree of a content, and what it builds is handed to
determinization. The automaton that comes out accepts the language of the content.
-/

namespace Xsd

namespace Nfa.Construct

open Draft

variable {env : Environment} {d e : Draft} {language : Language QName} {p q : Nat}

/-- A member and what it reads: the member is built for the language of the part. -/
def Member.Reads (m : Member) (p : Part) : Prop :=
  m.content.occurs = p.occurs ∧ Builds m.build p.language

theorem repeated_members (env : Environment) {members : List Member} {parts : List Part}
    (reads : members.Forall₂ Member.Reads parts) (proper : ∀ p ∈ parts, p.occurs.Proper) :
    List.Forall₂ (fun m l => Builds (m.repeated env) l) members (parts.map (·.repeated)) := by
  induction reads with
  | nil => exact .nil
  | cons first _ ih =>
    obtain ⟨occurs, builds⟩ := first
    refine .cons ?_ (ih fun p hp => proper p (List.mem_cons_of_mem _ hp))
    rw [Member.repeated, occurs]
    exact repeated_spec builds (proper _ List.mem_cons_self)

theorem proper_parts {a : Arena} {s : SubstitutionGroups} {cs : List Content}
    (proper : Content.AllProper cs) : ∀ p ∈ Content.parts a s cs, p.occurs.Proper := by
  induction cs with
  | nil => simp [Content.parts]
  | cons c cs ih =>
    obtain ⟨first, rest⟩ := proper
    intro p hp
    rcases List.mem_cons.mp hp with rfl | hp
    · cases c with
      | element o id => exact first
      | wildcard o w => exact first
      | group o compositor members => exact first.1
    · exact ih rest p hp

theorem single_members {cs : List Content} (single : ∀ c ∈ cs, c.IsSingleElement) :
    List.Forall₂ (Member.IsLetter env) (membersOf env cs)
      (Content.parts env.arena env.substitutions cs) := by
  induction cs with
  | nil => exact .nil
  | cons c cs ih =>
    refine .cons ?_ (ih fun c hc => single c (List.mem_cons_of_mem _ hc))
    cases c with
    | wildcard o w => exact (single _ List.mem_cons_self).elim
    | group o compositor members => exact (single _ List.mem_cons_self).elim
    | element o id =>
      refine ⟨rfl, rfl, _, rfl, ?_⟩
      intro d e found formed h
      obtain ⟨symbols, d₁, entry, h⟩ := run_bind_eq_ok_iff.mp h
      obtain ⟨rfl, rfl⟩ := run_pure_eq_ok_iff.mp h
      exact ⟨symbols, rfl, elementSymbols_spec formed entry⟩

mutual

/-- What is built for a content that occurs once reads its language, whatever the compositor. -/
theorem once_builds (env : Environment) (c : Content) (proper : c.Proper) :
    Builds (once env c) (c.once env.arena env.substitutions) := by
  cases c with
  | element o id =>
    rw [once, Content.once]
    exact reading_spec fun d e found formed h => elementSymbols_spec formed h
  | wildcard o w =>
    rw [once, Content.once]
    refine reading_spec fun d e found formed h => ?_
    obtain ⟨n, d₁, entry, h⟩ := run_bind_eq_ok_iff.mp h
    obtain ⟨rfl, rfl⟩ := run_pure_eq_ok_iff.mp h
    exact wildcardSymbol_spec formed entry
  | group o compositor members =>
    obtain ⟨-, single, all⟩ := proper
    have parts := proper_parts (a := env.arena) (s := env.substitutions) all
    have repeated := repeated_members env (membersOf_reads env members all) parts
    cases compositor with
    | sequence =>
      rw [once, Content.once]
      exact sequence_spec repeated
    | choice =>
      rw [once, Content.once]
      exact choice_spec repeated
    | all =>
      rw [once, Content.once]
      exact all_spec (single_members (single rfl)) parts

theorem membersOf_reads (env : Environment) (cs : List Content) (proper : Content.AllProper cs) :
    List.Forall₂ Member.Reads (membersOf env cs)
      (Content.parts env.arena env.substitutions cs) := by
  cases cs with
  | nil => exact .nil
  | cons c cs =>
    obtain ⟨first, rest⟩ := proper
    exact .cons ⟨rfl, once_builds env c first⟩ (membersOf_reads env cs rest)

end

theorem content_builds {c : Option Content} (proper : ∀ root ∈ c, root.Proper) :
    Builds (content env c) (Content.language env.arena env.substitutions c) := by
  cases c with
  | none =>
    intro d e part formed h
    obtain ⟨state, d₁, hs, h⟩ := run_bind_eq_ok_iff.mp h
    obtain ⟨rfl, rfl⟩ := newState_run hs
    obtain ⟨rfl, rfl⟩ := run_pure_eq_ok_iff.mp h
    exact (Joins.refl (fresh_spec formed 1).1.wellFormed (by simp)).span formed
  | some root =>
    have proper := proper root rfl
    have bounds : root.occurs.Proper := by
      cases root with
      | element o id => exact proper
      | wildcard o w => exact proper
      | group o compositor members => exact proper.1
    exact repeated_spec (once_builds env root proper) bounds

end Nfa.Construct

namespace Nfa

open Draft

theorem wellFormed_empty : WellFormed ⟨#[], #[]⟩ where
  silent _ _ h := by
    obtain ⟨_, at_p, _⟩ := h
    cases at_p
  moves _ _ _ h := by
    obtain ⟨_, at_p, _⟩ := h
    cases at_p
  once := .nil

/-- A fragment built on nothing reads nothing but its language. -/
theorem Draft.Spans.reads_iff {part : Fragment} {language : Language QName} {d : Draft}
    (spans : Spans ⟨#[], #[]⟩ part language d) {names : List QName} :
    d.Reads part.start names part.finish ↔ names ∈ language := by
  constructor
  · intro walk
    have blank : Labels ⟨#[], #[]⟩ fun _ => 0 := by
      constructor
      · rintro p q ⟨_, at_p, _⟩
        cases at_p
      · rintro p n q ⟨_, at_p, _⟩
        cases at_p
    obtain ⟨label, cont, finish, start⟩ := spans.labels (fun _ => 0) 1 blank
    have mem := start (cont.labels.append_mem walk (finish Language.nil_mem_one))
    rwa [List.append_nil, mul_one] at mem
  · exact spans.reads names

theorem WellFormed.inRange {d : Draft} (formed : d.WellFormed) {start accept : Nat}
    (hs : start < d.states.size) (ha : accept < d.states.size) :
    InRange ⟨d.states, start, accept⟩ d.alphabet where
  start := hs
  accept := ha
  epsilon s hs q hq := by
    obtain ⟨p, at_p⟩ := Array.getElem?_of_mem hs
    exact formed.silent p q ⟨s, at_p, hq⟩
  moves s hs m hm := by
    obtain ⟨p, at_p⟩ := Array.getElem?_of_mem hs
    exact formed.moves p m.1 m.2 ⟨s, at_p, hm⟩

/-- The automaton of a content speaks of its own states, has each name once, and accepts the language
for which it is built. -/
theorem ofContent_of_builds {env : Environment} {content : Option Content}
    {language : Language QName} (builds : Construct.Builds (Construct.content env content) language)
    {nfa : Nfa} {alphabet : Array Symbol} (h : ofContent env content = .ok (nfa, alphabet)) :
    nfa.InRange alphabet ∧ NamesOnce alphabet ∧
      ∀ names, nfa.Accepts alphabet names ↔ names ∈ language := by
  obtain ⟨⟨part, d⟩, built, h⟩ := bind_eq_ok_iff.mp h
  cases pure_eq_ok_iff.mp h
  have spans := builds wellFormed_empty built
  exact ⟨WellFormed.inRange spans.grows.wellFormed spans.start spans.finish,
    spans.grows.wellFormed.once, fun names => spans.reads_iff⟩

end Nfa

/-- The sequences of names that the automaton accepts. -/
def Automaton.language (a : Automaton) : Language QName := {names | a.accepts names = true}

namespace ContentModel

theorem language_automatonOf_of_builds {env : Nfa.Environment} {content : Option Content}
    {language : Language QName}
    (builds : Nfa.Construct.Builds (Nfa.Construct.content env content) language) {a : Automaton}
    (h : automatonOf env content = .ok a) : a.language = language := by
  obtain ⟨⟨nfa, alphabet⟩, built, h⟩ := bind_eq_ok_iff.mp h
  obtain ⟨states, determinized, h⟩ := bind_eq_ok_iff.mp h
  cases pure_eq_ok_iff.mp h
  obtain ⟨inRange, once, accepts⟩ := Nfa.ofContent_of_builds builds built
  obtain ⟨sets, table⟩ := Nfa.exists_table determinized
  ext names
  exact (Nfa.accepts_iff_of_table inRange once table names).trans (accepts names)

theorem language_automatonOf {env : Nfa.Environment} {content : Option Content}
    (proper : ∀ root ∈ content, root.Proper) {a : Automaton} (h : automatonOf env content = .ok a) :
    a.language = Content.language env.arena env.substitutions content :=
  language_automatonOf_of_builds (Nfa.Construct.content_builds proper) h

/-- The automaton of a content accepts exactly the sequences of names in the language of the
content. -/
theorem automatonOf_accepts_iff (env : Nfa.Environment) (content : Option Content)
    (proper : ∀ root ∈ content, root.Proper) (a : Automaton)
    (h : automatonOf env content = .ok a) (names : List QName) :
    a.accepts names = true ↔ names ∈ Content.language env.arena env.substitutions content := by
  rw [← language_automatonOf proper h]
  rfl

/-- An abstract head with a member, and an element of its own. -/
private def ordersArena : Arena :=
  { Arena.empty with
    elements := #[
      { ElementDecl.plain (.ofGlobal ⟨none, "payment"⟩ ⟨0⟩) with isAbstract := true },
      { ElementDecl.plain (.ofGlobal ⟨none, "card"⟩ ⟨0⟩) with
        head := some ⟨⟨none, "payment"⟩, some ⟨0⟩⟩ },
      ElementDecl.plain (.ofGlobal ⟨none, "note"⟩ ⟨0⟩)] }

/-- A payment and perhaps a note in any order, and then whatever is of another namespace. -/
private def ordersContent : Content :=
  .group .once .sequence
    [.group .once .all [.element .once ⟨0⟩, .element .optional ⟨2⟩],
      .wildcard .anyNumber ⟨.other none, .lax⟩]

theorem orders_accepts_iff :
    ∃ a, ordersContent.Proper ∧
      automatonOf ⟨ordersArena, .ofArena ordersArena, .standard, ""⟩ (some ordersContent) = .ok a ∧
      (a.accepts [⟨none, "note"⟩, ⟨none, "card"⟩, ⟨some "urn:x", "card"⟩] = true ↔
        [⟨none, "note"⟩, ⟨none, "card"⟩, ⟨some "urn:x", "card"⟩] ∈
          Content.language ordersArena (.ofArena ordersArena) (some ordersContent)) := by
  have proper : ordersContent.Proper := by
    simp [ordersContent, Content.Proper, Content.AllProper, Content.IsSingleElement, Occurs.Proper,
      Occurs.once, Occurs.optional, Occurs.anyNumber]
  have succeeds : (automatonOf ⟨ordersArena, .ofArena ordersArena, .standard, ""⟩
      (some ordersContent)).toOption.isSome = true := by
    cbv
  cases h : automatonOf ⟨ordersArena, .ofArena ordersArena, .standard, ""⟩ (some ordersContent) with
  | error e =>
    rw [h] at succeeds
    cases succeeds
  | ok a =>
    refine ⟨a, proper, rfl, automatonOf_accepts_iff _ _ ?_ a h _⟩
    rintro root ⟨⟩
    exact proper

end ContentModel

end Xsd
