import Xsd.Proofs.Schema.Extension

/-!
# Contents that count for empty

A content counts for empty if it cannot occur, or consists of such contents only. The empty sequence
is then all that it reads, and contents of that kind are left out: of groups in any order, and of
what a type declares. But a choice among no members counts for empty too, and that reads nothing at
all; so does a sequence with such a member, and a choice among such members, as long as they have to
occur.
-/

namespace Xsd

open Computability

namespace Content

mutual

/-- A choice among no members, or what cannot be read without one. -/
def isVoidOnce : Content → Bool
  | .group _ .sequence members => someVoid members
  | .group _ .choice members => allVoid members
  | _ => false

/-- Some of the contents has to occur, but cannot. -/
def someVoid : List Content → Bool
  | [] => false
  | c :: cs => (c.occurs.min != 0 && c.isVoidOnce) || someVoid cs

/-- Each of the contents has to occur, but cannot. -/
def allVoid : List Content → Bool
  | [] => true
  | c :: cs => (c.occurs.min != 0 && c.isVoidOnce) && allVoid cs

end

/-- The content has to occur, but cannot because of choices among no members. -/
def isVoid (c : Content) : Bool := c.occurs.min != 0 && c.isVoidOnce

theorem someVoid_cons {c : Content} {cs : List Content} :
    someVoid (c :: cs) = (c.isVoid || someVoid cs) := rfl

theorem allVoid_cons {c : Content} {cs : List Content} :
    allVoid (c :: cs) = (c.isVoid && allVoid cs) := rfl

/-- The language of the empty sequence, or none. -/
def blank (void : Bool) : Language QName := if void then 0 else 1

@[simp] theorem blank_false : blank false = 1 := rfl

@[simp] theorem blank_true : blank true = 0 := rfl

theorem mem_blank_iff {void : Bool} {names : List QName} :
    names ∈ blank void ↔ names = [] ∧ void = false := by
  cases void with
  | false => rw [blank_false, Language.mem_one, and_iff_left rfl]
  | true => exact iff_of_false (Language.notMem_zero names) nofun

theorem blank_le_one (void : Bool) : blank void ≤ 1 := by
  intro names mem
  exact (Language.mem_one names).mpr (mem_blank_iff.mp mem).1

theorem prod_blank (cs : List Content) :
    (cs.map fun c => blank c.isVoid).prod = blank (someVoid cs) := by
  induction cs with
  | nil => rfl
  | cons c cs ih =>
    rw [List.map_cons, List.prod_cons, ih, someVoid_cons]
    cases c.isVoid <;> simp

theorem sum_blank (cs : List Content) :
    (cs.map fun c => blank c.isVoid).sum = blank (allVoid cs) := by
  induction cs with
  | nil => rfl
  | cons c cs ih =>
    rw [List.map_cons, List.sum_cons, ih, allVoid_cons]
    cases c.isVoid <;> cases allVoid cs <;> simp

end Content

theorem Occurs.min_eq_zero_of_isEmpty {o : Occurs} (proper : o.Proper) (h : o.isEmpty = true) :
    o.min = 0 :=
  Nat.le_zero.mp (proper 0 (eq_of_beq h))

theorem Occurs.repeats_of_isEmpty {o : Occurs} (proper : o.Proper) (h : o.isEmpty = true)
    (language : Language QName) : o.repeats language = 1 := by
  obtain ⟨min, max⟩ := o
  cases eq_of_beq h
  cases Occurs.min_eq_zero_of_isEmpty proper h
  rw [repeats_bounded (Nat.le_refl 0), pow_zero, one_mul, Nat.sub_self, upTo, further, add_zero]

/-- Repeated, nothing but the empty sequence remains so, and what reads nothing is left out if it
may be. -/
theorem Occurs.repeats_blank {o : Occurs} (proper : o.Proper) (void : Bool) :
    o.repeats (Content.blank void) = Content.blank (o.min != 0 && void) := by
  ext names
  rw [Content.mem_blank_iff]
  constructor
  · rintro ⟨count, low, -, mem⟩
    cases void with
    | false =>
      rw [Content.blank_false, one_pow] at mem
      exact ⟨(Language.mem_one names).mp mem, Bool.and_false _⟩
    | true =>
      cases count with
      | zero =>
        rw [pow_zero] at mem
        exact ⟨(Language.mem_one names).mp mem, by simp [Nat.le_zero.mp low]⟩
      | succ count =>
        rw [Content.blank_true, zero_pow (Nat.succ_ne_zero count)] at mem
        exact absurd mem (Language.notMem_zero names)
  · rintro ⟨rfl, may⟩
    refine ⟨o.min, Nat.le_refl _, proper, ?_⟩
    cases void with
    | false =>
      rw [Content.blank_false, one_pow]
      exact Language.nil_mem_one
    | true =>
      have zero : o.min = 0 := by simpa using may
      rw [zero, pow_zero]
      exact Language.nil_mem_one

namespace Content

theorem areEmpty_iff {cs : List Content} : areEmpty cs = true ↔ ∀ c ∈ cs, c.isEmpty = true := by
  induction cs with
  | nil => simp [areEmpty]
  | cons c cs ih => rw [areEmpty, Bool.and_eq_true, ih, List.forall_mem_cons]

theorem isVoid_eq_false_of_isEmpty {c : Content} (proper : c.occurs.Proper)
    (never : c.occurs.isEmpty = true) : c.isVoid = false := by
  rw [isVoid, Occurs.min_eq_zero_of_isEmpty proper never]
  rfl

end Content

/-! ## Members in any order -/

namespace Part

theorem inAnyOrder_nil : inAnyOrder [] = 1 := by
  ext names
  rw [Language.mem_one]
  constructor
  · rintro ⟨taken, left, perm, -, -, mem⟩
    obtain ⟨rfl, -⟩ := List.append_eq_nil_iff.mp perm.eq_nil
    exact (Language.mem_one names).mp mem
  · rintro rfl
    exact one_le_inAnyOrder (by simp) Language.nil_mem_one

theorem inAnyOrder_perm {ps qs : List Part} (perm : ps.Perm qs) :
    inAnyOrder ps = inAnyOrder qs := by
  ext names
  constructor
  · rintro ⟨taken, left, perm', rest⟩
    exact ⟨taken, left, perm'.trans perm, rest⟩
  · rintro ⟨taken, left, perm', rest⟩
    exact ⟨taken, left, perm'.trans perm.symm, rest⟩

/-- Where the part is taken nothing is read, and it can be taken if it has to be. -/
structure IsBlank (p : Part) : Prop where
  taken : p.occurs.max ≠ some 0 → p.language ≤ 1
  required : p.occurs.min ≠ 0 → p.occurs.max ≠ some 0 ∧ 1 ≤ p.language

theorem prod_append_cons_le {p : Part} (h : p.language ≤ 1) (before after : List Part) :
    ((before ++ p :: after).map (·.language)).prod ≤ ((before ++ after).map (·.language)).prod := by
  simp only [List.map_append, List.map_cons, List.prod_append, List.prod_cons]
  gcongr
  calc p.language * (after.map (·.language)).prod
      ≤ 1 * (after.map (·.language)).prod := by gcongr
    _ = (after.map (·.language)).prod := one_mul _

/-- A blank part does not count, whether it is taken or left. -/
theorem inAnyOrder_cons_blank {p : Part} (blank : p.IsBlank) (ps : List Part) :
    inAnyOrder (p :: ps) = inAnyOrder ps := by
  ext names
  constructor
  · rintro ⟨taken, left, perm, may, optional, mem⟩
    rcases List.mem_append.mp (perm.symm.subset List.mem_cons_self) with here | here
    · obtain ⟨before, after, rfl⟩ := List.append_of_mem here
      have front : (p :: (before ++ after) ++ left).Perm (before ++ p :: after ++ left) :=
        List.perm_middle.symm.append_right left
      have others : (before ++ after ++ left).Perm ps := (front.trans perm).cons_inv
      refine ⟨before ++ after, left, others, fun q hq => may q ?_, optional, ?_⟩
      · simp only [List.mem_append, List.mem_cons] at hq ⊢
        tauto
      · exact prod_append_cons_le (blank.taken (may p here)) before after mem
    · obtain ⟨before, after, rfl⟩ := List.append_of_mem here
      have front : (p :: (taken ++ (before ++ after))).Perm (taken ++ (before ++ p :: after)) :=
        List.perm_middle.symm.trans (List.perm_middle.symm.append_left taken)
      have others : (taken ++ (before ++ after)).Perm ps := (front.trans perm).cons_inv
      refine ⟨taken, before ++ after, others, may, fun q hq => optional q ?_, mem⟩
      simp only [List.mem_append, List.mem_cons] at hq ⊢
      tauto
  · rintro ⟨taken, left, perm, may, optional, mem⟩
    by_cases zero : p.occurs.min = 0
    · refine ⟨taken, p :: left, List.perm_middle.trans (perm.cons p), may, ?_, mem⟩
      exact List.forall_mem_cons.mpr ⟨zero, optional⟩
    · obtain ⟨occurs, reads⟩ := blank.required zero
      refine ⟨p :: taken, left, perm.cons p, List.forall_mem_cons.mpr ⟨occurs, may⟩, optional, ?_⟩
      rw [List.map_cons, List.prod_cons]
      exact Language.append_mem_mul (reads Language.nil_mem_one) mem

theorem inAnyOrder_append_blank {bs : List Part} (blank : ∀ p ∈ bs, p.IsBlank) (ps : List Part) :
    inAnyOrder (bs ++ ps) = inAnyOrder ps := by
  induction bs with
  | nil => rfl
  | cons p bs ih =>
    obtain ⟨first, rest⟩ := List.forall_mem_cons.mp blank
    rw [List.cons_append, inAnyOrder_cons_blank first, ih rest]

end Part

/-! ## What is built -/

namespace Nfa.Construct

variable {env : Environment}

/-- What cannot occur is not built at all. -/
theorem repeated_never {o : Occurs} (proper : o.Proper) (never : o.isEmpty = true)
    (build : Construct Fragment) : Builds (repeated env o build) 1 := by
  have min := Occurs.min_eq_zero_of_isEmpty proper never
  obtain ⟨_, max⟩ := o
  cases min
  cases eq_of_beq never
  have same : repeated env .never build = repeated env .never (content env none) := rfl
  have nothing : Builds (content env none) (Content.language env.arena env.substitutions none) :=
    content_builds (by simp)
  have builds : Builds (repeated env .never (content env none)) (Occurs.never.repeats _) :=
    repeated_spec nothing proper
  rw [Occurs.repeats_of_isEmpty (o := .never) proper rfl] at builds
  exact same ▸ builds

/-- Members that count for empty are left out. -/
theorem all_filter (members : List Member) :
    all env (members.filter fun m => !m.content.isEmpty) = all env members := by
  simp only [all, List.filter_filter, Bool.and_self]

theorem filter_membersOf (cs : List Content) :
    (membersOf env cs).filter (fun m => !m.content.isEmpty) =
      membersOf env (cs.filter fun c => !c.isEmpty) := by
  induction cs with
  | nil => rfl
  | cons c cs ih =>
    rw [membersOf, List.filter_cons, List.filter_cons, ih]
    split
    · rfl
    · rfl

theorem once_all_filter (o : Occurs) (cs : List Content) :
    once env (.group o .all (cs.filter fun c => !c.isEmpty)) = once env (.group o .all cs) := by
  rw [once, once, ← filter_membersOf, all_filter]

mutual

/-- By induction on the tree: whatever counts for empty is built to read the empty sequence, or
nothing. -/
theorem repeated_builds_blank (env : Environment) (c : Content) (h : c.isEmpty = true)
    (proper : ∀ q ∈ c.nodes, q.occurs.Proper) :
    Builds (repeated env c.occurs (once env c)) (Content.blank c.isVoid) := by
  have bounds : c.occurs.Proper := proper c (by rw [Content.nodes_eq]; exact List.mem_cons_self)
  by_cases never : c.occurs.isEmpty = true
  · rw [Content.isVoid_eq_false_of_isEmpty bounds never]
    exact repeated_never bounds never _
  · rw [Content.isVoid, ← Occurs.repeats_blank bounds]
    refine repeated_spec ?_ bounds
    cases c with
    | element o id => exact absurd h never
    | wildcard o w => exact absurd h never
    | group o compositor members =>
      have empty : Content.areEmpty members = true :=
        (Bool.or_eq_true_iff.mp h).resolve_left never
      have built := membersOf_build_blank env members empty
        fun q mem => proper q (List.mem_cons_of_mem _ mem)
      cases compositor with
      | sequence =>
        rw [once, Content.isVoidOnce, ← Content.prod_blank]
        exact sequence_spec built
      | choice =>
        rw [once, Content.isVoidOnce, ← Content.sum_blank]
        exact choice_spec built
      | all =>
        have none : members.filter (fun c => !c.isEmpty) = [] := by
          simpa using Content.areEmpty_iff.mp empty
        rw [← once_all_filter, none, once, membersOf]
        change Builds (all env []) 1
        rw [← Part.inAnyOrder_nil]
        exact all_spec .nil (by simp)

theorem membersOf_build_blank (env : Environment) (cs : List Content)
    (h : Content.areEmpty cs = true) (proper : ∀ q ∈ Content.nodesOf cs, q.occurs.Proper) :
    List.Forall₂ (fun m l => Builds (m.repeated env) l) (membersOf env cs)
      (cs.map fun c => Content.blank c.isVoid) := by
  cases cs with
  | nil => exact .nil
  | cons c cs =>
    obtain ⟨first, rest⟩ := Bool.and_eq_true_iff.mp h
    obtain ⟨here, there⟩ := List.forall_mem_append.mp proper
    exact .cons (repeated_builds_blank env c first here) (membersOf_build_blank env cs rest there)

end

end Nfa.Construct

/-! ## What is read -/

namespace Content

variable {a : Arena} {s : SubstitutionGroups}

theorem parts_eq_map (cs : List Content) :
    parts a s cs = cs.map fun c => ⟨c.occurs, c.once a s⟩ := by
  induction cs with
  | nil => rfl
  | cons c cs ih => rw [parts, ih, List.map_cons]

theorem Proper.occurs {c : Content} (proper : c.Proper) : c.occurs.Proper := by
  cases c with
  | element o id => exact proper
  | wildcard o w => exact proper
  | group o compositor members => exact proper.1

theorem isBlank_of_never {c : Content} (proper : c.Proper) (never : c.occurs.isEmpty = true) :
    Part.IsBlank ⟨c.occurs, c.once a s⟩ where
  taken may := absurd (eq_of_beq never) may
  required must := absurd (Occurs.min_eq_zero_of_isEmpty proper.occurs never) must

/-- Elements that count for empty cannot occur. -/
theorem IsSingleElement.never {c : Content} (single : c.IsSingleElement) (h : c.isEmpty = true) :
    c.occurs.isEmpty = true := by
  cases c with
  | element o id => exact h
  | _ => exact single.elim

theorem forall_mem_of_allProper {cs : List Content} (proper : AllProper cs) :
    ∀ c ∈ cs, c.Proper := by
  induction cs with
  | nil => exact List.forall_mem_nil _
  | cons c cs ih => exact List.forall_mem_cons.mpr ⟨proper.1, ih proper.2⟩

mutual

/-- What counts for empty and may occur reads the empty sequence or nothing, just as it is built. -/
theorem once_of_isEmpty (c : Content) (proper : c.Proper) (h : c.isEmpty = true)
    (may : ¬ c.occurs.isEmpty = true) : c.once a s = blank c.isVoidOnce := by
  cases c with
  | element o id => exact absurd h may
  | wildcard o w => exact absurd h may
  | group o compositor members =>
    obtain ⟨-, single, all⟩ := proper
    have empty : areEmpty members = true := (Bool.or_eq_true_iff.mp h).resolve_left may
    have repeated := repeated_parts_of_areEmpty members all empty
    cases compositor with
    | sequence => rw [once, repeated, prod_blank, isVoidOnce]
    | choice => rw [once, repeated, sum_blank, isVoidOnce]
    | all =>
      have none : ∀ p ∈ parts a s members, p.IsBlank := by
        rw [parts_eq_map]
        intro p hp
        obtain ⟨c, mem, rfl⟩ := List.mem_map.mp hp
        exact isBlank_of_never (forall_mem_of_allProper all c mem)
          ((single rfl c mem).never (areEmpty_iff.mp empty c mem))
      rw [once, ← List.append_nil (parts a s members), Part.inAnyOrder_append_blank none,
        Part.inAnyOrder_nil]
      rfl

theorem repeated_parts_of_areEmpty (cs : List Content) (proper : AllProper cs)
    (h : areEmpty cs = true) :
    (parts a s cs).map (·.repeated) = cs.map fun c => blank c.isVoid := by
  cases cs with
  | nil => rfl
  | cons c cs =>
    obtain ⟨first, rest⟩ := Bool.and_eq_true_iff.mp h
    have reads : c.occurs.repeats (c.once a s) = blank c.isVoid := by
      by_cases never : c.occurs.isEmpty = true
      · rw [Occurs.repeats_of_isEmpty proper.1.occurs never,
          isVoid_eq_false_of_isEmpty proper.1.occurs never, blank_false]
      · rw [once_of_isEmpty c proper.1 first never, Occurs.repeats_blank proper.1.occurs, isVoid]
    rw [parts, List.map_cons, List.map_cons, repeated_parts_of_areEmpty cs proper.2 rest,
      Part.repeated, reads]

end

theorem language_of_isEmpty {c : Content} (proper : c.Proper) (h : c.isEmpty = true) :
    language a s (some c) = blank c.isVoid := by
  have alone := repeated_parts_of_areEmpty (a := a) (s := s) [c] ⟨proper, trivial⟩
    (areEmpty_iff.mpr (by simpa using h))
  rw [parts, parts, List.map_singleton, List.map_singleton] at alone
  exact List.singleton_injective alone

/-- What counts for empty does not count in a language, as long as it can be read. -/
theorem language_effective {content : Option Content} (proper : ∀ c ∈ content, c.Proper)
    (full : ∀ c ∈ content, c.isEmpty = true → c.isVoid = false) :
    language a s (effective content) = language a s content := by
  cases content with
  | none => rfl
  | some c =>
    cases h : c.isEmpty with
    | true =>
      rw [effective_of_isEmpty h, language_of_isEmpty (proper c rfl) h, full c rfl h, blank_false]
      rfl
    | false => rw [effective_of_not_isEmpty h]

theorem isBlank_of_isEmpty {c : Content} (proper : c.Proper) (h : c.isEmpty = true)
    (full : c.isVoid = false) : Part.IsBlank ⟨c.occurs, c.once a s⟩ := by
  by_cases never : c.occurs.isEmpty = true
  · exact isBlank_of_never proper never
  · have once := once_of_isEmpty (a := a) (s := s) c proper h never
    refine ⟨fun _ => once ▸ blank_le_one _, fun must => ⟨by simpa [Occurs.isEmpty] using never, ?_⟩⟩
    have notVoid : c.isVoidOnce = false := by simpa [isVoid, must] using full
    change 1 ≤ c.once a s
    rw [once, notVoid, blank_false]

/-- A group in any order reads the same without the members that count for empty, as long as these
can be read. -/
theorem once_all_of_filter {o : Occurs} {members : List Content} (proper : AllProper members)
    (full : ∀ c ∈ members, c.isEmpty = true → c.isVoid = false) :
    (group o .all (members.filter fun c => !c.isEmpty)).once a s =
      (group o .all members).once a s := by
  have split := (List.filter_append_perm (fun c : Content => c.isEmpty) members).map
    fun c => (⟨c.occurs, c.once a s⟩ : Part)
  have blank : ∀ p ∈ (members.filter fun c => c.isEmpty).map
      fun c => (⟨c.occurs, c.once a s⟩ : Part), p.IsBlank := by
    intro p hp
    obtain ⟨c, mem, rfl⟩ := List.mem_map.mp hp
    obtain ⟨mem, h⟩ := List.mem_filter.mp mem
    exact isBlank_of_isEmpty (forall_mem_of_allProper proper c mem) h (full c mem h)
  rw [once, once, parts_eq_map, parts_eq_map, ← Part.inAnyOrder_perm split, List.map_append,
    Part.inAnyOrder_append_blank blank]

end Content

/-! ## Automata -/

/-- An automaton for a content that counts for empty accepts the empty sequence, if that can be read
at all, and nothing else. -/
theorem ContentModel.accepts_of_isEmpty {env : Nfa.Environment} {c : Content} (h : c.isEmpty = true)
    (proper : ∀ q ∈ c.nodes, q.occurs.Proper) {a : Automaton}
    (built : automatonOf env (some c) = .ok a) (names : List QName) :
    a.accepts names = true ↔ names = [] ∧ c.isVoid = false := by
  have builds : Nfa.Construct.Builds (Nfa.Construct.content env (some c))
      (Content.blank c.isVoid) :=
    Nfa.Construct.repeated_builds_blank env c h proper
  have language := language_automatonOf_of_builds builds built
  rw [← Content.mem_blank_iff, ← language]
  rfl

open Schema Resolution

namespace Model

/-- What counts for empty reads the empty sequence and nothing else, unless it has to occur but
cannot, because of choices among no members. Apart from these it may be left out of a group in any
order, and of what a type declares: the type admits all the same what that reads, after what its
base admits if it extends that. -/
theorem isEmpty_exact (substitutions : SubstitutionGroups) (limits : Limits) :
    (∀ (arena : Arena) (owner : String) (c : Content) (a : Automaton), c.isEmpty = true →
      (∀ q ∈ c.nodes, q.occurs.Proper) →
      ContentModel.automatonOf ⟨arena, substitutions, limits, owner⟩ (some c) = .ok a →
      ∀ names, a.accepts names = true ↔ names = [] ∧ c.isVoid = false) ∧
    (∀ (arena : Arena) (owner : String) (o : Occurs) (members : List Content),
      Content.AllProper members → (∀ c ∈ members, c.isEmpty = true → c.isVoid = false) →
      Nfa.Construct.once ⟨arena, substitutions, limits, owner⟩
            (.group o .all (members.filter fun c => !c.isEmpty)) =
          Nfa.Construct.once ⟨arena, substitutions, limits, owner⟩ (.group o .all members) ∧
        Content.once arena substitutions (.group o .all (members.filter fun c => !c.isEmpty)) =
          Content.once arena substitutions (.group o .all members)) ∧
    ∀ (supply : Supply) (documents : List Document) (report : ResolutionReport) (b : Assembly),
      assembled supply documents = .ok (report, b) →
      ∀ (id baseId : TypeId) (definition : ComplexTypeDef) (particle : Option Particle)
          (model : ContentModel),
        b.arena.type? id = some (.complex definition) →
        definition.content = .particle particle →
        definition.base.bind (·.target) = some baseId →
        ContentModel.ofType b.arena (Derivation.deriveAll b.arena).1 substitutions limits id =
          .ok model →
        ∃ own, Derivation.Declares b.arena particle own ∧
          ((∀ c ∈ own, c.isEmpty = true → c.isVoid = false) →
            (definition.derivation ≠ .extension →
              model.language = Content.language b.arena substitutions own) ∧
            (definition.derivation = .extension → ∀ base,
              ContentModel.ofType b.arena (Derivation.deriveAll b.arena).1 substitutions limits
                baseId = .ok base →
              model.language = base.language * Content.language b.arena substitutions own)) := by
  refine ⟨fun arena owner c a h proper built => ContentModel.accepts_of_isEmpty h proper built,
    fun arena owner o members proper full => ⟨Nfa.Construct.once_all_filter o members,
      Content.once_all_of_filter proper full⟩, ?_⟩
  intro supply documents report b isAssembled id baseId definition particle model known declared
    based hmodel
  obtain ⟨inherited, own, declares, proper, inheritedFull, whole, hbase⟩ :=
    exists_language_of_particle isAssembled substitutions limits known declared based hmodel
  refine ⟨own, declares, fun full => ⟨fun other => ?_, fun extends' base built => ?_⟩⟩
  · rw [whole, if_neg other, Content.language_effective proper full]
  · rw [whole, if_pos extends', Content.language_extend inheritedFull,
      Content.language_effective proper full, ← hbase base built]

/-- A mark is a place, to which an empty sequence adds nothing. -/
def marks : Document :=
  ⟨.memory "marks.xsd", some ⟨⟨.xsd "schema", .empty, default, 0⟩,
    [schemaNode "complexType" [("name", "Place")]
        [schemaNode "sequence" [] [schemaNode "element" [("name", "x")] []]],
      schemaNode "complexType" [("name", "Mark")]
        [schemaNode "complexContent" []
          [schemaNode "extension" [("base", "Place")] [schemaNode "sequence" [] []]]]]⟩⟩

def isEmptySequence : Particle → Bool
  | .group ⟨1, some 1⟩ .sequence [] => true
  | _ => false

theorem eq_of_isEmptySequence {p : Particle} (h : isEmptySequence p = true) :
    p = .group .once .sequence [] := by
  unfold isEmptySequence at h
  split at h
  · rfl
  · cases h

private theorem marks_computed :
    (assembled ⟨none, .standard⟩ [marks]).isOk = true ∧
      (readAll [marks]).2.arena.elements = #[coordinate "x"] ∧
      ((readAll [marks]).2.arena.complex? ⟨47⟩).map (fun t =>
        (t.derivation, t.particle?.map isEmptySequence, t.base.bind (·.target))) =
          some (.extension, some true, some ⟨46⟩) ∧
      ∀ mark : Bool, ((Derivation.deriveAll (readAll [marks]).2.arena).1.complex?
        (if mark then ⟨47⟩ else ⟨46⟩)).map (fun t =>
          (t.label, t.content.map (isSiteContent false))) = some (.elementOnly, some true) := by
  decide +kernel

theorem automatonOf_place {a : Arena} (owner : String) (elements : a.elements = #[coordinate "x"]) :
    (ContentModel.automatonOf ⟨a, .ofArena a, .standard, owner⟩
      (some (siteContent false))).isOk = true := by
  obtain ⟨types, _, attributes, groups, attributeGroups⟩ := a
  cases elements
  cbv

/-- With a choice that need not be made there is nothing in the sequence, and an element that cannot
occur is not in the group. -/
theorem isEmpty_marks : ∃ a report b definition model base,
    ContentModel.automatonOf ⟨.empty, .ofArena .empty, .standard, ""⟩
        (some (.group .once .sequence [.group .optional .choice []])) = .ok a ∧
      a.accepts [] = true ∧
      Content.once .empty (.ofArena .empty) (.group .once .all [.element .once ⟨0⟩]) =
        Content.once .empty (.ofArena .empty)
          (.group .once .all [.element .once ⟨0⟩, .element .never ⟨1⟩]) ∧
      assembled ⟨none, .standard⟩ [marks] = .ok (report, b) ∧
      b.arena.type? ⟨47⟩ = some (.complex definition) ∧ definition.derivation = .extension ∧
      definition.content = .particle (some (.group .once .sequence [])) ∧
      definition.base.bind (·.target) = some ⟨46⟩ ∧
      contentOf b.arena .standard ⟨47⟩ = .ok model ∧ contentOf b.arena .standard ⟨46⟩ = .ok base ∧
      model.language = base.language *
        Content.language b.arena (.ofArena b.arena) (some (.group .once .sequence [])) := by
  have isOk : (ContentModel.automatonOf ⟨.empty, .ofArena .empty, .standard, ""⟩
      (some (.group .once .sequence [.group .optional .choice []]))).isOk = true := by
    cbv
  obtain ⟨a, built⟩ := isOk_iff.mp isOk
  have proper : ∀ q ∈ (Content.group .once .sequence [.group .optional .choice []]).nodes,
      q.occurs.Proper := by
    simp [Content.nodes, Content.nodesOf, Content.occurs, Occurs.Proper, Occurs.once,
      Occurs.optional]
  have accepted := ((isEmpty_exact _ _).1 _ _ _ a rfl proper built []).mpr ⟨rfl, rfl⟩
  have allProper : Content.AllProper [.element .once ⟨0⟩, .element .never ⟨1⟩] := by
    simp [Content.AllProper, Content.Proper, Occurs.Proper, Occurs.once, Occurs.never]
  obtain ⟨-, same⟩ := (isEmpty_exact (.ofArena .empty) .standard).2.1 .empty "" .once _ allProper
    (by decide)
  obtain ⟨isOk, elements, isExtension, contents⟩ := marks_computed
  obtain ⟨report, b, definition, particle, model, base, isAssembled, known, extends', declared,
    isEmpty, based, hmodel, hbase⟩ := exists_extended_place isOk
      (fun owner => by simpa using automatonOf_place owner elements) isExtension
      (contents false) (contents true)
  cases eq_of_isEmptySequence isEmpty
  obtain ⟨own, declares, admits⟩ := (isEmpty_exact _ _).2.2 _ _ report b isAssembled _ _ _ _ model
    known declared based hmodel
  obtain rfl : own = some (.group .once .sequence []) := by
    cases declares with
    | some expanded =>
      cases expanded
      rfl
  have full : ∀ c ∈ some (Content.group .once .sequence []),
      c.isEmpty = true → c.isVoid = false := by
    rintro _ ⟨⟩ -
    rfl
  exact ⟨a, report, b, definition, model, base, built, accepted, same, isAssembled, known,
    extends', declared, based, hmodel, hbase, (admits full).2 extends' base hbase⟩

/-- A choice among no members counts for empty, but its automaton does not accept the empty
sequence. -/
theorem not_isEmpty_exact :
    ¬ ∀ (env : Nfa.Environment) (c : Content) (a : Automaton), c.isEmpty = true →
      (∀ q ∈ c.nodes, q.occurs.Proper) → ContentModel.automatonOf env (some c) = .ok a →
      ∀ names, a.accepts names = true ↔ names = [] := by
  intro exact
  have proper : ∀ q ∈ (Content.group .once .choice []).nodes, q.occurs.Proper := by
    simp [Content.nodes, Content.nodesOf, Content.occurs, Occurs.Proper, Occurs.once]
  have isOk : (ContentModel.automatonOf ⟨.empty, .ofArena .empty, .standard, ""⟩
      (some (.group .once .choice []))).isOk = true := by
    cbv
  obtain ⟨a, built⟩ := isOk_iff.mp isOk
  have accepted := (exact _ _ a rfl proper built []).mpr rfl
  obtain ⟨-, full⟩ := (ContentModel.accepts_of_isEmpty rfl proper built []).mp accepted
  cases full

end Model

end Xsd
