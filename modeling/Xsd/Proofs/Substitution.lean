import Xsd.Proofs.Compilation
import Xsd.Proofs.Derivation.Chain
import Xsd.Proofs.Reachability
import Xsd.Proofs.ValueConstraint

/-!
# Types in substitution groups

Only the type of an element and that of its own head are compared. As types that derive from each
other are ordered, this says the same of all heads to which a way leads, whether an element on the
way has a type of its own or takes it from its head, and also where the way leads back.
-/

namespace Xsd

namespace Arena

/-- The second element is the first, its head, the head of that one, and so on. -/
def Ascends (a : Arena) : ElementId → ElementId → Prop :=
  Relation.ReflTransGen fun id head => a.head? id = some head

variable {a : Arena} {id head member : ElementId}

theorem head?_of_mem_directMembers (h : id ∈ a.directMembers head) : a.head? id = some head :=
  eq_of_beq (List.mem_filter.mp h).2

/-- An element of which there is something to say is one of the arena. -/
theorem mem_elementIds_of_head? (h : a.head? id = some head) : id ∈ a.elementIds := by
  obtain ⟨r, hr, -⟩ := Option.bind_eq_some_iff.mp h
  obtain ⟨e, he, -⟩ := Option.bind_eq_some_iff.mp hr
  exact mem_elementIds_iff.mpr (Option.isSome_of_eq_some he)

/-- A way over direct members is one over heads, the other way round. -/
theorem ascends_of_leads {n m : Nat}
    (h : Leads (fun n => (a.directMembers ⟨n⟩).map (·.index)) n m) : a.Ascends ⟨m⟩ ⟨n⟩ := by
  induction h with
  | refl => exact .refl
  | tail _ edge ih =>
    obtain ⟨id, mem, rfl⟩ := List.mem_map.mp edge
    exact .head (head?_of_mem_directMembers mem) ih

end Arena

namespace SubstitutionGroups

variable {a : Arena} {id head member : ElementId}

theorem ascends_of_mem_closure (h : member ∈ closure a head) : a.Ascends member head := by
  obtain ⟨n, hn, rfl⟩ := List.mem_map.mp h
  have found := Std.TreeSet.mem_of_mem_toList (List.mem_filter.mp hn).1
  rcases reach_sound found with nowhere | ⟨seed, hseed, way⟩
  · exact absurd nowhere Std.TreeSet.not_mem_emptyc
  · cases List.mem_singleton.mp hseed
    exact Arena.ascends_of_leads way

/-- From a member of a group a way over heads leads to the head of the group. -/
theorem ascends_of_mem_members (h : member ∈ (ofArena a).members head) : a.Ascends member head := by
  unfold members at h
  cases found : (ofArena a).groups.get? head with
  | none =>
    rw [found] at h
    cases h
  | some ids =>
    rw [found] at h
    obtain ⟨before, after, split, -⟩ := List.lookup_eq_some_iff.mp found
    obtain ⟨other, -, same⟩ := List.mem_map.mp (split ▸ List.mem_append_right _ List.mem_cons_self)
    cases same
    exact ascends_of_mem_closure h

/-- Where no error is reported, the type of an element derives from that of its own head, if there
are results for both. -/
theorem isDerivedFrom_of_head? {d : DerivedTypes} (none : typeErrors a d = [])
    (step : a.head? id = some head) (own : (d.get? (a.elementType id)).isSome)
    (other : (d.get? (a.elementType head)).isSome) :
    d.isDerivedFrom (a.elementType id) (a.elementType head) = true := by
  have quiet := List.filterMap_eq_nil_iff.mp none id (Arena.mem_elementIds_of_head? step)
  rw [step] at quiet
  dsimp only at quiet
  split at quiet
  · cases quiet
  · rename_i fine
    simpa [own, other] using fine

/-- By induction along the way: each step is a derivation, and derivations compose. -/
theorem descends_of_ascends {d : DerivedTypes} (none : typeErrors a d = [])
    (way : a.Ascends member head)
    (derived : ∀ between, a.Ascends member between → a.Ascends between head →
      (d.get? (a.elementType between)).isSome) :
    d.Descends (a.elementType member) (a.elementType head) := by
  induction way using Relation.ReflTransGen.head_induction_on with
  | refl => exact .refl
  | head step rest ih =>
    rename_i id next
    have first := isDerivedFrom_of_head? none step (derived id .refl (.head step rest))
      (derived next (.single step) rest)
    refine (DerivedTypes.descends_of_isDerivedFrom first).trans (ih fun between above below => ?_)
    exact derived between (.head step above) below

/-- Where no error is reported, the type of a member derives from that of the head, unless one of the
types on the way has no result. -/
theorem descends_of_mem_members {d : DerivedTypes} (none : typeErrors a d = [])
    (h : member ∈ (ofArena a).members head) :
    d.Descends (a.elementType member) (a.elementType head) ∨
      ∃ between, a.Ascends member between ∧ a.Ascends between head ∧
        d.get? (a.elementType between) = .none := by
  rw [or_iff_not_imp_right]
  intro noGap
  refine descends_of_ascends none (ascends_of_mem_members h) fun between above below => ?_
  by_contra missing
  exact noGap ⟨between, above, below, Option.not_isSome_iff_eq_none.mp missing⟩

end SubstitutionGroups

/-- A complex type other than the most general one lacks a base, or an attribute lacks a name. What is
read never does. -/
def Arena.IsDefective (a : Arena) : Prop :=
  (∃ id t, a.type? id = some (.complex t) ∧ id ≠ .anyType ∧ t.base = none) ∨
    ∃ id d, a.attribute? id = some d ∧ d.info.name = none

/-- Without a defect all that can be missing is a reference. -/
theorem Arena.isWhole_of_not_isDefective {a : Arena} (extending : Derivation.Extending a)
    (bound : a.IsBound) (fine : ¬ a.IsDefective) : a.IsWhole := by
  obtain ⟨based, named⟩ := not_or.mp fine
  refine ⟨bound, (Array.getElem?_eq_some_iff.mp (extending rfl)).1, ?_, ?_⟩
  · intro id d hd
    by_contra missing
    exact named ⟨id, d, hd, Option.not_isSome_iff_eq_none.mp missing⟩
  · intro id t ht special
    by_contra missing
    exact based ⟨id, t, ht, special, Option.not_isSome_iff_eq_none.mp missing⟩

namespace Model

open SubstitutionGroups

/-- The type of a member derives from that of the head, if no error is reported. Only where a complex
type lacks a base or an attribute a name can a type be without a result, and without an error too; in
what is compiled they never do. -/
theorem isDerivedFrom_of_mem_members :
    (∀ a : Arena, Derivation.Extending a → a.IsBound → (Derivation.deriveAll a).2 = [] →
      typeErrors a (Derivation.deriveAll a).1 = [] → ∀ head, ∀ member ∈ (ofArena a).members head,
        (Derivation.deriveAll a).1.isDerivedFrom (a.elementType member) (a.elementType head) = true ∨
          a.IsDefective ∧ ∃ between, a.Ascends member between ∧ a.Ascends between head ∧
            (Derivation.deriveAll a).1.get? (a.elementType between) = none) ∧
      ∀ (supply : Schema.Supply) (documents : List Document) (m : Model),
        compile supply documents = .ok m → ∀ head, ∀ member ∈ m.substitutions.members head,
          m.derived.isDerivedFrom (m.elementType member) (m.elementType head) = true := by
  -- where nothing is missing, all types have results
  have complete : ∀ a : Arena, Derivation.Extending a → a.IsWhole →
      (Derivation.deriveAll a).2 = [] →
      ∀ id, (Derivation.deriveAll a).1.get? (a.elementType id) ≠ none := by
    intro a extending whole types id missing
    have general : a.Has (.type .anyType) := (Array.getElem?_eq_some_iff.mp (extending rfl)).1
    obtain ⟨t, known⟩ := Arena.exists_type? (whole.bound.has_elementType general id)
    have derived := Derivation.deriveAll_complete whole types (Option.isSome_of_eq_some known)
    rw [missing] at derived
    cases derived
  constructor
  · intro a extending bound types heads head member mem
    refine (descends_of_mem_members heads mem).imp
      DerivedTypes.isDerivedFrom_iff_descends.mpr fun gap => ⟨?_, gap⟩
    obtain ⟨between, -, -, missing⟩ := gap
    by_contra fine
    exact complete a extending (Arena.isWhole_of_not_isDefective extending bound fine) types
      between missing
  · intro supply documents m compiled head member mem
    obtain ⟨report, a, isAssembled, faultless, rfl⟩ := compile_eq_ok_iff.mp compiled
    have grounded := (grounded_of_compile compiled).1
    refine DerivedTypes.isDerivedFrom_iff_descends.mpr
      ((descends_of_mem_members faultless.heads mem).resolve_right ?_)
    rintro ⟨between, -, -, missing⟩
    exact complete a.arena grounded.initial (isWhole_of_assembled isAssembled) faultless.types
      between missing

/-- Numbers, of which the whole ones take their type from numbers; and two elements that stand in for
each other. -/
def numbers : Document :=
  ⟨.memory "numbers.xsd", some ⟨⟨.xsd "schema", .empty, default, 0⟩,
    [schemaNode "element" [("name", "number"), ("type", "xs:decimal")] [],
      schemaNode "element" [("name", "whole"), ("substitutionGroup", "number")] [],
      schemaNode "element"
        [("name", "small"), ("type", "xs:byte"), ("substitutionGroup", "whole")] [],
      schemaNode "element" [("name", "left"), ("substitutionGroup", "right")] [],
      schemaNode "element" [("name", "right"), ("substitutionGroup", "left")] []]⟩⟩

/-- The members of the groups, and the types of those that are not said to have one. -/
structure IsNumbers (m : Model) : Prop where
  group : m.substitutions.members ⟨0⟩ = [⟨1⟩, ⟨2⟩]
  circle : m.substitutions.members ⟨3⟩ = [⟨4⟩]
  types : [1, 3, 4].map (fun i => m.elementType ⟨i⟩) =
    [Builtin.decimal.typeId, .anyType, .anyType]

instance (m : Model) : Decidable (IsNumbers m) :=
  decidable_of_iff (_ ∧ _ ∧ _)
    ⟨fun ⟨group, circle, types⟩ => ⟨group, circle, types⟩, fun h => ⟨h.group, h.circle, h.types⟩⟩

private theorem numbers_computed :
    (assembled ⟨none, .standard⟩ [numbers]).isOk = true ∧
      IsSound (readAll [numbers]).2.arena [] ∧
      IsNumbers (made (readAll [numbers]).2 (readAll [numbers]).1 .standard) := by
  decide +kernel

/-- Small numbers are numbers by way of whole ones, and elements that stand in for each other are of
one type. -/
theorem isDerivedFrom_numbers : ∃ m, compile ⟨none, .standard⟩ [numbers] = .ok m ∧ IsNumbers m ∧
    m.derived.isDerivedFrom (m.elementType ⟨2⟩) (m.elementType ⟨0⟩) = true ∧
    m.derived.isDerivedFrom (m.elementType ⟨4⟩) (m.elementType ⟨3⟩) = true ∧
    Derivation.Extending m.arena ∧ m.arena.IsBound ∧ (Derivation.deriveAll m.arena).2 = [] ∧
    typeErrors m.arena (Derivation.deriveAll m.arena).1 = [] ∧
    ((Derivation.deriveAll m.arena).1.isDerivedFrom (m.arena.elementType ⟨2⟩)
        (m.arena.elementType ⟨0⟩) = true ∨
      m.arena.IsDefective ∧ ∃ between, m.arena.Ascends ⟨2⟩ between ∧ m.arena.Ascends between ⟨0⟩ ∧
        (Derivation.deriveAll m.arena).1.get? (m.arena.elementType between) = none) := by
  obtain ⟨m, compiled, isNumbers⟩ :
      ∃ m, compile ⟨none, .standard⟩ [numbers] = .ok m ∧ IsNumbers m := by
    obtain ⟨isOk, sound, isNumbers⟩ := numbers_computed
    exact ⟨_, compile_of_isSound isOk sound fun id mem => absurd mem List.not_mem_nil, isNumbers⟩
  have grounded := (grounded_of_compile compiled).1
  obtain ⟨arenas, models⟩ := isDerivedFrom_of_mem_members
  have small : ⟨2⟩ ∈ m.substitutions.members ⟨0⟩ := by
    rw [isNumbers.group]
    decide
  have right : ⟨4⟩ ∈ m.substitutions.members ⟨3⟩ := by
    rw [isNumbers.circle]
    decide
  refine ⟨m, compiled, isNumbers, models _ _ _ compiled _ _ small, models _ _ _ compiled _ _ right,
    grounded.initial, ?_⟩
  obtain ⟨report, a, isAssembled, faultless, rfl⟩ := compile_eq_ok_iff.mp compiled
  have bound := (isWhole_of_assembled isAssembled).bound
  exact ⟨bound, faultless.types, faultless.heads,
    arenas _ grounded.initial bound faultless.types faultless.heads _ _ small⟩

end Model

end Xsd
