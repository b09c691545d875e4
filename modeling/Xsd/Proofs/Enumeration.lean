import Xsd.Proofs.Derivation.Links
import Xsd.Proofs.Facet.Levels
import Xsd.Proofs.ValueConstraint

/-!
# Enumerations

A type that only lists literals keeps those that its base accepts, in the form in which they are
written. The base looks at a literal with its white space dealt with, and so does the type when it
looks for it in its list. There a literal is found for its value, unless that is not a number, and a
literal without a value only if the list has it in the form that is looked for.
-/

namespace Xsd

namespace FacetSet

variable {base next : FacetSet} {space : ValueSpace} {decls : List FacetDecl}

/-- Declarations that only list literals replace the list and nothing else. -/
theorem eq_withEnumeration_of_restrict (nonempty : decls ≠ [])
    (only : ∀ decl ∈ decls, decl.kind = .enumeration)
    (h : base.restrict decls space = .ok next) :
    next = { base with enumeration := some (decls.map (·.value)) } := by
  obtain ⟨bounds, bounded⟩ := exists_bounded_of_restrict h
  have same : bounds = base :=
    applyAll_induction (P := (· = base)) bounded.applied rfl fun decl mem isBound =>
      absurd (only decl mem) isBound.1
  have listed : valuesOf .enumeration decls = decls.map (·.value) := by
    rw [valuesOf, List.filter_eq_self.mpr]
    intro decl mem
    exact beq_iff_eq.mpr (only decl mem)
  have unpatterned : valuesOf .pattern decls = [] := by
    refine valuesOf_eq_nil fun decl mem => ?_
    rw [only decl mem]
    decide
  obtain ⟨added, none, rfl⟩ := bounded.eq
  cases none unpatterned
  rw [same, listed, if_neg (by simpa using nonempty), List.append_nil]

/-- A text with the value of a listed literal is found in the list for that value, unless it is not a
number; without a value it has to be listed itself. -/
theorem exists_listed_iff {n c : String} {listed : List String} (mem : c ∈ listed)
    (same : space.parse n = space.parse c) :
    (∃ c ∈ listed, isListed space n c = true) ↔
      match space.parse c with
      | some a => a ≠ .float .nan
      | none => n ∈ listed := by
  simp only [isListed_iff, same]
  cases hc : space.parse c with
  | none => simp
  | some a =>
    simp only [Option.some.injEq, reduceCtorEq, false_or]
    constructor
    · rintro ⟨c', -, ⟨_, b, rfl, -, equal⟩ | ⟨valueless, rfl⟩⟩
      · exact OrderedValue.ne_nan_of_isEqual equal
      · rw [same, hc] at valueless
        cases valueless
    · intro number
      exact ⟨c, mem, Or.inl ⟨a, a, rfl, hc, OrderedValue.isEqual_self_iff.mpr number⟩⟩

end FacetSet

namespace ValueType

variable {base t : ValueType} {decls : List FacetDecl}

/-- The literals of a list that the type accepts. -/
def keptBy (base : ValueType) (listed : List String) : List String :=
  listed.filter fun literal => (base.check literal).isOk

/-- The type, with a list of literals in place of its own. -/
def withEnumeration (base : ValueType) (listed : List String) : ValueType :=
  base.withFacets { base.facets with enumeration := some listed }

theorem eq_withEnumeration_of_restrict (nonempty : decls ≠ [])
    (only : ∀ decl ∈ decls, decl.kind = .enumeration) (h : base.restrict decls = .ok t) :
    t = base.withEnumeration (base.keptBy (decls.map (·.value))) := by
  obtain ⟨facets, restricted, h⟩ := bind_eq_ok_iff.mp h
  cases FacetSet.eq_withEnumeration_of_restrict nonempty only restricted
  have lists : decls.any (fun decl => decl.kind == .enumeration) = true := by
    obtain ⟨decl, mem⟩ := List.exists_mem_of_ne_nil decls nonempty
    exact List.any_eq_true.mpr ⟨decl, mem, beq_iff_eq.mpr (only decl mem)⟩
  rw [if_pos lists] at h
  exact (pure_eq_ok_iff.mp h).symm

/-- A text that the type accepts is accepted with another list as well if that one has it. -/
theorem accepts_withEnumeration_iff {listed : List String} {literal : String}
    (accepted : base.Accepts literal) :
    (base.withEnumeration listed).Accepts literal ↔
      ∃ c ∈ listed, FacetSet.isListed base.space literal c = true := by
  have admitted := accepted.facets
  rw [accepts_iff, withEnumeration, hasForm_withFacets, and_iff_right accepted.form]
  simp only [facets_withFacets, space_withFacets, measure_withFacets]
  constructor
  · intro admitted
    exact admitted.enumeration listed rfl
  · intro found
    exact { admitted with
      length := fun n hn => { admitted.length n hn with }
      enumeration := by
        rintro _ ⟨⟩
        exact found
      range := fun v hv => { admitted.range v hv with }
      digits := fun decimal d hd => { admitted.digits decimal d hd with } }

/-- A literal of a list is found in the list again: it has a value, and not one that is not a number,
or the list has it with its white space dealt with. -/
def FoundAgain (t : ValueType) (listed : List String) (literal : String) : Prop :=
  match t.space.parse literal with
  | some a => a ≠ .float .nan
  | none => t.facets.whiteSpaceMode.normalize literal ∈ listed

/-- Of the literals that are kept those are accepted that are found in the list again. -/
theorem check_kept_iff {listed : List String} {literal : String}
    (mem : literal ∈ base.keptBy listed) :
    (∃ n, (base.withEnumeration (base.keptBy listed)).check literal = .ok n) ↔
      (base.withEnumeration (base.keptBy listed)).FoundAgain (base.keptBy listed) literal := by
  -- the base has accepted the literal, so that only the list is left to be looked at
  obtain ⟨n, checked⟩ := isOk_iff.mp (List.mem_filter.mp mem).2
  have same := parse_of_check checked
  obtain ⟨normal, accepted⟩ := check_eq_ok_iff.mp checked
  have mode : (base.withEnumeration (base.keptBy listed)).facets.whiteSpaceMode =
      base.facets.whiteSpaceMode := by
    rw [withEnumeration, facets_withFacets]
    rfl
  have found := FacetSet.exists_listed_iff mem same
  simp only [check_eq_ok_iff, FoundAgain, mode, ← normal, exists_eq_left]
  rw [accepts_withEnumeration_iff accepted, found, withEnumeration, space_withFacets]

end ValueType

namespace Derivation

variable {a : Arena} {id : TypeId} {definition : SimpleTypeDef} {use : TypeUse}
  {decls : List FacetDecl}

theorem DerivesSimple.mono {d e : DerivedTypes} (below : d.Below e) {info : TypeInfo}
    (h : DerivesSimple d definition info) : DerivesSimple e definition info := by
  cases h with
  | restriction variety target simple restricted special =>
    exact .restriction variety target (below.simple? simple) restricted special
  | list variety target simple restricted =>
    exact .list variety target (below.simple? simple) restricted
  | union variety => exact .union variety

/-- A simple type is derived as its definition says. -/
def IsSimple (a : Arena) : Claim := fun d id info =>
  ∀ {definition}, a.type? id = some (.simple definition) → id ≠ .anySimpleType →
    DerivesSimple d definition info

theorem isSimple_isInductive (a : Arena) : Claim.IsInductive (IsSimple a) a where
  mono below h _ simple other := (h simple other).mono below
  made hd _ _ h _ simple other := by
    cases hd.symm.trans simple
    exact yields_deriveSimple other h

/-- The types that are there from the start declare no facets. -/
theorem undeclared_of_grounded (grounded : a.Grounded)
    (defined : a.type? id = some (.simple definition))
    (variety : definition.variety = .restriction use decls)
    (old : id = .anySimpleType ∨ definition.builtin ≠ none) : decls = [] := by
  rcases old with rfl | isBuiltin
  · cases grounded.type?_anySimpleType.symm.trans defined
    cases variety
    rfl
  · obtain ⟨b, hb⟩ := Option.ne_none_iff_exists'.mp isBuiltin
    rw [variety_of_builtinType (grounded.eq_builtinType defined hb)] at variety
    split at variety <;> cases variety
    rfl

/-- A type that declares facets restricts its base by just these. -/
theorem exists_restrict_of_get? (grounded : a.Grounded) {info : TypeInfo}
    (entry : (deriveAll a).1.get? id = some info)
    (defined : a.type? id = some (.simple definition))
    (variety : definition.variety = .restriction use decls) (nonempty : decls ≠ []) :
    ∃ baseId base t, use.target = some baseId ∧ (deriveAll a).1.simple? baseId = some base ∧
      base.restrict decls = .ok t ∧ (deriveAll a).1.simple? id = some t := by
  have new : ¬ (id = .anySimpleType ∨ definition.builtin ≠ none) := fun old =>
    nonempty (undeclared_of_grounded grounded defined variety old)
  push Not at new
  have derives := deriveAll_holds (isSimple_isInductive a) entry defined new.1
  cases derives with
  | restriction variety' target simple restricted special =>
    cases variety.symm.trans variety'
    rw [new.2] at special
    cases special
    exact ⟨_, _, _, target, simple, restricted, by rw [DerivedTypes.simple?, entry]⟩
  | list variety' => cases variety.symm.trans variety'
  | union variety' => cases variety.symm.trans variety'

end Derivation

namespace Model

variable {supply : Schema.Supply} {documents : List Document} {m : Model}

/-- A simple type that only lists literals keeps those that its base accepts, and of these it accepts
exactly the ones that are found in the list again. -/
theorem checkValue_kept_iff (compiled : compile supply documents = .ok m) {id : TypeId}
    {definition : SimpleTypeDef} (defined : m.arena.type? id = some (.simple definition))
    {use : TypeUse} {decls : List FacetDecl}
    (variety : definition.variety = .restriction use decls) (nonempty : decls ≠ [])
    (only : ∀ decl ∈ decls, decl.kind = .enumeration) :
    ∃ baseId base t kept, use.target = some baseId ∧ m.derived.simple? baseId = some base ∧
      m.derived.simple? id = some t ∧ t.facets.enumeration = some kept ∧
      kept = base.keptBy (decls.map (·.value)) ∧
      ∀ literal ∈ kept,
        (∃ n, m.derived.checkValue id literal = .ok n) ↔ t.FoundAgain kept literal := by
  obtain ⟨derived, grounded, entries, -⟩ := derived_of_compile compiled
  obtain ⟨info, entry⟩ := Option.isSome_iff_exists.mp (entries id (defined ▸ rfl))
  rw [derived] at entry ⊢
  obtain ⟨baseId, base, t, target, simple, restricted, own⟩ :=
    Derivation.exists_restrict_of_get? grounded entry defined variety nonempty
  cases ValueType.eq_withEnumeration_of_restrict nonempty only restricted
  refine ⟨baseId, base, _, _, target, simple, own, ?_, rfl, ?_⟩
  · rw [ValueType.withEnumeration, ValueType.facets_withFacets]
  · intro literal mem
    rw [DerivedTypes.checkValue, DerivedTypes.valueType?_of_simple? own]
    exact ValueType.check_kept_iff mem

/-- Colours are tokens, one of which is written with a blank. -/
def colours : Document :=
  ⟨.memory "colours.xsd", some ⟨⟨.xsd "schema", .empty, default, 0⟩,
    [schemaNode "simpleType" [("name", "Colour")]
      [schemaNode "restriction" [("base", "xs:token")]
        [schemaNode "enumeration" [("value", "red")] [],
          schemaNode "enumeration" [("value", " blue")] []]]]⟩⟩

def colourDecls : List FacetDecl := [⟨.enumeration, "red", false⟩, ⟨.enumeration, " blue", false⟩]

/-- The facets that a simple type declares on top of its base. -/
def declaredFacets? : TypeDefinition → Option (TypeUse × List FacetDecl)
  | .simple ⟨_, .restriction use decls, _⟩ => some (use, decls)
  | _ => none

/-- The literals that a value type lists, and what matters for finding them. -/
def listing (t : ValueType) : Option (List String) × WhiteSpace × ValueSpace :=
  (t.facets.enumeration, t.facets.whiteSpaceMode, t.space)

/-- What the schema is compiled to, as far as it matters. -/
structure IsColours (m : Model) : Prop where
  declared : ((m.arena.type? ⟨46⟩).bind declaredFacets?).map (·.2) = some colourDecls
  listed : (m.derived.simple? ⟨46⟩).map listing =
    some (some ["red", " blue"], .collapse, .unordered)
  refused : (m.derived.checkValue ⟨46⟩ " blue").isOk = false

instance (m : Model) : Decidable (IsColours m) :=
  decidable_of_iff (_ ∧ _ ∧ _) ⟨fun ⟨a, b, c⟩ => ⟨a, b, c⟩, fun ⟨a, b, c⟩ => ⟨a, b, c⟩⟩

private theorem colours_computed :
    (assembled ⟨none, .standard⟩ [colours]).isOk = true ∧
      IsSound (readAll [colours]).2.arena [] ∧
      IsColours (made (readAll [colours]).2 (readAll [colours]).1 .standard) := by
  decide +kernel

theorem exists_colours : ∃ m, compile ⟨none, .standard⟩ [colours] = .ok m ∧ IsColours m := by
  obtain ⟨isOk, sound, computed⟩ := colours_computed
  exact ⟨_, compile_of_isSound isOk sound (by simp), computed⟩

theorem IsColours.type? (h : IsColours m) : ∃ definition use,
    m.arena.type? ⟨46⟩ = some (.simple definition) ∧
      definition.variety = .restriction use colourDecls := by
  obtain ⟨⟨use, decls⟩, found, rfl⟩ := Option.map_eq_some_iff.mp h.declared
  obtain ⟨definition, defined, declared⟩ := Option.bind_eq_some_iff.mp found
  unfold declaredFacets? at declared
  split at declared
  · cases declared
    exact ⟨_, _, defined, rfl⟩
  · cases declared

theorem checkValue_red : ∃ m, compile ⟨none, .standard⟩ [colours] = .ok m ∧
    ∃ n, m.derived.checkValue ⟨46⟩ "red" = .ok n := by
  obtain ⟨m, compiled, isColours⟩ := exists_colours
  obtain ⟨definition, use, defined, variety⟩ := isColours.type?
  obtain ⟨_, base, t, kept, -, -, own, lists, -, accepted⟩ :=
    checkValue_kept_iff compiled defined variety (by decide) (by decide)
  obtain ⟨t', own', listed⟩ := Option.map_eq_some_iff.mp isColours.listed
  cases own.symm.trans own'
  simp only [listing, Prod.mk.injEq] at listed
  obtain ⟨listed, mode, space⟩ := listed
  cases lists.symm.trans listed
  refine ⟨m, compiled, (accepted "red" (by decide)).mpr ?_⟩
  rw [ValueType.FoundAgain, mode, space]
  change WhiteSpace.normalize .collapse "red" ∈ ["red", " blue"]
  decide +kernel

/-- The blue of the list is kept, but as a token it has no blank. -/
theorem not_checkValue_kept : ¬ ∀ (supply : Schema.Supply) (documents : List Document) (m : Model)
    (id : TypeId) (definition : SimpleTypeDef) (use : TypeUse) (decls : List FacetDecl)
    (t : ValueType) (kept : List String), compile supply documents = .ok m →
      m.arena.type? id = some (.simple definition) →
      definition.variety = .restriction use decls → decls ≠ [] →
      (∀ decl ∈ decls, decl.kind = .enumeration) → m.derived.simple? id = some t →
      t.facets.enumeration = some kept →
      ∀ literal ∈ kept, ∃ n, m.derived.checkValue id literal = .ok n := by
  intro always
  obtain ⟨m, compiled, isColours⟩ := exists_colours
  obtain ⟨definition, use, defined, variety⟩ := isColours.type?
  obtain ⟨t, own, listed⟩ := Option.map_eq_some_iff.mp isColours.listed
  obtain ⟨n, accepted⟩ := always _ _ m _ definition use _ t _ compiled defined variety (by decide)
    (by decide) own (Prod.mk.inj listed).1 " blue" (by decide)
  have refused := isColours.refused
  rw [accepted] at refused
  cases refused

end Model

end Xsd
