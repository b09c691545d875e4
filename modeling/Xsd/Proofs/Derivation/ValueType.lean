import Xsd.Derivation.ValueType
import Xsd.Proofs.Builtin
import Xsd.Proofs.Facet.Restriction
import Xsd.Proofs.Facet.WhiteSpace

/-!
# Value types that refine each other

A value type refines another one if the other one takes what it accepts as it is. A restriction
refines its base, whatever it declares, and a builtin type refines the one that it derives from.
-/

namespace Xsd

/-- Values are read without the blanks around them. -/
theorem ValueSpace.parse_congr {space : ValueSpace} {s t : String}
    (h : Text.trimList s.toList = Text.trimList t.toList) : space.parse s = space.parse t := by
  unfold ValueSpace.parse
  rw [h]

/-- A literal is listed as the text that it is, or for its value. -/
theorem FacetSet.isListed_iff {space : ValueSpace} {value candidate : String} :
    isListed space value candidate = true ↔
      (∃ a b, space.parse value = some a ∧ space.parse candidate = some b ∧ a.isEqual b = true) ∨
        (space.parse value = none ∨ space.parse candidate = none) ∧ candidate = value := by
  unfold isListed
  cases space.parse value <;> cases space.parse candidate <;> simp

namespace ValueType

/-- The text is a literal of the type before its facets are looked at. -/
def HasForm : ValueType → String → Prop
  | .atomic _ builtin, literal => ∀ b ∈ builtin, b.isLiteral literal = true
  | .list _ _ item, literal => ∀ word ∈ Text.words literal, ∃ n, item.check word = .ok n
  | .union _ _ members, literal => checkMembers members literal = .ok ()

/-- The length of a literal, if it has one. -/
def measure : ValueType → String → Option Nat
  | .atomic _ builtin, literal =>
    some ((builtin.map (·.lengthOf literal)).getD literal.length)
  | .list _ _ _, literal => some (Text.words literal).length
  | .union _ _ _, _ => none

/-- A type accepts a text whose white space has been dealt with. -/
@[mk_iff]
structure Accepts (t : ValueType) (literal : String) : Prop where
  form : t.HasForm literal
  facets : t.facets.Admits literal (t.measure literal) t.space

variable {t base : ValueType} {text n : String}

theorem checkAtomic_eq_ok_iff {facets : FacetSet} {builtin : Option Builtin} {literal : String} :
    checkAtomic facets builtin literal = .ok () ↔
      (ValueType.atomic facets builtin).Accepts literal := by
  rw [accepts_iff]
  cases builtin with
  | none =>
    simp [checkAtomic, HasForm, measure, space, builtin?, ValueType.facets,
      FacetSet.check_eq_ok_iff]
  | some b =>
    cases h : b.isLiteral literal <;>
      simp [checkAtomic, HasForm, measure, space, builtin?, ValueType.facets,
        FacetSet.check_eq_ok_iff, h]

/-- What a type accepts is the text with its white space dealt with. -/
theorem check_eq_ok_iff : t.check text = .ok n ↔
    n = t.facets.whiteSpaceMode.normalize text ∧ t.Accepts n := by
  cases t with
  | atomic facets builtin =>
    rw [check]
    simp only [then_eq_ok_iff, checkAtomic_eq_ok_iff, pure_eq_ok_iff]
    constructor
    · rintro ⟨accepted, rfl⟩
      exact ⟨rfl, accepted⟩
    · rintro ⟨rfl, accepted⟩
      exact ⟨accepted, rfl⟩
  | list facets itemId item =>
    rw [check]
    simp only [then_eq_ok_iff, forM_eq_ok_iff, discard_eq_ok_iff, FacetSet.check_eq_ok_iff,
      pure_eq_ok_iff]
    constructor
    · rintro ⟨items, admitted, rfl⟩
      exact ⟨rfl, items, admitted⟩
    · rintro ⟨rfl, items, admitted⟩
      exact ⟨items, admitted, rfl⟩
  | union facets memberIds members =>
    rw [check]
    constructor
    · intro h
      split at h
      · cases h
      · rename_i some
        obtain ⟨admitted, h⟩ := then_eq_ok_iff.mp h
        cases pure_eq_ok_iff.mp h
        exact ⟨rfl, some, FacetSet.check_eq_ok_iff.mp admitted⟩
    · rintro ⟨rfl, some, admitted⟩
      have some : checkMembers members (facets.whiteSpaceMode.normalize text) = .ok () := some
      simp only [some]
      exact then_eq_ok_iff.mpr ⟨FacetSet.check_eq_ok_iff.mpr admitted, rfl⟩

theorem eq_atomic_of_ordered (ordered : t.space ≠ .unordered) :
    ∃ facets b, t = .atomic facets (some b) ∧ t.space = b.valueSpace := by
  cases t with
  | atomic facets builtin =>
    cases builtin with
    | none => exact absurd rfl ordered
    | some b => exact ⟨facets, b, rfl, rfl⟩
  | list facets itemId item => exact absurd rfl ordered
  | union facets memberIds members => exact absurd rfl ordered

/-- Dealing with the white space of a literal does not change its value. -/
theorem parse_of_check (h : t.check text = .ok n) : t.space.parse n = t.space.parse text := by
  by_cases ordered : t.space = .unordered
  · rw [ordered]
    rfl
  · obtain ⟨rfl, accepted⟩ := check_eq_ok_iff.mp h
    obtain ⟨facets, b, rfl, same⟩ := eq_atomic_of_ordered ordered
    have literal := accepted.form b rfl
    exact ValueSpace.parse_congr
      (WhiteSpace.trimList_normalize (b.solid_of_isLiteral (same ▸ ordered) literal))

/-! ## Refinement -/

/-- The base takes what the type accepts as it is, and if it compares values, so does the type, in
the same space. -/
structure Refines (t base : ValueType) : Prop where
  admits : ∀ {text n : String}, t.check text = .ok n → base.check n = .ok n
  space : base.space ≠ .unordered → t.space = base.space

/-- What is accepted is accepted again. -/
theorem Refines.refl : t.Refines t where
  admits h := by
    obtain ⟨rfl, accepted⟩ := check_eq_ok_iff.mp h
    exact check_eq_ok_iff.mpr ⟨(WhiteSpace.normalize_normalize ..).symm, accepted⟩
  space _ := rfl

theorem Refines.trans {u : ValueType} (h₁ : t.Refines u) (h₂ : u.Refines base) :
    t.Refines base where
  admits h := h₂.admits (h₁.admits h)
  space ordered := by
    have same := h₂.space ordered
    rw [h₁.space (same ▸ ordered), same]

/-- The most general type takes any text. -/
theorem any_check (text : String) : any.check text = .ok text := rfl

theorem refines_any : t.Refines any where
  admits _ := any_check _
  space ordered := absurd rfl ordered

/-! ## Restrictions -/

/-- What a type lists has to be accepted by the base, so a literal that is listed for its value is
listed by the base for the same value. -/
theorem listed_of_check {c m : String} (checked : base.check c = .ok m)
    (listed : FacetSet.isListed base.space n c = true)
    (normal : n = base.facets.whiteSpaceMode.normalize n) :
    ∀ l ∈ base.facets.enumeration, ∃ c ∈ l, FacetSet.isListed base.space n c = true := by
  intro l hl
  obtain ⟨hm, accepted⟩ := check_eq_ok_iff.mp checked
  obtain ⟨c', hc', listed'⟩ := accepted.facets.enumeration l hl
  refine ⟨c', hc', ?_⟩
  rcases FacetSet.isListed_iff.mp listed with ⟨a, b, ha, hb, equal⟩ | ⟨-, rfl⟩
  · have value : base.space.parse m = some b := (parse_of_check checked).trans hb
    rcases FacetSet.isListed_iff.mp listed' with ⟨a', b', ha', hb', equal'⟩ | ⟨valueless, rfl⟩
    · cases value.symm.trans ha'
      exact FacetSet.isListed_iff.mpr
        (Or.inl ⟨a, b', ha, hb', OrderedValue.isEqual_trans equal equal'⟩)
    · simp [value] at valueless
  · rwa [hm, ← normal] at listed'

section WithFacets

variable {facets : FacetSet} {literal : String}

@[simp]
theorem facets_withFacets : (base.withFacets facets).facets = facets := by
  cases base <;> rfl

@[simp]
theorem space_withFacets : (base.withFacets facets).space = base.space := by
  cases base <;> rfl

@[simp]
theorem measure_withFacets : (base.withFacets facets).measure literal = base.measure literal := by
  cases base <;> rfl

@[simp]
theorem hasForm_withFacets : (base.withFacets facets).HasForm literal ↔ base.HasForm literal := by
  cases base <;> rfl

/-- The type of the same kind with narrower facets refines a type, if it lists the same literals or
just such that the type accepts. -/
theorem withFacets_refines (narrow : facets.Narrows base.facets)
    (listed : facets.enumeration = base.facets.enumeration ∨
      ∃ l, facets.enumeration = some l ∧ ∀ c ∈ l, ∃ m, base.check c = .ok m) :
    (base.withFacets facets).Refines base where
  admits {text n} h := by
    obtain ⟨hn, accepted⟩ := check_eq_ok_iff.mp h
    have admitted := accepted.facets
    simp only [facets_withFacets, space_withFacets, measure_withFacets] at hn admitted
    have normal : n = base.facets.whiteSpaceMode.normalize n := by
      rw [hn, WhiteSpace.normalize_of_le narrow.whiteSpaceMode]
    refine check_eq_ok_iff.mpr ⟨normal, hasForm_withFacets.mp accepted.form, ?_⟩
    refine narrow.admits admitted ?_
    rcases listed with same | ⟨l, hl, checked⟩
    · exact same ▸ admitted.enumeration
    · obtain ⟨c, hc, hlisted⟩ := admitted.enumeration l hl
      obtain ⟨m, hm⟩ := checked c hc
      exact listed_of_check hm hlisted normal
  space _ := space_withFacets

end WithFacets

/-- A restriction changes nothing but the facets. -/
theorem eq_withFacets_of_restrict {decls : List FacetDecl} (h : base.restrict decls = .ok t) :
    ∃ facets, t = base.withFacets facets := by
  obtain ⟨facets, -, h⟩ := bind_eq_ok_iff.mp h
  split at h
  · cases pure_eq_ok_iff.mp h
    exact ⟨_, rfl⟩
  · cases pure_eq_ok_iff.mp h
    exact ⟨_, rfl⟩

/-- A restriction accepts nothing that its base does not take. -/
theorem restrict_refines {decls : List FacetDecl} (h : base.restrict decls = .ok t) :
    t.Refines base := by
  obtain ⟨facets, restricted, h⟩ := bind_eq_ok_iff.mp h
  obtain ⟨narrow, listed⟩ := FacetSet.restrict_spec restricted
  split at h
  · cases pure_eq_ok_iff.mp h
    refine withFacets_refines (narrow.withEnumeration _) (Or.inr ⟨_, rfl, ?_⟩)
    intro c hc
    exact isOk_iff.mp (List.mem_filter.mp hc).2
  · rename_i undeclared
    cases pure_eq_ok_iff.mp h
    refine withFacets_refines narrow (Or.inl ?_)
    rw [listed, if_pos]
    simpa [FacetSet.valuesOf, List.filter_eq_nil_iff] using undeclared

/-- A builtin type adds to what its base demands. -/
theorem specialize_refines {facets base : FacetSet} {b p : Builtin} (hb : b.base? = some p)
    (h : base.restrict b.impliedFacets b.valueSpace = .ok facets) :
    (ValueType.atomic facets (some b)).Refines (.atomic base (some p)) where
  admits {text n} checked := by
    obtain ⟨narrow, listed⟩ := FacetSet.restrict_spec h
    rw [Builtin.valuesOf_impliedFacets, List.isEmpty_nil, if_pos rfl] at listed
    obtain ⟨hn, form, admitted⟩ := check_eq_ok_iff.mp checked
    have normal : n = base.whiteSpaceMode.normalize n := by
      rw [hn]
      exact (WhiteSpace.normalize_of_le narrow.whiteSpaceMode text).symm
    refine check_eq_ok_iff.mpr ⟨normal, ?_, ?_⟩
    · rintro _ ⟨⟩
      exact Builtin.isLiteral_base hb (form b rfl)
    · have admitted : facets.Admits n (some (b.lengthOf n)) b.valueSpace := admitted
      rw [Builtin.lengthOf_base hb, Builtin.valueSpace_base hb] at admitted
      exact narrow.admits admitted (listed ▸ admitted.enumeration)
  space _ := Builtin.valueSpace_base hb

end ValueType

end Xsd
