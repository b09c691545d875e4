import Xsd.Facet.FacetSet
import Xsd.Proofs.Steps
import Xsd.Proofs.Value.Order

/-!
# What a facet set admits

The checks of a literal succeed exactly when all facets in force hold of it: lengths where it has
one, patterns and lists of the text, ranges and digits where the text has a value.
-/

namespace Xsd.FacetSet

variable {fs : FacetSet} {value : String} {space : ValueSpace}

/-- A number of units is as long as it has to be. -/
@[mk_iff]
structure FitsLength (fs : FacetSet) (n : Nat) : Prop where
  length : ∀ b ∈ fs.length, n = b.value
  minLength : ∀ b ∈ fs.minLength, b.value ≤ n
  maxLength : ∀ b ∈ fs.maxLength, n ≤ b.value

/-- A value lies between the bounds. -/
@[mk_iff]
structure FitsRange (fs : FacetSet) (v : OrderedValue) : Prop where
  minInclusive : ∀ b ∈ fs.minInclusive, v.OnSide .gt false b.value
  minExclusive : ∀ b ∈ fs.minExclusive, v.OnSide .gt true b.value
  maxInclusive : ∀ b ∈ fs.maxInclusive, v.OnSide .lt false b.value
  maxExclusive : ∀ b ∈ fs.maxExclusive, v.OnSide .lt true b.value

/-- A number has no more digits than it may have. -/
@[mk_iff]
structure FitsDigits (fs : FacetSet) (d : Decimal) : Prop where
  fractionDigits : ∀ b ∈ fs.fractionDigits, d.normalize.scale ≤ b.value
  totalDigits : ∀ b ∈ fs.totalDigits, d.normalize.digitCount ≤ b.value

@[mk_iff]
structure Admits (fs : FacetSet) (value : String) (measure : Option Nat) (space : ValueSpace) :
    Prop where
  length : ∀ n ∈ measure, fs.FitsLength n
  patterns : ∀ p ∈ fs.patterns, p.isMatch value = true
  enumeration : ∀ listed ∈ fs.enumeration, ∃ c ∈ listed, isListed space value c = true
  range : ∀ v, space.parse value = some v → fs.FitsRange v
  digits : space = .decimal →
    ∀ d, Decimal.parse (Text.trimList value.toList) = some d → fs.FitsDigits d

/-! ## The checks one by one -/

theorem ok_then {rest : Unit → Except Violation Unit} : (Except.ok () >>= rest) = rest () := rfl

theorem refuse_ne_ok {message reason : String} : refuse message reason ≠ .ok () := by
  intro h
  cases h

theorem refuse_then {message reason : String} {rest : Unit → Except Violation Unit} :
    (refuse message reason >>= rest) = refuse message reason := rfl

/-- A check goes on where there is nothing to refuse. -/
theorem refuse_or_eq_ok_iff {faulty : Prop} [Decidable faulty] {message reason : String}
    {rest : Except Violation Unit} :
    (if faulty then refuse message reason else rest) = .ok () ↔ ¬ faulty ∧ rest = .ok () := by
  by_cases h : faulty <;> simp [h, refuse_ne_ok]

theorem or_refuse_eq_ok_iff {fine : Prop} [Decidable fine] {message reason : String}
    {rest : Except Violation Unit} :
    (if fine then rest else refuse message reason) = .ok () ↔ fine ∧ rest = .ok () := by
  by_cases h : fine <;> simp [h, refuse_ne_ok]

theorem checkLength_eq_ok_iff {n : Nat} : fs.checkLength n = .ok () ↔ fs.FitsLength n := by
  rw [checkLength, fitsLength_iff]
  cases fs.length <;> cases fs.minLength <;> cases fs.maxLength <;>
    simp [ok_then, refuse_then, refuse_or_eq_ok_iff, or_refuse_eq_ok_iff, refuse_ne_ok,
      pure_eq_ok_iff]

theorem checkDigits_eq_ok_iff : fs.checkDigits value = .ok () ↔
    ∀ d, Decimal.parse (Text.trimList value.toList) = some d → fs.FitsDigits d := by
  rw [checkDigits]
  cases Decimal.parse (Text.trimList value.toList) with
  | none => simp
  | some d =>
    simp only [fitsDigits_iff]
    cases fs.fractionDigits <;> cases fs.totalDigits <;>
      simp [ok_then, refuse_then, refuse_or_eq_ok_iff, refuse_ne_ok, pure_eq_ok_iff]

theorem checkPatterns_eq_ok_iff {patterns : List Pattern} :
    checkPatterns patterns value = .ok () ↔ ∀ p ∈ patterns, p.isMatch value = true := by
  rw [checkPatterns]
  cases hf : patterns.find? fun p => !p.isMatch value with
  | none => simpa using hf
  | some p =>
    simp only [refuse_ne_ok, false_iff, not_forall]
    exact ⟨p, List.mem_of_find?_eq_some hf, by simpa using List.find?_some hf⟩

theorem checkEnumeration_eq_ok_iff : fs.checkEnumeration value space = .ok () ↔
    ∀ listed ∈ fs.enumeration, ∃ c ∈ listed, isListed space value c = true := by
  rw [checkEnumeration]
  cases fs.enumeration with
  | none => simp
  | some listed =>
    have any : listed.any (isListed space value) = true ↔
        ∃ c ∈ listed, isListed space value c = true := List.any_eq_true
    simp only [or_refuse_eq_ok_iff, any, and_true, Option.mem_def, Option.some.injEq, forall_eq']

theorem checkSide_eq_ok_iff {v : OrderedValue} {side : Ordering} {strict : Bool} {sign : String}
    {bound : Option (Bound OrderedValue)} :
    checkSide v value side strict sign bound = .ok () ↔
      ∀ b ∈ bound, v.OnSide side strict b.value := by
  unfold checkSide
  cases bound with
  | none => simp
  | some b =>
    cases hc : v.compare b.value with
    | none => simp [OrderedValue.OnSide, hc, refuse_ne_ok]
    | some o =>
      simp only [hc]
      rw [or_refuse_eq_ok_iff]
      simp [OrderedValue.OnSide, hc]

theorem checkRange_eq_ok_iff : fs.checkRange value space = .ok () ↔
    ∀ v, space.parse value = some v → fs.FitsRange v := by
  rw [checkRange]
  cases space.parse value with
  | none => simp
  | some v =>
    simp only [then_eq_ok_iff, checkSide_eq_ok_iff, Option.some.injEq, forall_eq', fitsRange_iff]

/-- A facet set lets through what it admits. -/
theorem check_eq_ok_iff {measure : Option Nat} :
    fs.check value measure space = .ok () ↔ fs.Admits value measure space := by
  have ranges : (if space.isOrdered then fs.checkRange value space else .ok ()) = .ok () ↔
      ∀ v, space.parse value = some v → fs.FitsRange v := by
    by_cases unordered : space = .unordered
    · simp [unordered, ValueSpace.isOrdered, ValueSpace.parse]
    · have ordered : space.isOrdered = true := bne_iff_ne.mpr unordered
      rw [if_pos ordered]
      exact checkRange_eq_ok_iff
  unfold FacetSet.check
  rw [admits_iff, ← checkPatterns_eq_ok_iff, ← checkEnumeration_eq_ok_iff, ← ranges,
    ← checkDigits_eq_ok_iff]
  cases measure <;> cases space <;>
    simp [then_eq_ok_iff, checkLength_eq_ok_iff, ValueSpace.isOrdered]

end Xsd.FacetSet
