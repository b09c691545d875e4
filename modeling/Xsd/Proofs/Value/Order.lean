import Mathlib
import Xsd.Facet.ValueSpace

/-!
# The order of values

Within a space the values are ordered as numbers, or lexicographically by the fields of a date and
time; only what is not a number compares with nothing. Comparisons that agree can be chained.
-/

namespace Xsd

/-- Two comparisons in a row that do not go against each other. -/
theorem compare_then {α : Type} {cmp : α → α → Ordering} [Std.TransCmp cmp] {a b c : α}
    (agree : cmp a b = .eq ∨ cmp b c = .eq ∨ cmp a b = cmp b c) :
    cmp a c = (cmp a b).then (cmp b c) := by
  cases hab : cmp a b with
  | eq =>
    cases hbc : cmp b c with
    | lt => exact Std.TransCmp.lt_of_eq_of_lt hab hbc
    | eq => exact Std.TransCmp.eq_trans hab hbc
    | gt => exact Std.TransCmp.gt_of_eq_of_gt hab hbc
  | lt =>
    cases hbc : cmp b c with
    | lt => exact Std.TransCmp.lt_trans hab hbc
    | eq => exact Std.TransCmp.lt_of_lt_of_eq hab hbc
    | gt => simp [hab, hbc] at agree
  | gt =>
    cases hbc : cmp b c with
    | lt => simp [hab, hbc] at agree
    | eq => exact Std.TransCmp.gt_of_gt_of_eq hab hbc
    | gt => exact Std.TransCmp.gt_trans hab hbc

theorem compare_then_some {α : Type} {cmp : α → α → Ordering} [Std.TransCmp cmp] {a b c : α}
    {o₁ o₂ : Ordering} (hab : some (cmp a b) = some o₁) (hbc : some (cmp b c) = some o₂)
    (agree : o₁ = .eq ∨ o₂ = .eq ∨ o₁ = o₂) : some (cmp a c) = some (o₁.then o₂) := by
  cases hab
  cases hbc
  exact congrArg some (compare_then agree)

/-! ## Decimal numbers -/

namespace Decimal

/-- The number that is meant. -/
def value (d : Decimal) : ℚ :=
  (if d.negative then -(d.mantissa : ℚ) else d.mantissa) / 10 ^ d.scale

theorem unscaled_eq {d : Decimal} {k : Nat} (h : d.scale ≤ k) :
    (d.unscaled k : ℚ) = d.value * 10 ^ k := by
  obtain ⟨j, rfl⟩ := Nat.exists_eq_add_of_le h
  have ten : (10 : ℚ) ^ d.scale ≠ 0 := by positivity
  rw [unscaled, value, Nat.add_sub_cancel_left, pow_add]
  cases d.negative with
  | true =>
    simp only [if_true, Nat.pow_eq]
    push_cast
    field_simp
  | false =>
    simp only [Bool.false_eq_true, if_false, Nat.pow_eq]
    push_cast
    field_simp

/-- Numbers compare by what they mean. -/
theorem compare_eq (a b : Decimal) : a.compare b = Ord.compare a.value b.value := by
  have ha := unscaled_eq (Nat.le_max_left a.scale b.scale)
  have hb := unscaled_eq (Nat.le_max_right a.scale b.scale)
  have ten : (0 : ℚ) < 10 ^ max a.scale b.scale := by positivity
  rw [compare]
  generalize a.unscaled (max a.scale b.scale) = m at ha
  generalize b.unscaled (max a.scale b.scale) = n at hb
  rcases lt_trichotomy a.value b.value with lt | eq | gt
  · have : (m : ℚ) < n := by
      rw [ha, hb]
      exact mul_lt_mul_of_pos_right lt ten
    rw [compare_lt_iff_lt.mpr lt]
    exact compare_lt_iff_lt.mpr (by exact_mod_cast this)
  · have : (m : ℚ) = n := by rw [ha, hb, eq]
    rw [compare_eq_iff_eq.mpr eq]
    exact compare_eq_iff_eq.mpr (by exact_mod_cast this)
  · have : (n : ℚ) < m := by
      rw [ha, hb]
      exact mul_lt_mul_of_pos_right gt ten
    rw [compare_gt_iff_gt.mpr gt]
    exact compare_gt_iff_gt.mpr (by exact_mod_cast this)

instance : Std.TransCmp Decimal.compare := by
  have onValues : Decimal.compare = compareOn value := by
    funext a b
    exact compare_eq a b
  rw [onValues]
  infer_instance

end Decimal

/-! ## Binary numbers -/

namespace Binary

/-- Infinite numbers lie below or above all others. -/
def side : Binary → Int
  | .infinity negative => if negative then -1 else 1
  | _ => 0

def magnitude : Binary → Int
  | .finite negative mantissa exponent => unscaled negative mantissa exponent
  | _ => 0

/-- By the side first, and then by the magnitude. -/
def compareNumbers : Binary → Binary → Ordering :=
  compareLex (compareOn side) (compareOn magnitude)

instance : Std.TransCmp compareNumbers :=
  inferInstanceAs (Std.TransCmp (compareLex (compareOn side) (compareOn magnitude)))

theorem compare_eq_some_iff {a b : Binary} {o : Ordering} :
    a.compare b = some o ↔ a ≠ .nan ∧ b ≠ .nan ∧ compareNumbers a b = o := by
  have numbers : ∀ {x : Ordering}, a ≠ .nan → b ≠ .nan → a.compare b = some x →
      compareNumbers a b = x →
      (a.compare b = some o ↔ a ≠ .nan ∧ b ≠ .nan ∧ compareNumbers a b = o) := by
    intro x ha hb hc hn
    simp [ha, hb, hc, hn]
  cases a with
  | nan => simp [compare]
  | infinity s =>
    cases b with
    | nan => simp [compare]
    | infinity t => cases s <;> cases t <;> exact numbers (by simp) (by simp) rfl rfl
    | finite t n f => cases s <;> exact numbers (by simp) (by simp) rfl rfl
  | finite s m e =>
    cases b with
    | nan => simp [compare]
    | infinity t => cases t <;> exact numbers (by simp) (by simp) rfl rfl
    | finite t n f => exact numbers (by simp) (by simp) rfl rfl

theorem compare_then {a b c : Binary} {o₁ o₂ : Ordering} (hab : a.compare b = some o₁)
    (hbc : b.compare c = some o₂) (agree : o₁ = .eq ∨ o₂ = .eq ∨ o₁ = o₂) :
    a.compare c = some (o₁.then o₂) := by
  obtain ⟨ha, -, rfl⟩ := compare_eq_some_iff.mp hab
  obtain ⟨-, hc, rfl⟩ := compare_eq_some_iff.mp hbc
  exact compare_eq_some_iff.mpr ⟨ha, hc, Xsd.compare_then agree⟩

theorem compare_swap (a b : Binary) : b.compare a = (a.compare b).map Ordering.swap := by
  have numbers : ∀ {a b : Binary} {o : Ordering}, a.compare b = some o →
      b.compare a = some o.swap := by
    intro a b o h
    obtain ⟨ha, hb, rfl⟩ := compare_eq_some_iff.mp h
    exact compare_eq_some_iff.mpr ⟨hb, ha, Std.OrientedCmp.eq_swap⟩
  cases hab : a.compare b with
  | some o => exact numbers hab
  | none =>
    cases hba : b.compare a with
    | none => rfl
    | some o => cases hab.symm.trans (numbers hba)

end Binary

/-! ## Dates and times -/

theorem Date.compare_fields : (compare : Date → Date → Ordering) =
    compareLex (compareOn Date.year) (compareLex (compareOn Date.month) (compareOn Date.day)) := by
  funext a b
  cases a
  cases b
  simp [compare, instOrdDate.ord, compareLex, compareOn]

instance : Std.TransOrd Date := by
  rw [Std.TransOrd, Date.compare_fields]
  infer_instance

theorem TimeOfDay.compare_fields : (compare : TimeOfDay → TimeOfDay → Ordering) =
    compareLex (compareOn TimeOfDay.second) (compareOn TimeOfDay.nano) := by
  funext a b
  cases a
  cases b
  simp [compare, instOrdTimeOfDay.ord, compareLex, compareOn]

instance : Std.TransOrd TimeOfDay := by
  rw [Std.TransOrd, TimeOfDay.compare_fields]
  infer_instance

theorem DateTime.compare_fields : (compare : DateTime → DateTime → Ordering) =
    compareLex (compareOn DateTime.date) (compareOn DateTime.time) := by
  funext a b
  cases a
  cases b
  simp [compare, instOrdDateTime.ord, compareLex, compareOn]

instance : Std.TransOrd DateTime := by
  rw [Std.TransOrd, DateTime.compare_fields]
  infer_instance

/-! ## Values of all spaces -/

namespace OrderedValue

variable {a b c : OrderedValue}

theorem compare_then {o₁ o₂ : Ordering} (hab : a.compare b = some o₁)
    (hbc : b.compare c = some o₂) (agree : o₁ = .eq ∨ o₂ = .eq ∨ o₁ = o₂) :
    a.compare c = some (o₁.then o₂) := by
  cases a with
  | decimal a =>
    cases b with
    | decimal b =>
      cases c with
      | decimal c => exact compare_then_some hab hbc agree
      | _ => cases hbc
    | _ => cases hab
  | float a =>
    cases b with
    | float b =>
      cases c with
      | float c => exact Binary.compare_then hab hbc agree
      | _ => cases hbc
    | _ => cases hab
  | dateTime a =>
    cases b with
    | dateTime b =>
      cases c with
      | dateTime c => exact compare_then_some hab hbc agree
      | _ => cases hbc
    | _ => cases hab
  | date a =>
    cases b with
    | date b =>
      cases c with
      | date c => exact compare_then_some hab hbc agree
      | _ => cases hbc
    | _ => cases hab
  | time a =>
    cases b with
    | time b =>
      cases c with
      | time c => exact compare_then_some hab hbc agree
      | _ => cases hbc
    | _ => cases hab

/-- The other way around a comparison goes the other way. -/
theorem compare_swap (a b : OrderedValue) : b.compare a = (a.compare b).map Ordering.swap := by
  cases a with
  | decimal a =>
    cases b with
    | decimal b => exact congrArg some Std.OrientedCmp.eq_swap
    | _ => rfl
  | float a =>
    cases b with
    | float b => exact Binary.compare_swap a b
    | _ => rfl
  | dateTime a =>
    cases b with
    | dateTime b => exact congrArg some Std.OrientedCmp.eq_swap
    | _ => rfl
  | date a =>
    cases b with
    | date b => exact congrArg some Std.OrientedCmp.eq_swap
    | _ => rfl
  | time a =>
    cases b with
    | time b => exact congrArg some Std.OrientedCmp.eq_swap
    | _ => rfl

theorem isEqual_trans (hab : a.isEqual b = true) (hbc : b.isEqual c = true) :
    a.isEqual c = true := by
  simp only [isEqual, beq_iff_eq] at hab hbc ⊢
  exact compare_then hab hbc (Or.inl rfl)

/-- What is not a number is not even equal to itself; all other values are. -/
theorem isEqual_self_iff : a.isEqual a = true ↔ a ≠ .float .nan := by
  cases a with
  | float a => simp [isEqual, compare, Binary.compare_eq_some_iff, Std.ReflCmp.compare_self]
  | _ => simp [isEqual, compare, Std.ReflCmp.compare_self]

theorem ne_nan_of_isEqual (h : a.isEqual b = true) : a ≠ .float .nan := by
  rintro rfl
  cases b <;> cases h

/-- The value is on the given side of another one, or equal to it unless `strict`. -/
def OnSide (side : Ordering) (strict : Bool) (a b : OrderedValue) : Prop :=
  ∃ o, a.compare b = some o ∧ (o = side ∨ o = .eq ∧ strict = false)

instance (side : Ordering) (strict : Bool) (a b : OrderedValue) :
    Decidable (OnSide side strict a b) :=
  match h : a.compare b with
  | none => isFalse (by simp [OnSide, h])
  | some o => decidable_of_iff (o = side ∨ o = .eq ∧ strict = false) (by simp [OnSide, h])

/-- What is on one side of a value that is itself on that side of a bound, or equal to it, is on
that side of the bound. -/
theorem OnSide.trans {side : Ordering} {strict : Bool} (hab : OnSide side strict a b)
    (hbc : OnSide side false b c) : OnSide side strict a c := by
  obtain ⟨o₁, hab, h₁⟩ := hab
  obtain ⟨o₂, hbc, h₂⟩ := hbc
  have agree : o₁ = .eq ∨ o₂ = .eq ∨ o₁ = o₂ := by
    rcases h₁ with rfl | ⟨rfl, -⟩
    · rcases h₂ with rfl | ⟨rfl, -⟩
      · exact Or.inr (Or.inr rfl)
      · exact Or.inr (Or.inl rfl)
    · exact Or.inl rfl
  refine ⟨_, compare_then hab hbc agree, ?_⟩
  rcases h₁ with rfl | ⟨rfl, hs⟩
  · rcases h₂ with rfl | ⟨rfl, -⟩
    · exact Or.inl Ordering.then_self
    · exact Or.inl Ordering.then_eq
  · rcases h₂ with rfl | ⟨rfl, -⟩
    · exact Or.inl rfl
    · exact Or.inr ⟨rfl, hs⟩

/-- Of two values each is on its own side of the other. -/
theorem OnSide.swap {side : Ordering} {strict : Bool} (h : OnSide side strict a b) :
    OnSide side.swap strict b a := by
  obtain ⟨o, compared, h⟩ := h
  refine ⟨o.swap, by rw [compare_swap, compared, Option.map_some], ?_⟩
  rcases h with rfl | ⟨rfl, lax⟩
  · exact Or.inl rfl
  · exact Or.inr ⟨rfl, lax⟩

theorem OnSide.weaken {side : Ordering} {strict lax : Bool} (h : OnSide side strict a b)
    (le : lax = true → strict = true) : OnSide side lax a b := by
  obtain ⟨o, compared, h⟩ := h
  refine ⟨o, compared, h.imp_right fun ⟨same, not⟩ => ⟨same, ?_⟩⟩
  rw [Bool.eq_false_iff] at not ⊢
  exact fun h => not (le h)

end OrderedValue

end Xsd
