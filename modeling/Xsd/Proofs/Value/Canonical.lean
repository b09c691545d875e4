import Xsd.Proofs.Value.Exact

/-!
# Canonical literals

A value has many literals: zeros may lead or trail, a sign may be written where none is needed, a
point in time may be given in any time zone. Equal values are the same value once they are reduced,
which numbers are that have no more digits than they need. So two literals of equal values are the
same text if both are written as a reduced value is rendered.
-/

namespace Xsd

/-- Where zero has no sign, a number determines its sign and its digits. -/
theorem eq_of_signed {s t : Bool} {m n : Nat} (hm : s = true → m ≠ 0) (hn : t = true → n ≠ 0)
    (same : (if s then -(m : Int) else m) = if t then -(n : Int) else n) : s = t ∧ m = n := by
  cases s <;> cases t <;> simp at same hm hn ⊢ <;> omega

/-! ## Decimal numbers -/

namespace Decimal

variable {a b d : Decimal}

/-- The number has the least scale, and no sign where it is zero. -/
def IsReduced (d : Decimal) : Prop := d.normalize = d

instance (d : Decimal) : Decidable d.IsReduced := inferInstanceAs (Decidable (_ = _))

theorem stripZeros_scale_le (mantissa scale : Nat) : (stripZeros mantissa scale).2 ≤ scale := by
  induction scale generalizing mantissa with
  | zero => exact Nat.le_refl 0
  | succ scale ih =>
    rw [stripZeros]
    split
    · exact Nat.le_succ_of_le (ih _)
    · exact Nat.le_refl _

/-- The last digit of a fraction is not a zero. -/
theorem IsReduced.mod_ten (reduced : d.IsReduced) (fraction : d.scale ≠ 0) :
    d.mantissa % 10 ≠ 0 := by
  intro zero
  obtain ⟨scale, same⟩ := Nat.exists_eq_succ_of_ne_zero fraction
  have shorter : d.normalize.scale ≤ scale := by
    rw [normalize, same, stripZeros, if_pos zero]
    exact stripZeros_scale_le _ scale
  rw [reduced, same] at shorter
  omega

theorem IsReduced.mantissa_ne_zero (reduced : d.IsReduced) (negative : d.negative = true) :
    d.mantissa ≠ 0 := by
  have same : (stripZeros d.mantissa d.scale).1 = d.mantissa := congrArg mantissa reduced
  have signed : (d.negative && (stripZeros d.mantissa d.scale).1 != 0) = true :=
    (congrArg Decimal.negative reduced).trans negative
  rw [same] at signed
  simpa using (Bool.and_eq_true_iff.mp signed).2

theorem IsReduced.eq_of_signedMantissa (ha : a.IsReduced) (hb : b.IsReduced)
    (scale : a.scale = b.scale) (same : a.signedMantissa = b.signedMantissa) : a = b := by
  obtain ⟨sign, mantissa⟩ := eq_of_signed ha.mantissa_ne_zero hb.mantissa_ne_zero same
  cases a
  cases b
  cases sign
  cases mantissa
  cases scale
  rfl

/-- By the scales: a greater one would leave a zero at the end. -/
theorem IsReduced.eq_of_value_of_le (ha : a.IsReduced) (hb : b.IsReduced)
    (le : a.scale ≤ b.scale) (same : a.value = b.value) : a = b := by
  obtain ⟨j, hj⟩ := Nat.exists_eq_add_of_le le
  have shifted : b.signedMantissa = a.signedMantissa * 10 ^ j := by
    have : (b.signedMantissa : ℚ) = a.signedMantissa * 10 ^ j := by
      rw [← value_mul_pow, ← value_mul_pow, same, hj, pow_add, mul_assoc]
    exact_mod_cast this
  cases j with
  | zero =>
    rw [pow_zero, mul_one] at shifted
    exact ha.eq_of_signedMantissa hb hj.symm shifted.symm
  | succ j =>
    have last := hb.mod_ten (by omega)
    have divides : (10 : ℤ) ∣ b.signedMantissa :=
      ⟨a.signedMantissa * 10 ^ j, by rw [shifted, pow_succ]; ring⟩
    unfold signedMantissa at divides
    split at divides <;> omega

theorem IsReduced.eq_of_compare (ha : a.IsReduced) (hb : b.IsReduced) (h : a.compare b = .eq) :
    a = b := by
  have same : a.value = b.value := compare_eq_iff_eq.mp (compare_eq a b ▸ h)
  rcases Nat.le_total a.scale b.scale with le | le
  · exact ha.eq_of_value_of_le hb le same
  · exact (hb.eq_of_value_of_le ha le same.symm).symm

end Decimal

/-! ## Binary numbers -/

namespace Binary

variable {a b : Binary}

/-- The mantissa of a finite number fills the precision, as far as the exponent admits, and zero has
no sign. -/
def IsReduced : Binary → Prop
  | .finite negative mantissa exponent =>
    mantissa < 2 ^ 53 ∧ minExponent ≤ exponent ∧
      (2 ^ 52 ≤ mantissa ∨ exponent = minExponent) ∧ (negative = true → mantissa ≠ 0)
  | _ => True

instance : (b : Binary) → Decidable b.IsReduced
  | .finite .. => inferInstanceAs (Decidable (_ ∧ _ ∧ _ ∧ _))
  | .infinity _ => .isTrue trivial
  | .nan => .isTrue trivial

/-- A mantissa that has been shifted further would not fit. -/
theorem eq_of_shifted {m n k l : Nat} (fits : m < 2 ^ 53) (full : 2 ^ 52 ≤ n ∨ l = 0) (le : k ≤ l)
    (same : m * 2 ^ k = n * 2 ^ l) : m = n ∧ k = l := by
  obtain ⟨j, rfl⟩ := Nat.exists_eq_add_of_le le
  have shifted : m = n * 2 ^ j := by
    refine Nat.eq_of_mul_eq_mul_right (Nat.two_pow_pos k) (same.trans ?_)
    rw [pow_add]
    ring
  cases j with
  | zero => exact ⟨by simpa using shifted, rfl⟩
  | succ j =>
    have large : 2 ^ 52 ≤ n := full.resolve_right (by omega)
    have : 2 ^ 53 ≤ m := by
      calc 2 ^ 53 = 2 ^ 52 * 2 := by norm_num
        _ ≤ n * 2 ^ (j + 1) := Nat.mul_le_mul large (Nat.le_self_pow (Nat.succ_ne_zero j) 2)
        _ = m := shifted.symm
    omega

theorem unscaled_minExponent_add (negative : Bool) (m k : Nat) :
    unscaled negative m (minExponent + k) =
      if negative then -((m * 2 ^ k : Nat) : Int) else ((m * 2 ^ k : Nat) : Int) := by
  rw [unscaled, add_sub_cancel_left, Int.toNat_natCast, Nat.shiftLeft_eq]

/-- By the exponents, the lesser one first. -/
theorem IsReduced.eq_of_magnitude {s t : Bool} {m n : Nat} {e f : Int}
    (ha : (finite s m e).IsReduced) (hb : (finite t n f).IsReduced)
    (same : unscaled s m e = unscaled t n f) : finite s m e = finite t n f := by
  obtain ⟨fits, least, full, signed⟩ := ha
  obtain ⟨fits', least', full', signed'⟩ := hb
  obtain ⟨k, rfl⟩ := Int.exists_add_of_le least
  obtain ⟨l, rfl⟩ := Int.exists_add_of_le least'
  rw [unscaled_minExponent_add, unscaled_minExponent_add] at same
  have nonzero : s = true → m * 2 ^ k ≠ 0 := fun h =>
    Nat.mul_ne_zero (signed h) (Nat.two_pow_pos k).ne'
  have nonzero' : t = true → n * 2 ^ l ≠ 0 := fun h =>
    Nat.mul_ne_zero (signed' h) (Nat.two_pow_pos l).ne'
  obtain ⟨rfl, digits⟩ := eq_of_signed nonzero nonzero' same
  have both : m = n ∧ k = l := by
    rcases Nat.le_total k l with le | le
    · exact eq_of_shifted fits (full'.imp_right (by omega)) le digits
    · exact (eq_of_shifted fits' (full.imp_right (by omega)) le digits.symm).imp Eq.symm Eq.symm
  obtain ⟨rfl, rfl⟩ := both
  rfl

theorem IsReduced.eq_of_compare (ha : a.IsReduced) (hb : b.IsReduced)
    (h : a.compare b = some .eq) : a = b := by
  cases a with
  | nan => cases h
  | infinity s =>
    cases b with
    | nan => cases h
    | infinity t => cases s <;> cases t <;> first | rfl | cases h
    | finite t n f => cases s <;> cases h
  | finite s m e =>
    cases b with
    | nan => cases h
    | infinity t => cases t <;> cases h
    | finite t n f => exact ha.eq_of_magnitude hb (compare_eq_iff_eq.mp (Option.some.inj h))

end Binary

/-! ## Dates and times -/

theorem Date.eq_of_compare {a b : Date} (h : compare a b = .eq) : a = b := by
  rw [Date.compare_fields] at h
  simp only [compareLex_eq_eq, compareOn, compare_eq_iff_eq] at h
  cases a
  cases b
  simpa using h

theorem TimeOfDay.eq_of_compare {a b : TimeOfDay} (h : compare a b = .eq) : a = b := by
  rw [TimeOfDay.compare_fields] at h
  simp only [compareLex_eq_eq, compareOn, compare_eq_iff_eq] at h
  cases a
  cases b
  simpa using h

theorem DateTime.eq_of_compare {a b : DateTime} (h : compare a b = .eq) : a = b := by
  rw [DateTime.compare_fields, compareLex_eq_eq] at h
  cases a
  cases b
  exact congrArg₂ DateTime.mk (Date.eq_of_compare h.1) (TimeOfDay.eq_of_compare h.2)

/-! ## Values of all spaces -/

namespace OrderedValue

variable {a b : OrderedValue}

/-- Of the values equal to it, the one that stands for them all. -/
def IsReduced : OrderedValue → Prop
  | .decimal d => d.IsReduced
  | .float x => x.IsReduced
  | _ => True

instance : (a : OrderedValue) → Decidable a.IsReduced
  | .decimal _ => inferInstanceAs (Decidable (Decimal.IsReduced _))
  | .float _ => inferInstanceAs (Decidable (Binary.IsReduced _))
  | .dateTime _ => .isTrue trivial
  | .date _ => .isTrue trivial
  | .time _ => .isTrue trivial

theorem IsReduced.eq_of_isEqual (ha : a.IsReduced) (hb : b.IsReduced) (h : a.isEqual b = true) :
    a = b := by
  have h : a.compare b = some .eq := beq_iff_eq.mp h
  cases a with
  | decimal d =>
    cases b with
    | decimal d' => exact congrArg _ (ha.eq_of_compare hb (Option.some.inj h))
    | _ => cases h
  | float x =>
    cases b with
    | float y => exact congrArg _ (ha.eq_of_compare hb h)
    | _ => cases h
  | dateTime t =>
    cases b with
    | dateTime u => exact congrArg _ (DateTime.eq_of_compare (Option.some.inj h))
    | _ => cases h
  | date d =>
    cases b with
    | date d' => exact congrArg _ (Date.eq_of_compare (Option.some.inj h))
    | _ => cases h
  | time t =>
    cases b with
    | time u => exact congrArg _ (TimeOfDay.eq_of_compare (Option.some.inj h))
    | _ => cases h

end OrderedValue

namespace ValueSpace

/-- The literal is what its value is rendered as, and that is reduced. -/
def IsCanonical (space : ValueSpace) (text : String) : Prop :=
  ∃ a, space.parse text = some a ∧ a.IsReduced ∧ a.render = text

/-- Canonical literals of equal values are the same. -/
theorem IsCanonical.eq_of_isEqual {space : ValueSpace} {s t : String} (hs : space.IsCanonical s)
    (ht : space.IsCanonical t) {a b : OrderedValue} (ha : space.parse s = some a)
    (hb : space.parse t = some b) (h : a.isEqual b = true) : s = t := by
  obtain ⟨_, hs, reduced, rfl⟩ := hs
  obtain ⟨_, ht, reduced', rfl⟩ := ht
  cases hs.symm.trans ha
  cases ht.symm.trans hb
  rw [reduced.eq_of_isEqual reduced' h]

end ValueSpace

end Xsd
