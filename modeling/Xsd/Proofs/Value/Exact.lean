import Mathlib
import Xsd.Builtin.Form
import Xsd.Proofs.Facet.Admission

/-!
# Decimal numbers of any length

The number that a literal in ASCII digits means, however many there are. Reading with bounded
precision comes to the same as long as the digits fit; nothing is claimed of longer literals.
-/

namespace Xsd

namespace Text

variable {c : Char} {cs : List Char} {n m d : Nat}

theorem digit?_isSome (h : isDigit c = true) : ∃ d, digit? c = some d := by
  rw [isDigit] at h
  exact ⟨c.toNat - 48, if_pos h⟩

theorem isDigit_of_digit? (h : digit? c = some d) : isDigit c = true := by
  unfold digit? at h
  split at h
  · assumption
  · cases h

theorem digit?_lt (h : digit? c = some d) : d < 10 := by
  unfold digit? at h
  split at h
  · rename_i inside
    cases h
    rw [Bool.and_eq_true, decide_eq_true_eq, decide_eq_true_eq] at inside
    have low : 48 ≤ c.toNat := inside.1
    have high : c.toNat ≤ 57 := inside.2
    omega
  · cases h

theorem digitsFrom_isSome (h : cs.all isDigit = true) : ∃ m, digitsFrom n cs = some m := by
  induction cs generalizing n with
  | nil => exact ⟨n, rfl⟩
  | cons c cs ih =>
    rw [List.all_cons, Bool.and_eq_true] at h
    obtain ⟨d, hd⟩ := digit?_isSome h.1
    obtain ⟨m, hm⟩ := ih (n := n * 10 + d) h.2
    exact ⟨m, by rw [digitsFrom, hd, Option.bind_some, hm]⟩

theorem all_isDigit_of_digitsFrom (h : digitsFrom n cs = some m) : cs.all isDigit = true := by
  induction cs generalizing n with
  | nil => rfl
  | cons c cs ih =>
    obtain ⟨d, hd, h⟩ := Option.bind_eq_some_iff.mp h
    rw [List.all_cons, isDigit_of_digit? hd, ih h]
    rfl

/-- Each digit makes a number at least ten times as large. -/
theorem le_of_digitsFrom (h : digitsFrom n cs = some m) : n * 10 ^ cs.length ≤ m := by
  induction cs generalizing n with
  | nil =>
    cases h
    simp
  | cons c cs ih =>
    obtain ⟨d, hd, h⟩ := Option.bind_eq_some_iff.mp h
    have := ih h
    rw [List.length_cons, pow_succ']
    calc n * (10 * 10 ^ cs.length) = (n * 10) * 10 ^ cs.length := by ring
      _ ≤ (n * 10 + d) * 10 ^ cs.length := Nat.mul_le_mul_right _ (Nat.le_add_right _ _)
      _ ≤ m := this

theorem lt_of_digitsFrom (h : digitsFrom n cs = some m) : m < (n + 1) * 10 ^ cs.length := by
  induction cs generalizing n with
  | nil =>
    cases h
    simp
  | cons c cs ih =>
    obtain ⟨d, hd, h⟩ := Option.bind_eq_some_iff.mp h
    have small := digit?_lt hd
    rw [List.length_cons, pow_succ']
    calc m < (n * 10 + d + 1) * 10 ^ cs.length := ih h
      _ ≤ ((n + 1) * 10) * 10 ^ cs.length := Nat.mul_le_mul_right _ (by omega)
      _ = (n + 1) * (10 * 10 ^ cs.length) := by ring

theorem digitsFrom_append {before after : List Char} (h : digitsFrom n before = some m) :
    digitsFrom n (before ++ after) = digitsFrom m after := by
  induction before generalizing n with
  | nil =>
    cases h
    rfl
  | cons c before ih =>
    obtain ⟨d, hd, h⟩ := Option.bind_eq_some_iff.mp h
    rw [List.cons_append, digitsFrom, hd, Option.bind_some, ih h]

/-- The only digits of any script that are ASCII characters are the ASCII digits. -/
theorem isDigit_of_ascii (h : Form.isDigit c = true) (ascii : c.toNat < 128) :
    isDigit c = true := by
  obtain ⟨start, mem, inside⟩ := List.any_eq_true.mp h
  rw [Bool.and_eq_true, decide_eq_true_eq, decide_eq_true_eq] at inside
  have far : ∀ start ∈ Unicode.zeros, start = 48 ∨ 128 ≤ start := by decide
  rcases far start mem with rfl | far
  · have low : '0' ≤ c := inside.1
    have high : c ≤ '9' := Nat.le_of_lt_succ inside.2
    simp [isDigit, low, high]
  · omega

theorem isBlank_of_isDigit (h : isDigit c = true) : isBlank c = false := by
  rw [isDigit, Bool.and_eq_true, decide_eq_true_eq, decide_eq_true_eq] at h
  have low : 48 ≤ c.toNat := h.1
  have high : c.toNat ≤ 57 := h.2
  simp only [isBlank, Bool.or_eq_false_iff, Bool.and_eq_false_iff, decide_eq_false_iff_not,
    beq_eq_false_iff_ne]
  omega

end Text

namespace Decimal

/-- The digits of a literal without a sign as one number, and how many follow the point. -/
def ofUnsigned? (cs : List Char) : Option (Nat × Nat) :=
  match Text.cutList '.' cs with
  | none => (Text.digits? cs).map fun n => (n, 0)
  | some (whole, fraction) => (Text.digits? (whole ++ fraction)).map fun n => (n, fraction.length)

/-- The number that a literal in ASCII digits means, with or without a sign. -/
def ofLiteral? (cs : List Char) : Option Decimal :=
  match cs with
  | '-' :: rest => (ofUnsigned? rest).map fun p => ofParts true p.1 p.2
  | '+' :: rest => (ofUnsigned? rest).map fun p => ofParts false p.1 p.2
  | _ => (ofUnsigned? cs).map fun p => ofParts false p.1 p.2

/-- So many digits always fit. -/
def safeDigits : Nat := 28

variable {cs whole fraction : List Char} {n m scale : Nat}

theorem lt_capacity (h : Text.digitsFrom 0 cs = some m) (short : cs.length ≤ safeDigits) :
    m < capacity :=
  calc m < (0 + 1) * 10 ^ cs.length := Text.lt_of_digitsFrom h
    _ ≤ (0 + 1) * 10 ^ safeDigits := Nat.mul_le_mul_left _ (Nat.pow_le_pow_right (by decide) short)
    _ ≤ capacity := by decide

/-! ## Reading what fits -/

theorem readFraction_eq (h : Text.digitsFrom n cs = some m) (fits : m < capacity)
    (short : scale + cs.length ≤ maxScale) :
    readFraction n scale cs = some (m, scale + cs.length) := by
  induction cs generalizing n scale with
  | nil =>
    cases h
    rfl
  | cons c cs ih =>
    obtain ⟨d, hd, h⟩ := Option.bind_eq_some_iff.mp h
    have least := Text.le_of_digitsFrom h
    have room : n * 10 + d < capacity :=
      Nat.lt_of_le_of_lt ((Nat.le_mul_of_pos_right _ (by positivity)).trans least) fits
    rw [List.length_cons] at short ⊢
    have more : (decide (maxScale ≤ scale) || decide (capacity ≤ n * 10 + d)) = false := by
      simp only [Bool.or_eq_false_iff, decide_eq_false_iff_not]
      omega
    rw [readFraction, hd, Option.bind_some, more, if_neg Bool.false_ne_true,
      ih h (by omega)]
    congr 2
    omega

/-- Digits that fit are read one by one, whatever follows. -/
theorem readInteger_append (h : Text.digitsFrom n whole = some m) (fits : m < capacity)
    (rest : List Char) : readInteger n (whole ++ rest) = readInteger m rest := by
  induction whole generalizing n with
  | nil =>
    cases h
    rfl
  | cons c whole ih =>
    obtain ⟨d, hd, h⟩ := Option.bind_eq_some_iff.mp h
    have least := Text.le_of_digitsFrom h
    have room : n * 10 + d < capacity :=
      Nat.lt_of_le_of_lt ((Nat.le_mul_of_pos_right _ (by positivity)).trans least) fits
    have noPoint : c ≠ '.' := by
      rintro rfl
      cases hd
    rw [List.cons_append, readInteger.eq_def]
    split
    · rename_i heq
      cases heq
    · rename_i heq
      cases heq
      exact absurd rfl noPoint
    · rename_i heq
      cases heq
      rw [hd, Option.bind_some, if_neg (by omega), ih h]

theorem isDigitOrPoint_of_all (h : cs.all Text.isDigit = true) :
    cs.all (fun c => Text.isDigit c || c == '.') = true := by
  rw [List.all_eq_true] at h ⊢
  exact fun c hc => by rw [h c hc, Bool.true_or]

theorem digits?_eq_some_iff : Text.digits? cs = some m ↔ cs ≠ [] ∧ Text.digitsFrom 0 cs = some m := by
  cases cs <;> simp [Text.digits?]

/-- A point at the end is left out. -/
theorem readUnsigned_eq {body : List Char}
    (allowed : cs.all (fun c => Text.isDigit c || c == '.') = true)
    (stripped : (if cs.getLast? = some '.' then cs.dropLast else cs) = body) (any : body ≠ []) :
    readUnsigned cs = readInteger 0 body := by
  have some' : cs ≠ [] := by
    rintro rfl
    exact any stripped.symm
  unfold readUnsigned
  simp only [allowed, stripped, List.isEmpty_eq_false_iff.mpr some',
    List.isEmpty_eq_false_iff.mpr any, Bool.not_true, Bool.or_false, Bool.false_eq_true, if_false]

theorem getLast?_ne_point (h : cs.all Text.isDigit = true) : cs.getLast? ≠ some '.' := by
  intro last
  exact absurd (List.all_eq_true.mp h '.' (List.mem_of_getLast? last)) (by decide)

theorem readUnsigned_digits (h : Text.digits? cs = some m) (short : cs.length ≤ safeDigits) :
    readUnsigned cs = some (m, 0) := by
  obtain ⟨any, h⟩ := digits?_eq_some_iff.mp h
  have all := Text.all_isDigit_of_digitsFrom h
  have read := readInteger_append h (lt_capacity h short) []
  rw [List.append_nil] at read
  rw [readUnsigned_eq (isDigitOrPoint_of_all all) (if_neg (getLast?_ne_point all)) any, read]
  rfl

theorem readUnsigned_point (h : Text.digits? (whole ++ fraction) = some m)
    (short : (whole ++ fraction).length ≤ safeDigits) :
    readUnsigned (whole ++ '.' :: fraction) = some (m, fraction.length) := by
  obtain ⟨any, h⟩ := digits?_eq_some_iff.mp h
  have all := Text.all_isDigit_of_digitsFrom h
  obtain ⟨allWhole, allFraction⟩ := Bool.and_eq_true_iff.mp (List.all_append ▸ all)
  have allowed : (whole ++ '.' :: fraction).all (fun c => Text.isDigit c || c == '.') = true := by
    rw [List.all_append, List.all_cons, isDigitOrPoint_of_all allWhole,
      isDigitOrPoint_of_all allFraction]
    rfl
  obtain ⟨n, hn⟩ := Text.digitsFrom_isSome (n := 0) allWhole
  have rest : Text.digitsFrom n fraction = some m := by rw [← Text.digitsFrom_append hn, h]
  have fits := lt_capacity h short
  have fitsWhole : n < capacity :=
    Nat.lt_of_le_of_lt ((Nat.le_mul_of_pos_right n (by positivity)).trans
      (Text.le_of_digitsFrom rest)) fits
  cases fraction with
  | nil =>
    have wholeAny : whole ≠ [] := by simpa using any
    have stripped : (if (whole ++ ['.']).getLast? = some '.' then (whole ++ ['.']).dropLast
        else whole ++ ['.']) = whole := by simp
    cases rest
    have read := readInteger_append hn fitsWhole []
    rw [List.append_nil] at read
    rw [readUnsigned_eq allowed stripped wholeAny, read]
    rfl
  | cons c fraction =>
    have last : (whole ++ '.' :: c :: fraction).getLast? ≠ some '.' := by
      rw [List.getLast?_append_of_ne_nil _ (by simp), List.getLast?_cons_cons]
      exact getLast?_ne_point allFraction
    rw [readUnsigned_eq allowed (if_neg last) (by simp), readInteger_append hn fitsWhole,
      readInteger]
    have room : 0 + (c :: fraction).length ≤ maxScale := by
      rw [List.length_append] at short
      exact Nat.le_trans (by omega) short
    rw [readFraction_eq rest fits room, Nat.zero_add]

/-- How many digits a literal has. -/
def literalDigits (cs : List Char) : Nat := (cs.filter Text.isDigit).length

theorem literalDigits_of_all (h : cs.all Text.isDigit = true) : literalDigits cs = cs.length := by
  rw [literalDigits, List.filter_eq_self.mpr (List.all_eq_true.mp h)]

theorem readUnsigned_of_ofUnsigned? {p : Nat × Nat} (h : ofUnsigned? cs = some p)
    (short : literalDigits cs ≤ safeDigits) : readUnsigned cs = some p := by
  unfold ofUnsigned? at h
  split at h
  · obtain ⟨n, hn, rfl⟩ := Option.map_eq_some_iff.mp h
    have all := Text.all_isDigit_of_digitsFrom (digits?_eq_some_iff.mp hn).2
    exact readUnsigned_digits hn (literalDigits_of_all all ▸ short)
  · rename_i whole fraction cut
    obtain ⟨n, hn, rfl⟩ := Option.map_eq_some_iff.mp h
    obtain ⟨rfl, -⟩ := Text.eq_append_of_cutList cut
    have all := Text.all_isDigit_of_digitsFrom (digits?_eq_some_iff.mp hn).2
    have same : literalDigits (whole ++ '.' :: fraction) = (whole ++ fraction).length := by
      rw [← literalDigits_of_all all, literalDigits, literalDigits, List.filter_append,
        List.filter_append, List.filter_cons_of_neg (by decide)]
    exact readUnsigned_point hn (same ▸ short)

/-- What a literal means is what is read, as long as its digits are sure to fit. -/
theorem parse_of_ofLiteral? {d : Decimal} (h : ofLiteral? cs = some d)
    (short : literalDigits cs ≤ safeDigits) : parse cs = some d := by
  have signed : ∀ {sign : Char} {rest : List Char}, Text.isDigit sign = false →
      literalDigits (sign :: rest) = literalDigits rest := by
    intro sign rest notDigit
    rw [literalDigits, List.filter_cons_of_neg (by rw [notDigit]; decide), literalDigits]
  unfold ofLiteral? at h
  split at h
  · obtain ⟨p, hp, rfl⟩ := Option.map_eq_some_iff.mp h
    rw [signed (by decide)] at short
    rw [parse, readUnsigned_of_ofUnsigned? hp short]
    rfl
  · obtain ⟨p, hp, rfl⟩ := Option.map_eq_some_iff.mp h
    rw [signed (by decide)] at short
    rw [parse, readUnsigned_of_ofUnsigned? hp short]
    rfl
  · rename_i noMinus noPlus
    obtain ⟨p, hp, rfl⟩ := Option.map_eq_some_iff.mp h
    unfold parse
    split
    · exact absurd rfl (noMinus _)
    · exact absurd rfl (noPlus _)
    · rw [readUnsigned_of_ofUnsigned? hp short]
      rfl

/-! ## Literals in ASCII digits -/

theorem ofUnsigned?_isSome (form : Form.unsigned cs = true) (ascii : ∀ c ∈ cs, c.toNat < 128) :
    ∃ p, ofUnsigned? cs = some p := by
  have digits : ∀ {cs : List Char}, (∀ c ∈ cs, c.toNat < 128) → cs.all Form.isDigit = true →
      cs.all Text.isDigit = true := by
    intro cs ascii h
    rw [List.all_eq_true] at h ⊢
    exact fun c hc => Text.isDigit_of_ascii (h c hc) (ascii c hc)
  have read : ∀ {cs : List Char}, cs ≠ [] → cs.all Text.isDigit = true →
      ∃ m, Text.digits? cs = some m := by
    intro cs any all
    obtain ⟨m, hm⟩ := Text.digitsFrom_isSome (n := 0) all
    exact ⟨m, digits?_eq_some_iff.mpr ⟨any, hm⟩⟩
  unfold Form.unsigned at form
  split at form
  · rename_i uncut
    rw [Form.digits, Bool.and_eq_true, Bool.not_eq_true', List.isEmpty_eq_false_iff] at form
    obtain ⟨m, hm⟩ := read form.1 (digits ascii form.2)
    exact ⟨(m, 0), by rw [ofUnsigned?, uncut]; simp only [hm, Option.map_some]⟩
  · rename_i whole fraction cut
    obtain ⟨rfl, -⟩ := Text.eq_append_of_cutList cut
    have parts : whole ++ fraction ≠ [] ∧ whole.all Form.isDigit = true ∧
        fraction.all Form.isDigit = true := by
      split at form
      · rename_i empty
        rw [List.isEmpty_iff.mp empty]
        rw [Form.digits, Bool.and_eq_true, Bool.not_eq_true', List.isEmpty_eq_false_iff] at form
        exact ⟨form.1, rfl, form.2⟩
      · rw [Form.digits, Bool.and_eq_true, Bool.and_eq_true, Bool.not_eq_true',
          List.isEmpty_eq_false_iff] at form
        exact ⟨by simp [form.1.1], form.1.2, form.2⟩
    obtain ⟨any, allWhole, allFraction⟩ := parts
    have all : (whole ++ fraction).all Text.isDigit = true := by
      rw [List.all_append, digits (fun c hc => ascii c (by simp [hc])) allWhole,
        digits (fun c hc => ascii c (by simp [hc])) allFraction]
      rfl
    obtain ⟨m, hm⟩ := read any all
    exact ⟨(m, fraction.length), by rw [ofUnsigned?, cut]; simp only [hm, Option.map_some]⟩

/-- A decimal literal in ASCII characters means a number. -/
theorem ofLiteral?_isSome (form : Form.decimal cs = true) (ascii : ∀ c ∈ cs, c.toNat < 128) :
    ∃ d, ofLiteral? cs = some d := by
  unfold Form.decimal Form.dropSign at form
  unfold ofLiteral?
  split at form
  · obtain ⟨p, hp⟩ := ofUnsigned?_isSome form fun c hc => ascii c (List.mem_cons_of_mem _ hc)
    exact ⟨ofParts false p.1 p.2, by simp [hp]⟩
  · obtain ⟨p, hp⟩ := ofUnsigned?_isSome form fun c hc => ascii c (List.mem_cons_of_mem _ hc)
    exact ⟨ofParts true p.1 p.2, by simp [hp]⟩
  · rename_i noPlus noMinus
    obtain ⟨p, hp⟩ := ofUnsigned?_isSome form ascii
    split
    · exact absurd rfl (noMinus _)
    · exact absurd rfl (noPlus _)
    · exact ⟨_, by rw [hp]; rfl⟩

theorem isBlank_of_ofUnsigned? {p : Nat × Nat} (h : ofUnsigned? cs = some p) :
    ∀ c ∈ cs, Text.isBlank c = false := by
  have clean : ∀ {cs : List Char} {n : Nat}, Text.digits? cs = some n →
      ∀ c ∈ cs, Text.isBlank c = false := by
    intro cs n hn c hc
    have all := Text.all_isDigit_of_digitsFrom (digits?_eq_some_iff.mp hn).2
    exact Text.isBlank_of_isDigit (List.all_eq_true.mp all c hc)
  unfold ofUnsigned? at h
  split at h
  · obtain ⟨n, hn, -⟩ := Option.map_eq_some_iff.mp h
    exact clean hn
  · rename_i whole fraction cut
    obtain ⟨n, hn, -⟩ := Option.map_eq_some_iff.mp h
    obtain ⟨rfl, -⟩ := Text.eq_append_of_cutList cut
    intro c hc
    rcases List.mem_append.mp hc with hc | hc
    · exact clean hn c (List.mem_append_left _ hc)
    · rcases List.mem_cons.mp hc with rfl | hc
      · rfl
      · exact clean hn c (List.mem_append_right _ hc)

theorem isBlank_of_ofLiteral? {d : Decimal} (h : ofLiteral? cs = some d) :
    ∀ c ∈ cs, Text.isBlank c = false := by
  unfold ofLiteral? at h
  split at h
  · obtain ⟨p, hp, -⟩ := Option.map_eq_some_iff.mp h
    exact List.forall_mem_cons.mpr ⟨rfl, isBlank_of_ofUnsigned? hp⟩
  · obtain ⟨p, hp, -⟩ := Option.map_eq_some_iff.mp h
    exact List.forall_mem_cons.mpr ⟨rfl, isBlank_of_ofUnsigned? hp⟩
  · obtain ⟨p, hp, -⟩ := Option.map_eq_some_iff.mp h
    exact isBlank_of_ofUnsigned? hp

/-! ## What facets say of numbers -/

theorem value_stripZeros (mantissa scale : Nat) :
    ((stripZeros mantissa scale).1 : ℚ) / 10 ^ (stripZeros mantissa scale).2 =
      (mantissa : ℚ) / 10 ^ scale := by
  induction scale generalizing mantissa with
  | zero => rfl
  | succ scale ih =>
    rw [stripZeros]
    split
    · rename_i zero
      obtain ⟨k, rfl⟩ := Nat.dvd_of_mod_eq_zero zero
      rw [Nat.mul_div_cancel_left k (by decide), ih, pow_succ]
      push_cast
      field_simp
    · rfl

theorem value_ofParts (negative : Bool) (mantissa scale : Nat) :
    (ofParts negative mantissa scale).value =
      (if negative then -((mantissa : ℚ) / 10 ^ scale) else (mantissa : ℚ) / 10 ^ scale) := by
  unfold ofParts value
  by_cases zero : mantissa = 0
  · subst zero
    simp
  · cases negative <;> simp [zero, neg_div]

/-- The signed mantissa. -/
def signedMantissa (d : Decimal) : ℤ := if d.negative then -(d.mantissa : ℤ) else d.mantissa

theorem value_mul_pow (d : Decimal) : d.value * 10 ^ d.scale = d.signedMantissa := by
  unfold value signedMantissa
  cases d.negative <;> simp

theorem value_normalize (d : Decimal) : d.normalize.value = d.value := by
  rw [normalize, value_ofParts, value_stripZeros]
  unfold value
  cases d.negative <;> simp [neg_div]

end Decimal

namespace FacetSet

/-- The facets that bound numbers hold of a number: it lies in the range, has so many fraction
digits at most, and so many digits in all. -/
structure HoldsOf (fs : FacetSet) (v : ℚ) : Prop where
  minInclusive : ∀ b ∈ fs.minInclusive, ∃ d, b.value = .decimal d ∧ d.value ≤ v
  minExclusive : ∀ b ∈ fs.minExclusive, ∃ d, b.value = .decimal d ∧ d.value < v
  maxInclusive : ∀ b ∈ fs.maxInclusive, ∃ d, b.value = .decimal d ∧ v ≤ d.value
  maxExclusive : ∀ b ∈ fs.maxExclusive, ∃ d, b.value = .decimal d ∧ v < d.value
  fractionDigits : ∀ b ∈ fs.fractionDigits, ∃ i : ℤ, v * 10 ^ b.value = i
  totalDigits : ∀ b ∈ fs.totalDigits, ∃ (i : ℤ) (k : ℕ), v * 10 ^ k = i ∧ |i| < 10 ^ b.value

variable {fs : FacetSet} {d : Decimal}

/-- Only numbers compare with numbers, and they do so by what they mean. -/
theorem exists_decimal_of_onSide {side : Ordering} {strict : Bool} {bound : OrderedValue}
    (h : (OrderedValue.decimal d).OnSide side strict bound) :
    ∃ e, bound = .decimal e ∧
      (Ord.compare d.value e.value = side ∨ Ord.compare d.value e.value = .eq ∧ strict = false) := by
  obtain ⟨o, compared, h⟩ := h
  cases bound with
  | decimal e =>
    refine ⟨e, rfl, ?_⟩
    rw [← Decimal.compare_eq]
    cases compared
    exact h
  | _ => cases compared

theorem holdsOf_of_fits (range : fs.FitsRange (.decimal d)) (digits : fs.FitsDigits d) :
    fs.HoldsOf d.value where
  minInclusive b hb := by
    obtain ⟨e, same, h⟩ := exists_decimal_of_onSide (range.minInclusive b hb)
    refine ⟨e, same, ?_⟩
    rcases h with h | ⟨h, -⟩
    · exact (compare_gt_iff_gt.mp h).le
    · exact (compare_eq_iff_eq.mp h).ge
  minExclusive b hb := by
    obtain ⟨e, same, h⟩ := exists_decimal_of_onSide (range.minExclusive b hb)
    refine ⟨e, same, ?_⟩
    rcases h with h | ⟨-, h⟩
    · exact compare_gt_iff_gt.mp h
    · cases h
  maxInclusive b hb := by
    obtain ⟨e, same, h⟩ := exists_decimal_of_onSide (range.maxInclusive b hb)
    refine ⟨e, same, ?_⟩
    rcases h with h | ⟨h, -⟩
    · exact (compare_lt_iff_lt.mp h).le
    · exact (compare_eq_iff_eq.mp h).le
  maxExclusive b hb := by
    obtain ⟨e, same, h⟩ := exists_decimal_of_onSide (range.maxExclusive b hb)
    refine ⟨e, same, ?_⟩
    rcases h with h | ⟨-, h⟩
    · exact compare_lt_iff_lt.mp h
    · cases h
  fractionDigits b hb := by
    obtain ⟨k, hk⟩ := Nat.exists_eq_add_of_le (digits.fractionDigits b hb)
    refine ⟨d.normalize.signedMantissa * 10 ^ k, ?_⟩
    rw [hk, pow_add, ← mul_assoc, ← d.value_normalize, Decimal.value_mul_pow]
    push_cast
    rfl
  totalDigits b hb := by
    refine ⟨d.normalize.signedMantissa, d.normalize.scale, ?_, ?_⟩
    · rw [← d.value_normalize, Decimal.value_mul_pow]
    · have counted := digits.totalDigits b hb
      have some' : 0 < b.value := Nat.lt_of_lt_of_le Nat.length_toDigits_pos counted
      have small := (Nat.length_toDigits_le_iff (by decide) some').mp counted
      have abs : |d.normalize.signedMantissa| = (d.normalize.mantissa : ℤ) := by
        unfold Decimal.signedMantissa
        cases d.normalize.negative <;> simp
      rw [abs]
      exact_mod_cast small

end FacetSet

end Xsd
