import Xsd.Proofs.Steps
import Xsd.Text.Utf8

/-!
# Texts and their bytes

Bytes that are a text are the encoding of that text, so different bytes are different texts.
-/

namespace Xsd.Text

private theorem map_eq_ok_iff {ε α β : Type} {x : Except ε α} {f : α → β} {b : β} :
    x.map f = .ok b ↔ ∃ a, x = .ok a ∧ f a = b := by
  cases x <;> simp [Except.map]

/-! ## Characters -/

theorem toNat_ofNat_of_lt {n : Nat} (h : n < 0xD800) : (Char.ofNat n).toNat = n := by
  rw [Char.toNat_ofNat, if_pos (Or.inl h)]

theorem toNat_ofNat_of_gt {n : Nat} (above : 0xDFFF < n) (below : n < 0x110000) :
    (Char.ofNat n).toNat = n := by
  rw [Char.toNat_ofNat, if_pos (Or.inr ⟨above, below⟩)]

theorem val_toNat (c : Char) : c.val.toNat = c.toNat := rfl

theorem eq_ofNat_of_toNat {b : UInt8} {n : Nat} (h : b.toNat = n) : b = UInt8.ofNat n := by
  rw [← h, UInt8.ofNat_toNat]

variable {a b c d : UInt8}

theorem toNat_of_isContinuation (h : isContinuation b) : 0x80 ≤ b.toNat ∧ b.toNat ≤ 0xBF := by
  simpa [isContinuation, UInt8.le_iff_toNat_le] using h

/-- The second byte of a character of three bytes leaves out the codes of shorter ones and those
that are no characters. -/
theorem toNat_of_fitsThree (h : fitsThree a b) : 0x80 ≤ b.toNat ∧ b.toNat ≤ 0xBF ∧
    (a.toNat = 0xE0 → 0xA0 ≤ b.toNat) ∧ (a.toNat = 0xED → b.toNat ≤ 0x9F) := by
  unfold fitsThree isContinuation at h
  simp only [beq_iff_eq, ← UInt8.toNat_inj, UInt8.le_iff_toNat_le, UInt8.reduceToNat] at h
  split at h
  · simp only [Bool.and_eq_true, decide_eq_true_eq] at h
    omega
  · split at h <;> simp only [Bool.and_eq_true, decide_eq_true_eq] at h <;> omega

/-- The second byte of a character of four bytes leaves out the codes of shorter ones and those
that are too great. -/
theorem toNat_of_fitsFour (h : fitsFour a b) : 0x80 ≤ b.toNat ∧ b.toNat ≤ 0xBF ∧
    (a.toNat = 0xF0 → 0x90 ≤ b.toNat) ∧ (a.toNat = 0xF4 → b.toNat ≤ 0x8F) := by
  unfold fitsFour isContinuation at h
  simp only [beq_iff_eq, ← UInt8.toNat_inj, UInt8.le_iff_toNat_le, UInt8.reduceToNat] at h
  split at h
  · simp only [Bool.and_eq_true, decide_eq_true_eq] at h
    omega
  · split at h <;> simp only [Bool.and_eq_true, decide_eq_true_eq] at h <;> omega

theorem utf8EncodeChar_one (h : a.toNat < 0x80) :
    String.utf8EncodeChar (Char.ofNat a.toNat) = [a] := by
  have code := toNat_ofNat_of_lt (n := a.toNat) (by omega)
  unfold String.utf8EncodeChar
  simp only [val_toNat, code]
  rw [if_pos (by omega), ← eq_ofNat_of_toNat rfl]

theorem utf8EncodeChar_two (ha : 0xC2 ≤ a.toNat ∧ a.toNat ≤ 0xDF) (hb : isContinuation b) :
    String.utf8EncodeChar (Char.ofNat ((a.toNat % 32) * 64 + low b)) = [a, b] := by
  have hb := toNat_of_isContinuation hb
  unfold low
  have code := toNat_ofNat_of_lt (n := (a.toNat % 32) * 64 + b.toNat % 64) (by omega)
  unfold String.utf8EncodeChar
  simp only [val_toNat, code]
  rw [if_neg (by omega), if_pos (by omega)]
  congr
  · exact (eq_ofNat_of_toNat (by omega)).symm
  · exact (eq_ofNat_of_toNat (by omega)).symm

theorem utf8EncodeChar_three (ha : 0xE0 ≤ a.toNat ∧ a.toNat ≤ 0xEF) (hb : fitsThree a b)
    (hc : isContinuation c) :
    String.utf8EncodeChar (Char.ofNat ((a.toNat % 16) * 4096 + low b * 64 + low c)) =
      [a, b, c] := by
  obtain ⟨least, most, first, last⟩ := toNat_of_fitsThree hb
  have hc := toNat_of_isContinuation hc
  unfold low
  have code : (Char.ofNat ((a.toNat % 16) * 4096 + b.toNat % 64 * 64 + c.toNat % 64)).toNat =
      (a.toNat % 16) * 4096 + b.toNat % 64 * 64 + c.toNat % 64 := by
    by_cases below : a.toNat ≤ 0xED
    · exact toNat_ofNat_of_lt (by omega)
    · exact toNat_ofNat_of_gt (by omega) (by omega)
  unfold String.utf8EncodeChar
  simp only [val_toNat, code]
  rw [if_neg (by omega), if_neg (by omega), if_pos (by omega)]
  congr
  · exact (eq_ofNat_of_toNat (by omega)).symm
  · exact (eq_ofNat_of_toNat (by omega)).symm
  · exact (eq_ofNat_of_toNat (by omega)).symm

theorem utf8EncodeChar_four (ha : 0xF0 ≤ a.toNat ∧ a.toNat ≤ 0xF4) (hb : fitsFour a b)
    (hc : isContinuation c) (hd : isContinuation d) :
    String.utf8EncodeChar
        (Char.ofNat ((a.toNat % 8) * 262144 + low b * 4096 + low c * 64 + low d)) =
      [a, b, c, d] := by
  obtain ⟨least, most, first, last⟩ := toNat_of_fitsFour hb
  have hc := toNat_of_isContinuation hc
  have hd := toNat_of_isContinuation hd
  unfold low
  have code := toNat_ofNat_of_gt
    (n := (a.toNat % 8) * 262144 + b.toNat % 64 * 4096 + c.toNat % 64 * 64 + d.toNat % 64)
    (by omega) (by omega)
  unfold String.utf8EncodeChar
  simp only [val_toNat, code]
  rw [if_neg (by omega), if_neg (by omega), if_neg (by omega)]
  congr
  · exact (eq_ofNat_of_toNat (by omega)).symm
  · exact (eq_ofNat_of_toNat (by omega)).symm
  · exact (eq_ofNat_of_toNat (by omega)).symm
  · exact (eq_ofNat_of_toNat (by omega)).symm

/-- The bytes of a character are its encoding. -/
theorem take_of_utf8Step {bytes : List UInt8} {c : Char} {size : Nat}
    (h : utf8Step bytes = .char c size) : bytes.take size = String.utf8EncodeChar c := by
  unfold utf8Step at h
  split at h
  · cases h
  rename_i a rest
  simp only [UInt8.lt_iff_toNat_lt, UInt8.le_iff_toNat_le, Bool.and_eq_true, decide_eq_true_eq,
    UInt8.reduceToNat] at h
  split at h
  · cases h
    exact (utf8EncodeChar_one ‹_›).symm
  split at h
  · split at h
    · cases h
    split at h <;> cases h
    exact (utf8EncodeChar_two ‹_› ‹_›).symm
  split at h
  · split at h
    · cases h
    split at h
    · cases h
    rename_i fits
    split at h
    · cases h
    split at h <;> cases h
    exact (utf8EncodeChar_three ‹_› (by simpa using fits) ‹_›).symm
  split at h
  · split at h
    · cases h
    split at h
    · cases h
    rename_i fits
    split at h
    · cases h
    split at h
    · cases h
    rename_i third
    split at h
    · cases h
    split at h <;> cases h
    exact (utf8EncodeChar_four ‹_› (by simpa using fits) (by simpa using third) ‹_›).symm
  · cases h

/-! ## Texts -/

theorem eq_nil_of_utf8Step {bytes : List UInt8} (h : utf8Step bytes = .done) : bytes = [] := by
  cases bytes with
  | nil => rfl
  | cons a rest =>
    simp only [utf8Step] at h
    repeat' split at h
    all_goals cases h

theorem flatMap_of_utf8From {index fuel : Nat} {bytes : List UInt8} {cs : List Char}
    (h : utf8From index fuel bytes = .ok cs) (enough : bytes.length < fuel) :
    cs.flatMap String.utf8EncodeChar = bytes := by
  induction fuel generalizing index bytes cs with
  | zero => omega
  | succ fuel ih =>
    rw [utf8From] at h
    split at h
    · rename_i step
      cases h
      exact (eq_nil_of_utf8Step step).symm
    · rename_i c size step
      obtain ⟨rest, further, rfl⟩ := map_eq_ok_iff.mp h
      have first := take_of_utf8Step step
      have longer : 0 < (bytes.take size).length := by
        rw [first, String.length_utf8EncodeChar]
        exact Char.utf8Size_pos c
      rw [List.length_take] at longer
      rw [List.flatMap_cons, ih further (by rw [List.length_drop]; omega), ← first,
        List.take_append_drop]
    · cases h
    · cases h

/-- Bytes that are a text are its encoding. -/
theorem flatMap_of_ofUtf8 {bytes : List UInt8} {s : String} (h : ofUtf8 bytes = .ok s) :
    s.toList.flatMap String.utf8EncodeChar = bytes := by
  obtain ⟨cs, read, rfl⟩ := map_eq_ok_iff.mp h
  rw [String.toList_ofList]
  exact flatMap_of_utf8From read (Nat.lt_succ_self _)

/-- Different bytes are different texts. -/
theorem eq_of_ofUtf8 {bytes other : List UInt8} {s : String} (h : ofUtf8 bytes = .ok s)
    (same : ofUtf8 other = .ok s) : bytes = other := by
  rw [← flatMap_of_ofUtf8 h, flatMap_of_ofUtf8 same]

end Xsd.Text
