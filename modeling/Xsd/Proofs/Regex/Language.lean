import Xsd.Proofs.Regex.Search

/-!
# Languages of expressions

An expression without requirements of the position spells a language: it matches between two
positions just if a word of the language stands there. An expression of this kind that is put
between the start and the end of the text is found in a text just if the text is such a word.
-/

namespace Xsd.Regex

open Computability

/-- A word of the language stands between the positions of the text. -/
def Stands (l : Language Char) (text : List Char) (i j : Nat) : Prop :=
  ∃ w ∈ l, w <+: text.drop i ∧ j = i + w.length

/-- The words that consist of so many words of the language, as the bounds allow. -/
def repeated (l : Language Char) (min : Nat) (max : Option Nat) : Language Char :=
  { w | ∃ n, min ≤ n ∧ (∀ m ∈ max, n ≤ m) ∧ w ∈ l ^ n }

section

variable {l m : Language Char} {text : List Char} {i j : Nat}

theorem stands_one_iff : Stands 1 text i j ↔ i = j := by
  constructor
  · rintro ⟨w, empty, -, rfl⟩
    rw [(Language.mem_one w).mp empty, List.length_nil, Nat.add_zero]
  · rintro rfl
    exact ⟨[], Language.nil_mem_one, List.nil_prefix, rfl⟩

theorem stands_add_iff : Stands (l + m) text i j ↔ Stands l text i j ∨ Stands m text i j := by
  simp only [Stands, Language.mem_add, or_and_right, exists_or]

theorem stands_mul_iff :
    Stands (l * m) text i j ↔ ∃ k, Stands l text i k ∧ Stands m text k j := by
  constructor
  · rintro ⟨w, mem, stands, rfl⟩
    obtain ⟨a, inl, b, inm, rfl⟩ := Language.mem_mul.mp mem
    obtain ⟨rest, whole⟩ := stands
    refine ⟨i + a.length, ⟨a, inl, ⟨b ++ rest, by simpa using whole⟩, rfl⟩, b, inm, ⟨rest, ?_⟩, ?_⟩
    · rw [← List.drop_drop, ← whole, List.append_assoc, List.drop_left]
    · rw [List.length_append, Nat.add_assoc]
  · rintro ⟨k, ⟨a, inl, ⟨rest, whole⟩, rfl⟩, b, inm, ⟨last, tail⟩, rfl⟩
    refine ⟨a ++ b, Language.append_mem_mul inl inm, ⟨last, ?_⟩, ?_⟩
    · rw [← List.drop_drop, ← whole, List.drop_left] at tail
      rw [List.append_assoc, tail, whole]
    · rw [List.length_append, Nat.add_assoc]

theorem stands_pow_iff (n : Nat) : Stands (l ^ n) text i j ↔ Steps (Stands l text) n i j := by
  induction n generalizing i with
  | zero => rw [pow_zero, stands_one_iff, Steps]
  | succ n ih => simp only [pow_succ', stands_mul_iff, Steps, ih]

theorem stands_repeated_iff (min : Nat) (max : Option Nat) : Stands (repeated l min max) text i j ↔
    ∃ n, min ≤ n ∧ (∀ m ∈ max, n ≤ m) ∧ Steps (Stands l text) n i j := by
  simp only [← stands_pow_iff]
  constructor
  · rintro ⟨w, ⟨n, least, most, mem⟩, stands⟩
    exact ⟨n, least, most, w, mem, stands⟩
  · rintro ⟨n, least, most, w, mem, stands⟩
    exact ⟨w, ⟨n, least, most, mem⟩, stands⟩

theorem repeated_none (min : Nat) : repeated l min none = l ^ min * l∗ := by
  ext w
  rw [Language.kstar_eq_iSup_pow, Language.mul_iSup, Language.mem_iSup]
  simp only [← pow_add]
  constructor
  · rintro ⟨n, least, -, mem⟩
    obtain ⟨more, rfl⟩ := Nat.exists_eq_add_of_le least
    exact ⟨more, mem⟩
  · rintro ⟨more, mem⟩
    exact ⟨min + more, Nat.le_add_right _ _, by simp, mem⟩

theorem repeated_self (n : Nat) : repeated l n (some n) = l ^ n := by
  ext w
  constructor
  · rintro ⟨m, least, most, mem⟩
    obtain rfl := le_antisymm least (most n rfl)
    exact mem
  · exact fun mem => ⟨n, le_rfl, by simp, mem⟩

theorem repeated_zero_one : repeated l 0 (some 1) = 1 + l := by
  ext w
  rw [Language.mem_add]
  constructor
  · rintro ⟨n, -, most, mem⟩
    rcases Nat.le_one_iff_eq_zero_or_eq_one.mp (most 1 rfl) with rfl | rfl
    · exact Or.inl (pow_zero l ▸ mem)
    · exact Or.inr (pow_one l ▸ mem)
  · rintro (mem | mem)
    · exact ⟨0, le_rfl, by simp, (pow_zero l).symm ▸ mem⟩
    · exact ⟨1, Nat.zero_le 1, by simp, (pow_one l).symm ▸ mem⟩

end

theorem matches_start_iff {text : List Char} {i j : Nat} :
    Matches text (.look .start) i j ↔ i = j ∧ i = 0 := by
  rw [matches_look_iff]
  constructor
  · rintro ⟨⟨inside, holds⟩, same⟩
    refine ⟨same, ?_⟩
    by_contra later
    rw [if_neg later, List.getElem?_eq_getElem (by omega)] at holds
    cases holds
  · rintro ⟨rfl, rfl⟩
    exact ⟨⟨Nat.zero_le _, rfl⟩, rfl⟩

theorem matches_finish_iff {text : List Char} {i j : Nat} :
    Matches text (.look .finish) i j ↔ i = j ∧ i = text.length := by
  rw [matches_look_iff]
  constructor
  · rintro ⟨⟨inside, holds⟩, same⟩
    refine ⟨same, inside.antisymm ?_⟩
    by_contra earlier
    rw [List.getElem?_eq_getElem (not_le.mp earlier)] at holds
    cases holds
  · rintro ⟨rfl, rfl⟩
    refine ⟨⟨le_rfl, ?_⟩, rfl⟩
    rw [List.getElem?_eq_none le_rfl]
    rfl

theorem contains_single (d c : Char) : (CharSet.single d).contains c = (c == d) := by
  rw [CharSet.single, CharSet.contains, Bool.eq_iff_iff, Bool.and_eq_true, decide_eq_true_iff,
    decide_eq_true_iff, beq_iff_eq, le_antisymm_iff, and_comm]

/-- The expression matches where a word of the language stands, and nowhere else. -/
structure Spells (r : Regex) (l : Language Char) : Prop where
  bounded : r.IsBounded
  matches_iff : ∀ text i j, Matches text r i j ↔ Stands l text i j

namespace Spells

variable {a b : Regex} {l m : Language Char}

theorem empty : Spells .empty 1 := by
  refine ⟨trivial, fun text i j => ?_⟩
  rw [matches_empty_iff, stands_one_iff]

theorem set {s : CharSet} {p : Char → Bool} (h : ∀ c, s.contains c = p c) :
    Spells (.set s) { w | ∃ c, p c = true ∧ w = [c] } := by
  refine ⟨trivial, fun text i j => ?_⟩
  rw [matches_set_iff]
  simp only [← h]
  constructor
  · rintro ⟨⟨c, at_i, member⟩, rfl⟩
    obtain ⟨inside, rfl⟩ := List.getElem?_eq_some_iff.mp at_i
    refine ⟨[text[i]], ⟨_, member, rfl⟩, ⟨text.drop (i + 1), ?_⟩, rfl⟩
    rw [List.drop_eq_getElem_cons inside]
    rfl
  · rintro ⟨w, ⟨c, member, rfl⟩, ⟨rest, whole⟩, rfl⟩
    refine ⟨⟨c, ?_, member⟩, rfl⟩
    rw [← Nat.add_zero i, ← List.getElem?_drop, ← whole]
    rfl

theorem single (c : Char) : Spells (.set (.single c)) { [c] } := by
  have one : ({ w | ∃ d, (d == c) = true ∧ w = [d] } : Language Char) = { [c] } := by
    ext w
    constructor
    · rintro ⟨d, same, rfl⟩
      exact congrArg ([·]) (eq_of_beq same)
    · rintro rfl
      exact ⟨c, beq_self_eq_true c, rfl⟩
  exact one ▸ set (contains_single c)

theorem seq (ha : Spells a l) (hb : Spells b m) : Spells (.seq a b) (l * m) := by
  refine ⟨⟨ha.bounded, hb.bounded⟩, fun text i j => ?_⟩
  simp only [matches_seq_iff, stands_mul_iff, ha.matches_iff, hb.matches_iff]

theorem alt (ha : Spells a l) (hb : Spells b m) : Spells (.alt a b) (l + m) := by
  refine ⟨⟨ha.bounded, hb.bounded⟩, fun text i j => ?_⟩
  simp only [matches_alt_iff, stands_add_iff, ha.matches_iff, hb.matches_iff]

theorem group (ha : Spells a l) (index : Option Nat) : Spells (.group a index) l := by
  refine ⟨ha.bounded, fun text i j => ?_⟩
  rw [matches_group_iff, ha.matches_iff]

theorem rep (ha : Spells a l) {min : Nat} {max : Option Nat} (ordered : ∀ m ∈ max, min ≤ m)
    (greedy : Bool) : Spells (.rep a min max greedy) (repeated l min max) := by
  refine ⟨⟨ha.bounded, ordered⟩, fun text i j => ?_⟩
  have same : Matches text a = Stands l text := by
    funext i j
    exact propext (ha.matches_iff text i j)
  cases max with
  | none => simp [matches_rep_none_iff, stands_repeated_iff, same]
  | some max => simp [matches_rep_some_iff, stands_repeated_iff, same]

/-- Between the start and the end, the search finds the words of the language. -/
theorem search_iff (ha : Spells a l) (text : List Char) :
    (Regex.seq (.look .start) (.seq a (.look .finish))).search text = true ↔ text ∈ l := by
  have bounded : (Regex.seq (.look .start) (.seq a (.look .finish))).IsBounded :=
    ⟨trivial, ha.bounded, trivial⟩
  rw [search_iff_matches bounded]
  constructor
  · rintro ⟨i, j, -, h⟩
    simp only [matches_seq_iff] at h
    obtain ⟨k, atStart, n, inner, atFinish⟩ := h
    obtain ⟨rfl, first⟩ := matches_start_iff.mp atStart
    obtain ⟨rfl, last⟩ := matches_finish_iff.mp atFinish
    obtain ⟨w, mem, stands, whole⟩ := (ha.matches_iff text _ _).mp inner
    rw [first, List.drop_zero] at stands
    rw [stands.eq_of_length (by omega)] at mem
    exact mem
  · intro mem
    have inner : Matches text a 0 text.length := by
      rw [ha.matches_iff]
      exact ⟨text, mem, by rw [List.drop_zero], by rw [Nat.zero_add]⟩
    exact ⟨0, text.length, Nat.zero_le _, .seq (matches_start_iff.mpr ⟨rfl, rfl⟩)
      (.seq inner (matches_finish_iff.mpr ⟨rfl, rfl⟩))⟩

theorem unique (ha : Spells a l) (ha' : Spells a m) : l = m := by
  ext w
  rw [← ha.search_iff, ha'.search_iff]

end Spells

end Xsd.Regex
