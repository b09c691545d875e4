import Mathlib
import Xsd.Regex.Basic

/-!
# The search

The search takes all ways through an expression at once, on sets of positions. It comes to the
positions at which a match ends that starts at one of those it has started from, and so it finds
something just if some part of the text matches.
-/

namespace Xsd.Regex

/-- Where so many steps lead. -/
def Steps (R : Nat → Nat → Prop) : Nat → Nat → Nat → Prop
  | 0, i, j => i = j
  | n + 1, i, j => ∃ k, R i k ∧ Steps R n k j

section

variable {R : Nat → Nat → Prop} {step : Nat → Nat} {i j : Nat}

theorem Steps.add_iff (m n : Nat) :
    Steps R (m + n) i j ↔ ∃ k, Steps R m i k ∧ Steps R n k j := by
  induction m generalizing i with
  | zero => simp [Steps]
  | succ m ih =>
    rw [Nat.succ_add]
    simp only [Steps, ih]
    constructor
    · rintro ⟨k, first, l, more, rest⟩
      exact ⟨l, ⟨k, first, more⟩, rest⟩
    · rintro ⟨l, ⟨k, first, more⟩, rest⟩
      exact ⟨k, first, l, more, rest⟩

/-- What steps that do not go back, or on after the last position, do not do together either. -/
theorem Steps.inside {last : Nat} (inside : ∀ i j, R i j → i ≤ j ∧ (i < j → j ≤ last)) {n : Nat}
    (h : Steps R n i j) : i ≤ j ∧ (i < j → j ≤ last) := by
  induction n generalizing i with
  | zero =>
    cases h
    omega
  | succ n ih =>
    obtain ⟨k, first, rest⟩ := h
    have := inside i k first
    have := ih rest
    omega

/-- Steps that lead nowhere can be left out, and each of the others leads further. -/
theorem Steps.shorten {last : Nat} (inside : ∀ i j, R i j → i ≤ j ∧ (i < j → j ≤ last)) {n : Nat}
    (h : Steps R n i j) : ∃ m ≤ last, Steps R m i j := by
  suffices ∃ m ≤ j - i, Steps R m i j by
    obtain ⟨m, few, steps⟩ := this
    have := h.inside inside
    exact ⟨m, by omega, steps⟩
  induction n generalizing i with
  | zero => exact ⟨0, Nat.zero_le _, h⟩
  | succ n ih =>
    obtain ⟨k, first, rest⟩ := h
    obtain ⟨m, few, short⟩ := ih rest
    have := rest.inside inside
    rcases (inside i k first).1.eq_or_lt with rfl | further
    · exact ⟨m, few, short⟩
    · exact ⟨m + 1, by omega, k, first, short⟩

/-! ## Sets of positions -/

/-- On sets of positions, the step follows the relation. -/
def Follows (step : Nat → Nat) (R : Nat → Nat → Prop) : Prop :=
  ∀ s j, (step s).testBit j = true ↔ ∃ i, s.testBit i = true ∧ R i j

namespace Follows

theorem comp {R' : Nat → Nat → Prop} {step' : Nat → Nat} (h : Follows step R)
    (h' : Follows step' R') :
    Follows (fun s => step' (step s)) fun i j => ∃ k, R i k ∧ R' k j := by
  intro s j
  simp only [h' (step s) j, h s]
  constructor
  · rintro ⟨k, ⟨i, start, first⟩, second⟩
    exact ⟨i, start, k, first, second⟩
  · rintro ⟨i, start, k, first, second⟩
    exact ⟨k, ⟨i, start, first⟩, second⟩

theorem times (h : Follows step R) (n : Nat) : Follows (Regex.times step n) (Steps R n) := by
  induction n with
  | zero => simp [Follows, Regex.times, Steps]
  | succ n ih =>
    intro s j
    have whole : (Regex.times step n (step s)).testBit j = true ↔
        ∃ i, s.testBit i = true ∧ Steps R (n + 1) i j := h.comp ih s j
    rw [← whole, Regex.times]
    split
    · rename_i fixed
      have still : ∀ m, Regex.times step m s = s := by
        intro m
        cases m with
        | zero => rfl
        | succ m => rw [Regex.times, if_pos fixed]
      rw [fixed, still]
    · rfl

/-- Where a step leads to nothing new, no number of steps does. -/
theorem closed (h : Follows step R) {s : Nat} (fixed : s ||| step s = s) {n : Nat}
    (start : s.testBit i = true) (steps : Steps R n i j) : s.testBit j = true := by
  induction n generalizing i with
  | zero => exact steps ▸ start
  | succ n ih =>
    obtain ⟨k, first, rest⟩ := steps
    refine ih ?_ rest
    rw [← fixed, Nat.testBit_or, (h s k).mpr ⟨i, start, first⟩, Bool.or_true]

theorem upTo (h : Follows step R) (n : Nat) :
    Follows (Regex.upTo step n) fun i j => ∃ m ≤ n, Steps R m i j := by
  induction n with
  | zero => simp [Follows, Regex.upTo, Steps]
  | succ n ih =>
    intro s j
    rw [Regex.upTo]
    split
    · rename_i fixed
      constructor
      · exact fun start => ⟨j, start, 0, Nat.zero_le _, rfl⟩
      · rintro ⟨i, start, m, -, steps⟩
        exact h.closed fixed start steps
    · simp only [ih (s ||| step s), Nat.testBit_or, Bool.or_eq_true, h s]
      constructor
      · rintro ⟨k, start | ⟨i, start, first⟩, m, few, rest⟩
        · exact ⟨k, start, m, by omega, rest⟩
        · exact ⟨i, start, m + 1, by omega, k, first, rest⟩
      · rintro ⟨i, start, m, few, steps⟩
        cases m with
        | zero => exact ⟨i, Or.inl start, 0, Nat.zero_le _, steps⟩
        | succ m =>
          obtain ⟨k, first, rest⟩ := steps
          exact ⟨k, Or.inr ⟨i, start, first⟩, m, by omega, rest⟩

end Follows

end

theorem testBit_double_add (n b : Nat) (small : b < 2) (i : Nat) :
    (2 * n + b).testBit (i + 1) = n.testBit i := by
  rw [Nat.testBit_add_one]
  congr 1
  omega

theorem testBit_double_add_zero (n b : Nat) :
    (2 * n + b).testBit 0 = decide (b % 2 = 1) := by
  rw [Nat.testBit_zero]
  congr 1
  apply propext
  omega

theorem testBit_positions (s : CharSet) (text : List Char) (i : Nat) :
    (s.positions text).testBit i = true ↔ ∃ c, text[i]? = some c ∧ s.contains c = true := by
  induction text generalizing i with
  | nil => simp [CharSet.positions]
  | cons c cs ih =>
    rw [CharSet.positions]
    cases i with
    | zero =>
      rw [testBit_double_add_zero]
      split <;> simp [*]
    | succ i =>
      rw [testBit_double_add _ _ (by split <;> decide), ih, List.getElem?_cons_succ]

theorem testBit_lookPositions (l : Look) (before : Option Char) (text : List Char) (i : Nat) :
    (l.positions before text).testBit i = true ↔ i ≤ text.length ∧
      l.holds (if i = 0 then before else text[i - 1]?) text[i]? = true := by
  induction text generalizing before i with
  | nil =>
    rw [Look.positions]
    cases i with
    | zero => split <;> simp [*]
    | succ i => split <;> simp [Nat.testBit_add_one]
  | cons c cs ih =>
    rw [Look.positions]
    cases i with
    | zero =>
      rw [testBit_double_add_zero]
      split <;> simp [*]
    | succ i =>
      rw [testBit_double_add _ _ (by split <;> decide), ih, List.length_cons,
        Nat.add_le_add_iff_right]
      cases i <;> simp

/-! ## Expressions -/

/-- No repetition wants more than it allows. -/
def IsBounded : Regex → Prop
  | .empty | .set _ | .look _ => True
  | .seq a b | .alt a b => a.IsBounded ∧ b.IsBounded
  | .rep a min max _ => a.IsBounded ∧ ∀ n ∈ max, min ≤ n
  | .group a _ => a.IsBounded

variable {text : List Char} {r a b : Regex} {i j : Nat}

/-- A match does not go back, and does not go on after the end. -/
theorem Matches.inside (h : Matches text r i j) : i ≤ j ∧ (i < j → j ≤ text.length) := by
  induction h with
  | empty i => omega
  | set at_i member =>
    have := (List.getElem?_eq_some_iff.mp at_i).1
    omega
  | look inside holds => omega
  | seq first second ih ih' => omega
  | altLeft left ih => exact ih
  | altRight right ih => exact ih
  | repDone i => omega
  | repLast bound first rest ih ih' => omega
  | repMore first rest ih ih' => omega
  | group inner ih => exact ih

theorem matches_empty_iff : Matches text .empty i j ↔ i = j := by
  constructor
  · rintro ⟨⟩
    rfl
  · rintro rfl
    exact .empty i

theorem matches_set_iff {set : CharSet} : Matches text (.set set) i j ↔
    (∃ c, text[i]? = some c ∧ set.contains c = true) ∧ j = i + 1 := by
  constructor
  · intro h
    cases h with
    | set at_i member => exact ⟨⟨_, at_i, member⟩, rfl⟩
  · rintro ⟨⟨c, at_i, member⟩, rfl⟩
    exact .set at_i member

theorem matches_look_iff {l : Look} : Matches text (.look l) i j ↔
    (i ≤ text.length ∧ l.holds (if i = 0 then none else text[i - 1]?) text[i]? = true) ∧ i = j := by
  constructor
  · intro h
    cases h with
    | look inside holds => exact ⟨⟨inside, holds⟩, rfl⟩
  · rintro ⟨⟨inside, holds⟩, rfl⟩
    exact .look inside holds

theorem matches_seq_iff :
    Matches text (.seq a b) i j ↔ ∃ k, Matches text a i k ∧ Matches text b k j := by
  constructor
  · intro h
    cases h with
    | seq first second => exact ⟨_, first, second⟩
  · rintro ⟨k, first, second⟩
    exact .seq first second

theorem matches_alt_iff :
    Matches text (.alt a b) i j ↔ Matches text a i j ∨ Matches text b i j := by
  constructor
  · intro h
    cases h with
    | altLeft left => exact Or.inl left
    | altRight right => exact Or.inr right
  · rintro (left | right)
    · exact .altLeft left
    · exact .altRight right

theorem matches_group_iff {index : Option Nat} :
    Matches text (.group a index) i j ↔ Matches text a i j := by
  constructor
  · intro h
    cases h with
    | group inner => exact inner
  · exact .group

theorem matches_rep_some_iff {min max : Nat} {greedy : Bool} :
    Matches text (.rep a min (some max) greedy) i j ↔
      ∃ n, min ≤ n ∧ n ≤ max ∧ Steps (Matches text a) n i j := by
  constructor
  · generalize whole : Regex.rep a min (some max) greedy = r
    intro h
    induction h generalizing min max with
    | repDone i =>
      cases whole
      exact ⟨0, le_rfl, Nat.zero_le _, rfl⟩
    | repLast bound first rest ih ih' =>
      cases whole
      obtain ⟨n, least, most, steps⟩ := ih' rfl
      exact ⟨n + 1, by omega, by omega, _, first, steps⟩
    | _ => cases whole
  · rintro ⟨n, least, most, steps⟩
    induction n generalizing i min max with
    | zero =>
      cases steps
      cases Nat.le_zero.mp least
      exact .repDone _
    | succ n ih =>
      obtain ⟨k, first, rest⟩ := steps
      exact .repLast (by omega) first (ih (by omega) (by omega) rest)

theorem matches_rep_none_iff {min : Nat} {greedy : Bool} :
    Matches text (.rep a min none greedy) i j ↔
      ∃ n, min ≤ n ∧ Steps (Matches text a) n i j := by
  constructor
  · generalize whole : Regex.rep a min none greedy = r
    intro h
    induction h generalizing min with
    | repDone i =>
      cases whole
      exact ⟨0, le_rfl, rfl⟩
    | repMore first rest ih ih' =>
      cases whole
      obtain ⟨n, least, steps⟩ := ih' rfl
      exact ⟨n + 1, by omega, _, first, steps⟩
    | _ => cases whole
  · rintro ⟨n, least, steps⟩
    induction n generalizing i min with
    | zero =>
      cases steps
      cases Nat.le_zero.mp least
      exact .repDone _
    | succ n ih =>
      obtain ⟨k, first, rest⟩ := steps
      exact .repMore first (ih (by omega) rest)

/-- So many steps at least lead as far as that many and then no more than there are positions. -/
theorem steps_iff_upTo (min : Nat) :
    (∃ n, min ≤ n ∧ Steps (Matches text a) n i j) ↔
      ∃ k, Steps (Matches text a) min i k ∧
        ∃ m ≤ text.length + 1, Steps (Matches text a) m k j := by
  constructor
  · rintro ⟨n, least, steps⟩
    obtain ⟨more, rfl⟩ := Nat.exists_eq_add_of_le least
    obtain ⟨k, first, rest⟩ := (Steps.add_iff min more).mp steps
    obtain ⟨m, few, short⟩ := rest.shorten fun i j h => h.inside
    exact ⟨k, first, m, by omega, short⟩
  · rintro ⟨k, first, m, -, rest⟩
    exact ⟨min + m, Nat.le_add_right _ _, (Steps.add_iff min m).mpr ⟨k, first, rest⟩⟩

/-- As many steps as the bounds allow lead as far as the least number and then no more than the
difference. -/
theorem steps_iff_between {min max : Nat} (ordered : min ≤ max) :
    (∃ n, min ≤ n ∧ n ≤ max ∧ Steps (Matches text a) n i j) ↔
      ∃ k, Steps (Matches text a) min i k ∧ ∃ m ≤ max - min, Steps (Matches text a) m k j := by
  constructor
  · rintro ⟨n, least, most, steps⟩
    obtain ⟨more, rfl⟩ := Nat.exists_eq_add_of_le least
    obtain ⟨k, first, rest⟩ := (Steps.add_iff min more).mp steps
    exact ⟨k, first, more, by omega, rest⟩
  · rintro ⟨k, first, m, few, rest⟩
    exact ⟨min + m, by omega, by omega, (Steps.add_iff min m).mpr ⟨k, first, rest⟩⟩

/-- By induction on the expression. -/
theorem follows_reach (bounded : r.IsBounded) : Follows (reach text r) (Matches text r) := by
  induction r with
  | empty =>
    intro s j
    simp [reach, matches_empty_iff]
  | set set =>
    intro s j
    rw [reach, Nat.testBit_shiftLeft, Bool.and_eq_true, decide_eq_true_iff, Nat.testBit_and,
      Bool.and_eq_true, testBit_positions]
    simp only [matches_set_iff]
    constructor
    · rintro ⟨next, start, reads⟩
      exact ⟨j - 1, start, reads, (Nat.sub_add_cancel next).symm⟩
    · rintro ⟨i, start, reads, rfl⟩
      exact ⟨Nat.le_add_left 1 i, start, reads⟩
  | look l =>
    intro s j
    rw [reach, Nat.testBit_and, Bool.and_eq_true, testBit_lookPositions]
    simp only [matches_look_iff]
    constructor
    · rintro ⟨start, holds⟩
      exact ⟨j, start, holds, rfl⟩
    · rintro ⟨i, start, holds, rfl⟩
      exact ⟨start, holds⟩
  | seq a b iha ihb =>
    intro s j
    rw [reach, (iha bounded.1).comp (ihb bounded.2) s j]
    simp only [matches_seq_iff]
  | alt a b iha ihb =>
    intro s j
    rw [reach, Nat.testBit_or, Bool.or_eq_true, iha bounded.1 s j, ihb bounded.2 s j, ← exists_or]
    simp only [matches_alt_iff, and_or_left]
  | rep a min max greedy ih =>
    have step := ih bounded.1
    intro s j
    cases max with
    | none =>
      rw [reach, (step.times min).comp (step.upTo (text.length + 1)) s j]
      simp only [matches_rep_none_iff, steps_iff_upTo]
    | some max =>
      rw [reach, (step.times min).comp (step.upTo (max - min)) s j]
      simp only [matches_rep_some_iff, steps_iff_between (bounded.2 max rfl)]
  | group a index ih =>
    intro s j
    rw [reach, ih bounded s j]
    simp only [matches_group_iff]

/-- The search finds whether an expression matches some part of the text. -/
theorem search_iff_matches (bounded : r.IsBounded) :
    r.search text = true ↔ ∃ i j, i ≤ text.length ∧ Matches text r i j := by
  have starts (i : Nat) :
      ((1 <<< (text.length + 1)) - 1).testBit i = true ↔ i ≤ text.length := by
    rw [Nat.one_shiftLeft, Nat.testBit_two_pow_sub_one, decide_eq_true_iff, Nat.lt_succ_iff]
  rw [search, bne_iff_ne]
  constructor
  · intro found
    obtain ⟨j, reached⟩ := Nat.exists_testBit_of_ne_zero found
    obtain ⟨i, start, part⟩ := (follows_reach bounded _ _).mp reached
    exact ⟨i, j, (starts i).mp start, part⟩
  · rintro ⟨i, j, inside, part⟩ none
    have reached := (follows_reach bounded _ _).mpr ⟨i, (starts i).mpr inside, part⟩
    rw [none, Nat.zero_testBit] at reached
    cases reached

end Xsd.Regex
