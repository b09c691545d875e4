import Mathlib
import Xsd.Derivation.Content
import Xsd.Substitution

/-!
# The language of a content

The sequences of names that a content admits, said without an automaton. Bounds repeat what they
stand at; a group puts its members together by concatenation, by choice or in any order.
-/

namespace Xsd

open Computability

namespace Occurs

/-- The maximum, where there is one, is not below the minimum. -/
def Proper (o : Occurs) : Prop := ∀ max ∈ o.max, o.min ≤ max

/-- As many words of the language in a row as the bounds admit. -/
def repeats (o : Occurs) (language : Language QName) : Language QName :=
  {names | ∃ count, o.min ≤ count ∧ (∀ max ∈ o.max, count ≤ max) ∧ names ∈ language ^ count}

theorem repeats_unbounded (min : Nat) (language : Language QName) :
    repeats ⟨min, none⟩ language = language ^ min * language∗ := by
  rw [Language.kstar_eq_iSup_pow, Language.mul_iSup]
  ext names
  rw [Language.mem_iSup]
  constructor
  · rintro ⟨count, low, _, mem⟩
    refine ⟨count - min, ?_⟩
    rwa [← pow_add, Nat.add_sub_of_le low]
  · rintro ⟨more, mem⟩
    exact ⟨min + more, Nat.le_add_right min more, by simp, by rwa [pow_add]⟩

/-- At least one word of the language and at most so many. -/
def further (language : Language QName) : Nat → Language QName
  | 0 => 0
  | count + 1 => language * (1 + further language count)

/-- At most so many words of the language in a row. -/
def upTo (language : Language QName) (count : Nat) : Language QName := 1 + further language count

theorem mem_upTo_iff {language : Language QName} {count : Nat} {names : List QName} :
    names ∈ upTo language count ↔ ∃ k ≤ count, names ∈ language ^ k := by
  induction count generalizing names with
  | zero => simp [upTo, further]
  | succ count ih =>
    rw [upTo, further, ← upTo, Language.mem_add, Language.mem_mul]
    constructor
    · rintro (empty | ⟨first, hf, rest, hr, rfl⟩)
      · exact ⟨0, Nat.zero_le _, by simpa using empty⟩
      · obtain ⟨k, hk, mem⟩ := ih.mp hr
        refine ⟨k + 1, Nat.succ_le_succ hk, ?_⟩
        rw [pow_succ']
        exact Language.append_mem_mul hf mem
    · rintro ⟨k, hk, mem⟩
      cases k with
      | zero => exact Or.inl (by simpa using mem)
      | succ k =>
        rw [pow_succ'] at mem
        obtain ⟨first, hf, rest, hr, eq⟩ := Language.mem_mul.mp mem
        exact Or.inr ⟨first, hf, rest, ih.mpr ⟨k, Nat.le_of_succ_le_succ hk, hr⟩, eq⟩

theorem repeats_bounded {min max : Nat} (proper : min ≤ max) (language : Language QName) :
    repeats ⟨min, some max⟩ language = language ^ min * upTo language (max - min) := by
  ext names
  rw [Language.mem_mul]
  constructor
  · rintro ⟨count, low, high, mem⟩
    have high : count ≤ max := high max rfl
    have low : min ≤ count := low
    rw [← Nat.add_sub_of_le low, pow_add] at mem
    obtain ⟨first, hf, rest, hr, eq⟩ := Language.mem_mul.mp mem
    exact ⟨first, hf, rest, mem_upTo_iff.mpr ⟨count - min, by omega, hr⟩, eq⟩
  · rintro ⟨first, hf, rest, hr, rfl⟩
    obtain ⟨k, hk, mem⟩ := mem_upTo_iff.mp hr
    refine ⟨min + k, Nat.le_add_right min k, ?_, ?_⟩
    · intro m hm
      cases hm
      omega
    · rw [pow_add]
      exact Language.append_mem_mul hf mem

end Occurs

/-- A member of a group: what it reads once, and how often it may occur. -/
structure Part where
  occurs : Occurs
  language : Language QName

namespace Part

/-- The member as often as it may occur. -/
def repeated (p : Part) : Language QName := p.occurs.repeats p.language

/-- Every required member and some of those that may occur, each once and in any order. -/
def inAnyOrder (parts : List Part) : Language QName :=
  {names | ∃ taken left : List Part, (taken ++ left).Perm parts ∧
    (∀ p ∈ taken, p.occurs.max ≠ some 0) ∧ (∀ p ∈ left, p.occurs.min = 0) ∧
    names ∈ (taken.map (·.language)).prod}

theorem one_le_inAnyOrder {parts : List Part} (optional : ∀ p ∈ parts, p.occurs.min = 0) :
    1 ≤ inAnyOrder parts := by
  intro names empty
  obtain rfl := (Language.mem_one names).mp empty
  exact ⟨[], parts, by simp, by simp, optional, by simp⟩

/-- A member that may occur can be the first one. -/
theorem mul_inAnyOrder_le {p : Part} {rest parts : List Part} (perm : (p :: rest).Perm parts)
    (occurs : p.occurs.max ≠ some 0) : p.language * inAnyOrder rest ≤ inAnyOrder parts := by
  intro names mem
  obtain ⟨first, hf, others, ⟨taken, left, permRest, may, optional, ho⟩, rfl⟩ :=
    Language.mem_mul.mp mem
  refine ⟨p :: taken, left, (permRest.cons p).trans perm, ?_, optional, ?_⟩
  · intro q hq
    rcases List.mem_cons.mp hq with rfl | hq
    · exact occurs
    · exact may q hq
  · rw [List.map_cons, List.prod_cons]
    exact Language.append_mem_mul hf ho

/-- Members that cannot occur do not count, if none of them has to. -/
theorem inAnyOrder_filter {parts : List Part} (proper : ∀ p ∈ parts, p.occurs.Proper) :
    inAnyOrder (parts.filter fun p => p.occurs.max ≠ some 0) = inAnyOrder parts := by
  have split := List.filter_append_perm (fun p : Part => p.occurs.max ≠ some 0) parts
  ext names
  constructor
  · rintro ⟨taken, left, perm, may, optional, mem⟩
    refine ⟨taken, left ++ parts.filter fun p => !decide (p.occurs.max ≠ some 0), ?_, may, ?_, mem⟩
    · rw [← List.append_assoc]
      exact (perm.append_right _).trans split
    · intro p hp
      rcases List.mem_append.mp hp with hp | hp
      · exact optional p hp
      · obtain ⟨mem, never⟩ := List.mem_filter.mp hp
        have zero : p.occurs.max = some 0 := by simpa using never
        exact Nat.le_zero.mp (proper p mem 0 zero)
  · rintro ⟨taken, left, perm, may, optional, mem⟩
    refine ⟨taken, left.filter fun p => p.occurs.max ≠ some 0, ?_, may,
      fun p hp => optional p (List.mem_filter.mp hp).1, mem⟩
    have all : taken.filter (fun p => p.occurs.max ≠ some 0) = taken :=
      List.filter_eq_self.mpr fun p hp => by simpa using may p hp
    have := perm.filter fun p => decide (p.occurs.max ≠ some 0)
    rwa [List.filter_append, all] at this

end Part

namespace Content

/-- The name of an element, unless it is abstract. -/
def concreteNames (a : Arena) (id : ElementId) : Set QName :=
  {name | ∃ e, a.element? id = some e ∧ e.isAbstract = false ∧ e.info.name = some name}

/-- The names of an element and of those that may stand in for it, abstract ones apart. -/
def elementNames (a : Arena) (s : SubstitutionGroups) (id : ElementId) : Set QName :=
  {name | ∃ member ∈ id :: s.members id, name ∈ concreteNames a member}

/-- The words of one name out of a set. -/
def letters (names : Set QName) : Language QName := {word | ∃ name ∈ names, word = [name]}

theorem letters_mono {names more : Set QName} (sub : names ⊆ more) :
    letters names ≤ letters more := by
  rintro word ⟨name, mem, rfl⟩
  exact ⟨name, sub mem, rfl⟩

mutual

/-- What a content reads when it occurs once. -/
def once (a : Arena) (s : SubstitutionGroups) : Content → Language QName
  | .element _ id => letters (elementNames a s id)
  | .wildcard _ w => letters {name | w.allows name.ns = true}
  | .group _ .sequence members => ((parts a s members).map (·.repeated)).prod
  | .group _ .choice members => ((parts a s members).map (·.repeated)).sum
  | .group _ .all members => Part.inAnyOrder (parts a s members)

def parts (a : Arena) (s : SubstitutionGroups) : List Content → List Part
  | [] => []
  | c :: cs => ⟨c.occurs, once a s c⟩ :: parts a s cs

end

/-- What a content reads; where there is none, only the empty sequence is read. -/
def language (a : Arena) (s : SubstitutionGroups) : Option Content → Language QName
  | some c => c.occurs.repeats (c.once a s)
  | none => 1

/-- An element that occurs at most once. -/
def IsSingleElement : Content → Prop
  | .element o _ => ∃ max ≤ 1, o.max = some max
  | _ => False

mutual

/-- No maximum is below its minimum, and the members of unordered groups are elements that occur at
most once. -/
def Proper : Content → Prop
  | .element o _ => o.Proper
  | .wildcard o _ => o.Proper
  | .group o compositor members =>
    o.Proper ∧ (compositor = .all → ∀ m ∈ members, m.IsSingleElement) ∧ AllProper members

def AllProper : List Content → Prop
  | [] => True
  | c :: cs => c.Proper ∧ AllProper cs

end

end Content

end Xsd
