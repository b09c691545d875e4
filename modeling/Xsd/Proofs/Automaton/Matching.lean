import Mathlib
import Xsd.Proofs.Automaton.Language

/-!
# Matches of a content

Like the language of a content, but with every name comes the declaration that reads it. It is the
declaration of the element that takes the name, or one that may stand in for it. Where each name
has one declaration only, each sequence of names that the content admits has a match.
-/

namespace Xsd

variable {α β : Type}

namespace Occurs

/-- As many words of the language in a row as the bounds admit, over any letters. -/
def times (o : Occurs) (language : Language α) : Language α :=
  {word | ∃ count, o.min ≤ count ∧ (∀ max ∈ o.max, count ≤ max) ∧ word ∈ language ^ count}

theorem times_once (language : Language α) : once.times language = language := by
  ext word
  constructor
  · rintro ⟨count, low, high, mem⟩
    obtain rfl : count = 1 := Nat.le_antisymm (high 1 rfl) low
    rwa [pow_one] at mem
  · intro mem
    exact ⟨1, Nat.le_refl 1, by simp [once], by rwa [pow_one]⟩

theorem map_repeats_le {f : QName → β} {o : Occurs} {language : Language QName}
    {target : Language β} (h : Language.map f language ≤ target) :
    Language.map f (o.repeats language) ≤ o.times target := by
  rintro _ ⟨names, ⟨count, low, high, mem⟩, rfl⟩
  refine ⟨count, low, high, pow_le_pow_left' h count ?_⟩
  rw [← map_pow]
  exact ⟨names, mem, rfl⟩

end Occurs

/-- All that has to occur and some of what may, each once and in any order, over any letters. -/
def inAnyOrder (parts : List (Occurs × Language α)) : Language α :=
  {word | ∃ taken left : List (Occurs × Language α), (taken ++ left).Perm parts ∧
    (∀ p ∈ taken, p.1.max ≠ some 0) ∧ (∀ p ∈ left, p.1.min = 0) ∧
    word ∈ (taken.map (·.2)).prod}

namespace Content

/-- The names that an element term takes, each with the declaration that reads it. -/
def takes (a : Arena) (s : SubstitutionGroups) (id : ElementId) : Set (QName × ElementId) :=
  {x | x.2 ∈ id :: s.members id ∧ x.1 ∈ concreteNames a x.2}

mutual

/-- The matches of a content that occurs once. Wildcards have no declarations. -/
def matchesOnce (a : Arena) (s : SubstitutionGroups) : Content → Language (QName × ElementId)
  | .element _ id => {word | ∃ x ∈ takes a s id, word = [x]}
  | .wildcard _ _ => 0
  | .group _ .sequence members => ((matchParts a s members).map fun p => p.1.times p.2).prod
  | .group _ .choice members => ((matchParts a s members).map fun p => p.1.times p.2).sum
  | .group _ .all members => inAnyOrder (matchParts a s members)

def matchParts (a : Arena) (s : SubstitutionGroups) :
    List Content → List (Occurs × Language (QName × ElementId))
  | [] => []
  | c :: cs => (c.occurs, matchesOnce a s c) :: matchParts a s cs

end

/-- The matches of a content as often as it may occur. -/
def matching (a : Arena) (s : SubstitutionGroups) (c : Content) : Language (QName × ElementId) :=
  c.occurs.times (c.matchesOnce a s)

mutual

/-- The elements of the terms in a content. -/
def elements : Content → List ElementId
  | .element _ id => [id]
  | .wildcard _ _ => []
  | .group _ _ members => elementsOf members

def elementsOf : List Content → List ElementId
  | [] => []
  | c :: cs => elements c ++ elementsOf cs

end

mutual

/-- No term in the content is a wildcard. -/
def HasNoWildcard : Content → Prop
  | .element _ _ => True
  | .wildcard _ _ => False
  | .group _ _ members => HaveNoWildcard members

def HaveNoWildcard : List Content → Prop
  | [] => True
  | c :: cs => HasNoWildcard c ∧ HaveNoWildcard cs

end

/-! ## Matches of what the content admits -/

/-- A part of the language and one of the matches that goes with it. -/
def Covered (f : QName → QName × ElementId) (p : Part)
    (q : Occurs × Language (QName × ElementId)) : Prop :=
  q.1 = p.occurs ∧ Language.map f p.language ≤ q.2

variable {f : QName → QName × ElementId} {parts : List Part}
  {more : List (Occurs × Language (QName × ElementId))}

theorem forall₂_repeated_le (covered : List.Forall₂ (Covered f) parts more) :
    List.Forall₂ (· ≤ ·) (parts.map fun p => Language.map f p.repeated)
      (more.map fun q => q.1.times q.2) := by
  rw [List.forall₂_map_left_iff, List.forall₂_map_right_iff]
  refine covered.imp ?_
  rintro p ⟨o, language⟩ ⟨rfl, h⟩
  exact Occurs.map_repeats_le h

theorem map_prod_repeated_le (covered : List.Forall₂ (Covered f) parts more) :
    Language.map f (parts.map (·.repeated)).prod ≤ (more.map fun q => q.1.times q.2).prod := by
  rw [map_list_prod, List.map_map]
  exact (forall₂_repeated_le covered).prod_le_prod'

theorem map_sum_repeated_le (covered : List.Forall₂ (Covered f) parts more) :
    Language.map f (parts.map (·.repeated)).sum ≤ (more.map fun q => q.1.times q.2).sum := by
  rw [map_list_sum, List.map_map]
  exact (forall₂_repeated_le covered).sum_le_sum

theorem exists_append_of_forall₂ {R : α → β → Prop} {first second : List α} {all : List β}
    (related : List.Forall₂ R (first ++ second) all) :
    ∃ first' second', all = first' ++ second' ∧ List.Forall₂ R first first' ∧
      List.Forall₂ R second second' := by
  induction first generalizing all with
  | nil => exact ⟨[], all, rfl, .nil, related⟩
  | cons x first ih =>
    cases related with
    | cons head tail =>
      obtain ⟨first', second', rfl, one, other⟩ := ih tail
      exact ⟨_ :: first', second', rfl, .cons head one, other⟩

theorem exists_of_forall₂ {R : α → β → Prop} {xs : List α} {ys : List β}
    (related : List.Forall₂ R xs ys) {y : β} (mem : y ∈ ys) : ∃ x ∈ xs, R x y := by
  induction related with
  | nil => cases mem
  | cons head _ ih =>
    rcases List.mem_cons.mp mem with rfl | mem
    · exact ⟨_, List.mem_cons_self, head⟩
    · obtain ⟨x, hx, related⟩ := ih mem
      exact ⟨x, List.mem_cons_of_mem _ hx, related⟩

/-- The order in which parts are taken is an order for what goes with them. -/
theorem map_inAnyOrder_le (covered : List.Forall₂ (Covered f) parts more) :
    Language.map f (Part.inAnyOrder parts) ≤ inAnyOrder more := by
  rintro _ ⟨names, ⟨taken, left, perm, may, optional, mem⟩, rfl⟩
  obtain ⟨reordered, covered, perm⟩ := List.perm_comp_forall₂ perm covered
  obtain ⟨taken', left', rfl, takenCovered, leftCovered⟩ := exists_append_of_forall₂ covered
  refine ⟨taken', left', perm, fun q hq => ?_, fun q hq => ?_, ?_⟩
  · obtain ⟨p, hp, same, -⟩ := exists_of_forall₂ takenCovered hq
    exact same ▸ may p hp
  · obtain ⟨p, hp, same, -⟩ := exists_of_forall₂ leftCovered hq
    exact same ▸ optional p hp
  · have le : List.Forall₂ (· ≤ ·) (taken.map fun p => Language.map f p.language)
        (taken'.map (·.2)) := by
      rw [List.forall₂_map_left_iff, List.forall₂_map_right_iff]
      exact takenCovered.imp fun p q h => h.2
    have mapped : names.map f ∈ Language.map f (taken.map (·.language)).prod :=
      ⟨names, mem, rfl⟩
    rw [map_list_prod, List.map_map] at mapped
    exact le.prod_le_prod' mapped

variable {a : Arena} {s : SubstitutionGroups} {declaration : QName → ElementId}

mutual

/-- If the terms find for each name the declaration that goes with it, then the names that the
content admits have a match with these declarations. -/
theorem map_once_le (c : Content) (named : c.HasNoWildcard)
    (found : ∀ id ∈ c.elements, ∀ x ∈ takes a s id, declaration x.1 = x.2) :
    Language.map (fun name => (name, declaration name)) (c.once a s) ≤ c.matchesOnce a s := by
  cases c with
  | element o id =>
    rintro _ ⟨_, ⟨name, ⟨member, mem, concrete⟩, rfl⟩, rfl⟩
    have same := found id (by simp [elements]) (name, member) ⟨mem, concrete⟩
    exact ⟨(name, member), ⟨mem, concrete⟩, congrArg (fun r => [(name, r)]) same⟩
  | wildcard o w => exact named.elim
  | group o compositor members =>
    have covered := covered_parts members named found
    cases compositor with
    | sequence =>
      rw [once, matchesOnce]
      exact map_prod_repeated_le covered
    | choice =>
      rw [once, matchesOnce]
      exact map_sum_repeated_le covered
    | all =>
      rw [once, matchesOnce]
      exact map_inAnyOrder_le covered

theorem covered_parts (cs : List Content) (named : HaveNoWildcard cs)
    (found : ∀ id ∈ elementsOf cs, ∀ x ∈ takes a s id, declaration x.1 = x.2) :
    List.Forall₂ (Covered fun name => (name, declaration name)) (Content.parts a s cs)
      (matchParts a s cs) := by
  cases cs with
  | nil => exact .nil
  | cons c cs =>
    refine .cons ⟨rfl, map_once_le c named.1 fun id mem => found id ?_⟩
      (covered_parts cs named.2 fun id mem => found id ?_)
    · exact List.mem_append_left _ mem
    · exact List.mem_append_right _ mem

end

theorem map_language_le (c : Content) (named : c.HasNoWildcard)
    (found : ∀ id ∈ c.elements, ∀ x ∈ takes a s id, declaration x.1 = x.2) :
    Language.map (fun name => (name, declaration name)) (language a s (some c)) ≤
      c.matching a s :=
  Occurs.map_repeats_le (map_once_le c named found)

end Content

end Xsd
