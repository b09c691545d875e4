import Mathlib
import Xsd.Wildcard

/-!
# Constraints as sets of namespaces

A namespace constraint stands for the set of the namespaces that it admits, and what is asked about
two of them is decided by their form: whether the sets have something in common, whether the one
lies in the other, and what constraint admits all of either or what both have in common. Lists are
finite and there is always one more namespace, so a negation meets every constraint but a list, and
lies in no list.

Unions and inclusions of negations are decided by the name that these exclude, although they exclude
the absent namespace as well. Where the two parts of what a negation excludes fare differently, the
answer is not that of the sets. Of two negations an intersection is the first.
-/

namespace Xsd

/-- There are more namespace names than a list can hold. -/
theorem Namespace.exists_fresh (used : List Namespace) : ∃ name : String, some name ∉ used := by
  obtain ⟨ns, new⟩ := Infinite.exists_notMem_finset (insert none used.toFinset)
  rw [Finset.mem_insert, List.mem_toFinset, not_or] at new
  cases ns with
  | none => exact absurd rfl new.1
  | some name => exact ⟨name, new.2⟩

namespace NamespaceConstraint

variable {a b : NamespaceConstraint} {ns excluded : Namespace} {members : List Namespace}

@[simp] theorem allows_any : any.allows ns = true := rfl

@[simp] theorem allows_other_iff :
    (other excluded).allows ns = true ↔ ns ≠ none ∧ ns ≠ excluded := by
  simp [allows, Option.isSome_iff_ne_none]

@[simp] theorem allows_enumeration_iff : (enumeration members).allows ns = true ↔ ns ∈ members := by
  simp [allows]

/-- A negation admits a namespace outside of any list. -/
theorem exists_allows_other (excluded : Namespace) (avoided : List Namespace) :
    ∃ ns, (other excluded).allows ns = true ∧ ns ∉ avoided := by
  obtain ⟨name, new⟩ := Namespace.exists_fresh (excluded :: avoided)
  rw [List.mem_cons, not_or] at new
  exact ⟨some name, allows_other_iff.mpr ⟨by simp, new.1⟩, new.2⟩

/-! ## Overlap -/

theorem overlaps_comm (a b : NamespaceConstraint) : a.overlaps b = b.overlaps a := by
  cases a with
  | enumeration members =>
    cases b with
    | enumeration others =>
      rw [Bool.eq_iff_iff]
      simp only [overlaps, List.any_eq_true, allows_enumeration_iff]
      exact exists_congr fun _ => and_comm
    | _ => rfl
  | _ => cases b <;> rfl

theorem overlaps_enumeration_iff :
    (enumeration members).overlaps b = true ↔ ∃ ns ∈ members, b.allows ns = true := by
  rw [overlaps, List.any_eq_true]

/-- Constraints overlap exactly if a namespace is admitted by both. -/
theorem overlaps_iff :
    a.overlaps b = true ↔ ∃ ns, a.allows ns = true ∧ b.allows ns = true := by
  cases a with
  | enumeration members =>
    simp only [overlaps_enumeration_iff, allows_enumeration_iff]
  | any =>
    cases b with
    | any => exact iff_of_true rfl ⟨none, rfl, rfl⟩
    | other excluded =>
      obtain ⟨ns, allowed, -⟩ := exists_allows_other excluded []
      exact iff_of_true rfl ⟨ns, rfl, allowed⟩
    | enumeration members =>
      rw [overlaps_comm, overlaps_enumeration_iff]
      simp only [allows_enumeration_iff, and_comm]
  | other excluded =>
    cases b with
    | any =>
      obtain ⟨ns, allowed, -⟩ := exists_allows_other excluded []
      exact iff_of_true rfl ⟨ns, allowed, rfl⟩
    | other excluded' =>
      obtain ⟨ns, allowed, new⟩ := exists_allows_other excluded [none, excluded']
      simp only [List.mem_cons, List.not_mem_nil, or_false, not_or] at new
      exact iff_of_true rfl ⟨ns, allowed, allows_other_iff.mpr new⟩
    | enumeration members =>
      rw [overlaps_comm, overlaps_enumeration_iff]
      simp only [allows_enumeration_iff, and_comm]

/-! ## Inclusion -/

/-- Both are negations; the first excludes a namespace name, and the second nothing beside the
absent namespace. -/
def ExcludesMore : NamespaceConstraint → NamespaceConstraint → Prop
  | .other (some _), .other none => True
  | _, _ => False

theorem allows_of_isSubsetOf (h : a.isSubsetOf b = true) (allowed : a.allows ns = true) :
    b.allows ns = true := by
  cases b with
  | any => rfl
  | other excluded =>
    cases a with
    | any => cases h
    | other excluded' =>
      cases eq_of_beq h
      exact allowed
    | enumeration members => exact List.all_eq_true.mp h ns (allows_enumeration_iff.mp allowed)
  | enumeration members =>
    cases a with
    | any => cases h
    | other excluded' => cases h
    | enumeration members' => exact List.all_eq_true.mp h ns (allows_enumeration_iff.mp allowed)

/-- What a negation excludes, a negation in which it lies excludes as well. -/
theorem excluded_of_forall_allows {excluded' : Namespace}
    (included : ∀ ns, (other excluded).allows ns = true → (other excluded').allows ns = true) :
    excluded' = none ∨ excluded' = excluded := by
  by_contra outside
  rw [not_or] at outside
  have allowed := included excluded' (allows_other_iff.mpr outside)
  exact (allows_other_iff.mp allowed).2 rfl

/-- Constraints are compared as the sets are, but for a negation of a name and that of the absent
namespace alone. -/
theorem isSubsetOf_iff (comparable : ¬ a.ExcludesMore b) :
    a.isSubsetOf b = true ↔ ∀ ns, a.allows ns = true → b.allows ns = true := by
  refine ⟨fun h ns => allows_of_isSubsetOf h, fun included => ?_⟩
  cases a with
  | any =>
    cases b with
    | any => rfl
    | other excluded => simpa using included none rfl
    | enumeration members =>
      obtain ⟨name, new⟩ := Namespace.exists_fresh members
      exact absurd (allows_enumeration_iff.mp (included (some name) rfl)) new
  | other excluded =>
    cases b with
    | any => rfl
    | other excluded' =>
      rcases excluded_of_forall_allows included with rfl | rfl
      · cases excluded with
        | none => exact beq_self_eq_true none
        | some name => exact absurd trivial comparable
      · exact beq_self_eq_true excluded'
    | enumeration members =>
      obtain ⟨ns, allowed, new⟩ := exists_allows_other excluded members
      exact absurd (allows_enumeration_iff.mp (included ns allowed)) new
  | enumeration members =>
    cases b with
    | any => rfl
    | _ => exact List.all_eq_true.mpr fun ns mem => included ns (allows_enumeration_iff.mpr mem)

/-! ## Union -/

/-- One of the two is a negation, and the other a list that holds just one of the absent namespace
and the one that is negated. -/
def Splits : NamespaceConstraint → NamespaceConstraint → Prop
  | .other excluded, .enumeration members
  | .enumeration members, .other excluded => ¬ (none ∈ members ↔ excluded ∈ members)
  | _, _ => False

/-- The two are negations of different namespaces. -/
def Differ : NamespaceConstraint → NamespaceConstraint → Prop
  | .other excluded, .other excluded' => excluded ≠ excluded'
  | _, _ => False

theorem allows_union_enumeration_iff {others : List Namespace} :
    ((enumeration members).union (enumeration others)).allows ns = true ↔
      ns ∈ members ∨ ns ∈ others := by
  rw [union, allows_enumeration_iff, Namespace.mem_foldl_insertSorted, or_comm]

/-- Of a negation and a list the union is the negation, unless the list holds all that is
excluded. -/
theorem allows_union_other_iff :
    ((other excluded).union (enumeration members)).allows ns = true ↔
      (none ∈ members ∧ excluded ∈ members) ∨ (other excluded).allows ns = true := by
  rw [union]
  by_cases both : none ∈ members ∧ excluded ∈ members
  · simp [both]
  · rw [if_neg (by simpa using both)]
    exact (or_iff_right both).symm

theorem union_enumeration_other :
    (enumeration members).union (other excluded) = (other excluded).union (enumeration members) :=
  rfl

/-- What a list holds is admitted by its union with a negation, unless the list splits what is
excluded. -/
theorem allows_union_of_mem (whole : none ∈ members ↔ excluded ∈ members) (mem : ns ∈ members) :
    ((other excluded).union (enumeration members)).allows ns = true := by
  rw [allows_union_other_iff, allows_other_iff]
  by_cases there : none ∈ members
  · exact Or.inl ⟨there, whole.mp there⟩
  · refine Or.inr ⟨?_, ?_⟩
    · rintro rfl
      exact there mem
    · rintro rfl
      exact there (whole.mpr mem)

/-- Of what a list holds, its union with a negation does not admit all, if the list splits what is
excluded. -/
theorem exists_not_allows_union (splits : ¬ (none ∈ members ↔ excluded ∈ members)) :
    ∃ ns ∈ members, ¬ ((other excluded).union (enumeration members)).allows ns = true := by
  simp only [allows_union_other_iff, allows_other_iff]
  by_cases there : none ∈ members
  · have away : excluded ∉ members := fun h => splits (iff_of_true there h)
    exact ⟨none, there, by simp [away]⟩
  · have member : excluded ∈ members := by
      by_contra away
      exact splits (iff_of_false there away)
    exact ⟨excluded, member, by simp [there]⟩

/-- A union loses nothing, unless a list splits what a negation excludes. -/
theorem allows_union_of_allows (whole : ¬ a.Splits b)
    (allowed : a.allows ns = true ∨ b.allows ns = true) : (a.union b).allows ns = true := by
  cases a with
  | any => rfl
  | other excluded =>
    cases b with
    | any => rfl
    | other excluded' =>
      rw [union]
      split
      · rename_i same
        exact allowed.elim id fun h => same ▸ h
      · rfl
    | enumeration members =>
      rcases allowed with allowed | allowed
      · exact allows_union_other_iff.mpr (Or.inr allowed)
      · exact allows_union_of_mem (not_not.mp whole) (allows_enumeration_iff.mp allowed)
  | enumeration members =>
    cases b with
    | any => rfl
    | other excluded =>
      rw [union_enumeration_other]
      rcases allowed with allowed | allowed
      · exact allows_union_of_mem (not_not.mp whole) (allows_enumeration_iff.mp allowed)
      · exact allows_union_other_iff.mpr (Or.inr allowed)
    | enumeration others => simpa [allows_union_enumeration_iff] using allowed

/-- A union adds nothing, unless it is that of different negations. -/
theorem allows_of_allows_union (same : ¬ a.Differ b) (allowed : (a.union b).allows ns = true) :
    a.allows ns = true ∨ b.allows ns = true := by
  have split {excluded : Namespace} {members : List Namespace}
      (h : ((other excluded).union (enumeration members)).allows ns = true) :
      (other excluded).allows ns = true ∨ (enumeration members).allows ns = true := by
    rcases allows_union_other_iff.mp h with ⟨absent, there⟩ | h
    · by_cases free : (other excluded).allows ns = true
      · exact Or.inl free
      · rw [allows_other_iff, not_and_or, not_not, not_not] at free
        refine Or.inr (allows_enumeration_iff.mpr ?_)
        rcases free with rfl | rfl
        · exact absent
        · exact there
    · exact Or.inl h
  cases a with
  | any => exact Or.inl rfl
  | other excluded =>
    cases b with
    | any => exact Or.inr rfl
    | other excluded' =>
      cases not_not.mp same
      rw [union, if_pos rfl] at allowed
      exact Or.inl allowed
    | enumeration members => exact split allowed
  | enumeration members =>
    cases b with
    | any => exact Or.inr rfl
    | other excluded => exact (split allowed).symm
    | enumeration others => simpa [allows_union_enumeration_iff] using allowed

theorem union_keeps_iff :
    (∀ ns, a.allows ns = true ∨ b.allows ns = true → (a.union b).allows ns = true) ↔
      ¬ a.Splits b := by
  refine ⟨fun keeps splits => ?_, fun whole ns => allows_union_of_allows whole⟩
  cases a with
  | any => exact splits
  | other excluded =>
    cases b with
    | enumeration members =>
      obtain ⟨ns, mem, lost⟩ := exists_not_allows_union splits
      exact lost (keeps ns (Or.inr (allows_enumeration_iff.mpr mem)))
    | _ => exact splits
  | enumeration members =>
    cases b with
    | other excluded =>
      obtain ⟨ns, mem, lost⟩ := exists_not_allows_union splits
      exact lost (keeps ns (Or.inl (allows_enumeration_iff.mpr mem)))
    | _ => exact splits

theorem union_adds_nothing_iff :
    (∀ ns, (a.union b).allows ns = true → a.allows ns = true ∨ b.allows ns = true) ↔
      ¬ a.Differ b := by
  refine ⟨fun adds differ => ?_, fun same ns => allows_of_allows_union same⟩
  cases a with
  | other excluded =>
    cases b with
    | other excluded' =>
      have admitted : ((other excluded).union (other excluded')).allows none = true := by
        rw [union, if_neg differ, allows_any]
      simpa using adds none admitted
    | _ => exact differ
  | _ => exact differ

/-! ## Intersection -/

theorem allows_intersection_enumeration_iff {others : List Namespace} :
    ((enumeration members).intersection (enumeration others)).allows ns = true ↔
      ns ∈ members ∧ ns ∈ others := by
  simp [intersection]

/-- Of a list a negation leaves what it admits. -/
theorem allows_intersection_other_iff :
    ((other excluded).intersection (enumeration members)).allows ns = true ↔
      (other excluded).allows ns = true ∧ ns ∈ members := by
  rw [intersection, allows_enumeration_iff, List.mem_filter, and_comm]

theorem intersection_enumeration_other :
    (enumeration members).intersection (other excluded) =
      (other excluded).intersection (enumeration members) :=
  rfl

/-- An intersection admits what both constraints admit, and for negations of different namespaces
what the first one does. -/
theorem allows_intersection_iff :
    (a.intersection b).allows ns = true ↔
      a.allows ns = true ∧ (a.Differ b ∨ b.allows ns = true) := by
  cases a with
  | any => simp [intersection, Differ]
  | other excluded =>
    cases b with
    | any => simp [intersection]
    | other excluded' =>
      by_cases same : excluded = excluded'
      · subst same
        simp [intersection, Differ]
      · simp [intersection, Differ, same]
    | enumeration others =>
      rw [allows_intersection_other_iff, allows_enumeration_iff]
      simp [Differ]
  | enumeration members =>
    cases b with
    | any => simp [intersection]
    | other excluded =>
      rw [intersection_enumeration_other, allows_intersection_other_iff, allows_enumeration_iff,
        and_comm]
      simp [Differ]
    | enumeration others =>
      rw [allows_intersection_enumeration_iff, allows_enumeration_iff, allows_enumeration_iff]
      simp [Differ]

/-- What is admitted by both is admitted by the intersection. -/
theorem allows_intersection (ha : a.allows ns = true) (hb : b.allows ns = true) :
    (a.intersection b).allows ns = true :=
  allows_intersection_iff.mpr ⟨ha, Or.inr hb⟩

/-- What the first one does not admit is not admitted. -/
theorem allows_of_allows_intersection (h : (a.intersection b).allows ns = true) :
    a.allows ns = true :=
  (allows_intersection_iff.mp h).1

/-- An intersection makes no new negations. -/
theorem eq_other_of_intersection (h : a.intersection b = other excluded) :
    a = other excluded ∨ b = other excluded := by
  cases a with
  | any => exact Or.inr h
  | other excluded' =>
    cases b with
    | any => exact Or.inl h
    | other _ => exact Or.inl h
    | enumeration others => cases h
  | enumeration members =>
    cases b with
    | any => exact Or.inl h
    | other _ => cases h
    | enumeration others => cases h

end NamespaceConstraint

end Xsd
