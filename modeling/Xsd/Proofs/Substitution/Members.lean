import Xsd.Proofs.Substitution

/-!
# Members of substitution groups

A group has as its members exactly the elements other than its head from which a way over heads leads
to it, in the order of their numbers and each of them once. Nothing is asked of the heads: the ways may
lead in circles, also through the head itself.
-/

namespace Xsd

namespace Arena

variable {a : Arena} {id head member : ElementId}

theorem index_lt_of_mem_elementIds (h : id ∈ a.elementIds) : id.index < a.elements.size := by
  obtain ⟨e, he⟩ := Option.isSome_iff_exists.mp (mem_elementIds_iff.mp h)
  exact (Array.getElem?_eq_some_iff.mp he).1

theorem mem_directMembers_iff : id ∈ a.directMembers head ↔ a.head? id = some head := by
  constructor
  · exact head?_of_mem_directMembers
  · intro step
    exact List.mem_filter.mpr ⟨mem_elementIds_of_head? step, beq_iff_eq.mpr step⟩

/-- A way over heads is one over direct members, the other way round. -/
theorem leads_of_ascends (h : a.Ascends member head) :
    Leads (fun n => (a.directMembers ⟨n⟩).map (·.index)) head.index member.index := by
  induction h using Relation.ReflTransGen.head_induction_on with
  | refl => exact .refl
  | head step _ ih => exact ih.tail (List.mem_map_of_mem (mem_directMembers_iff.mpr step))

/-- An element to which others lead has direct members. -/
theorem exists_directMember (h : a.Ascends member head) (other : member ≠ head) :
    ∃ id, id ∈ a.directMembers head := by
  rcases Relation.ReflTransGen.cases_tail h with same | ⟨id, -, step⟩
  · exact absurd same.symm other
  · exact ⟨id, mem_directMembers_iff.mpr step⟩

end Arena

namespace SubstitutionGroups

variable {a : Arena} {head member : ElementId}

/-- What is reached are the elements on the ways to the head, which is one of them. -/
theorem mem_closure_iff (known : head ∈ a.elementIds) :
    member ∈ closure a head ↔ member ≠ head ∧ a.Ascends member head := by
  have inside : ∀ n < a.elements.size, ∀ m ∈ (a.directMembers ⟨n⟩).map (·.index),
      m < a.elements.size := by
    intro n _ m edge
    obtain ⟨id, mem, rfl⟩ := List.mem_map.mp edge
    exact Arena.index_lt_of_mem_elementIds (List.mem_filter.mp mem).1
  have seeds : ∀ n ∈ [head.index], n < a.elements.size := by
    intro n hn
    cases List.mem_singleton.mp hn
    exact Arena.index_lt_of_mem_elementIds known
  constructor
  · intro mem
    refine ⟨?_, ascends_of_mem_closure mem⟩
    rintro rfl
    obtain ⟨n, hn, rfl⟩ := List.mem_map.mp mem
    simpa using (List.mem_filter.mp hn).2
  · rintro ⟨other, way⟩
    refine List.mem_map.mpr ⟨member.index, List.mem_filter.mpr ⟨?_, ?_⟩, rfl⟩
    · rw [Std.TreeSet.mem_toList]
      exact (mem_reachable_iff inside seeds).mpr
        ⟨head.index, List.mem_singleton_self _, Arena.leads_of_ascends way⟩
    · have different : member.index ≠ head.index := by
        intro same
        exact other (congrArg ElementId.mk same)
      simpa using different

theorem pairwise_closure (a : Arena) (head : ElementId) :
    (closure a head).Pairwise fun x y => x.index < y.index := by
  rw [closure, List.pairwise_map]
  refine List.Pairwise.filter _ (Std.TreeSet.ordered_toList.imp ?_)
  intro n m before
  exact Nat.compare_eq_lt.mp before

/-- What is looked up under a key of the list is what is made of that key. -/
theorem lookup_map_self {κ ν : Type} [BEq κ] [LawfulBEq κ] (f : κ → ν) (keys : List κ) (k : κ) :
    (keys.map fun x => (x, f x)).lookup k = if k ∈ keys then some (f k) else none := by
  induction keys with
  | nil => rfl
  | cons x keys ih =>
    rw [List.map_cons, List.lookup_cons]
    by_cases same : k = x
    · simp [same]
    · have differs : (k == x) = false := by simpa using same
      simp [differs, same, ih]

/-- An element without direct members is not entered, and nothing leads to it. -/
theorem members_eq_closure (known : head ∈ a.elementIds) :
    (ofArena a).members head = closure a head := by
  have entered : (ofArena a).groups.get? head =
      if head ∈ a.elementIds.filter fun id => !(a.directMembers id).isEmpty then
        some (closure a head) else none :=
    lookup_map_self (closure a) _ head
  rw [members, entered]
  split
  · rfl
  · rename_i lonely
    symm
    rw [Option.getD_none, List.eq_nil_iff_forall_not_mem]
    intro member mem
    obtain ⟨other, way⟩ := (mem_closure_iff known).mp mem
    obtain ⟨id, direct⟩ := Arena.exists_directMember way other
    refine lonely (List.mem_filter.mpr ⟨known, ?_⟩)
    cases members : a.directMembers head with
    | nil =>
      rw [members] at direct
      cases direct
    | cons => rfl

/-- The members of a group are the elements other than its head from which a way over heads leads to it,
and are listed in the order of their numbers, each of them once. -/
theorem members_exact (a : Arena) :
    ∀ head ∈ a.elementIds,
      (∀ member, member ∈ (ofArena a).members head ↔ member ≠ head ∧ a.Ascends member head) ∧
      ((ofArena a).members head).Pairwise fun x y => x.index < y.index := by
  intro head known
  rw [members_eq_closure known]
  exact ⟨fun member => mem_closure_iff known, pairwise_closure a head⟩

/-- Three elements in a circle of heads, and a fourth one that stands in for the second of them. -/
def circled : Arena :=
  let element (head : Nat) : ElementDecl :=
    { ElementDecl.plain (.ofLocal none ⟨1⟩) with head := some ⟨⟨none, "head"⟩, some ⟨head⟩⟩ }
  { Arena.empty with elements := #[element 2, element 0, element 1, element 1] }

/-- All the others are members for the first element, although it is on the way to itself. -/
theorem circled_members : ⟨0⟩ ∈ circled.elementIds ∧
    (ofArena circled).members ⟨0⟩ = [⟨1⟩, ⟨2⟩, ⟨3⟩] ∧
    (∀ member, member ∈ ([⟨1⟩, ⟨2⟩, ⟨3⟩] : List ElementId) ↔
      member ≠ ⟨0⟩ ∧ circled.Ascends member ⟨0⟩) ∧
    circled.Ascends ⟨0⟩ ⟨1⟩ := by
  have known : ⟨0⟩ ∈ circled.elementIds := by decide
  have listed : (ofArena circled).members ⟨0⟩ = [⟨1⟩, ⟨2⟩, ⟨3⟩] := by decide +kernel
  obtain ⟨membership, -⟩ := members_exact circled ⟨0⟩ known
  rw [listed] at membership
  exact ⟨known, listed, membership, .head (b := ⟨2⟩) rfl (.single rfl)⟩

end SubstitutionGroups

end Xsd
