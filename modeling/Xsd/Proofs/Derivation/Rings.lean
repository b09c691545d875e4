import Xsd.Derivation.Derive
import Xsd.Proofs.Schema.Growth

/-!
# Rings

What is found to contain itself is reported as a ring: the names of things each of which leads to the
next, and the last to the first. Searches keep the things that they are inside of on a stack, and find
a ring where the last one on it leads back to one of them. Where following leads comes to an end there
is none.
-/

namespace Xsd

variable {α : Type} {leads : α → α → Prop} {name : α → String}

/-- The names of things each of which leads to the next, and the last to the first. -/
def IsRing (leads : α → α → Prop) (name : α → String) (names : List String) : Prop :=
  ∃ x line, names = (x :: (line ++ [x])).map name ∧ (x :: (line ++ [x])).IsChain leads

/-- The things on a stack from the one on to which the last leads. -/
theorem isRing_circle [BEq α] [LawfulBEq α] {stack : List α} {x : α}
    (chain : stack.IsChain leads) (mem : x ∈ stack) (last : ∀ y ∈ stack.getLast?, leads y x) :
    IsRing leads name (Derive.circle name stack x) := by
  have dropped : ∃ line, stack.dropWhile (fun y => !(y == x)) = x :: line := by
    clear chain last
    induction stack with
    | nil => cases mem
    | cons y stack ih =>
      by_cases same : y = x
      · exact ⟨stack, by simp [same]⟩
      · obtain ⟨line, hl⟩ := ih ((List.mem_cons.mp mem).resolve_left (Ne.symm same))
        exact ⟨line, by simp [same, hl]⟩
  obtain ⟨line, hl⟩ := dropped
  have suffix' : x :: line <:+ stack := hl ▸ List.dropWhile_suffix _
  refine ⟨x, line, ?_, List.isChain_append.mpr ⟨chain.suffix suffix', List.isChain_singleton x, ?_⟩⟩
  · rw [Derive.circle, hl]
    simp
  · intro y hy other ho
    cases ho
    refine last y ?_
    obtain ⟨before, rfl⟩ := suffix'
    rw [List.getLast?_append, Option.mem_def.mp hy]
    rfl

theorem IsRing.transGen {names : List String} (h : IsRing leads name names) :
    ∃ x, Relation.TransGen leads x x := by
  obtain ⟨x, line, -, chain⟩ := h
  have reached : ∀ (line : List α) (y : α), (y :: (line ++ [x])).IsChain leads →
      Relation.TransGen leads y x := by
    intro line
    induction line with
    | nil => exact fun y h => .single (List.isChain_pair.mp h)
    | cons z line ih =>
      intro y h
      obtain ⟨first, rest⟩ := List.isChain_cons_cons.mp h
      exact .head first (ih z rest)
  exact ⟨x, reached line x chain⟩

/-- Whatever stands in a ring leads on. -/
theorem IsRing.exists_leads {names : List String} (h : IsRing leads name names) :
    names ≠ [] ∧ ∀ n ∈ names, ∃ x y, leads x y ∧ name x = n := by
  obtain ⟨x, line, rfl, chain⟩ := h
  have on : ∀ (line : List α) (y : α), (y :: (line ++ [x])).IsChain leads →
      ∀ z ∈ y :: line, ∃ w, leads z w := by
    intro line
    induction line with
    | nil =>
      intro y h z hz
      cases List.mem_singleton.mp hz
      exact ⟨x, List.isChain_pair.mp h⟩
    | cons next line ih =>
      intro y h z hz
      obtain ⟨first, rest⟩ := List.isChain_cons_cons.mp h
      rcases List.mem_cons.mp hz with rfl | hz
      · exact ⟨next, first⟩
      · exact ih next rest z hz
  refine ⟨by simp, fun n hn => ?_⟩
  obtain ⟨z, hz, rfl⟩ := List.mem_map.mp hn
  -- The last one is the first one again.
  have hz : z ∈ x :: line := by
    rcases List.mem_cons.mp hz with rfl | hz
    · exact List.mem_cons_self
    · rcases List.mem_append.mp hz with hz | hz
      · exact List.mem_cons_of_mem x hz
      · exact List.mem_singleton.mp hz ▸ List.mem_cons_self
  obtain ⟨w, leads⟩ := on line x chain z hz
  exact ⟨z, w, leads, rfl⟩

/-- Where following leads comes to an end, nothing that is reached leads back to itself. -/
theorem not_transGen_of_acc {x y : α} (h : Acc (fun y x => leads x y) x)
    (reaches : Relation.ReflTransGen leads x y) : ¬ Relation.TransGen leads y y := by
  intro ring
  induction h generalizing y with
  | intro x _ ih =>
    rcases Relation.ReflTransGen.cases_head reaches with rfl | ⟨next, first, rest⟩
    · obtain ⟨next, first, back⟩ := Relation.TransGen.head'_iff.mp ring
      have ring' : Relation.TransGen leads next next := .tail' back first
      exact ih next first .refl ring'
    · exact ih next first rest ring

/-! ## Groups -/

theorem Mention.mem_references_iff {ms : List Mention} {r : AnyReference} :
    r ∈ Mention.references ms ↔ .named r ∈ ms := by
  rw [Mention.references, List.mem_filterMap]
  constructor
  · rintro ⟨m, hm, same⟩
    cases m with
    | own id => cases same
    | named r' =>
      cases same
      exact hm
  · intro h
    exact ⟨_, h, rfl⟩

/-- Declarations refer to attribute groups in their list of groups only. -/
theorem AttributeDecls.mem_mentions_iff {decls : AttributeDecls}
    {r : Reference AttributeGroupId} :
    .named (.attributeGroup r) ∈ decls.mentions ↔ r ∈ decls.groups := by
  have used : ∀ u : AttributeUseDecl, u.source.mention ≠ .named (.attributeGroup r) := by
    intro u
    cases u.source <;> simp [AttributeSource.mention]
  simp [AttributeDecls.mentions, used]

namespace Arena

/-- The model group refers to the other one, somewhere in its content. -/
def GroupLeads (a : Arena) (id other : GroupId) : Prop :=
  ∃ r, .group r ∈ a.references (.group id) ∧ r.target = some other

/-- The attribute group refers to the other one. -/
def AttributeGroupLeads (a : Arena) (id other : AttributeGroupId) : Prop :=
  ∃ r, .attributeGroup r ∈ a.references (.attributeGroup id) ∧ r.target = some other

/-- A model group that leads on is there. -/
theorem GroupLeads.exists_group? {a : Arena} {id other : GroupId} (h : a.GroupLeads id other) :
    ∃ g, a.group? id = some g := by
  obtain ⟨r, hr, -⟩ := h
  rw [references] at hr
  cases hg : a.group? id with
  | some g => exact ⟨g, rfl⟩
  | none =>
    rw [hg] at hr
    cases hr

theorem groupLeads_iff {a : Arena} {id other : GroupId} {g : GroupDef} (hg : a.group? id = some g) :
    a.GroupLeads id other ↔ ∃ r, .named (.group r) ∈ g.group.mentions ∧ r.target = some other := by
  have same : a.references (.group id) = Mention.references g.group.mentions := by
    rw [references_eq, mentions, hg]
    rfl
  rw [GroupLeads, same]
  simp only [Mention.mem_references_iff]

theorem attributeGroupLeads_iff {a : Arena} {id other : AttributeGroupId} {g : AttributeGroupDef}
    (hg : a.attributeGroup? id = some g) :
    a.AttributeGroupLeads id other ↔ ∃ r ∈ g.attributes.groups, r.target = some other := by
  have same : a.references (.attributeGroup id) = Mention.references g.attributes.mentions := by
    rw [references_eq, mentions, hg]
    rfl
  rw [AttributeGroupLeads, same]
  simp only [Mention.mem_references_iff, AttributeDecls.mem_mentions_iff]

/-- The names of groups of a category that contain each other. -/
def IsGroupRing (a : Arena) : Category → List String → Prop
  | .group => IsRing a.GroupLeads (Derivation.groupName a)
  | .attributeGroup => IsRing a.AttributeGroupLeads (Derivation.attributeGroupName a)
  | _ => fun _ => False

end Arena

end Xsd
