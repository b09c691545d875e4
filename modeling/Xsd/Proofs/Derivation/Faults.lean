import Xsd.Derivation.Derive
import Xsd.Proofs.Agreement
import Xsd.Proofs.Derivation.Rings
import Xsd.Proofs.Schema.Growth
import Xsd.Proofs.Table

/-!
# What stops a step of a derivation

Most steps of a derivation look at values only. Such a step fails with an error of its own, never
with a circle of types, or because the arena lacks what it looks for; groups inside each other are
different ones, so it does not run out of fuel. Where groups are found to contain each other they do.
-/

namespace Xsd

/-- Different numbers below a bound are no more than the bound. -/
theorem length_le_of_index_lt {α : Type} {ids : List α} {index : α → Nat} {n : Nat}
    (injective : Function.Injective index) (nodup : ids.Nodup) (bound : ∀ id ∈ ids, index id < n) :
    ids.length ≤ n := by
  have sub : ids.map index ⊆ List.range n := by
    intro i hi
    obtain ⟨id, hid, rfl⟩ := List.mem_map.mp hi
    exact List.mem_range.mpr (bound id hid)
  have := (List.subperm_of_subset (nodup.map injective) sub).length_le
  rwa [List.length_map, List.length_range] at this

theorem GroupId.index_injective : Function.Injective GroupId.index :=
  fun ⟨_⟩ ⟨_⟩ same => congrArg GroupId.mk same

theorem AttributeGroupId.index_injective : Function.Injective AttributeGroupId.index :=
  fun ⟨_⟩ ⟨_⟩ same => congrArg AttributeGroupId.mk same

namespace Arena

/-- What is mentioned is bound to something that is there. -/
def Knows (a : Arena) (m : Mention) : Prop := ∃ id, m.target = some id ∧ a.Has id

/-- All references are bound. -/
def IsBound (a : Arena) : Prop := ∀ id, ∀ m ∈ a.mentions id, a.Knows m

theorem Knows.group {a : Arena} {r : Reference GroupId} (h : a.Knows (.named (.group r))) :
    ∃ id, r.target = some id ∧ a.Has (.group id) := by
  obtain ⟨id, target, has⟩ := h
  obtain ⟨id', target', rfl⟩ := Option.map_eq_some_iff.mp target
  exact ⟨id', target', has⟩

end Arena

/-- The attribute is used by the declarations, or by those of a group to which they refer. -/
inductive Arena.Uses (a : Arena) : AttributeDecls → AttributeUseDecl → Prop
  | own {decls : AttributeDecls} {u : AttributeUseDecl} : u ∈ decls.uses → Uses a decls u
  | group {decls : AttributeDecls} {r : Reference AttributeGroupId} {id : AttributeGroupId}
    {g : AttributeGroupDef} {u : AttributeUseDecl} : r ∈ decls.groups → r.target = some id →
      a.attributeGroup? id = some g → Uses a g.attributes u → Uses a decls u

theorem Arena.Uses.knows {a : Arena} {decls : AttributeDecls} {u : AttributeUseDecl}
    (h : a.Uses decls u) (bound : a.IsBound) (known : ∀ m ∈ decls.mentions, a.Knows m) :
    a.Knows u.source.mention := by
  induction h with
  | own mem => exact known _ (List.mem_append_left _ (List.mem_map_of_mem mem))
  | @group _ r id g _ _ _ hg _ ih =>
    refine ih fun m hm => bound (.attributeGroup id) m ?_
    rw [Arena.mentions, hg]
    exact hm

/-- The error does not say that something contains itself. -/
def Error.IsPlain : Error → Prop
  | .circularTypeDefinition _ => False
  | .circularGroupReference _ _ => False
  | _ => True

namespace Derivation

/-- What stops a step by itself: that something is missing, an error that speaks of no circle, or
groups that contain each other. -/
inductive Stops (a : Arena) (whole : Prop) : Option Error → Prop
  | missing : ¬ whole → Stops a whole none
  | refused {e : Error} : e.IsPlain → Stops a whole (some e)
  | ring {category : Category} {names : List String} : a.IsGroupRing category names →
    Stops a whole (some (.circularGroupReference category names))

variable {σ α : Type} {a : Arena} {owner : String} {whole : Prop}

theorem Stops.noted {names : List String} :
    ¬ Stops a whole (some (.circularTypeDefinition names)) := by
  rintro ⟨⟩
  assumption

theorem Stops.isGroupRing {category : Category} {names : List String}
    (h : Stops a whole (some (.circularGroupReference category names))) :
    a.IsGroupRing category names := by
  cases h with
  | refused plain => exact plain.elim
  | ring ring => exact ring

theorem inert_refuse {G : α → Prop} {e : Error} (h : e.IsPlain) :
    Inert (Stops a whole) G (Derive.refuse e : Derive α) :=
  .throw (.refused h)

theorem inert_expect_or {F : Option Error → Prop} {o : Option α} (missing : o = none → F none) :
    Inert F (fun x => o = some x) (Derive.expect o) := by
  cases o with
  | none => exact .throw (missing rfl)
  | some x => exact .pure rfl

/-- What is expected is there unless something is missing. -/
theorem inert_expect {o : Option α} (h : whole → ∃ x, o = some x) :
    Inert (Stops a whole) (fun x => o = some x) (Derive.expect o) := by
  refine inert_expect_or fun none => .missing fun ok => ?_
  obtain ⟨x, hx⟩ := h ok
  cases none.symm.trans hx

theorem inert_ofFacets {result : Except (FacetKind × FacetFault) α} :
    Inert (Stops a whole) (fun _ => True) (ofFacets owner result) := by
  unfold ofFacets
  split
  · exact .pure trivial
  · exact inert_refuse trivial

theorem inert_specialize {builtin : Option Builtin} {t : ValueType} :
    Inert (Stops a whole) (fun _ => True) (specialize owner builtin t) := by
  cases builtin with
  | none => exact .pure trivial
  | some b => exact .bind inert_ofFacets fun _ _ => .pure trivial

/-! ## Attributes -/

/-- The types of the attributes in a table. -/
def attributeTypes (table : AttributeTable) : Set TypeId := {id | ∃ x ∈ table.values, x.type = id}

theorem attributeTypes_insert (table : AttributeTable) (x : EffectiveAttribute) :
    attributeTypes (table.insert x.name x) ⊆ insert x.type (attributeTypes table) := by
  rintro id ⟨y, hy, rfl⟩
  rcases Table.mem_values_insert hy with rfl | old
  · exact Set.mem_insert ..
  · exact Set.mem_insert_of_mem _ ⟨y, old, rfl⟩

/-- What stops the collection of attributes besides the attributes themselves: that something is
missing, that an attribute is declared twice, or groups that contain each other. -/
inductive StopsCollection (a : Arena) (whole : Prop) (owner : String) : Option Error → Prop
  | missing : ¬ whole → StopsCollection a whole owner none
  | duplicate {name : QName} : StopsCollection a whole owner (some (.duplicateAttribute owner name))
  | ring {names : List String} : a.IsGroupRing .attributeGroup names →
    StopsCollection a whole owner (some (.circularGroupReference .attributeGroup names))

theorem StopsCollection.stops {e : Option Error} (h : StopsCollection a whole owner e) :
    Stops a whole e := by
  cases h with
  | missing lacking => exact .missing lacking
  | duplicate => exact .refused trivial
  | ring ring => exact .ring ring

theorem inert_addAttribute {table : AttributeTable} {x : EffectiveAttribute} :
    Inert (StopsCollection a whole owner)
      (fun t => attributeTypes t ⊆ insert x.type (attributeTypes table))
      (addAttribute owner table x) := by
  unfold addAttribute
  split
  · exact .throw .duplicate
  · exact .pure (attributeTypes_insert table x)

theorem inert_addGroup {sofar group : AttributeSet} :
    Inert (StopsCollection a whole owner)
      (fun set => attributeTypes set.attributes ⊆
        attributeTypes sofar.attributes ∪ attributeTypes group.attributes)
      (addGroup owner sofar group) := by
  refine .bind (G := fun table =>
    attributeTypes table ⊆ attributeTypes sofar.attributes ∪ attributeTypes group.attributes) ?_
    fun table h => .pure h
  refine .foldlM (fun x mem table h => ?_) Set.subset_union_left
  refine inert_addAttribute.weaken (fun _ he => he) fun t ht => ht.trans ?_
  exact Set.insert_subset (Or.inr ⟨x, mem, rfl⟩) h

theorem inert_extend {base own : AttributeSet} :
    Inert (Stops a whole) (fun _ => True) (extend owner base own) := by
  refine .bind (G := fun _ => True) (.foldlM (fun x _ table _ => ?_) trivial) fun _ _ => .pure trivial
  unfold extendAttribute
  split
  · exact inert_refuse trivial
  · split
    · exact .pure trivial
    · exact .pure trivial

theorem inert_restrictAttribute {d : DerivedTypes} {base : AttributeSet} {table : AttributeTable}
    {x : EffectiveAttribute} :
    Inert (Stops a whole) (fun _ => True) (restrictAttribute a d owner base table x) := by
  unfold restrictAttribute
  extract_lets refuse
  have hrefuse : ∀ fault, Inert (Stops a whole) (fun _ => True) (refuse fault) :=
    fun fault => inert_refuse trivial
  split
  · split
    · exact .pure trivial
    · split
      · exact .pure trivial
      · exact hrefuse _
  · split
    · split
      · exact hrefuse _
      · exact .pure trivial
    · split
      · exact hrefuse _
      · exact .pure trivial

theorem inert_restrictWildcard {own base : Option Wildcard} :
    Inert (Stops a whole) (fun _ => True) (restrictWildcard owner own base) := by
  unfold restrictWildcard
  split
  · exact .pure trivial
  · split
    · exact .pure trivial
    · exact inert_refuse trivial
  · exact inert_refuse trivial

/-! ## Groups -/

/-- Groups inside each other are there, unless something is missing, and different ones, and each
leads to the next. -/
structure IsNest (leads : α → α → Prop) (has : α → Prop) (whole : Prop) (stack : List α) : Prop where
  nodup : stack.Nodup
  known : whole → ∀ id ∈ stack, has id
  chain : stack.IsChain leads

section

variable {leads : α → α → Prop} {has : α → Prop} {stack : List α} {id : α}

theorem IsNest.nil : IsNest leads has whole [] :=
  ⟨List.nodup_nil, fun _ _ mem => (by cases mem), List.isChain_nil⟩

theorem IsNest.singleton (known : whole → has id) : IsNest leads has whole [id] where
  nodup := List.nodup_singleton id
  known ok x hx := by
    cases List.mem_singleton.mp hx
    exact known ok
  chain := List.isChain_singleton id

theorem IsNest.push (h : IsNest leads has whole stack) (new : id ∉ stack)
    (last : ∀ x ∈ stack.getLast?, leads x id) (known : whole → has id) :
    IsNest leads has whole (stack ++ [id]) where
  nodup := List.nodup_append.mpr ⟨h.nodup, List.nodup_singleton id, fun x hx y hy => by
    cases List.mem_singleton.mp hy
    rintro rfl
    exact new hx⟩
  known ok x hx := by
    rcases List.mem_append.mp hx with hx | hx
    · exact h.known ok x hx
    · cases List.mem_singleton.mp hx
      exact known ok
  chain := List.isChain_append.mpr ⟨h.chain, List.isChain_singleton id, fun x hx y hy => by
    cases hy
    exact last x hx⟩

end

section

variable {expand : ExpandGroup} {stack : List GroupId} {e : Option Error}

mutual

/-- The content of a particle lacks an element, or it is that of a group in it that cannot be had. -/
theorem expandParticle_error {p : Particle} (h : expandParticle a expand stack p = .error e) :
    (∃ m ∈ p.mentions, m.target = none ∧ e = none) ∨
      ∃ r, .named (.group r) ∈ p.mentions ∧ expandUse a expand stack r = .error e := by
  cases p with
  | element o use =>
    unfold expandParticle at h
    split at h
    · cases h
    · rename_i unbound
      cases h
      refine Or.inl ⟨_, List.mem_singleton_self _, ?_, rfl⟩
      rw [ElementUse.target_mention, unbound]
      rfl
  | wildcard o w => cases h
  | group o c particles =>
    unfold expandParticle at h
    cases hp : expandParticles a expand stack particles with
    | ok cs =>
      rw [hp] at h
      cases h
    | error e' =>
      rw [hp] at h
      cases h
      exact expandParticles_error hp
  | groupUse o r =>
    unfold expandParticle at h
    cases hr : expandUse a expand stack r with
    | ok cs =>
      rw [hr] at h
      cases h
    | error e' =>
      rw [hr] at h
      cases h
      exact Or.inr ⟨r, List.mem_singleton_self _, hr⟩

theorem expandParticles_error {ps : List Particle}
    (h : expandParticles a expand stack ps = .error e) :
    (∃ m ∈ Particle.allMentions ps, m.target = none ∧ e = none) ∨
      ∃ r, .named (.group r) ∈ Particle.allMentions ps ∧
        expandUse a expand stack r = .error e := by
  cases ps with
  | nil => cases h
  | cons p ps =>
    unfold expandParticles at h
    cases hp : expandParticle a expand stack p with
    | error e' =>
      rw [hp] at h
      cases h
      refine (expandParticle_error hp).imp ?_ ?_
      · rintro ⟨m, hm, stop⟩
        exact ⟨m, List.mem_append_left _ hm, stop⟩
      · rintro ⟨r, hr, stop⟩
        exact ⟨r, List.mem_append_left _ hr, stop⟩
    | ok c =>
      rw [hp] at h
      cases hps : expandParticles a expand stack ps with
      | ok cs =>
        rw [hps] at h
        cases h
      | error e' =>
        rw [hps] at h
        cases h
        refine (expandParticles_error hps).imp ?_ ?_
        · rintro ⟨m, hm, stop⟩
          exact ⟨m, List.mem_append_right _ hm, stop⟩
        · rintro ⟨r, hr, stop⟩
          exact ⟨r, List.mem_append_right _ hr, stop⟩

end

end

/-- What stops the expansion of groups: that something is missing, or that they contain each other. -/
inductive StopsExpansion (a : Arena) (whole : Prop) : Option Error → Prop
  | missing : ¬ whole → StopsExpansion a whole none
  | ring {names : List String} : a.IsGroupRing .group names →
    StopsExpansion a whole (some (.circularGroupReference .group names))

theorem StopsExpansion.stops {e : Option Error} (h : StopsExpansion a whole e) :
    Stops a whole e := by
  cases h with
  | missing lacking => exact .missing lacking
  | ring ring => exact .ring ring

section

variable (bound : whole → a.IsBound) {stack : List GroupId} {e : Option Error}

/-- How the uses of groups stop an expansion if the groups themselves do so. -/
theorem stops_expandUse {expand : ExpandGroup} {r : Reference GroupId}
    (nest : IsNest a.GroupLeads (fun id => a.Has (.group id)) whole stack)
    (last : ∀ x ∈ stack.getLast?, ∀ id, r.target = some id → a.GroupLeads x id)
    (known : whole → a.Knows (.named (.group r)))
    (inner : ∀ id, IsNest a.GroupLeads (fun id => a.Has (.group id)) whole (stack ++ [id]) →
      (whole → a.Has (.group id)) → ∀ e, expand (stack ++ [id]) id = .error e →
        StopsExpansion a whole e)
    (h : expandUse a expand stack r = .error e) : StopsExpansion a whole e := by
  unfold expandUse at h
  split at h
  · rename_i unbound
    cases h
    refine .missing fun ok => ?_
    obtain ⟨id, target, -⟩ := (known ok).group
    cases target.symm.trans unbound
  · rename_i id target
    have has : whole → a.Has (.group id) := by
      intro ok
      obtain ⟨id', target', has⟩ := (known ok).group
      cases target.symm.trans target'
      exact has
    split at h
    · rename_i mem
      cases h
      exact .ring (isRing_circle nest.chain (List.elem_iff.mp mem) fun x hx => last x hx id target)
    · rename_i new
      have inside := nest.push (fun mem => new (List.elem_iff.mpr mem))
        (fun x hx => last x hx id target) has
      exact inner id inside has e h

include bound

/-- By induction on the number of groups that can still be inside each other. -/
theorem stops_expandNamed {fuel : Nat} {id : GroupId}
    (nest : IsNest a.GroupLeads (fun id => a.Has (.group id)) whole stack)
    (last : stack.getLast? = some id) (enough : a.groups.size < fuel + stack.length)
    (known : whole → a.Has (.group id)) (h : expandNamed a fuel stack id = .error e) :
    StopsExpansion a whole e := by
  induction fuel generalizing stack id e with
  | zero =>
    cases h
    refine .missing fun ok => ?_
    have := length_le_of_index_lt GroupId.index_injective nest.nodup (nest.known ok)
    omega
  | succ fuel ih =>
    unfold expandNamed at h
    split at h
    · rename_i absent
      cases h
      refine .missing fun ok => ?_
      have := Array.getElem?_eq_none_iff.mp absent
      have : id.index < a.groups.size := known ok
      omega
    · rename_i g hg
      have mentioned : ∀ m ∈ g.group.mentions, whole → a.Knows m := by
        intro m hm ok
        refine bound ok (.group id) m ?_
        rw [Arena.mentions, hg]
        exact hm
      cases hp : expandParticles a (expandNamed a fuel) stack g.group.particles with
      | ok cs =>
        rw [hp] at h
        cases h
      | error e' =>
        rw [hp] at h
        cases h
        rcases expandParticles_error hp with ⟨m, hm, unbound, rfl⟩ | ⟨r, hr, stop⟩
        · refine .missing fun ok => ?_
          obtain ⟨id, target, -⟩ := mentioned m hm ok
          cases unbound.symm.trans target
        · refine stops_expandUse nest ?_ (mentioned _ hr) (fun other inside has e he => ?_) stop
          · intro x hx other target
            cases last.symm.trans hx
            exact (Arena.groupLeads_iff hg).mpr ⟨r, hr, target⟩
          · refine ih inside List.getLast?_concat ?_ has he
            rw [List.length_append, List.length_singleton]
            omega

theorem stops_expand {p : Particle} (known : whole → ∀ m ∈ p.mentions, a.Knows m)
    (h : Derivation.expand a p = .error e) : StopsExpansion a whole e := by
  rcases expandParticle_error h with ⟨m, hm, unbound, rfl⟩ | ⟨r, hr, stop⟩
  · refine .missing fun ok => ?_
    obtain ⟨id, target, -⟩ := known ok m hm
    cases unbound.symm.trans target
  · refine stops_expandUse .nil (fun x hx => by cases hx) (fun ok => known ok _ hr)
      (fun id nest has e he => ?_) stop
    exact stops_expandNamed bound nest rfl
      (by rw [List.length_append, List.length_singleton]; omega) has he

theorem stops_expandGroup {id : GroupId} (known : whole → a.Has (.group id))
    (h : expandGroup a id = .error e) : StopsExpansion a whole e :=
  stops_expandNamed bound (.singleton known) rfl
    (by rw [List.length_singleton]; omega) known h

/-! ## Contents -/

theorem inert_deriveContent {t : ComplexTypeDef} {baseId : TypeId} {base : EffectiveType}
    {particle : Option Particle}
    (known : whole → ∀ p, particle = some p → ∀ m ∈ p.mentions, a.Knows m) :
    Inert (Stops a whole) (fun _ => True) (deriveContent a owner t baseId base particle) := by
  unfold deriveContent
  extract_lets refuse
  have hrefuse : Inert (Stops a whole) (fun _ => True) refuse := inert_refuse trivial
  split
  · exact hrefuse
  · split
    · exact hrefuse
    · extract_lets finish
      have hfinish : ∀ own, True → Inert (Stops a whole) (fun _ => True) (finish own) :=
        fun own _ => .pure trivial
      split
      · rename_i p
        have expanded : Inert (Stops a whole) (fun _ => True)
            (liftM (expand a p : Except (Option Error) Content) : Derive Content) :=
          .lift (fun e he => (stops_expand bound (fun ok => known ok p rfl) he).stops) fun _ _ => trivial
        exact .bind (expanded.map (H := fun _ => True) fun _ _ => trivial) hfinish
      · exact .bind (G := fun _ => True) (.pure trivial) hfinish

end

theorem inert_deriveSimpleContent {t : ComplexTypeDef} {baseId : TypeId} {base : EffectiveType}
    {facets : List FacetDecl} :
    Inert (Stops a whole) (fun _ => True) (deriveSimpleContent a owner t baseId base facets) := by
  unfold deriveSimpleContent
  extract_lets finish
  have hfinish : ∀ baseType, True → Inert (Stops a whole) (fun _ => True) (finish baseType) := by
    intro baseType _
    unfold finish
    split
    · exact inert_ofFacets
    · exact .pure trivial
  have stop : ∀ {fault}, Inert (Stops a whole) (fun _ : ValueType => True)
      (Derive.refuse (.invalidDerivation owner fault)) := inert_refuse trivial
  split
  · split
    · exact .bind (G := fun _ => True) (.pure trivial) hfinish
    · exact .bind stop hfinish
  · split
    · exact .bind (G := fun _ => True) (.pure trivial) hfinish
    · exact .bind stop hfinish

end Derivation

end Xsd
