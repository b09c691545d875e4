import Xsd.Proofs.Derivation.Faults

/-!
# Derivations that agree

The result of a derivation depends on the types that it needs only, and on the entries on which
attributes of a base are compared with those of the type. So two derivations of a type agree if the
types that they need get the same entries; and each type to which the definition leads has an entry
once there is a result.
-/

namespace Xsd

/-- The types that a variety is made of: a base, items or members. -/
def SimpleVariety.uses : SimpleVariety → List TypeUse
  | .restriction base _ => [base]
  | .list item => [item]
  | .union members => members

theorem SimpleVariety.mentions_eq (v : SimpleVariety) : v.mentions = v.uses.map (·.mention) := by
  cases v <;> rfl

/-- The types that a type is made of. The two most general types are not made of any, whatever their
definitions say. -/
def TypeDefinition.uses (id : TypeId) : TypeDefinition → List TypeUse
  | .simple t => if id = .anySimpleType then [] else t.variety.uses
  | .complex t => if id = .anyType then [] else t.base.toList

namespace Arena

/-- The first type is defined as derived from the second, as a list of it or as a union with it. -/
def LeadsTo (a : Arena) (id other : TypeId) : Prop :=
  ∃ t, a.type? id = some t ∧ ∃ use ∈ t.uses id, use.target = some other

/-- All references are bound, attributes have names, and complex types bases. -/
structure IsWhole (a : Arena) : Prop where
  bound : a.IsBound
  general : a.Has (.type .anySimpleType)
  named : ∀ {id d}, a.attribute? id = some d → d.info.name.isSome
  based : ∀ {id t}, a.type? id = some (.complex t) → id ≠ .anyType → t.base.isSome

variable {a : Arena}

theorem exists_type? {id : TypeId} (h : a.Has (.type id)) : ∃ t, a.type? id = some t :=
  ⟨_, Array.getElem?_eq_getElem h⟩

theorem exists_attribute? {id : AttributeId} (h : a.Has (.attribute id)) :
    ∃ d, a.attribute? id = some d :=
  ⟨_, Array.getElem?_eq_getElem h⟩

theorem exists_attributeGroup? {id : AttributeGroupId} (h : a.Has (.attributeGroup id)) :
    ∃ g, a.attributeGroup? id = some g :=
  ⟨_, Array.getElem?_eq_getElem h⟩

/-- A type that is spoken of is there. -/
theorem Knows.type {use : TypeUse} (h : a.Knows use.mention) :
    ∃ id, use.target = some id ∧ a.Has (.type id) := by
  obtain ⟨id, target, has⟩ := h
  rw [TypeUse.target_mention] at target
  obtain ⟨id', target', rfl⟩ := Option.map_eq_some_iff.mp target
  exact ⟨id', target', has⟩

theorem Knows.attribute {source : AttributeSource} (h : a.Knows source.mention) :
    ∃ id, source.target = some id ∧ a.Has (.attribute id) := by
  obtain ⟨id, target, has⟩ := h
  rw [AttributeSource.target_mention] at target
  obtain ⟨id', target', rfl⟩ := Option.map_eq_some_iff.mp target
  exact ⟨id', target', has⟩

theorem Knows.attributeGroup {r : Reference AttributeGroupId}
    (h : a.Knows (.named (.attributeGroup r))) :
    ∃ id, r.target = some id ∧ a.Has (.attributeGroup id) := by
  obtain ⟨id, target, has⟩ := h
  obtain ⟨id', target', rfl⟩ := Option.map_eq_some_iff.mp target
  exact ⟨id', target', has⟩

end Arena

namespace Derivation

/-- Both states have one entry for the type. -/
def Shares (s t : DerivationState) (id : TypeId) : Prop :=
  ∃ info, s.derived.get? id = some info ∧ t.derived.get? id = some info

/-- The states are related, and share some entries. -/
def Sharing (R : DerivationState → DerivationState → Prop) (K : Set TypeId)
    (s t : DerivationState) : Prop :=
  R s t ∧ ∀ id ∈ K, Shares s t id

/-- What is asked of related states, and of the errors with which the first of two derivations may
fail: the bases of a shared type are the same, simple types have simple results, and a step may stop
by itself. -/
structure Compatible (a : Arena) (R : DerivationState → DerivationState → Prop)
    (E : Option Error → DerivationState → Prop) (whole : Prop) : Prop where
  chains : ∀ {s t id base}, R s t → Shares s t id →
    s.derived.isDerivedFrom id base = t.derived.isDerivedFrom id base
  plain : ∀ {s t id definition}, R s t → a.type? id = some definition → definition.isSimple →
    (s.derived.get? id).isSome → s.derived.simple? id = none → E none s
  stops : ∀ {e s t}, R s t → Stops a whole e → E e s

/-- Two ways to have types derived agree on some of them. -/
def Need.Agree (R : DerivationState → DerivationState → Prop)
    (E : Option Error → DerivationState → Prop) (demand : TypeId → Prop) (need need' : Need) :
    Prop :=
  ∀ K id, demand id →
    Agrees (Sharing R K) (need id) (need' id) E fun _ => Sharing R (insert id K)

variable {R : DerivationState → DerivationState → Prop}
  {E : Option Error → DerivationState → Prop} {demand : TypeId → Prop} {a : Arena}
  {need need' : Need} {owner : String} {whole : Prop} {K L : Set TypeId}
  {s t : DerivationState}

theorem Sharing.mono (sub : L ⊆ K) (h : Sharing R K s t) : Sharing R L s t :=
  ⟨h.1, fun id mem => h.2 id (sub mem)⟩

theorem sharing_sharing_iff : Sharing (Sharing R K) L s t ↔ Sharing R (K ∪ L) s t := by
  constructor
  · rintro ⟨⟨hR, hK⟩, hL⟩
    exact ⟨hR, fun id mem => mem.elim (hK id) (hL id)⟩
  · rintro ⟨hR, h⟩
    exact ⟨⟨hR, fun id mem => h id (Or.inl mem)⟩, fun id mem => h id (Or.inr mem)⟩

theorem Need.Agree.sharing (needs : Need.Agree R E demand need need') :
    Need.Agree (Sharing R K) E demand need need' := by
  intro L id hid
  refine (needs (K ∪ L) id hid).weaken (fun s t h => sharing_sharing_iff.mp h) (fun _ _ h => h)
    fun _ s t h => sharing_sharing_iff.mpr ?_
  rwa [Set.union_insert]

theorem Compatible.stopped (compatible : Compatible a R E whole) (e : Option Error)
    (s t : DerivationState) (h : Sharing R K s t) (stop : Stops a whole e) : E e s :=
  compatible.stops h.1 stop

/-! ## Attributes -/

/-- The attribute group that is looked at leads to those to which it refers. -/
theorem leads_of_getLast? {stack : List AttributeGroupId} {id : AttributeGroupId}
    {g : AttributeGroupDef} (last : stack.getLast? = some id) (hg : a.attributeGroup? id = some g) :
    ∀ x ∈ stack.getLast?, ∀ r ∈ g.attributes.groups, ∀ other, r.target = some other →
      a.AttributeGroupLeads x other := by
  intro x hx r hr other target
  cases last.symm.trans hx
  exact (Arena.attributeGroupLeads_iff hg).mpr ⟨r, hr, target⟩

/-- The attributes that stand in the declarations themselves are added alike. -/
theorem agrees_addAttributes {uses : List AttributeUseDecl}
    (stopped : ∀ {L} e s t, Sharing R L s t → StopsCollection a whole owner e → E e s)
    (alike : ∀ u ∈ uses, ∀ K, Agrees (Sharing R K) (attributeUse a need u)
      (attributeUse a need' u) E fun x => Sharing R (insert x.type K)) :
    Agrees (Sharing R K)
      (uses.foldlM (fun table u => do addAttribute owner table (← attributeUse a need u)) .empty)
      (uses.foldlM (fun table u => do addAttribute owner table (← attributeUse a need' u)) .empty)
      E fun table => Sharing R (K ∪ attributeTypes table) := by
  -- No types are of the empty table, so the states agree on them too.
  have start : ∀ s t, Sharing R K s t →
      Sharing R (K ∪ attributeTypes (.empty : AttributeTable)) s t := by
    intro s t h
    refine h.mono (Set.union_subset (Set.Subset.refl _) ?_)
    rintro id ⟨x, hx, -⟩
    cases hx
  refine Agrees.weaken ?_ start (fun _ _ h => h) fun _ _ _ h => h
  refine .foldlM (R := fun table => Sharing R (K ∪ attributeTypes table))
    (fun u hu table => .bind (alike u hu _) fun x => ?_) _
  refine (Agrees.inert inert_addAttribute stopped).weaken (fun _ _ h => h)
    (fun _ _ h => h) fun table' s t h => h.1.mono ?_
  rw [← Set.union_insert]
  exact Set.union_subset_union_right K h.2

/-- Attributes are collected alike if each of them is looked at alike. By induction on the number of
groups that can still be inside each other. -/
theorem agrees_flatten (bound : whole → a.IsBound)
    (stops : ∀ e s t, R s t → StopsCollection a whole owner e → E e s) {fuel : Nat}
    {stack : List AttributeGroupId} {decls : AttributeDecls}
    (nest : IsNest a.AttributeGroupLeads (fun id => a.Has (.attributeGroup id)) whole stack)
    (last : ∀ x ∈ stack.getLast?, ∀ r ∈ decls.groups, ∀ id, r.target = some id →
      a.AttributeGroupLeads x id)
    (enough : a.attributeGroups.size < fuel + stack.length)
    (known : whole → ∀ m ∈ decls.mentions, a.Knows m)
    (uses : ∀ u, a.Uses decls u → ∀ K, Agrees (Sharing R K) (attributeUse a need u)
      (attributeUse a need' u) E fun x => Sharing R (insert x.type K)) :
    Agrees (Sharing R K) (flatten a need owner fuel stack decls)
      (flatten a need' owner fuel stack decls) E
      fun set => Sharing R (K ∪ attributeTypes set.attributes) := by
  have stopped : ∀ {L} e s t, Sharing R L s t → StopsCollection a whole owner e → E e s :=
    fun e s t h stop => stops e s t h.1 stop
  induction fuel generalizing stack decls K with
  | zero =>
    refine .throw fun s t h => stops _ s t h.1 (.missing fun w => ?_)
    have := length_le_of_index_lt AttributeGroupId.index_injective nest.nodup (nest.known w)
    omega
  | succ fuel ih =>
    refine .bind (agrees_addAttributes stopped fun u hu => uses u (.own hu)) fun used => ?_
    refine .foldlM (R := fun set : AttributeSet => Sharing R (K ∪ attributeTypes set.attributes))
      (fun r hr sofar => ?_) ⟨used, decls.wildcard⟩
    have there : whole → ∃ id, r.target = some id ∧ a.Has (.attributeGroup id) := fun w =>
      (known w _ (List.mem_append_right _ (List.mem_map_of_mem hr))).attributeGroup
    have bound' : r.target = none → StopsCollection a whole owner none := by
      refine fun none => .missing fun w => ?_
      obtain ⟨id, target, -⟩ := there w
      cases none.symm.trans target
    refine .inertBind (inert_expect_or bound') stopped fun id target => ?_
    have has : whole → a.Has (.attributeGroup id) := by
      intro w
      obtain ⟨id', target', has⟩ := there w
      cases target.symm.trans target'
      exact has
    have leads : ∀ x ∈ stack.getLast?, a.AttributeGroupLeads x id :=
      fun x hx => last x hx r hr id target
    split
    · rename_i mem
      exact .throw fun s t h =>
        stops _ s t h.1 (.ring (isRing_circle nest.chain (List.elem_iff.mp mem) leads))
    · rename_i new
      have known' : a.attributeGroup? id = none → StopsCollection a whole owner none := by
        refine fun none => .missing fun w => ?_
        obtain ⟨g, hg⟩ := Arena.exists_attributeGroup? (has w)
        cases none.symm.trans hg
      refine .inertBind (inert_expect_or known') stopped fun group hg => ?_
      refine .bind (ih (nest.push (fun mem => new (List.elem_iff.mpr mem)) leads has)
        (leads_of_getLast? List.getLast?_concat hg) ?_ (fun w m hm => ?_)
        fun u hu => uses u (.group hr target hg hu)) fun inner => ?_
      · rw [List.length_append, List.length_singleton]
        omega
      · refine bound w (.attributeGroup id) m ?_
        rw [Arena.mentions, hg]
        exact hm
      · refine (Agrees.inert inert_addGroup stopped).weaken (fun _ _ h => h)
          (fun _ _ h => h) fun set s t h => h.1.mono ?_
        rw [Set.union_assoc]
        exact Set.union_subset_union_right K h.2

section Attributes

variable (compatible : Compatible a R E whole) (needs : Need.Agree R E demand need need')
  (ok : whole → a.IsWhole)
  (demanded : ∀ {id definition}, a.type? id = some definition → definition.isSimple → demand id)

include compatible needs ok demanded

theorem agrees_attributeUse {u : AttributeUseDecl} (known : whole → a.Knows u.source.mention) :
    Agrees (Sharing R K) (attributeUse a need u) (attributeUse a need' u) E
      fun x => Sharing R (insert x.type K) := by
  refine .inertBind (inert_expect fun w => ?_) compatible.stopped fun id target => ?_
  · obtain ⟨id, target, -⟩ := (known w).attribute
    exact ⟨id, target⟩
  refine .inertBind (inert_expect fun w => ?_) compatible.stopped fun decl hd => ?_
  · obtain ⟨id', target', has⟩ := (known w).attribute
    cases target.symm.trans target'
    exact Arena.exists_attribute? has
  refine .inertBind (inert_expect fun w => ?_) compatible.stopped fun name _ => ?_
  · exact Option.isSome_iff_exists.mp ((ok w).named hd)
  extract_lets finish finish'
  have finished : ∀ type, (whole → a.Has (.type type)) →
      Agrees (Sharing R K) (finish type) (finish' type) E fun x => Sharing R (insert x.type K) := by
    intro type has
    refine .inertBind (inert_expect fun w => Arena.exists_type? (has w)) compatible.stopped
      fun definition hdef => ?_
    split
    · rename_i simple
      exact .bind (needs K type (demanded hdef simple)) fun _ => .pure fun s t h => h
    · exact .throw fun s t h => compatible.stops h.1 (.refused trivial)
  split
  · rename_i use hu
    have there : whole → ∃ type, use.target = some type ∧ a.Has (.type type) := by
      intro w
      refine Arena.Knows.type ((ok w).bound (.attribute id) _ ?_)
      rw [Arena.mentions, hd, Option.map_some, Option.getD_some, AttributeDecl.mentions, hu]
      exact List.mem_singleton_self _
    refine .inertBind (inert_expect fun w => ?_) compatible.stopped fun type target => ?_
    · obtain ⟨type, target, -⟩ := there w
      exact ⟨type, target⟩
    · refine finished type fun w => ?_
      obtain ⟨type', target', has⟩ := there w
      cases target.symm.trans target'
      exact has
  · exact .inertBind (.pure rfl) compatible.stopped fun type same =>
      same ▸ finished .anySimpleType fun w => (ok w).general

theorem agrees_declared {stack : List AttributeGroupId} {decls : AttributeDecls}
    (nest : IsNest a.AttributeGroupLeads (fun id => a.Has (.attributeGroup id)) whole stack)
    (last : ∀ x ∈ stack.getLast?, ∀ r ∈ decls.groups, ∀ id, r.target = some id →
      a.AttributeGroupLeads x id)
    (known : whole → ∀ m ∈ decls.mentions, a.Knows m) :
    Agrees (Sharing R K) (declared a need owner stack decls) (declared a need' owner stack decls) E
      fun set => Sharing R (K ∪ attributeTypes set.attributes) := by
  have stops : ∀ e s t, R s t → StopsCollection a whole owner e → E e s :=
    fun e s t h stop => compatible.stops h stop.stops
  refine agrees_flatten (fun w => (ok w).bound) stops nest last (by omega) known fun u hu K => ?_
  exact agrees_attributeUse compatible needs ok demanded
    fun w => hu.knows (ok w).bound (known w)

omit needs ok demanded

/-- An attribute is compared with that of the base by the bases of its type. -/
theorem restrictAttribute_congr {base : AttributeSet} {table : AttributeTable}
    {x : EffectiveAttribute} (hR : R s t) (shared : Shares s t x.type) :
    restrictAttribute a s.derived owner base table x =
      restrictAttribute a t.derived owner base table x := by
  have same : ∀ inherited,
      restrictionFault? a s.derived inherited x = restrictionFault? a t.derived inherited x := by
    intro inherited
    unfold restrictionFault?
    rw [compatible.chains hR shared]
  unfold restrictAttribute
  simp only [same]

theorem agrees_merge {method : DerivationMethod} {base own : AttributeSet} :
    Agrees (Sharing R (K ∪ attributeTypes own.attributes)) (merge a owner method base own)
      (merge a owner method base own) E fun _ => Sharing R K := by
  have weaker : ∀ s t, Sharing R (K ∪ attributeTypes own.attributes) s t → Sharing R K s t :=
    fun s t h => h.mono Set.subset_union_left
  unfold merge
  split
  · exact (Agrees.inert inert_extend compatible.stopped).weaken weaker (fun _ _ h => h)
      fun _ s t h => h.1
  · refine .getBind fun s t h => ?_
    have stopped : ∀ e s' t', s' = s ∧ t' = t → Stops a whole e → E e s' :=
      fun e s' t' same stop => same.1 ▸ compatible.stops h.1 stop
    refine .bind (Q := fun _ s' t' => s' = s ∧ t' = t) ?_ fun table => ?_
    · refine .foldlM (R := fun _ s' t' => s' = s ∧ t' = t) (fun x hx table => ?_) _
      rw [← restrictAttribute_congr compatible h.1 (h.2 _ (Or.inr ⟨x, hx, rfl⟩))]
      refine (Agrees.inert (F := Stops a whole) inert_restrictAttribute ?_).weaken
        (fun _ _ h => h) (fun _ _ h => h) fun _ _ _ h => h.1
      exact stopped
    · refine .inertBind inert_restrictWildcard stopped fun wildcard _ =>
        .pure fun s' t' same => ?_
      rw [same.1, same.2]
      exact weaker s t h

end Attributes

/-! ## Simple types -/

section Simple

variable (compatible : Compatible a R E whole) (needs : Need.Agree R E demand need need')

include compatible needs

theorem agrees_operand {action : String} {use : TypeUse} (known : whole → a.Knows use.mention)
    (demanded : ∀ {id definition}, use.target = some id → a.type? id = some definition →
      definition.isSimple → demand id) :
    Agrees (Sharing R K) (operand a need owner action use) (operand a need' owner action use) E
      fun r s t => Sharing R (insert r.1 K) s t ∧ use.target = some r.1 := by
  refine .inertBind (inert_expect fun w => ?_) compatible.stopped fun id target => ?_
  · obtain ⟨id, target, -⟩ := (known w).type
    exact ⟨id, target⟩
  refine .inertBind (inert_expect fun w => ?_) compatible.stopped fun definition hd => ?_
  · obtain ⟨id', target', has⟩ := (known w).type
    cases target.symm.trans target'
    exact Arena.exists_type? has
  split
  · exact .throw fun s t h => compatible.stops h.1 (.refused trivial)
  · rename_i simple
    rw [Bool.not_eq_true, Bool.not_eq_false'] at simple
    refine .bind (needs K id (demanded target hd simple)) fun _ => .getBind fun s t h => ?_
    obtain ⟨info, entry, entry'⟩ := h.2 id (Set.mem_insert ..)
    have same : t.derived.simple? id = s.derived.simple? id := by
      rw [DerivedTypes.simple?, DerivedTypes.simple?, entry, entry']
    rw [same]
    cases hw : s.derived.simple? id with
    | none =>
      refine .bind (Q := fun _ _ _ => False) (.throw fun s' t' same => ?_) fun _ s' t' no => no.elim
      rw [same.1]
      exact compatible.plain h.1 hd simple (Option.isSome_iff_exists.mpr ⟨info, entry⟩) hw
    | some w =>
      refine .pure fun s' t' same => ⟨?_, target⟩
      rwa [same.1, same.2]

theorem agrees_operands {action : String} {uses : List TypeUse}
    (known : whole → ∀ use ∈ uses, a.Knows use.mention)
    (demanded : ∀ {use id definition}, use ∈ uses → use.target = some id →
      a.type? id = some definition → definition.isSimple → demand id) :
    Agrees (Sharing R K) (uses.mapM (operand a need owner action))
      (uses.mapM (operand a need' owner action)) E
      fun _ => Sharing R (K ∪ {id | ∃ use ∈ uses, use.target = some id}) := by
  induction uses generalizing K with
  | nil =>
    refine .pure fun s t h => h.mono (Set.union_subset (Set.Subset.refl _) ?_)
    rintro id ⟨use, hu, -⟩
    cases hu
  | cons use uses ih =>
    rw [List.mapM_cons, List.mapM_cons]
    refine .bind (agrees_operand compatible needs (fun w => known w use List.mem_cons_self)
      fun h => demanded List.mem_cons_self h) fun r => ?_
    refine .bind (Q := fun _ s t => Sharing R (insert r.1 K ∪
      {id | ∃ use ∈ uses, use.target = some id}) s t ∧ use.target = some r.1) ?_ fun rs => ?_
    · rintro s t ⟨h, target⟩
      have rest := ih (K := insert r.1 K)
        (fun w use hu => known w use (List.mem_cons_of_mem _ hu))
        fun hu => demanded (List.mem_cons_of_mem _ hu)
      exact (rest.weaken (fun _ _ h => h) (fun _ _ h => h) fun _ s t h => ⟨h, target⟩) s t h
    · refine .pure fun s t h => h.1.mono (Set.union_subset ?_ ?_)
      · exact fun id mem => Or.inl (Set.mem_insert_of_mem _ mem)
      · rintro id ⟨use', hu, target'⟩
        rcases List.mem_cons.mp hu with rfl | hu
        · cases h.2.symm.trans target'
          exact Or.inl (Set.mem_insert ..)
        · exact Or.inr ⟨use', hu, target'⟩

theorem agrees_deriveSimple {id : TypeId} {definition : SimpleTypeDef}
    (known : whole → ∀ m ∈ definition.variety.mentions, a.Knows m)
    (demanded : ∀ {use other definition'}, use ∈ (TypeDefinition.simple definition).uses id →
      use.target = some other → a.type? other = some definition' → definition'.isSimple →
      demand other) :
    Agrees R (deriveSimple a need id definition) (deriveSimple a need' id definition) E
      fun _ => Sharing R
        {other | ∃ use ∈ (TypeDefinition.simple definition).uses id, use.target = some other} := by
  have start : ∀ s t, R s t → Sharing R ∅ s t := fun s t h => ⟨h, fun id mem => mem.elim⟩
  unfold deriveSimple
  split
  · rename_i general
    refine .pure fun s t h => ⟨h, ?_⟩
    rintro other ⟨use, hu, -⟩
    rw [TypeDefinition.uses, if_pos general] at hu
    cases hu
  · rename_i general
    extract_lets owner
    have one : ∀ {use : TypeUse} {r : TypeId × ValueType} {s t}, use.target = some r.1 →
        Sharing R (insert r.1 ∅) s t →
        Sharing R {other | ∃ use' ∈ [use], use'.target = some other} s t := by
      intro use r s t target h
      refine h.mono ?_
      rintro other ⟨use', hu, target'⟩
      cases List.mem_singleton.mp hu
      cases target.symm.trans target'
      exact Set.mem_insert ..
    rw [TypeDefinition.uses, if_neg general] at demanded ⊢
    split
    · rename_i use declared variety
      simp only [variety, SimpleVariety.uses] at known demanded ⊢
      refine .bind ((agrees_operand compatible needs
        (fun w => known w _ (List.mem_singleton_self _))
        fun h => demanded (List.mem_singleton_self _) h).weaken start (fun _ _ h => h)
          fun r s t h => one h.2 h.1) fun base => ?_
      refine .inertBind inert_ofFacets compatible.stopped fun own _ => ?_
      exact .inertBind inert_specialize compatible.stopped fun _ _ => .pure fun s t h => h
    · rename_i use variety
      simp only [variety, SimpleVariety.uses] at known demanded ⊢
      refine .bind ((agrees_operand compatible needs
        (fun w => known w _ (List.mem_singleton_self _))
        fun h => demanded (List.mem_singleton_self _) h).weaken start (fun _ _ h => h)
          fun r s t h => one h.2 h.1) fun item => ?_
      split
      · exact .throw fun s t h => compatible.stops h.1 (.refused trivial)
      · exact .inertBind inert_ofFacets compatible.stopped fun _ _ => .pure fun s t h => h
    · rename_i uses variety
      simp only [variety, SimpleVariety.uses] at known demanded ⊢
      refine .bind ((agrees_operands compatible needs
        (fun w use hu => known w _ (List.mem_map_of_mem hu)) demanded).weaken start
          (fun _ _ h => h) fun _ s t h => h) fun members => ?_
      exact .pure fun s t h => h.mono Set.subset_union_right

end Simple

/-! ## Complex types -/

/-- The base comes first. What is said of related states and of errors may rest on its having been
derived. -/
theorem agrees_deriveComplex (needs : Need.Agree R E demand need need') (ok : whole → a.IsWhole)
    {id : TypeId} {definition : ComplexTypeDef}
    (hd : a.type? id = some (.complex definition))
    (unbased : id ≠ .anyType → definition.base.bind (·.target) = none → ∀ {s t}, R s t → E none s)
    (compatible : ∀ {baseId}, definition.base.bind (·.target) = some baseId →
      Compatible a (Sharing R {baseId}) E whole)
    (based : ∀ {baseId}, definition.base.bind (·.target) = some baseId → id ≠ .anyType →
      demand baseId)
    (demanded : ∀ {id definition}, a.type? id = some definition → definition.isSimple → demand id) :
    Agrees R (deriveComplex a need id definition) (deriveComplex a need' id definition) E
      fun _ => Sharing R
        {other | ∃ use ∈ (TypeDefinition.complex definition).uses id, use.target = some other} := by
  unfold deriveComplex
  split
  · rename_i general
    refine .pure fun s t h => ⟨h, ?_⟩
    rintro other ⟨use, hu, -⟩
    rw [TypeDefinition.uses, if_pos general] at hu
    cases hu
  · rename_i general
    extract_lets owner
    cases hb : definition.base.bind (·.target) with
    | none =>
      exact .bind (Q := fun _ _ _ => False) (.throw fun s t h => unbased general hb h)
        fun _ s t no => no.elim
    | some baseId =>
      have compatible := compatible hb
      have known : whole → ∀ m ∈ definition.mentions, a.Knows m := by
        intro w m hm
        refine (ok w).bound (.type id) m ?_
        rw [Arena.mentions, hd]
        exact hm
      have post : ∀ s t, Sharing (Sharing R {baseId}) ∅ s t → Sharing R
          {other | ∃ use ∈ (TypeDefinition.complex definition).uses id, use.target = some other}
          s t := by
        intro s t h
        refine h.1.mono ?_
        rintro other ⟨use, hu, target⟩
        rw [TypeDefinition.uses, if_neg general, Option.mem_toList] at hu
        rw [hu, Option.bind_some, target] at hb
        exact Option.some.inj hb
      refine .bind (Q := fun x s t => R s t ∧ x = baseId) (.pure fun s t h => ⟨h, rfl⟩) fun x => ?_
      rintro s t ⟨h, rfl⟩
      have first : Agrees R (need x) (need' x) E fun _ => Sharing (Sharing R {x}) ∅ :=
        (needs ∅ x (based hb general)).weaken (fun s t h => ⟨h, fun _ mem => mem.elim⟩)
          (fun _ _ h => h) fun _ s t h =>
            ⟨h.mono fun _ mem => Or.inl mem, fun _ mem => mem.elim⟩
      refine Agrees.bind first (fun _ => ?_) s t h
      refine .bind (Q := fun _ => Sharing (Sharing R {x}) ∅) (.getBind fun s t h => ?_) fun base => ?_
      · obtain ⟨info, entry, entry'⟩ := h.1.2 x rfl
        rw [entry, entry']
        refine .pure fun s' t' same => ?_
        rwa [same.1, same.2]
      refine .bind (agrees_declared compatible needs.sharing ok demanded .nil
        (fun x hx => by cases hx) fun w m hm => known w m (List.mem_append_right _ hm)) fun own => ?_
      extract_lets inherited finish
      refine .bind (agrees_merge compatible) fun attributes => ?_
      split
      · refine .inertBind inert_deriveSimpleContent compatible.stopped fun _ _ => ?_
        exact .bind (.pure fun s t h => h) fun _ => .pure post
      · rename_i particle content
        refine .inertBind (inert_deriveContent (fun w => (ok w).bound) fun w p hp m hm => ?_)
          compatible.stopped fun _ _ => ?_
        · refine known w m (List.mem_append_left _ (List.mem_append_right _ ?_))
          rw [content, hp]
          exact List.mem_flatMap.mpr ⟨p, List.mem_singleton_self p, hm⟩
        · exact .bind (.pure fun s t h => h) fun _ => .pure post

end Derivation

end Xsd
