import Xsd.Proofs.Derivation.Order
import Xsd.Proofs.Derivation.Uses

/-!
# Circles of groups

A group that contains itself is found when it is looked at: from any group on, an expansion that
comes to an end has been inside of all that the group contains, and none of that leads back. What is
found is reported, unless a ring of the same names has been; this may have been one of groups of the
other category, and then the own one is lost. Attributes are collected use by use and group by group,
so a group that contains itself is not found if something else stops the collection before.
-/

namespace Xsd

/-- No ring of model groups has the names of a ring of attribute groups. -/
def Arena.IsApart (a : Arena) : Prop :=
  ∀ names names', a.IsGroupRing .group names → a.IsGroupRing .attributeGroup names' →
    ¬ ∀ name, name ∈ names ↔ name ∈ names'

/-- Rings of the same names are of the same category. -/
theorem Arena.IsApart.category_eq {a : Arena} (h : a.IsApart) {category other : Category}
    {names names' : List String} (ring : a.IsGroupRing category names)
    (ring' : a.IsGroupRing other names') (same : ∀ name, name ∈ names ↔ name ∈ names') :
    category = other := by
  have mixed := h names names'
  have mixed' := h names' names
  cases category <;> cases other <;> first
    | rfl
    | exact ring.elim
    | exact ring'.elim
    | exact absurd same (mixed ring ring')
    | exact absurd (fun name => (same name).symm) (mixed' ring' ring)

/-- Rings have different names if no group of one category has the name of one of the other, so far as
they refer to anything. -/
theorem Arena.isApart_of_ne {a : Arena} (h : ∀ {id next id' next'}, a.GroupLeads id next →
    a.AttributeGroupLeads id' next' →
      Derivation.groupName a id ≠ Derivation.attributeGroupName a id') : a.IsApart := by
  intro names names' ring ring' same
  obtain ⟨some, members⟩ := IsRing.exists_leads ring
  obtain ⟨n, hn⟩ := List.exists_mem_of_ne_nil names some
  obtain ⟨id, next, leads, rfl⟩ := members n hn
  obtain ⟨id', next', leads', name⟩ := ring'.exists_leads.2 _ ((same _).mp hn)
  exact h leads leads' name.symm

namespace Derivation

variable {a : Arena} {need : Need} {owner : String} {s t : DerivationState}

/-! ## Expansions that come to an end -/

section

variable {expand : ExpandGroup} {stack : List GroupId}

mutual

/-- If a particle has content, so have the groups in it. -/
theorem expandParticle_uses {p : Particle} {c : Content} {r : Reference GroupId}
    (h : expandParticle a expand stack p = .ok c) (hr : .named (.group r) ∈ p.mentions) :
    ∃ x, expandUse a expand stack r = .ok x := by
  cases p with
  | element o use =>
    have other := List.mem_singleton.mp hr
    cases use <;> cases other
  | wildcard o w => cases hr
  | group o c particles =>
    unfold expandParticle at h
    obtain ⟨cs, hp, -⟩ := bind_eq_ok_iff.mp h
    exact expandParticles_uses hp hr
  | groupUse o r' =>
    cases List.mem_singleton.mp hr
    unfold expandParticle at h
    obtain ⟨x, hx, -⟩ := bind_eq_ok_iff.mp h
    exact ⟨x, hx⟩

theorem expandParticles_uses {ps : List Particle} {cs : List Content} {r : Reference GroupId}
    (h : expandParticles a expand stack ps = .ok cs)
    (hr : .named (.group r) ∈ Particle.allMentions ps) :
    ∃ x, expandUse a expand stack r = .ok x := by
  cases ps with
  | nil => cases hr
  | cons p ps =>
    unfold expandParticles at h
    obtain ⟨c, hp, h⟩ := bind_eq_ok_iff.mp h
    obtain ⟨cs', hps, -⟩ := bind_eq_ok_iff.mp h
    rcases List.mem_append.mp hr with first | rest
    · exact expandParticle_uses hp first
    · exact expandParticles_uses hps rest

end

/-- By induction on the number of groups that can still be inside each other. -/
theorem acc_of_expandNamed {fuel : Nat} {id : GroupId} {x : Compositor × List Content}
    (h : expandNamed a fuel stack id = .ok x) : Acc (fun other id => a.GroupLeads id other) id := by
  induction fuel generalizing stack id x with
  | zero => cases h
  | succ fuel ih =>
    refine ⟨_, fun other leads => ?_⟩
    unfold expandNamed at h
    split at h
    · cases h
    · rename_i g hg
      obtain ⟨cs, hp, -⟩ := bind_eq_ok_iff.mp h
      obtain ⟨r, hr, target⟩ := (Arena.groupLeads_iff hg).mp leads
      obtain ⟨x, hx⟩ := expandParticles_uses hp hr
      unfold expandUse at hx
      rw [target] at hx
      dsimp only at hx
      split at hx
      · cases hx
      · exact ih hx

end

/-- By induction on the number of groups that can still be inside each other. -/
theorem acc_of_yields_flatten {fuel : Nat} {stack : List AttributeGroupId} {decls : AttributeDecls}
    {own : AttributeSet} (h : Yields (flatten a need owner fuel stack decls) s own t) :
    ∀ r ∈ decls.groups, ∀ id, r.target = some id →
      Acc (fun other id => a.AttributeGroupLeads id other) id := by
  induction fuel generalizing stack decls own s t with
  | zero => exact absurd h not_yields_throw
  | succ fuel ih =>
    obtain ⟨used, v, -, h⟩ := yields_bind_iff.mp h
    refine (yields_foldlM (G := fun _ _ => True)
      (Q := fun r _ => ∀ id, r.target = some id →
        Acc (fun other id => a.AttributeGroupLeads id other) id)
      (fun _ => trivial) (fun _ _ => trivial) (by intro r _ _ _ ends; exact ends) ?_ h).2
    intro r _ sofar _ result _ h
    refine ⟨trivial, fun id target => ?_⟩
    obtain ⟨id', _, hid, h⟩ := yields_bind_iff.mp h
    obtain ⟨target', rfl⟩ := yields_expect_iff.mp hid
    cases target.symm.trans target'
    split at h
    · exact absurd h not_yields_throw
    · obtain ⟨g, _, hg, h⟩ := yields_bind_iff.mp h
      obtain ⟨there, rfl⟩ := yields_expect_iff.mp hg
      obtain ⟨group, _, inside, -⟩ := yields_bind_iff.mp h
      refine ⟨_, fun other leads => ?_⟩
      obtain ⟨r', hr', target''⟩ := (Arena.attributeGroupLeads_iff there).mp leads
      exact ih inside r' hr' other target''

/-! ## Reports -/

theorem isSameSet_iff {names names' : List String} :
    Derive.isSameSet names names' ↔ ∀ name, name ∈ names ↔ name ∈ names' := by
  simp only [Derive.isSameSet, Bool.and_eq_true, List.all_eq_true, List.contains_iff_mem]
  constructor
  · rintro ⟨sub, sub'⟩ name
    exact ⟨sub name, sub' name⟩
  · intro same
    exact ⟨fun name => (same name).mp, fun name => (same name).mpr⟩

/-- There is an error of the kind among those that have been reported. -/
def Tells (F : Error → Prop) (s : DerivationState) : Prop := ∃ e ∈ s.errors, F e

/-- The error speaks of a ring of groups of the category. -/
def IsRingError (category : Category) (e : Error) : Prop :=
  ∃ names, e = .circularGroupReference category names

variable {F : Error → Prop}

theorem Tells.onward (h : Tells F s) (onward : Onward s t) : Tells F t := by
  obtain ⟨e, mem, he⟩ := h
  exact ⟨e, onward.errors.subset mem, he⟩

/-- A ring of groups is reported, or one of the same names and so of the same category has been. -/
theorem Sincere.tells_ring (h : Sincere a s) (apart : a.IsApart) {category : Category}
    {names : List String} (ring : a.IsGroupRing category names)
    (reported : Reported s (some (.circularGroupReference category names)) t) :
    Tells (IsRingError category) t := by
  cases reported with
  | added _ =>
    exact ⟨_, List.mem_append_right _ (List.mem_singleton_self _), names, rfl⟩
  | @known _ _ known seen same =>
    obtain ⟨other, mem⟩ := h.cycles known seen
    cases apart.category_eq ring (h.rings mem) (isSameSet_iff.mp same)
    exact ⟨_, mem, known, rfl⟩

/-- Of steps that leave no type in progress and take no error back, one that comes to a report is
enough. -/
theorem tells_forM {α : Type} {s₀ : DerivationState} {step : α → StateM DerivationState Unit}
    {xs : List α} {x : α} (mem : x ∈ xs) (keeps : ∀ s₀ y, Keeps (IsIdle a s₀) (step y))
    (tells : ∀ s, IsIdle a s₀ s → Tells F ((step x).run s).2) :
    ∀ s, IsIdle a s₀ s → Tells F ((xs.forM step).run s).2 := by
  induction xs with
  | nil => cases mem
  | cons y xs ih =>
    intro s idle
    change Tells F ((xs.forM step).run ((step y).run s).2).2
    have next := keeps s₀ y s idle
    rcases List.mem_cons.mp mem with rfl | mem
    · have now := tells s idle
      have later : IsIdle a ((step x).run s).2 ((xs.forM step).run ((step x).run s).2).2 :=
        Keeps.forM (keeps ((step x).run s).2) _
          ⟨⟨next.proceeds.orderly, .refl _⟩, next.sincere, next.idle⟩
      exact now.onward later.proceeds.onward
    · exact ih mem _ next

/-! ## Model groups -/

/-- A model group that contains itself is found when it is looked at. -/
theorem IsIdle.tells_checkGroup (bound : a.IsBound) (apart : a.IsApart) {s₀ : DerivationState}
    {id : GroupId} (ring : Relation.TransGen a.GroupLeads id id) (h : IsIdle a s₀ s) :
    Tells (IsRingError .group) ((checkGroup a id).run s).2 := by
  obtain ⟨next, leads, -⟩ := Relation.TransGen.head'_iff.mp ring
  obtain ⟨g, hg⟩ := leads.exists_group?
  have known : a.Has (.group id) := (Array.getElem?_eq_some_iff.mp hg).1
  unfold checkGroup
  cases expanded : expandGroup a id with
  | ok x => exact absurd ring (not_transGen_of_acc (acc_of_expandNamed expanded) .refl)
  | error e =>
    have stops : StopsExpansion a True e :=
      stops_expandGroup (fun _ => bound) (fun _ => known) expanded
    cases stops with
    | missing lacking => exact absurd trivial lacking
    | ring ring => exact h.sincere.tells_ring apart ring (reported_report _ _)

/-! ## Attribute groups -/

/-- Types that have been demanded one after the other have been looked at. -/
theorem looked_forM {ids : List TypeId} (orderly : Orderly a s) {id : TypeId} (mem : id ∈ ids) :
    ((ids.forM fun id => discard (deriveType a id)).run s).2.status[id.index]? ≠
      some .notStarted := by
  induction ids generalizing s with
  | nil => cases mem
  | cons other ids ih =>
    have first := proceeds_derive (a.types.size + 1) other orderly
    rcases List.mem_cons.mp mem with rfl | mem
    · have looked := (called_derive a a.types.size id s).looked orderly
      have later : Proceeds a ((deriveType a id).run s).2
          ((ids.forM fun id => discard (deriveType a id)).run ((deriveType a id).run s).2).2 :=
        Keeps.forM (fun id => .discard (keeps_proceeds _ (a.types.size + 1) id)) _
          ⟨first.orderly, .refl _⟩
      intro fresh
      exact looked (first.orderly.fresh_of_kept later.orderly later.onward.status fresh)
    · exact ih first.orderly mem

/-- A type that has a result in the end has had it since all types were demanded. -/
theorem IsIdle.done (bound : a.IsBound) (h : IsIdle a (typesDerived a) s) {id : TypeId}
    (entry : ((deriveAll a).1.get? id).isSome) : s.status[id.index]? = some .done := by
  have final := (isIdle_allChecked bound).proceeds
  have last : (allChecked a).status[id.index]? = some .done := final.orderly.done.mp entry
  have known : (a.type? id).isSome :=
    Option.isSome_of_eq_some (Array.getElem?_eq_getElem (final.orderly.index_lt last))
  have looked := looked_forM (orderly_initial a) (Arena.mem_typeIds_iff.mpr known)
  change (typesDerived a).status[id.index]? ≠ _ at looked
  cases early : (typesDerived a).status[id.index]? with
  | none =>
    have begun := (isIdle_typesDerived bound).1.proceeds.orderly
    cases (final.orderly.status_eq_none_iff.mpr (begun.status_eq_none_iff.mp early)).symm.trans last
  | some status =>
    have started : status ≠ .notStarted := fun same => looked (same ▸ early)
    cases (final.onward.status early started).symm.trans last
    exact h.proceeds.onward.status early started

/-- To demand such a type again changes nothing. -/
theorem IsIdle.yields_need (bound : a.IsBound) (h : IsIdle a (typesDerived a) s) {id : TypeId}
    (entry : ((deriveAll a).1.get? id).isSome) : Yields (needOf (deriveType a) id) s () s := by
  have done := h.done bound entry
  have run : (deriveType a id).run s = (true, s) := by
    rcases answer : (deriveType a id).run s with ⟨found, t⟩
    have called := called_derive a a.types.size id s
    rw [show derive a (a.types.size + 1) id = deriveType a id from rfl, answer] at called
    cases called with
    | absent absent =>
      cases (h.proceeds.orderly.status_eq_none_iff.mpr absent).symm.trans done
    | unknown unknown => cases unknown.symm.trans done
    | done _ _ => rfl
    | failed _ failed => cases failed.symm.trans done
    | circle _ pending _ => cases pending.symm.trans done
    | derived _ fresh _ _ => cases fresh.symm.trans done
  exact run_needOf (deriveType a) run

end Derivation

/-- The attribute has a name, and a simple type that has a result. -/
structure AttributeDecl.IsUsable (a : Arena) (d : AttributeDecl) : Prop where
  named : d.info.name.isSome
  simple : a.IsSimple d.valueTypeId
  result : ((Derivation.deriveAll a).1.get? d.valueTypeId).isSome

/-- Nothing but a ring stops the collection of what the attribute group declares: the attributes can
be used, and none is reported to be declared twice. -/
structure Arena.IsUnobstructed (a : Arena) (g : AttributeGroupDef) : Prop where
  usable : ∀ u, a.Uses g.attributes u → ∀ id d, u.source.target = some id →
    a.attribute? id = some d → d.IsUsable a
  once : ∀ name, .duplicateAttribute (g.info.describe .attributeGroup) name ∉
    (Derivation.deriveAll a).2

namespace Derivation

variable {a : Arena} {owner : String} {s t : DerivationState} {id : AttributeGroupId}
  {g : AttributeGroupDef}

/-- The use of an attribute that can be used is collected. -/
theorem IsIdle.yields_attributeUse (bound : a.IsBound) (h : IsIdle a (typesDerived a) s)
    {u : AttributeUseDecl} (known : a.Knows u.source.mention)
    (usable : ∀ id d, u.source.target = some id → a.attribute? id = some d → d.IsUsable a) :
    ∃ x, Yields (attributeUse a (needOf (deriveType a)) u) s x s ∧
      (s.derived.get? x.type).isSome := by
  obtain ⟨id, target, has⟩ := known.attribute
  obtain ⟨d, hd⟩ := Arena.exists_attribute? has
  obtain ⟨named, ⟨definition, hdef, simple⟩, result⟩ := usable id d target hd
  obtain ⟨name, hname⟩ := Option.isSome_iff_exists.mp named
  have bound' : ∀ use, d.type = some use → use.target = some d.valueTypeId := by
    intro use hu
    have mentioned : use.mention ∈ a.mentions (.attribute id) := by
      rw [Arena.mentions, hd, Option.map_some, Option.getD_some, AttributeDecl.mentions, hu]
      exact List.mem_singleton_self _
    obtain ⟨type, target, -⟩ := (bound (.attribute id) _ mentioned).type
    rw [AttributeDecl.valueTypeId, hu, Option.bind_some, target, Option.getD_some]
  refine ⟨⟨name, id, d.valueTypeId, u.use, u.constraint <|> d.constraint⟩, ?_,
    h.proceeds.orderly.done.mpr (h.done bound result)⟩
  refine yields_bind_iff.mpr ⟨id, s, yields_expect_iff.mpr ⟨target, rfl⟩, ?_⟩
  refine yields_bind_iff.mpr ⟨d, s, yields_expect_iff.mpr ⟨hd, rfl⟩, ?_⟩
  refine yields_bind_iff.mpr ⟨name, s, yields_expect_iff.mpr ⟨hname, rfl⟩, ?_⟩
  extract_lets finish
  have finished : Yields (finish d.valueTypeId) s
      ⟨name, id, d.valueTypeId, u.use, u.constraint <|> d.constraint⟩ s := by
    refine yields_bind_iff.mpr ⟨definition, s, yields_expect_iff.mpr ⟨hdef, rfl⟩, ?_⟩
    rw [if_pos simple]
    exact yields_bind_iff.mpr ⟨(), s, h.yields_need bound result, rfl⟩
  split
  · rename_i use hu
    exact yields_bind_iff.mpr
      ⟨d.valueTypeId, s, yields_expect_iff.mpr ⟨bound' use hu, rfl⟩, finished⟩
  · rename_i none
    have general : d.valueTypeId = .anySimpleType := by
      rw [AttributeDecl.valueTypeId, none]
      rfl
    exact yields_bind_iff.mpr
      ⟨.anySimpleType, s, yields_pure_iff.mpr ⟨rfl, rfl⟩, general ▸ finished⟩

/-- An attribute group that contains itself is found when it is looked at, unless an attribute turns
out to be declared twice before. -/
theorem IsIdle.tells_checkAttributeGroup (bound : a.IsBound) (apart : a.IsApart)
    (hg : a.attributeGroup? id = some g) (ring : Relation.TransGen a.AttributeGroupLeads id id)
    (usable : ∀ u, a.Uses g.attributes u → ∀ id d, u.source.target = some id →
      a.attribute? id = some d → d.IsUsable a) (h : IsIdle a (typesDerived a) s) :
    Tells (fun e => IsRingError .attributeGroup e ∨
        ∃ name, e = .duplicateAttribute (g.info.describe .attributeGroup) name)
      ((checkAttributeGroup a id).run s).2 := by
  have mentioned : ∀ m ∈ g.attributes.mentions, a.Knows m := by
    intro m hm
    refine bound (.attributeGroup id) m ?_
    rw [Arena.mentions, hg]
    exact hm
  -- Nothing is demanded that is not there, so all happens in one state.
  let R : DerivationState → DerivationState → Prop := fun t u => t = s ∧ u = s
  let E : Option Error → DerivationState → Prop := fun e t =>
    t = s ∧ StopsCollection a True (g.info.describe .attributeGroup) e
  have flat : Agrees (Sharing R ∅)
      (declared a (needOf (deriveType a)) (g.info.describe .attributeGroup) [id] g.attributes)
      (declared a (needOf (deriveType a)) (g.info.describe .attributeGroup) [id] g.attributes) E
      fun set => Sharing R (∅ ∪ attributeTypes set.attributes) := by
    refine agrees_flatten (fun _ : True => bound)
      (fun e t u same stop => ⟨same.1, stop⟩)
      (.singleton fun _ => (Array.getElem?_eq_some_iff.mp hg).1) (leads_of_getLast? rfl hg) (by omega)
      (fun _ => mentioned) fun u hu K => ?_
    rintro t t' ⟨⟨rfl, rfl⟩, shares⟩
    obtain ⟨x, yields, entry⟩ :=
      h.yields_attributeUse bound (hu.knows bound mentioned) (usable u hu)
    refine Or.inl ⟨x, _, _, yields, yields, ⟨rfl, rfl⟩, ?_⟩
    rintro other (rfl | mem)
    · obtain ⟨info, entry⟩ := Option.isSome_iff_exists.mp entry
      exact ⟨info, entry, entry⟩
    · exact shares other mem
  unfold checkAttributeGroup
  rw [hg]
  change Tells _ ((reportFailure ((declared a (needOf (deriveType a))
    (g.info.describe .attributeGroup) [id] g.attributes).run.run s).1).run ((declared a
      (needOf (deriveType a)) (g.info.describe .attributeGroup) [id] g.attributes).run.run s).2).2
  rcases flat s s ⟨⟨rfl, rfl⟩, fun _ mem => mem.elim⟩ with
    ⟨set, t, u, yields, -, -⟩ | ⟨e, t, fails, rfl, stops⟩
  · refine absurd ring (not_transGen_of_acc ⟨_, fun other leads => ?_⟩ .refl)
    obtain ⟨r, hr, target⟩ := (Arena.attributeGroupLeads_iff hg).mp leads
    exact acc_of_yields_flatten yields r hr other target
  · rw [fails]
    cases stops with
    | missing lacking => exact absurd trivial lacking
    | @duplicate name =>
      have reported := reported_report t (.duplicateAttribute (g.info.describe .attributeGroup) name)
      cases reported with
      | added _ =>
        exact ⟨_, List.mem_append_right _ (List.mem_singleton_self _), Or.inr ⟨name, rfl⟩⟩
    | ring ring =>
      obtain ⟨e, mem, he⟩ := h.sincere.tells_ring apart ring (reported_report _ _)
      exact ⟨e, mem, Or.inl he⟩

/-! ## All groups -/

/-- What is reported once the types have been derived remains so. -/
theorem onward_allChecked (bound : a.IsBound) : Onward (groupsChecked a) (allChecked a) := by
  have idle := isIdle_groupsChecked bound
  have later : IsIdle a (groupsChecked a) (allChecked a) :=
    Keeps.forM (keeps_checkAttributeGroup_idle bound (groupsChecked a)) _
      ⟨⟨idle.proceeds.orderly, .refl _⟩, idle.sincere, idle.idle⟩
  exact later.proceeds.onward

/-- If all references are bound, only rings are reported. If besides no ring of model groups has the
names of a ring of attribute groups, it is reported whether a model group contains itself; and that an
attribute group does is reported whenever one does and nothing else stops the collection of what it
declares. -/
theorem deriveAll_groupCircles (bound : a.IsBound) :
    (∀ category names, .circularGroupReference category names ∈ (deriveAll a).2 →
      a.IsGroupRing category names) ∧
    ((∃ names, .circularGroupReference .attributeGroup names ∈ (deriveAll a).2) →
      ∃ id, Relation.TransGen a.AttributeGroupLeads id id) ∧
    (a.IsApart →
      ((∃ names, .circularGroupReference .group names ∈ (deriveAll a).2) ↔
        ∃ id, Relation.TransGen a.GroupLeads id id) ∧
      ∀ id g, a.attributeGroup? id = some g → Relation.TransGen a.AttributeGroupLeads id id →
        a.IsUnobstructed g →
          ∃ names, .circularGroupReference .attributeGroup names ∈ (deriveAll a).2) := by
  rw [deriveAll_eq]
  have rings : ∀ category names, .circularGroupReference category names ∈ (allChecked a).errors →
      a.IsGroupRing category names :=
    fun category names mem => (isIdle_allChecked bound).sincere.rings mem
  refine ⟨rings, ?_, fun apart => ⟨⟨?_, ?group⟩, ?attributeGroup⟩⟩
  · rintro ⟨names, mem⟩
    exact IsRing.transGen (rings .attributeGroup names mem)
  · rintro ⟨names, mem⟩
    exact IsRing.transGen (rings .group names mem)
  case group =>
    rintro ⟨id, ring⟩
    obtain ⟨next, leads, -⟩ := Relation.TransGen.head'_iff.mp ring
    obtain ⟨g, hg⟩ := leads.exists_group?
    have listed : id ∈ a.groupIds := Arena.mem_groupIds_iff.mpr (Option.isSome_of_eq_some hg)
    have found : Tells (IsRingError .group) (groupsChecked a) :=
      tells_forM listed keeps_checkGroup_idle (fun s idle => idle.tells_checkGroup bound apart ring)
        _ (isIdle_typesDerived bound).1
    obtain ⟨_, mem, names, rfl⟩ := found.onward (onward_allChecked bound)
    exact ⟨names, mem⟩
  case attributeGroup =>
    intro id g hg ring free
    have listed : id ∈ a.attributeGroupIds :=
      Arena.mem_attributeGroupIds_iff.mpr (Option.isSome_of_eq_some hg)
    obtain ⟨_, mem, ⟨names, rfl⟩ | ⟨name, rfl⟩⟩ :=
      tells_forM listed (keeps_checkAttributeGroup_idle bound)
        (fun s idle => idle.tells_checkAttributeGroup bound apart hg ring free.usable)
        _ (isIdle_groupsChecked bound)
    · exact ⟨names, mem⟩
    · exact absurd mem (free.once name)

/-- A model group that consists of the first one. -/
def aroundFirst (name : QName) : GroupDef :=
  ⟨⟨some name, true, ⟨1⟩, .resolved, none⟩, ⟨.sequence, [.groupUse .once ⟨name, some ⟨0⟩⟩]⟩⟩

/-- An attribute group that consists of the first one. -/
def aroundFirstAttributes (name : QName) : AttributeGroupDef :=
  ⟨⟨some name, true, ⟨1⟩, .resolved, none⟩, { groups := [⟨name, some ⟨0⟩⟩] }⟩

/-- The types that are there from the start, and a group of either category that consists of
itself. -/
def withLoops (name name' : QName) : Arena :=
  (((Arena.initial Registry.builtinDocument).addGroup (aroundFirst name)).2.addAttributeGroup
    (aroundFirstAttributes name')).2

section

variable {name name' : QName}

theorem isBound_withLoops : (withLoops name name').IsBound := by
  have adds := Arena.adds_addGroup (Arena.initial Registry.builtinDocument) (aroundFirst name)
  have adds' := Arena.adds_addAttributeGroup
    ((Arena.initial Registry.builtinDocument).addGroup (aroundFirst name)).2
    (aroundFirstAttributes name')
  intro id m hm
  change m ∈ (Arena.addAttributeGroup _ _).2.mentions id at hm
  rw [adds'.mentions, adds.mentions] at hm
  split at hm
  · cases List.mem_singleton.mp hm
    exact ⟨_, rfl, adds'.has.mpr (Or.inl rfl)⟩
  · split at hm
    · cases List.mem_singleton.mp hm
      exact ⟨_, rfl, adds'.has.mpr (Or.inr (adds.has.mpr (Or.inl rfl)))⟩
    · obtain ⟨i, target, known⟩ := Arena.initial_mentions hm
      exact ⟨_, target, adds'.has.mpr (Or.inr (adds.has.mpr (Or.inr (Arena.has_initial known))))⟩

theorem groupLeads_withLoops : (withLoops name name').GroupLeads ⟨0⟩ ⟨0⟩ :=
  ⟨⟨name, some ⟨0⟩⟩, List.mem_singleton_self _, rfl⟩

theorem attributeGroupLeads_withLoops : (withLoops name name').AttributeGroupLeads ⟨0⟩ ⟨0⟩ :=
  ⟨⟨name', some ⟨0⟩⟩, List.mem_singleton_self _, rfl⟩

theorem isApart_withLoops (different : name.clark ≠ name'.clark) :
    (withLoops name name').IsApart := by
  refine Arena.isApart_of_ne fun {id next id' next'} leads leads' => ?_
  have first : id = ⟨0⟩ := by
    obtain ⟨r, hr, -⟩ := leads
    rcases id with ⟨_ | i⟩
    · rfl
    · cases hr
  have first' : id' = ⟨0⟩ := by
    obtain ⟨r, hr, -⟩ := leads'
    rcases id' with ⟨_ | i⟩
    · rfl
    · cases hr
  subst first first'
  exact different

/-- No attribute is declared anywhere. -/
theorem isUnobstructed_withLoops
    (once : ∀ owner name'', .duplicateAttribute owner name'' ∉ (deriveAll (withLoops name name')).2) :
    (withLoops name name').IsUnobstructed (aroundFirstAttributes name') where
  usable u hu := by
    have unused : ∀ decls v, (withLoops name name').Uses decls v →
        decls ≠ (aroundFirstAttributes name').attributes := by
      intro decls v h
      induction h with
      | own mem =>
        rintro rfl
        cases mem
      | @group _ r id g _ hr target hg _ ih =>
        rintro rfl
        cases List.mem_singleton.mp hr
        cases target
        cases hg
        exact absurd rfl ih
    exact absurd rfl (unused _ u hu)
  once := once _

end

/-- Groups of different names are both reported. -/
theorem withLoops_groupCircles :
    (withLoops ⟨none, "G"⟩ ⟨none, "H"⟩).IsBound ∧ (withLoops ⟨none, "G"⟩ ⟨none, "H"⟩).IsApart ∧
      (∃ names, .circularGroupReference .group names ∈
        (deriveAll (withLoops ⟨none, "G"⟩ ⟨none, "H"⟩)).2) ∧
      ∃ names, .circularGroupReference .attributeGroup names ∈
        (deriveAll (withLoops ⟨none, "G"⟩ ⟨none, "H"⟩)).2 := by
  have bound : (withLoops ⟨none, "G"⟩ ⟨none, "H"⟩).IsBound := isBound_withLoops
  have apart : (withLoops ⟨none, "G"⟩ ⟨none, "H"⟩).IsApart := isApart_withLoops (by decide)
  have errors : (deriveAll (withLoops ⟨none, "G"⟩ ⟨none, "H"⟩)).2 =
      [.circularGroupReference .group ["G", "G"],
        .circularGroupReference .attributeGroup ["H", "H"]] := by
    decide +kernel
  obtain ⟨-, -, told⟩ := deriveAll_groupCircles bound
  obtain ⟨groups, attributeGroups⟩ := told apart
  refine ⟨bound, apart, groups.mpr ⟨⟨0⟩, .single groupLeads_withLoops⟩, ?_⟩
  refine attributeGroups ⟨0⟩ _ rfl (.single attributeGroupLeads_withLoops)
    (isUnobstructed_withLoops fun owner name'' => ?_)
  rw [errors]
  simp

/-- Of groups of one name only the model group is reported. -/
theorem not_deriveAll_groupCircles : ¬ ∀ a : Arena, a.IsBound →
    ((∃ names, .circularGroupReference .group names ∈ (deriveAll a).2) ↔
      ∃ id, Relation.TransGen a.GroupLeads id id) ∧
    ((∃ names, .circularGroupReference .attributeGroup names ∈ (deriveAll a).2) ↔
      ∃ id, Relation.TransGen a.AttributeGroupLeads id id) := by
  intro claim
  have errors : (deriveAll (withLoops ⟨none, "G"⟩ ⟨none, "G"⟩)).2 =
      [.circularGroupReference .group ["G", "G"]] := by
    decide +kernel
  have bound : (withLoops ⟨none, "G"⟩ ⟨none, "G"⟩).IsBound := isBound_withLoops
  obtain ⟨names, mem⟩ := (claim _ bound).2.mpr ⟨⟨0⟩, .single attributeGroupLeads_withLoops⟩
  rw [errors] at mem
  simp at mem

end Derivation

end Xsd
