import Xsd.Proofs.Schema.Shapes
import Xsd.Proofs.ValueConstraint

/-!
# `all` groups in contents

Where an `all` group is written it stands by itself, and resolving references does not change that.
Where a named one is used it need not: the use may be inside another group or be repeated, and an
extension puts two contents side by side. Apart from that the content of a type has an `all` group
at its root only, which occurs at most once.
-/

namespace Xsd

/-! ## Binding references -/

namespace Particle

variable {b : Binder}

mutual

theorem nodes_bindWith : (p : Particle) → (p.bindWith b).nodes = p.nodes.map (·.bindWith b)
  | .element _ (.named _) => rfl
  | .element _ (.own _) => rfl
  | .wildcard _ _ => rfl
  | .group o c members => by
    rw [bindWith, nodes, nodes, nodesOf_bindAllWith members, List.map_cons, bindWith]
  | .groupUse _ _ => rfl

theorem nodesOf_bindAllWith :
    (ps : List Particle) → nodesOf (bindAllWith b ps) = (nodesOf ps).map (·.bindWith b)
  | [] => rfl
  | p :: ps => by
    rw [bindAllWith, nodesOf, nodesOf, nodes_bindWith p, nodesOf_bindAllWith ps, List.map_append]

end

theorem bindAllWith_eq_map (ps : List Particle) : bindAllWith b ps = ps.map (·.bindWith b) := by
  induction ps with
  | nil => rfl
  | cons p ps ih => rw [bindAllWith, ih, List.map_cons]

@[simp] theorem occurs_bindWith (p : Particle) : (p.bindWith b).occurs = p.occurs := by
  cases p with
  | element o d => cases d <;> rfl
  | _ => rfl

@[simp] theorem isAll_bindWith (p : Particle) : (p.bindWith b).IsAll ↔ p.IsAll := by
  cases p with
  | element o d => cases d <;> rfl
  | group o c members => cases c <;> rfl
  | _ => rfl

theorem IsSingleElement.bindWith {p : Particle} (h : p.IsSingleElement) :
    (p.bindWith b).IsSingleElement := by
  cases p with
  | element o d => cases d <;> exact h
  | _ => exact h.elim

end Particle

theorem ModelGroup.IsShaped.bindWith {g : ModelGroup} (h : g.IsShaped) (b : Binder) :
    (g.bindWith b).IsShaped where
  inside q mem := by
    rw [ModelGroup.bindWith, Particle.nodesOf_bindAllWith] at mem
    obtain ⟨p, hp, rfl⟩ := List.mem_map.mp mem
    simpa using h.inside p hp
  members all q mem := by
    rw [ModelGroup.bindWith, Particle.bindAllWith_eq_map] at mem
    obtain ⟨p, hp, rfl⟩ := List.mem_map.mp mem
    exact (h.members all p hp).bindWith

theorem Particle.IsShaped.bindWith {p : Particle} (h : p.IsShaped) (b : Binder) :
    (p.bindWith b).IsShaped := by
  refine ⟨by simpa using h.occurs, ?_, ?_⟩
  · intro o c members same
    cases p with
    | group =>
      cases same
      exact (h.group rfl).bindWith b
    | element o d => cases d <;> cases same
    | _ => cases same
  · intro o members same
    cases p with
    | group =>
      cases same
      exact h.all rfl
    | element o d => cases d <;> cases same
    | _ => cases same

theorem TypeDefinition.IsShaped.bindWith {t : TypeDefinition} (h : t.IsShaped) (b : Binder) :
    (t.bindWith b).IsShaped := by
  cases t with
  | simple => trivial
  | complex t =>
    obtain ⟨info, base, derivation, content, mixed, isAbstract, attributes⟩ := t
    intro q hq
    cases content with
    | simple => cases hq
    | particle p =>
      obtain ⟨p, rfl, rfl⟩ := Option.map_eq_some_iff.mp hq
      exact (h p rfl).bindWith b

theorem TypeDefinition.IsShaped.setState {t : TypeDefinition} (h : t.IsShaped)
    (state : ResolutionState) : (t.setState state).IsShaped := by
  cases t with
  | simple => trivial
  | complex t => exact h

namespace Arena.ShapedSince

variable {base a : Arena}

theorem modifyType (h : base.ShapedSince a) (id : TypeId) {f : TypeDefinition → TypeDefinition}
    (hf : ∀ t, t.IsShaped → (f t).IsShaped) :
    base.ShapedSince { a with types := a.types.modify id.index f } where
  types {other t} known missing := by
    change (a.types.modify id.index f)[other.index]? = some t at known
    rw [Array.getElem?_modify] at known
    split at known
    · obtain ⟨u, hu, rfl⟩ := Option.map_eq_some_iff.mp known
      exact hf u (h.types hu missing)
    · exact h.types known missing
  groups := h.groups

theorem modifyGroup (h : base.ShapedSince a) (id : GroupId) {f : GroupDef → GroupDef}
    (hf : ∀ g, g.group.IsShaped → (f g).group.IsShaped) :
    base.ShapedSince { a with groups := a.groups.modify id.index f } where
  types := h.types
  groups {other g} known missing := by
    change (a.groups.modify id.index f)[other.index]? = some g at known
    rw [Array.getElem?_modify] at known
    split at known
    · obtain ⟨u, hu, rfl⟩ := Option.map_eq_some_iff.mp known
      exact hf u (h.groups hu missing)
    · exact h.groups known missing

theorem bindWith (h : base.ShapedSince a) (b : Binder) (id : ComponentId) :
    base.ShapedSince (a.bindWith b id) := by
  cases id with
  | type id => exact h.modifyType id fun t ht => ht.bindWith b
  | group id => exact h.modifyGroup id fun g hg => hg.bindWith b
  | _ => exact h.of_same rfl rfl

theorem setState (h : base.ShapedSince a) (state : ResolutionState) (id : ComponentId) :
    base.ShapedSince (a.setState state id) := by
  cases id with
  | type id => exact h.modifyType id fun t ht => ht.setState state
  | group id => exact h.modifyGroup id fun g hg => hg
  | _ => exact h.of_same rfl rfl

end Arena.ShapedSince

/-! ## Resolved arenas -/

open Schema Resolution

theorem preserving_shapedSince (supply : Supply) (base : Arena) :
    Preserving supply (Since base) where
  attempt attempt h := by
    cases attempt with
    | idle => exact h
    | complete _ _ bound => exact bound ▸ (h.bindWith _ _).setState _ _
    | release _ _ bound => exact bound ▸ (h.bindWith _ _).setState _ _
  tryImport := keeps_tryImport supply
  giveUp failed id := by
    refine .modify fun a h => ?_
    split
    · exact h
    · exact h.setState _ _

/-- All types and groups are shaped. -/
structure Arena.IsShaped (a : Arena) : Prop where
  types : ∀ {id t}, a.type? id = some t → t.IsShaped
  groups : ∀ {id g}, a.group? id = some g → g.group.IsShaped

theorem Model.isShaped_of_assembled {supply : Supply} {documents : List Document}
    {report : ResolutionReport} {a : Assembly} (h : assembled supply documents = .ok (report, a)) :
    a.arena.IsShaped := by
  have grounded := holds_of_assembled lasting_grounded Arena.grounded_initial h
  have shaped : Since Assembly.initial.arena a := by
    obtain ⟨results, b, hb, ha, -⟩ := assembled_eq_ok h
    have built : Keeps (Since Assembly.initial.arena) (build supply documents) :=
      .mapM fun document => upholds_readAt 0 document
    have read := built .initial (.refl _)
    rw [hb] at read
    have resolved := (preserving_shapedSince supply Assembly.initial.arena).resolve b read
    rwa [ha] at resolved
  refine ⟨fun {id t} ht => ?_, fun hg => shaped.groups hg rfl⟩
  cases initial : Assembly.initial.arena.type? id with
  | none => exact shaped.types ht initial
  | some u =>
    cases ht.symm.trans (grounded.initial initial)
    rcases Arena.initial_cases initial with rfl | rfl | ⟨b, rfl⟩
    · rintro _ ⟨⟩
      exact ⟨by rintro _ ⟨⟩, by rintro _ _ _ ⟨⟩, by rintro _ _ ⟨⟩⟩
    · trivial
    · trivial

/-! ## Contents -/

namespace Content

mutual

/-- The content and all that is inside it. -/
def nodes : Content → List Content
  | .element o id => [.element o id]
  | .wildcard o w => [.wildcard o w]
  | .group o c members => .group o c members :: nodesOf members

def nodesOf : List Content → List Content
  | [] => []
  | c :: cs => c.nodes ++ nodesOf cs

end

/-- What is inside the content. -/
def inside : Content → List Content
  | .group _ _ members => nodesOf members
  | _ => []

def IsAll : Content → Prop
  | .group _ .all _ => True
  | _ => False

instance : (c : Content) → Decidable c.IsAll
  | .group _ .all _ => isTrue trivial
  | .group _ .sequence _ => isFalse id
  | .group _ .choice _ => isFalse id
  | .element _ _ => isFalse id
  | .wildcard _ _ => isFalse id

/-- The content has no `all` group other than its root, which occurs at most once. -/
structure HasAllAtRoot (c : Content) : Prop where
  root : c.IsAll → c.occurs.max = some 1
  inside : ∀ q ∈ c.inside, ¬ q.IsAll

theorem nodes_eq (c : Content) : c.nodes = c :: c.inside := by
  cases c <;> rfl

theorem HasAllAtRoot.nodes {c : Content} (h : c.HasAllAtRoot) (notAll : ¬ c.IsAll) :
    ∀ q ∈ c.nodes, ¬ q.IsAll := by
  rw [nodes_eq]
  exact List.forall_mem_cons.mpr ⟨notAll, h.inside⟩

/-- One content may follow the other without being put beside an `all` group. -/
def Apart (c c' : Content) : Prop :=
  c.isEmpty = false → c'.isEmpty = false → ¬ c.IsAll ∧ ¬ c'.IsAll

instance (c c' : Content) : Decidable (c.Apart c') :=
  inferInstanceAs (Decidable (_ → _ → _))

/-- Two contents side by side. -/
theorem hasAllAtRoot_followedBy {c c' : Content} (h : ∀ q ∈ c.nodes, ¬ q.IsAll)
    (h' : ∀ q ∈ c'.nodes, ¬ q.IsAll) : (c.followedBy c').HasAllAtRoot where
  root := False.elim
  inside q mem := by
    change q ∈ c.nodes ++ (c'.nodes ++ []) at mem
    rw [List.append_nil] at mem
    exact (List.mem_append.mp mem).elim (h q) (h' q)

/-- An extension has the content of its base, or its own, or both. -/
theorem extend_cases {base own : Option Content} {c : Content} (h : extend base own = some c) :
    base = some c ∨ own = some c ∨ ∃ first second, base = some first ∧ own = some second ∧
      first.isEmpty = false ∧ second.isEmpty = false ∧ c = first.followedBy second := by
  cases base with
  | none => exact Or.inr (Or.inl h)
  | some first =>
    cases own with
    | none =>
      rw [extend] at h
      split at h
      · cases h
      · exact Or.inl h
    | some second =>
      rw [extend] at h
      split at h
      · exact Or.inr (Or.inl h)
      · split at h
        · exact Or.inl h
        · rename_i full full'
          cases h
          exact Or.inr (Or.inr ⟨first, second, rfl, rfl, by simpa using full, by simpa using full',
            rfl⟩)

end Content

/-- A use of a named `all` group. -/
def Arena.IsAllUse (a : Arena) : Particle → Prop
  | .groupUse _ r => ∃ id ∈ r.target, ∃ g ∈ a.group? id, g.group.compositor = .all
  | _ => False

instance (a : Arena) : (p : Particle) → Decidable (a.IsAllUse p)
  | .groupUse _ r =>
    inferInstanceAs (Decidable (∃ id ∈ r.target, ∃ g ∈ a.group? id, g.group.compositor = .all))
  | .element _ _ => inferInstanceAs (Decidable False)
  | .wildcard _ _ => inferInstanceAs (Decidable False)
  | .group _ _ _ => inferInstanceAs (Decidable False)

/-- What is inside the particle. -/
def Particle.inside : Particle → List Particle
  | .group _ _ members => nodesOf members
  | _ => []

/-- The complex type of a number. -/
def Arena.complex? (a : Arena) (id : TypeId) : Option ComplexTypeDef :=
  match a.type? id with
  | some (.complex t) => some t
  | _ => none

theorem Arena.complex?_eq_some_iff {a : Arena} {id : TypeId} {t : ComplexTypeDef} :
    a.complex? id = some t ↔ a.type? id = some (.complex t) := by
  unfold complex?
  split <;> simp_all

/-- Named `all` groups are used as contents only, and occur there at most once. -/
structure Arena.UsesAllAtRoot (a : Arena) : Prop where
  groups : ∀ id ∈ a.groupIds, ∀ g ∈ a.group? id,
    ∀ q ∈ Particle.nodesOf g.group.particles, ¬ a.IsAllUse q
  contents : ∀ id ∈ a.typeIds, ∀ t ∈ a.complex? id, ∀ p ∈ t.particle?,
    (∀ q ∈ p.inside, ¬ a.IsAllUse q) ∧ (a.IsAllUse p → p.occurs.max = some 1)

instance (a : Arena) : Decidable a.UsesAllAtRoot :=
  decidable_of_iff (_ ∧ _)
    ⟨fun ⟨groups, contents⟩ => ⟨groups, contents⟩, fun h => ⟨h.groups, h.contents⟩⟩

namespace Derivation

variable {a : Arena} {inner : ExpandGroup} {stack : List GroupId}

/-- What named groups expand to has no `all` group inside, and is one itself if it is defined as
one. -/
def Expands (a : Arena) (inner : ExpandGroup) : Prop :=
  ∀ stack id c members, inner stack id = .ok (c, members) →
    (∀ q ∈ Content.nodesOf members, ¬ q.IsAll) ∧ ∃ g, a.group? id = some g ∧ g.group.compositor = c

theorem Expands.use (expands : Expands a inner) {r : Reference GroupId} {c : Compositor}
    {members : List Content} (h : expandUse a inner stack r = .ok (c, members)) :
    (∀ q ∈ Content.nodesOf members, ¬ q.IsAll) ∧ (c = .all → ∀ o, a.IsAllUse (.groupUse o r)) := by
  unfold expandUse at h
  split at h
  · cases h
  · rename_i id target
    split at h
    · cases h
    · obtain ⟨inside, g, hg, rfl⟩ := expands _ _ _ _ h
      exact ⟨inside, fun all o => ⟨id, target, g, hg, all⟩⟩

mutual

/-- A particle without `all` groups and uses of them expands to a content without `all` groups. -/
theorem not_isAll_of_expandParticle (expands : Expands a inner) :
    (p : Particle) → {c : Content} → expandParticle a inner stack p = .ok c →
      (∀ q ∈ p.nodes, ¬ q.IsAll ∧ ¬ a.IsAllUse q) → ∀ q ∈ c.nodes, ¬ q.IsAll
  | .element o use, c, h, _ => by
    unfold expandParticle at h
    split at h <;> cases h
    intro q mem
    cases List.mem_singleton.mp mem
    exact id
  | .wildcard o w, c, h, _ => by
    cases h
    intro q mem
    cases List.mem_singleton.mp mem
    exact id
  | .group o compositor particles, c, h, fine => by
    obtain ⟨members, hm, h⟩ := bind_eq_ok_iff.mp h
    cases h
    obtain ⟨root, inside⟩ := List.forall_mem_cons.mp fine
    refine List.forall_mem_cons.mpr ⟨?_, not_isAll_of_expandParticles expands particles hm inside⟩
    cases compositor with
    | all => exact absurd trivial root.1
    | _ => exact id
  | .groupUse o r, c, h, fine => by
    obtain ⟨⟨compositor, members⟩, hm, h⟩ := bind_eq_ok_iff.mp h
    cases h
    obtain ⟨inside, all⟩ := expands.use hm
    refine List.forall_mem_cons.mpr ⟨?_, inside⟩
    cases compositor with
    | all => exact absurd (all rfl o) (fine _ List.mem_cons_self).2
    | _ => exact id

theorem not_isAll_of_expandParticles (expands : Expands a inner) :
    (ps : List Particle) → {cs : List Content} → expandParticles a inner stack ps = .ok cs →
      (∀ q ∈ Particle.nodesOf ps, ¬ q.IsAll ∧ ¬ a.IsAllUse q) →
        ∀ q ∈ Content.nodesOf cs, ¬ q.IsAll
  | [], cs, h, _ => by
    cases h
    exact List.forall_mem_nil _
  | p :: ps, cs, h, fine => by
    obtain ⟨c, hc, h⟩ := bind_eq_ok_iff.mp h
    obtain ⟨rest, hrest, h⟩ := bind_eq_ok_iff.mp h
    cases h
    obtain ⟨first, others⟩ := List.forall_mem_append.mp fine
    exact List.forall_mem_append.mpr ⟨not_isAll_of_expandParticle expands p hc first,
      not_isAll_of_expandParticles expands ps hrest others⟩

end

/-- By induction on the number of groups inside each other. -/
theorem expands_expandNamed (shaped : a.IsShaped) (uses : a.UsesAllAtRoot) (fuel : Nat) :
    Expands a (expandNamed a fuel) := by
  induction fuel with
  | zero =>
    intro stack id c members h
    cases h
  | succ fuel ih =>
    intro stack id c members h
    unfold expandNamed at h
    split at h
    · cases h
    · rename_i g hg
      obtain ⟨expanded, hm, h⟩ := bind_eq_ok_iff.mp h
      cases h
      refine ⟨not_isAll_of_expandParticles ih g.group.particles hm fun q mem => ?_, g, hg, rfl⟩
      exact ⟨((shaped.groups hg).inside q mem).2,
        uses.groups id (Arena.mem_groupIds_iff.mpr (Option.isSome_of_eq_some hg)) g hg q mem⟩

/-- What a type declares as its content. -/
theorem hasAllAtRoot_expand (shaped : a.IsShaped) (uses : a.UsesAllAtRoot) {id : TypeId}
    {t : ComplexTypeDef} {p : Particle} {c : Content} (known : a.type? id = some (.complex t))
    (declared : p ∈ t.particle?) (h : expand a p = .ok c) : c.HasAllAtRoot := by
  have expands : Expands a (expandNamed a (a.groups.size + 1)) := expands_expandNamed shaped uses _
  have hp : p.IsShaped := shaped.types known p declared
  obtain ⟨inside, once⟩ := uses.contents id (Arena.mem_typeIds_iff.mpr (known ▸ rfl)) t
    (Arena.complex?_eq_some_iff.mpr known) p declared
  cases p with
  | element o use =>
    unfold expand expandParticle at h
    split at h <;> cases h
    exact ⟨False.elim, List.forall_mem_nil _⟩
  | wildcard o w =>
    cases h
    exact ⟨False.elim, List.forall_mem_nil _⟩
  | group o compositor particles =>
    obtain ⟨members, hm, h⟩ := bind_eq_ok_iff.mp h
    cases h
    refine ⟨fun all => ?_, not_isAll_of_expandParticles expands particles hm fun q mem => ?_⟩
    · cases compositor with
      | all => exact (hp.all rfl).2
      | _ => exact all.elim
    · exact ⟨((hp.group rfl).inside q mem).2, inside q mem⟩
  | groupUse o r =>
    obtain ⟨⟨compositor, members⟩, hm, h⟩ := bind_eq_ok_iff.mp h
    cases h
    obtain ⟨none, all⟩ := expands.use hm
    refine ⟨fun isAll => ?_, none⟩
    cases compositor with
    | all => exact once (all rfl o)
    | _ => exact isAll.elim

/-- The content that a type declares. -/
def ownContent? (a : Arena) (t : ComplexTypeDef) : Option Content :=
  t.particle?.bind fun p => (expand a p).toOption

/-- The content of the base of a type. -/
def baseContent? (d : DerivedTypes) (t : ComplexTypeDef) : Option Content := do
  let base ← t.base
  let id ← base.target
  let derived ← d.complex? id
  derived.content

theorem baseContent?_eq_some_iff {d : DerivedTypes} {t : ComplexTypeDef} {c : Content} :
    baseContent? d t = some c ↔ ∃ id, t.base.bind (·.target) = some id ∧
      ∃ derived, d.complex? id = some derived ∧ derived.content = some c := by
  simp only [baseContent?, Option.bind_eq_bind, Option.bind_eq_some_iff]
  grind

/-- No type extends one with content by content of its own when either is an `all` group. -/
def ExtendsApart (a : Arena) (d : DerivedTypes) : Prop :=
  ∀ id ∈ a.typeIds, ∀ t ∈ a.complex? id, t.derivation = .extension →
    ∀ base ∈ baseContent? d t, ∀ own ∈ ownContent? a t, base.Apart own

instance (a : Arena) (d : DerivedTypes) : Decidable (ExtendsApart a d) := by
  unfold ExtendsApart
  infer_instance

/-- The content of a type, if that of its base has no other `all` groups either. -/
theorem hasAllAtRoot_of_composes (shaped : a.IsShaped) (uses : a.UsesAllAtRoot) {d : DerivedTypes}
    {id baseId : TypeId} {definition : ComplexTypeDef} {info base : TypeInfo} {t : ComplexType}
    {c : Content} (known : a.type? id = some (.complex definition)) (apart : ExtendsApart a d)
    (derives : DerivesComplex a d definition info baseId base t)
    (before : ∀ b, base.effective = .complex b → ∀ c ∈ b.content, c.HasAllAtRoot)
    (hc : t.content = some c) : c.HasAllAtRoot := by
  have composes := derives.content
  rw [hc] at composes
  generalize hwhole : some c = whole at composes
  cases composes with
  | simple => cases hwhole
  | particle declared based label declares =>
    rename_i particle b own
    have whole := (Option.filter_eq_some_iff.mp hwhole.symm).1
    have hparticle : definition.particle? = particle := by
      rw [ComplexTypeDef.particle?, declared]
    have ownContent : ∀ c, own = some c → c.HasAllAtRoot := by
      rintro c rfl
      cases declares with
      | some expanded => exact hasAllAtRoot_expand shaped uses known hparticle expanded
    split at whole
    · rename_i extension
      rcases Content.extend_cases whole with inherited | own' | both
      · exact before b based c inherited
      · exact ownContent c own'
      · -- the two contents become members of a sequence, so neither may be an `all` group
        obtain ⟨first, second, hfirst, rfl, full, full', rfl⟩ := both
        cases declares with
        | some expanded =>
          have isBase : baseContent? d definition = some first :=
            baseContent?_eq_some_iff.mpr ⟨baseId, derives.based, b,
              DerivedTypes.complex?_of_get? derives.entry based, hfirst⟩
          have isOwn : ownContent? a definition = some second := by
            rw [ownContent?, hparticle, Option.bind_some, expanded, Except.toOption]
          have notAll := apart id (Arena.mem_typeIds_iff.mpr (known ▸ rfl)) definition
            (Arena.complex?_eq_some_iff.mpr known) extension first isBase second isOwn full full'
          exact Content.hasAllAtRoot_followedBy ((before b based first hfirst).nodes notAll.1)
            ((ownContent second rfl).nodes notAll.2)
    · exact ownContent c whole

/-- What is said of the content of a derived type. -/
def ContentHasAllAtRoot (a : Arena) : Claim := fun d _ info =>
  ExtendsApart a d → ∀ t, info.effective = .complex t → ∀ c ∈ t.content, c.HasAllAtRoot

theorem contentHasAllAtRoot_isInductive (shaped : a.IsShaped) (uses : a.UsesAllAtRoot) :
    Claim.IsInductive (ContentHasAllAtRoot a) a where
  mono {d e id info} below h apart := by
    refine h fun id mem t ht extension base isBase => apart id mem t ht extension base ?_
    obtain ⟨baseId, based, b, found, hb⟩ := baseContent?_eq_some_iff.mp isBase
    obtain ⟨_, _, entry⟩ := DerivedTypes.get?_of_complex? found
    exact baseContent?_eq_some_iff.mpr
      ⟨baseId, based, b, DerivedTypes.complex?_of_get? (below entry) rfl, hb⟩
  made {need id definition s info t} hd hneed sound h apart c' effective content hc := by
    have advance := (upholds_deriveDefinition (hneed s) id definition).of_yields h ⟨sound, .refl s⟩
    cases definition with
    | simple definition =>
      by_cases special : id = .anySimpleType
      · subst special
        obtain ⟨rfl, -⟩ := yields_pure_iff.mp h
        cases effective
      · cases yields_deriveSimple special h <;> cases effective
    | complex definition =>
      by_cases special : id = .anyType
      · subst special
        obtain ⟨rfl, -⟩ := yields_pure_iff.mp h
        cases effective
        cases hc
        exact ⟨False.elim, List.forall_mem_nil _⟩
      · obtain ⟨baseId, base, c, derives⟩ := yields_deriveComplex hneed sound special h
        cases derives.eq
        cases effective
        have before : ∀ b, base.effective = .complex b → ∀ c ∈ b.content, c.HasAllAtRoot :=
          advance.sound.holds derives.entry apart
        exact hasAllAtRoot_of_composes shaped uses hd apart derives before hc

end Derivation

namespace Model

variable {supply : Supply} {documents : List Document} {m : Model}

/-- In the content of a type of a compiled model an `all` group is the root, which occurs at most
once, provided that named ones are used as contents only, once, and that no `all` group is extended,
or extends anything, where both contents have something in them. -/
theorem hasAllAtRoot_of_compile (compiled : compile supply documents = .ok m)
    (uses : m.arena.UsesAllAtRoot) (apart : Derivation.ExtendsApart m.arena m.derived) {id : TypeId}
    {t : ComplexType} {content : Content} (complex : m.derived.complex? id = some t)
    (hc : t.content = some content) : content.HasAllAtRoot := by
  obtain ⟨report, a, isAssembled, -, rfl⟩ := compile_eq_ok_iff.mp compiled
  have shaped := isShaped_of_assembled isAssembled
  obtain ⟨base, method, entry⟩ := DerivedTypes.get?_of_complex? complex
  have claim := Derivation.deriveAll_holds
    (Derivation.contentHasAllAtRoot_isInductive shaped uses) entry
  exact claim apart t rfl content hc

/-! ## A schema of places -/

/-- A place holds what is given, and a site extends places by an empty content. A point has two
coordinates in any order. -/
def places (use : Node) : Document :=
  ⟨.memory "places.xsd", some ⟨⟨.xsd "schema", .empty, default, 0⟩,
    [schemaNode "group" [("name", "point")]
        [schemaNode "all" []
          [schemaNode "element" [("name", "x")] [], schemaNode "element" [("name", "y")] []]],
      schemaNode "complexType" [("name", "Place")] [use],
      schemaNode "complexType" [("name", "Site")]
        [schemaNode "complexContent" []
          [schemaNode "extension" [("base", "Place")] [schemaNode "sequence" [] []]]]]⟩⟩

/-- A place is a point. -/
def points : Document := places (schemaNode "group" [("ref", "point")] [])

/-- A place has a point in a sequence. -/
def nestedPoints : Document :=
  places (schemaNode "sequence" [] [schemaNode "group" [("ref", "point")] []])

def point : Content := .group .once .all [.element .once ⟨0⟩, .element .once ⟨1⟩]

def nestedPoint : Content := .group .once .sequence [point]

def coordinate (name : String) : ElementDecl :=
  .plain { ComponentInfo.ofLocal (some ⟨none, name⟩) ⟨1⟩ with state := .resolved }

def pointAutomaton : Automaton :=
  ⟨#[.element ⟨none, "x"⟩ ⟨0⟩, .element ⟨none, "y"⟩ ⟨1⟩],
    #[⟨false, [⟨0, 1, none⟩, ⟨1, 2, none⟩]⟩, ⟨false, [⟨1, 3, none⟩]⟩, ⟨false, [⟨0, 3, none⟩]⟩,
      ⟨true, []⟩], 0⟩

/-- A sequence of one point is read as a point is. -/
theorem automatonOf_point {a : Arena} {owner : String} {content : Content}
    (elements : a.elements = #[coordinate "x", coordinate "y"])
    (h : content = point ∨ content = nestedPoint) :
    ContentModel.automatonOf ⟨a, .ofArena a, .standard, owner⟩ (some content) =
      .ok pointAutomaton := by
  obtain ⟨types, _, attributes, groups, attributeGroups⟩ := a
  cases elements
  rcases h with rfl | rfl
  · cbv
  · cbv

def isPoint : Content → Bool
  | .group ⟨1, some 1⟩ .all [.element ⟨1, some 1⟩ ⟨0⟩, .element ⟨1, some 1⟩ ⟨1⟩] => true
  | _ => false

theorem eq_point {c : Content} (h : isPoint c = true) : c = point := by
  unfold isPoint at h
  split at h
  · rfl
  · cases h

def isNestedPoint : Content → Bool
  | .group ⟨1, some 1⟩ .sequence [c] => isPoint c
  | _ => false

theorem eq_nestedPoint {c : Content} (h : isNestedPoint c = true) : c = nestedPoint := by
  unfold isNestedPoint at h
  split at h
  · rw [eq_point h]
    rfl
  · cases h

/-- Places and sites have the content that is recognized. -/
structure IsPlaces (recognized : Content → Bool) (m : Model) : Prop where
  elements : m.arena.elements = #[coordinate "x", coordinate "y"]
  contents : [⟨46⟩, ⟨47⟩].map (fun id => (m.derived.complex? id).map fun t =>
      (t.label, t.content.map recognized)) =
    [some (.elementOnly, some true), some (.elementOnly, some true)]

instance (recognized : Content → Bool) (m : Model) : Decidable (IsPlaces recognized m) :=
  decidable_of_iff (_ ∧ _) ⟨fun ⟨elements, contents⟩ => ⟨elements, contents⟩,
    fun h => ⟨h.elements, h.contents⟩⟩

theorem IsPlaces.content {recognized : Content → Bool} {content : Content}
    (h : IsPlaces recognized m) (all : ∀ c, recognized c = true → c = content) {id : TypeId}
    (mem : id = ⟨46⟩ ∨ id = ⟨47⟩) :
    ∃ t, m.derived.complex? id = some t ∧ t.label = .elementOnly ∧ t.content = some content := by
  have found : ∀ {o : Option ComplexType},
      (o.map fun t => (t.label, t.content.map recognized)) = some (.elementOnly, some true) →
        ∃ t, o = some t ∧ t.label = .elementOnly ∧ t.content = some content := by
    intro o h
    obtain ⟨t, rfl, same⟩ := Option.map_eq_some_iff.mp h
    obtain ⟨label, same⟩ := Prod.mk.inj same
    obtain ⟨c, hc, fits⟩ := Option.map_eq_some_iff.mp same
    exact ⟨t, rfl, label, all c fits ▸ hc⟩
  have contents := h.contents
  simp only [List.map_cons, List.map_nil, List.cons.injEq, and_true] at contents
  rcases mem with rfl | rfl
  · exact found contents.1
  · exact found contents.2

/-- The schema compiles if all but the automata is as it should be. -/
theorem compile_places {document : Document} {recognized : Content → Bool} {content : Content}
    (isOk : (assembled ⟨none, .standard⟩ [document]).isOk = true)
    (sound : IsSound (readAll [document]).2.arena [⟨46⟩, ⟨47⟩])
    (isPlaces : IsPlaces recognized (made (readAll [document]).2 (readAll [document]).1 .standard))
    (all : ∀ c, recognized c = true → c = content)
    (h : content = point ∨ content = nestedPoint) :
    compile ⟨none, .standard⟩ [document] =
      .ok (made (readAll [document]).2 (readAll [document]).1 .standard) := by
  refine compile_of_isSound isOk sound fun id mem => ?_
  obtain ⟨t, complex, label, same⟩ := isPlaces.content all (by simpa using mem)
  have automaton := @automatonOf_point _ ((readAll [document]).2.arena.typeName id) _
    isPlaces.elements h
  rw [← same] at automaton
  exact ⟨_, contentOf_eq_elements complex (Or.inl label) automaton⟩

private theorem points_computed :
    (assembled ⟨none, .standard⟩ [points]).isOk = true ∧
      IsSound (readAll [points]).2.arena [⟨46⟩, ⟨47⟩] ∧
      IsPlaces isPoint (made (readAll [points]).2 (readAll [points]).1 .standard) ∧
      (made (readAll [points]).2 (readAll [points]).1 .standard).arena.UsesAllAtRoot ∧
      Derivation.ExtendsApart (made (readAll [points]).2 (readAll [points]).1 .standard).arena
        (made (readAll [points]).2 (readAll [points]).1 .standard).derived := by
  decide +kernel

private theorem nestedPoints_computed :
    (assembled ⟨none, .standard⟩ [nestedPoints]).isOk = true ∧
      IsSound (readAll [nestedPoints]).2.arena [⟨46⟩, ⟨47⟩] ∧
      IsPlaces isNestedPoint
        (made (readAll [nestedPoints]).2 (readAll [nestedPoints]).1 .standard) := by
  decide +kernel

theorem hasAllAtRoot_points : ∃ m, compile ⟨none, .standard⟩ [points] = .ok m ∧
    m.arena.UsesAllAtRoot ∧ Derivation.ExtendsApart m.arena m.derived ∧
    ∀ id, id = ⟨46⟩ ∨ id = ⟨47⟩ → ∃ t, m.derived.complex? id = some t ∧
      t.content = some point ∧ point.HasAllAtRoot := by
  obtain ⟨m, compiled, uses, apart, isPlaces⟩ : ∃ m, compile ⟨none, .standard⟩ [points] = .ok m ∧
      m.arena.UsesAllAtRoot ∧ Derivation.ExtendsApart m.arena m.derived ∧ IsPlaces isPoint m := by
    obtain ⟨isOk, sound, isPlaces, uses, apart⟩ := points_computed
    exact ⟨_, compile_places isOk sound isPlaces (fun _ => eq_point) (Or.inl rfl), uses, apart,
      isPlaces⟩
  refine ⟨m, compiled, uses, apart, fun id mem => ?_⟩
  obtain ⟨t, complex, -, content⟩ := isPlaces.content (fun _ => eq_point) mem
  exact ⟨t, complex, content, hasAllAtRoot_of_compile compiled uses apart complex content⟩

/-- The group is named, so it is not seen where it is used that it is put into a sequence. -/
theorem not_hasAllAtRoot_nestedPoints : ¬ ∀ (supply : Supply) (documents : List Document)
    (m : Model) (id : TypeId) (t : ComplexType) (content : Content),
    compile supply documents = .ok m →
      m.derived.complex? id = some t → t.content = some content → content.HasAllAtRoot := by
  intro always
  obtain ⟨m, compiled, isPlaces⟩ :
      ∃ m, compile ⟨none, .standard⟩ [nestedPoints] = .ok m ∧ IsPlaces isNestedPoint m := by
    obtain ⟨isOk, sound, isPlaces⟩ := nestedPoints_computed
    exact ⟨_, compile_places isOk sound isPlaces (fun _ => eq_nestedPoint) (Or.inr rfl), isPlaces⟩
  obtain ⟨t, complex, -, content⟩ := isPlaces.content (fun _ => eq_nestedPoint) (Or.inl rfl)
  have fine := always _ _ m _ t _ compiled complex content
  exact fine.inside point List.mem_cons_self trivial

end Model

end Xsd
