import Xsd.Proofs.Schema.Resolution

/-!
# Coherent assemblies

Whatever a component mentions and whatever a name stands for is there, as long as documents are read
and references are bound.
-/

namespace Xsd

namespace Arena

/-! ## Changes of a component -/

private theorem getElem?_modify_map {α β : Type} (xs : Array α) {f : α → α} {g : α → β}
    {h : β → β} (same : ∀ x, g (f x) = h (g x)) (i j : Nat) :
    ((xs.modify i f)[j]?).map g = if j = i then ((xs[i]?).map g).map h else (xs[j]?).map g := by
  rw [Array.getElem?_modify]
  by_cases eq : j = i
  · subst eq
    rw [if_pos rfl, if_pos rfl, Option.map_map, Option.map_map]
    exact congrArg (Option.map · _) (funext same)
  · rw [if_neg (Ne.symm eq), if_neg eq]

variable (a : Arena) (b : Binder) (state : ResolutionState) (id other : ComponentId)

theorem info?_bindWith : (a.bindWith b id).info? other = a.info? other := by
  have kept : ∀ {α : Type} (xs : Array α) {f : α → α} {info : α → ComponentInfo} (i j : Nat),
      (∀ x, info (f x) = info x) → ((xs.modify i f)[j]?).map info = (xs[j]?).map info := by
    intro α xs f info i j same
    rw [getElem?_modify_map xs (h := fun x => x) same, Option.map_id']
    split
    · rename_i eq
      rw [eq]
    · rfl
  rcases id with id | id | id | id | id <;> rcases other with j | j | j | j | j <;> try rfl
  · exact kept a.types _ _ fun t => by cases t <;> rfl
  · exact kept a.elements _ _ fun _ => rfl
  · exact kept a.attributes _ _ fun _ => rfl
  · exact kept a.groups _ _ fun _ => rfl
  · exact kept a.attributeGroups _ _ fun _ => rfl

theorem mentions_bindWith : (a.bindWith b id).mentions other =
    if other = id then (a.mentions id).map (·.bindWith b) else a.mentions other := by
  have bound : ∀ {α : Type} (xs : Array α) {f : α → α} {mentions : α → List Mention} (i j : Nat),
      (∀ x, mentions (f x) = (mentions x).map (·.bindWith b)) →
        (((xs.modify i f)[j]?).map mentions).getD [] =
          if j = i then (((xs[i]?).map mentions).getD []).map (·.bindWith b)
          else ((xs[j]?).map mentions).getD [] := by
    intro α xs f mentions i j same
    rw [getElem?_modify_map xs same]
    split
    · cases xs[i]? <;> rfl
    · rfl
  rcases id with ⟨⟨i⟩⟩ | ⟨⟨i⟩⟩ | ⟨⟨i⟩⟩ | ⟨⟨i⟩⟩ | ⟨⟨i⟩⟩ <;> rcases other with ⟨⟨j⟩⟩ | ⟨⟨j⟩⟩ | ⟨⟨j⟩⟩ | ⟨⟨j⟩⟩ | ⟨⟨j⟩⟩ <;>
    first
    | exact (if_neg nofun).symm
    | simp only [ComponentId.type.injEq, ComponentId.element.injEq, ComponentId.attribute.injEq,
        ComponentId.group.injEq, ComponentId.attributeGroup.injEq, TypeId.mk.injEq,
        ElementId.mk.injEq, AttributeId.mk.injEq, GroupId.mk.injEq, AttributeGroupId.mk.injEq]
  · exact bound a.types i j (·.mentions_bindWith b)
  · exact bound a.elements i j (·.mentions_bindWith b)
  · exact bound a.attributes i j (·.mentions_bindWith b)
  · exact bound a.groups i j fun g => Particle.allMentions_bindAllWith b g.group.particles
  · exact bound a.attributeGroups i j fun g => g.attributes.mentions_bindWith b

theorem info?_setState : (a.setState state id).info? other =
    if other = id then (a.info? id).map fun info => { info with state := state }
    else a.info? other := by
  rcases id with ⟨⟨i⟩⟩ | ⟨⟨i⟩⟩ | ⟨⟨i⟩⟩ | ⟨⟨i⟩⟩ | ⟨⟨i⟩⟩ <;> rcases other with ⟨⟨j⟩⟩ | ⟨⟨j⟩⟩ | ⟨⟨j⟩⟩ | ⟨⟨j⟩⟩ | ⟨⟨j⟩⟩ <;>
    first
    | exact (if_neg nofun).symm
    | simp only [ComponentId.type.injEq, ComponentId.element.injEq, ComponentId.attribute.injEq,
        ComponentId.group.injEq, ComponentId.attributeGroup.injEq, TypeId.mk.injEq,
        ElementId.mk.injEq, AttributeId.mk.injEq, GroupId.mk.injEq, AttributeGroupId.mk.injEq]
  · refine getElem?_modify_map a.types ?_ i j
    exact fun t => by cases t <;> rfl
  · refine getElem?_modify_map a.elements ?_ i j
    exact fun _ => rfl
  · refine getElem?_modify_map a.attributes ?_ i j
    exact fun _ => rfl
  · refine getElem?_modify_map a.groups ?_ i j
    exact fun _ => rfl
  · refine getElem?_modify_map a.attributeGroups ?_ i j
    exact fun _ => rfl

theorem mentions_setState : (a.setState state id).mentions other = a.mentions other := by
  have kept : ∀ {α : Type} (xs : Array α) {f : α → α} {mentions : α → List Mention} (i j : Nat),
      (∀ x, mentions (f x) = mentions x) →
        (((xs.modify i f)[j]?).map mentions).getD [] = ((xs[j]?).map mentions).getD [] := by
    intro α xs f mentions i j same
    rw [getElem?_modify_map xs (h := fun x => x) same, Option.map_id']
    split
    · rename_i eq
      rw [eq]
    · rfl
  rcases id with id | id | id | id | id <;> rcases other with j | j | j | j | j <;> try rfl
  · exact kept a.types _ _ fun t => by cases t <;> rfl
  · exact kept a.elements _ _ fun _ => rfl
  · exact kept a.attributes _ _ fun _ => rfl
  · exact kept a.groups _ _ fun _ => rfl
  · exact kept a.attributeGroups _ _ fun _ => rfl

theorem has_bindWith_iff : (a.bindWith b id).Has other ↔ a.Has other := by
  rw [has_iff, has_iff, info?_bindWith]

theorem has_setState_iff : (a.setState state id).Has other ↔ a.Has other := by
  rw [has_iff, has_iff, info?_setState]
  split
  · rename_i same
    rw [same]
    simp
  · rfl

/-- A type that has a base keeps one. -/
theorem isBased_bindWith {i : TypeId} {t : TypeDefinition}
    (h : (a.bindWith b id).type? i = some t) : ∃ u, a.type? i = some u ∧ (u.IsBased → t.IsBased) := by
  rcases id with ⟨⟨j⟩⟩ | id | id | id | id
  · change (a.types.modify j _)[i.index]? = some t at h
    rw [Array.getElem?_modify] at h
    split at h
    · obtain ⟨u, hu, rfl⟩ := Option.map_eq_some_iff.mp h
      refine ⟨u, hu, fun based => ?_⟩
      cases u with
      | simple u => trivial
      | complex u => exact (Option.isSome_map ..).trans based
    · exact ⟨t, h, fun based => based⟩
  all_goals exact ⟨t, h, fun based => based⟩

theorem isBased_setState {i : TypeId} {t : TypeDefinition}
    (h : (a.setState state id).type? i = some t) :
    ∃ u, a.type? i = some u ∧ (u.IsBased → t.IsBased) := by
  rcases id with ⟨⟨j⟩⟩ | id | id | id | id
  · change (a.types.modify j _)[i.index]? = some t at h
    rw [Array.getElem?_modify] at h
    split at h
    · obtain ⟨u, hu, rfl⟩ := Option.map_eq_some_iff.mp h
      refine ⟨u, hu, fun based => ?_⟩
      cases u with
      | simple u => trivial
      | complex u => exact based
    · exact ⟨t, h, fun based => based⟩
  all_goals exact ⟨t, h, fun based => based⟩

end Arena

/-! ## Coherence -/

/-- What is mentioned is there; components that are resolved mention nothing that is not bound, and
none is left while it is being resolved; names stand for components; documents are included by earlier
ones. -/
structure Assembly.Coherent (a : Assembly) : Prop where
  general : a.arena.Has (.type .anyType)
  closed : ∀ id, a.arena.Holds (a.arena.mentions id)
  settled : ∀ {id info}, a.arena.info? id = some info → info.state ≠ .resolving
  resolved : ∀ {id info}, a.arena.info? id = some info → info.state = .resolved →
    ∀ m ∈ a.arena.mentions id, m.target.isSome
  named : ∀ {id info}, a.arena.info? (.attribute id) = some info → info.name.isSome
  based : ∀ {id t}, a.arena.type? id = some t → id ≠ .anyType → t.IsBased
  declared : ∀ {name category id}, a.registry.get? name category = some id → a.arena.Has id
  placed : ∀ {id info}, a.arena.info? id = some info →
    info.document.index < a.registry.documents.size
  included : ∀ {i : Nat} {info : DocumentInfo} {d : DocumentId},
    a.registry.documents[i]? = some info → info.includedBy = some d → d.index < i

namespace Assembly.Coherent

variable {a : Assembly} {arena : Arena} {id : ComponentId} {info : ComponentInfo}
  {ms : List Mention}

theorem withErrors (h : a.Coherent) (errors : List Error) :
    Coherent { a with errors := errors } :=
  ⟨h.general, h.closed, h.settled, h.resolved, h.named, h.based, h.declared, h.placed, h.included⟩

/-- A component that mentions what is there is added. -/
theorem adds (h : a.Coherent) (adds : a.arena.Adds arena id info ms) (admits : a.Admits info ms)
    (named : ∀ i, id = .attribute i → info.name.isSome)
    (based : ∀ {i t}, arena.type? i = some t → i ≠ .anyType → t.IsBased) :
    Coherent { a with arena := arena } := by
  have has : ∀ {other}, a.arena.Has other → arena.Has other := fun ho => adds.has.mpr (Or.inr ho)
  have old : ∀ {other found}, arena.info? other = some found →
      other = id ∧ found = info ∨ other ≠ id ∧ a.arena.info? other = some found := by
    intro other found ho
    rw [adds.info] at ho
    split at ho
    · exact Or.inl ⟨by assumption, (Option.some.inj ho).symm⟩
    · exact Or.inr ⟨by assumption, ho⟩
  constructor
  case general => exact has h.general
  case closed =>
    intro other m hm target ht
    change m ∈ arena.mentions other at hm
    rw [adds.mentions] at hm
    split at hm
    · exact has ((admits.offers m hm).1 target ht)
    · exact has (h.closed other m hm target ht)
  case settled =>
    intro other found ho
    rcases old ho with ⟨-, rfl⟩ | ⟨-, ho⟩
    · rw [admits.state]
      decide
    · exact h.settled ho
  case resolved =>
    intro other found ho resolved m hm
    change m ∈ arena.mentions other at hm
    rcases old ho with ⟨-, rfl⟩ | ⟨ne, ho⟩
    · rw [admits.state] at resolved
      cases resolved
    · rw [adds.mentions, if_neg ne] at hm
      exact h.resolved ho resolved m hm
  case named =>
    intro i found ho
    rcases old ho with ⟨same, rfl⟩ | ⟨-, ho⟩
    · exact named i same.symm
    · exact h.named ho
  case based => exact based
  case declared => exact fun hd => has (h.declared hd)
  case placed =>
    intro other found ho
    rcases old ho with ⟨-, rfl⟩ | ⟨-, ho⟩
    · exact admits.document
    · exact h.placed ho
  case included => exact h.included

end Assembly.Coherent

theorem stable_coherent (base : Assembly) : Stable base Assembly.Coherent where
  note e h := h.withErrors _
  document {a} info included h := by
    have ordered : a.registry.IsOrdered := fun _ _ _ => h.included
    refine ⟨h.general, h.closed, h.settled, h.resolved, h.named, h.based, fun hd => ?_,
      fun hi => ?_, fun hi hd => ordered.addDocument included hi hd⟩
    · rw [Registry.get?, Registry.declarations_addDocument] at hd
      exact h.declared hd
    · have := h.placed hi
      simp only [Registry.documents_addDocument, Array.size_push]
      omega
  importEdge {a} document edge _ h := by
    have ordered : a.registry.IsOrdered := fun _ _ _ => h.included
    obtain ⟨f, -, documents⟩ := Registry.documents_addImport a.registry document edge
    refine ⟨h.general, h.closed, h.settled, h.resolved, h.named, h.based, h.declared, fun hi => ?_,
      fun hi hd => ordered.addImport document edge hi hd⟩
    simp only [documents, Array.size_modify]
    exact h.placed hi
  declare {a name id r} has _ hr h := by
    obtain ⟨documents, names⟩ := Registry.declare?_spec hr
    refine ⟨h.general, h.closed, h.settled, h.resolved, h.named, h.based,
      fun {other category found} hd => ?_, ?_, ?_⟩
    · rcases names other category with old | ⟨-, -, new⟩
      · exact h.declared (old ▸ hd)
      · cases new.symm.trans hd
        exact has
    · simp only [documents]
      exact h.placed
    · simp only [documents]
      exact h.included
  type {a t} _ based admits h := by
    refine h.adds (Arena.adds_addType _ _) admits (fun _ same => by cases same) fun {i u} hu ne => ?_
    change (a.arena.types.push t)[i.index]? = some u at hu
    rw [Array.getElem?_push] at hu
    split at hu
    · cases hu
      exact based
    · exact h.based hu ne
  elementDecl admits h :=
    h.adds (Arena.adds_addElement _ _) admits (fun _ same => by cases same) h.based
  attributeDecl named admits h :=
    h.adds (Arena.adds_addAttribute _ _) admits (fun _ _ => named) h.based
  groupDef admits h :=
    h.adds (Arena.adds_addGroup _ _) admits (fun _ same => by cases same) h.based
  attributeGroupDef admits h :=
    h.adds (Arena.adds_addAttributeGroup _ _) admits (fun _ same => by cases same) h.based

/-! ## The start -/

theorem Arena.initial_mentions {document : DocumentId} {id : ComponentId} {m : Mention}
    (h : m ∈ (Arena.initial document).mentions id) :
    ∃ i, m.target = some (.type i) ∧
      (i = .anyType ∨ i = .anySimpleType ∨ ∃ b : Builtin, i = b.typeId) := by
  rcases id with i | i | i | i | i
  · rw [mentions] at h
    cases ht : (Arena.initial document).type? i with
    | none =>
      rw [ht] at h
      cases h
    | some t =>
      rw [ht] at h
      change m ∈ t.mentions at h
      rcases initial_cases ht with rfl | rfl | ⟨b, rfl⟩
      · cases h
      · cases List.mem_singleton.mp h
        exact ⟨_, rfl, Or.inl rfl⟩
      · cases b <;> cases List.mem_singleton.mp h <;>
          first
          | exact ⟨_, rfl, Or.inr (Or.inl rfl)⟩
          | exact ⟨_, rfl, Or.inr (Or.inr ⟨_, rfl⟩)⟩
  all_goals cases h

theorem Arena.has_initial {i : TypeId}
    (h : i = .anyType ∨ i = .anySimpleType ∨ ∃ b : Builtin, i = b.typeId) :
    (Arena.initial Registry.builtinDocument).Has (.type i) := by
  rw [has_iff, info?]
  rcases h with rfl | rfl | ⟨b, rfl⟩
  · exact ⟨_, rfl⟩
  · exact ⟨_, rfl⟩
  · exact ⟨_, by rw [grounded_initial.type?_typeId]; rfl⟩

/-- Only types have names from the start. -/
theorem Registry.get?_initial {name : QName} {category : Category} {id : ComponentId}
    (h : Registry.initial.get? name category = some id) :
    ∃ i, id = .type i ∧ category = .type ∧
      (i = .anyType ∨ i = .anySimpleType ∨ ∃ b : Builtin, i = b.typeId) := by
  obtain ⟨before, after, split, -⟩ := List.lookup_eq_some_iff.mp h
  have listed : ((category, name), id) ∈ Registry.initial.declarations.entries := by
    rw [split]
    exact List.mem_append_right _ List.mem_cons_self
  rcases List.mem_cons.mp listed with same | listed
  · cases same
    exact ⟨_, rfl, rfl, Or.inl rfl⟩
  · rcases List.mem_cons.mp listed with same | listed
    · cases same
      exact ⟨_, rfl, rfl, Or.inr (Or.inl rfl)⟩
    · obtain ⟨b, -, same⟩ := List.mem_map.mp listed
      cases same
      exact ⟨_, rfl, rfl, Or.inr (Or.inr ⟨b, rfl⟩)⟩

theorem coherent_initial : Assembly.initial.Coherent where
  general := Arena.has_initial (Or.inl rfl)
  closed id m hm target ht := by
    obtain ⟨i, hi, known⟩ := Arena.initial_mentions hm
    cases ht.symm.trans hi
    exact Arena.has_initial known
  settled {id info} hi := by
    rcases id with i | i | i | i | i
    · obtain ⟨t, ht, rfl⟩ := Option.map_eq_some_iff.mp hi
      rw [Arena.initial_state ht]
      decide
    all_goals cases hi
  resolved _ _ m hm := by
    obtain ⟨i, hi, -⟩ := Arena.initial_mentions hm
    rw [hi]
    rfl
  named hi := by cases hi
  based {i t} ht ne := by
    rcases i with ⟨_ | n⟩
    · exact absurd rfl ne
    · change (#[Arena.anyType _, Arena.anySimpleType _] ++ List.toArray _)[n + 1]? = some t at ht
      rw [← Array.getElem?_toList, Array.toList_append] at ht
      have listed := List.mem_of_getElem? (show (Arena.anySimpleType _ :: _)[n]? = some t from ht)
      rcases List.mem_cons.mp listed with rfl | listed
      · trivial
      · obtain ⟨b, -, rfl⟩ := List.mem_map.mp listed
        trivial
  declared hd := by
    obtain ⟨i, rfl, -, known⟩ := Registry.get?_initial hd
    exact Arena.has_initial known
  placed {id info} hi := by
    rcases id with i | i | i | i | i
    · obtain ⟨t, ht, rfl⟩ := Option.map_eq_some_iff.mp hi
      rcases Arena.initial_cases ht with rfl | rfl | ⟨b, rfl⟩ <;> exact Nat.zero_lt_one
    all_goals cases hi
  included {i info d} hi hd := by
    obtain ⟨bound, rfl⟩ := Array.getElem?_eq_some_iff.mp hi
    cases Nat.lt_one_iff.mp bound
    cases hd

/-! ## Resolution -/

namespace Resolution

variable {α : Type} [DecidableEq α] {registry : Registry} {document : DocumentId}

/-- A reference keeps its target, or gets one of the components that have names. -/
theorem target_bindReference {category : Category} {ofId : ComponentId → Option α}
    {r : Reference α} {t : α}
    (h : (bindReference registry document category ofId r).target = some t) :
    r.target = some t ∨
      ∃ id, registry.get? r.name category = some id ∧ ofId id = some t := by
  unfold bindReference at h
  split at h
  · exact Or.inl h
  · split at h
    · rename_i candidate _ target found
      obtain ⟨id, hid, ht⟩ := Option.bind_eq_some_iff.mp found
      cases hr : r.target with
      | some old =>
        rw [Reference.isBound, hr] at candidate
        exact absurd rfl candidate
      | none =>
        rw [Reference.bind?, hr] at h
        cases h
        exact Or.inr ⟨id, hid, ht⟩
    · exact Or.inl h

theorem target_bindWith {m : Mention} {id : ComponentId}
    (h : (m.bindWith (binder registry document)).target = some id) :
    m.target = some id ∨ ∃ name category, registry.get? name category = some id := by
  cases m with
  | own i => exact Or.inl h
  | named r =>
    have parts : ∀ {β : Type} [DecidableEq β] {category : Category}
        {ofId : ComponentId → Option β} {toId : β → ComponentId} {r : Reference β},
        (∀ {i t}, ofId i = some t → toId t = i) →
        (bindReference registry document category ofId r).target.map toId = some id →
          r.target.map toId = some id ∨
            ∃ name category, registry.get? name category = some id := by
      intro β _ category ofId toId r inverse h
      obtain ⟨t, ht, rfl⟩ := Option.map_eq_some_iff.mp h
      rcases target_bindReference ht with old | ⟨i, hi, hit⟩
      · exact Or.inl (by rw [old]; rfl)
      · exact Or.inr ⟨_, _, by rw [hi, inverse hit]⟩
    cases r with
    | type r => exact parts (fun {i t} h => by cases i <;> cases h; rfl) h
    | element r => exact parts (fun {i t} h => by cases i <;> cases h; rfl) h
    | «attribute» r => exact parts (fun {i t} h => by cases i <;> cases h; rfl) h
    | group r => exact parts (fun {i t} h => by cases i <;> cases h; rfl) h
    | attributeGroup r => exact parts (fun {i t} h => by cases i <;> cases h; rfl) h

end Resolution

namespace Assembly.Coherent

variable {a : Assembly} {id : ComponentId} {info : ComponentInfo}

/-- Names stand for components, so references are bound to components. -/
theorem bindWith (h : a.Coherent) (hi : a.arena.info? id = some info)
    (unresolved : info.state = .unresolved) (document : DocumentId) :
    Coherent { a with arena := a.arena.bindWith (Resolution.binder a.registry document) id } where
  general := (Arena.has_bindWith_iff ..).mpr h.general
  closed other m hm target ht := by
    refine (Arena.has_bindWith_iff ..).mpr ?_
    rw [Arena.mentions_bindWith] at hm
    split at hm
    · obtain ⟨m', hm', rfl⟩ := List.mem_map.mp hm
      rcases Resolution.target_bindWith ht with old | ⟨name, category, found⟩
      · exact h.closed id m' hm' target old
      · exact h.declared found
    · exact h.closed other m hm target ht
  settled ho := h.settled ((Arena.info?_bindWith ..).symm.trans ho)
  resolved {other found} ho resolved m hm := by
    have before := (Arena.info?_bindWith ..).symm.trans ho
    rw [Arena.mentions_bindWith] at hm
    split at hm
    · rename_i same
      subst same
      cases hi.symm.trans before
      rw [unresolved] at resolved
      cases resolved
    · exact h.resolved before resolved m hm
  named ho := h.named ((Arena.info?_bindWith ..).symm.trans ho)
  based ht ne := by
    obtain ⟨u, hu, kept⟩ := Arena.isBased_bindWith _ _ _ ht
    exact kept (h.based hu ne)
  declared hd := (Arena.has_bindWith_iff ..).mpr (h.declared hd)
  placed ho := h.placed ((Arena.info?_bindWith ..).symm.trans ho)
  included := h.included

theorem setState (h : a.Coherent) {state : ResolutionState} (done : state ≠ .resolving)
    (bound : state = .resolved → ∀ m ∈ a.arena.mentions id, m.target.isSome) :
    Coherent { a with arena := a.arena.setState state id } := by
  have old : ∀ {other found}, (a.arena.setState state id).info? other = some found →
      ∃ before, a.arena.info? other = some before ∧ found.name = before.name ∧
        found.document = before.document ∧
        (other = id ∧ found.state = state ∨ other ≠ id ∧ found.state = before.state) := by
    intro other found ho
    rw [Arena.info?_setState] at ho
    split at ho
    · rename_i same
      obtain ⟨before, hb, rfl⟩ := Option.map_eq_some_iff.mp ho
      exact ⟨before, same ▸ hb, rfl, rfl, Or.inl ⟨same, rfl⟩⟩
    · exact ⟨found, ho, rfl, rfl, Or.inr ⟨by assumption, rfl⟩⟩
  constructor
  case general => exact (Arena.has_setState_iff ..).mpr h.general
  case closed =>
    intro other m hm target ht
    rw [Arena.mentions_setState] at hm
    exact (Arena.has_setState_iff ..).mpr (h.closed other m hm target ht)
  case settled =>
    intro other found ho
    obtain ⟨before, hb, -, -, ⟨-, same⟩ | ⟨-, same⟩⟩ := old ho
    · rwa [same]
    · rw [same]
      exact h.settled hb
  case resolved =>
    intro other found ho resolved m hm
    rw [Arena.mentions_setState] at hm
    obtain ⟨before, hb, -, -, ⟨rfl, same⟩ | ⟨-, same⟩⟩ := old ho
    · exact bound (same ▸ resolved) m hm
    · exact h.resolved hb (same ▸ resolved) m hm
  case named =>
    intro i found ho
    obtain ⟨before, hb, same, -⟩ := old ho
    rw [same]
    exact h.named hb
  case based =>
    intro i t ht ne
    obtain ⟨u, hu, kept⟩ := Arena.isBased_setState _ _ _ ht
    exact kept (h.based hu ne)
  case declared => exact fun hd => (Arena.has_setState_iff ..).mpr (h.declared hd)
  case placed =>
    intro other found ho
    obtain ⟨before, hb, -, same, -⟩ := old ho
    rw [same]
    exact h.placed hb
  case included => exact h.included

end Assembly.Coherent

theorem lasting_coherent : Resolution.Lasting Assembly.Coherent where
  stable := stable_coherent
  general h := h.general
  attempt attempt h := by
    cases attempt with
    | idle => exact h
    | complete hi unresolved bound all =>
      subst bound
      refine (h.bindWith hi unresolved _).setState nofun fun _ m hm => ?_
      exact Mention.isSome_target (Arena.references_eq _ _ ▸ all) hm
    | release hi unresolved bound =>
      subst bound
      exact (h.bindWith hi unresolved _).setState nofun nofun
  giveUp failed id := by
    refine .modify fun a h => ?_
    split
    · exact h
    · rename_i state hs
      obtain ⟨info, hi, hf⟩ := Option.bind_eq_some_iff.mp hs
      obtain ⟨-, rfl⟩ := ResolutionState.step_eq_some_iff.mp hf
      have given : Assembly.Coherent { a with arena := a.arena.setState .failed id } :=
        h.setState nofun nofun
      exact given.withErrors _

end Xsd
