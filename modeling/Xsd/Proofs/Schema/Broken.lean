import Xsd.Proofs.Schema.Bindings

/-!
# References that cannot be bound

As long as no document is added, a reference gets bound when its component is looked at, or it cannot
be bound at all: its document does not see the namespace, or the name stands for nothing. A pass over
the components that are not resolved leaves open those with such references, and needs the namespaces
that might help them.
-/

namespace Xsd

/-- Names of a category stand for components of the category. -/
def Registry.Classifies (r : Registry) : Prop :=
  ∀ name category id, r.get? name category = some id → id.category = category

theorem stable_classifies (base : Assembly) : Stable base fun a => a.registry.Classifies where
  note _ h := h
  document info _ h := by
    intro name category id hd
    rw [Registry.get?, Registry.declarations_addDocument] at hd
    exact h name category id hd
  importEdge _ _ _ h := h
  declare _ _ declared h := by
    intro name category id hd
    rcases (Registry.declare?_spec declared).2 name category with old | ⟨-, rfl, new⟩
    · exact h name category id (old ▸ hd)
    · cases new.symm.trans hd
      rfl
  type _ _ _ h := h
  elementDecl _ h := h
  attributeDecl _ _ h := h
  groupDef _ h := h
  attributeGroupDef _ h := h

namespace Model

theorem classifies_readInto (supply : Schema.Supply) (documents : List Document) :
    (readInto supply documents).registry.Classifies := by
  have kept : Keeps (fun a => a.Coherent ∧ a.registry.Classifies) (build supply documents) := by
    refine .mapM fun document a ⟨coherent, classifies⟩ => ⟨?_, ?_⟩
    · exact (Schema.builds_readAt (stable_coherent a) coherent.general (.refl a) 0 document
        coherent).1
    · exact (Schema.builds_readAt (stable_classifies a) coherent.general (.refl a) 0 document
        classifies).1
  refine (kept .initial ⟨coherent_initial, fun name category id hd => ?_⟩).2
  obtain ⟨i, rfl, rfl, -⟩ := Registry.get?_initial hd
  rfl

end Model

namespace Arena

variable (a : Arena) (b : Binder) (state : ResolutionState) (id other : ComponentId)

theorem references_bindWith : (a.bindWith b id).references other =
    if other = id then (a.references id).map (·.bindWith b) else a.references other := by
  have names : ∀ ms : List Mention, Mention.references (ms.map (·.bindWith b)) =
      (Mention.references ms).map (·.bindWith b) := by
    intro ms
    rw [Mention.references, Mention.references, List.filterMap_map, List.map_filterMap]
    refine List.filterMap_congr fun m _ => ?_
    cases m <;> rfl
  rw [references_eq, mentions_bindWith, references_eq, references_eq]
  split
  · exact names _
  · rfl

theorem references_setState : (a.setState state id).references other = a.references other := by
  rw [references_eq, mentions_setState, ← references_eq]

theorem componentIds_bindWith : (a.bindWith b id).componentIds = a.componentIds := by
  cases id <;> simp [componentIds, typeIds, elementIds, attributeIds, groupIds, attributeGroupIds,
    bindWith]

theorem componentIds_setState : (a.setState state id).componentIds = a.componentIds := by
  cases id <;> simp [componentIds, typeIds, elementIds, attributeIds, groupIds, attributeGroupIds,
    setState]

theorem nodup_componentIds : a.componentIds.Nodup := by
  have numbered : ∀ {f : Nat → ComponentId} {n : Nat}, Function.Injective f →
      ((List.range n).map f).Nodup := fun injective => List.nodup_range.map injective
  simp only [componentIds, typeIds, elementIds, attributeIds, groupIds, attributeGroupIds,
    List.map_map]
  refine List.Nodup.append (.append (.append (.append (numbered ?_) (numbered ?_) ?_)
    (numbered ?_) ?_) (numbered ?_) ?_) (numbered ?_) ?_
  all_goals simp [List.disjoint_right, Function.Injective]

end Arena

namespace Resolution

/-! ## References that cannot be bound -/

/-- The reference is not bound, and cannot be: its document does not see the namespace, or the name
stands for nothing of the category. -/
def isBroken (registry : Registry) (document : DocumentId) (r : AnyReference) : Bool :=
  !r.isBound &&
    (!registry.isVisible document r.name.ns || (registry.get? r.name r.category).isNone)

section Broken

variable {registry : Registry} {document : DocumentId}

/-- A reference is bound afterwards if it was, or if its name stands for something that can be
seen. -/
theorem isBound_bindReference {α : Type} [DecidableEq α] {category : Category}
    {ofId : ComponentId → Option α}
    (total : ∀ {name id}, registry.get? name category = some id → (ofId id).isSome)
    (document : DocumentId) (r : Reference α) :
    (bindReference registry document category ofId r).isBound =
      (r.isBound || registry.isVisible document r.name.ns &&
        (registry.get? r.name category).isSome) := by
  cases hr : r.target with
  | some t =>
    have bound : r.isBound = true := by rw [Reference.isBound, hr]; rfl
    rw [bindReference, bound, Bool.true_or, if_pos rfl, bound, Bool.true_or]
  | none =>
    have free : r.isBound = false := by rw [Reference.isBound, hr]; rfl
    cases seen : registry.isVisible document r.name.ns with
    | false =>
      rw [bindReference, free, seen]
      exact free
    | true =>
      cases found : registry.get? r.name category with
      | none =>
        rw [bindReference, free, seen, found]
        exact free
      | some id =>
        obtain ⟨t, ht⟩ := Option.isSome_iff_exists.mp (total found)
        rw [bindReference, free, seen, found, Option.bind_some, ht]
        simp [Reference.bind?, hr, Reference.isBound]

/-- Binding binds all references but those that are broken. -/
theorem isBound_bindWith (classifies : registry.Classifies) (document : DocumentId)
    (r : AnyReference) :
    (r.bindWith (binder registry document)).isBound = !isBroken registry document r := by
  have parts : ∀ {α : Type} [DecidableEq α] {category : Category} {ofId : ComponentId → Option α}
      {toId : α → ComponentId} (r : Reference α),
      (∀ {id}, id.category = category → (ofId id).isSome) →
      ((bindReference registry document category ofId r).target.map toId).isSome =
        !(!(r.target.map toId).isSome && (!registry.isVisible document r.name.ns ||
          (registry.get? r.name category).isNone)) := by
    intro α _ category ofId toId r total
    have := isBound_bindReference
      (fun {name id} found => total (classifies name category id found)) document r
    rw [Reference.isBound, Reference.isBound] at this
    rw [Option.isSome_map, Option.isSome_map, this]
    cases r.target.isSome <;> cases registry.isVisible document r.name.ns <;>
      cases registry.get? r.name category <;> rfl
  cases r with
  | type r => exact parts r fun {id} h => by cases id <;> cases h; rfl
  | element r => exact parts r fun {id} h => by cases id <;> cases h; rfl
  | «attribute» r => exact parts r fun {id} h => by cases id <;> cases h; rfl
  | group r => exact parts r fun {id} h => by cases id <;> cases h; rfl
  | attributeGroup r => exact parts r fun {id} h => by cases id <;> cases h; rfl

/-- A reference that does not get bound is left as it is. -/
theorem bindWith_eq_self {r : AnyReference}
    (unbound : (r.bindWith (binder registry document)).isBound = false) :
    r.bindWith (binder registry document) = r := by
  have parts : ∀ {α : Type} {toId : α → ComponentId} {x : Reference α},
      (x.target.map toId).isSome = false → x.target = none := by
    intro α toId x h
    rwa [Option.isSome_map, Option.isSome_eq_false_iff, Option.isNone_iff_eq_none] at h
  cases r with
  | type r => exact congrArg AnyReference.type (bindReference_eq_self (parts unbound))
  | element r => exact congrArg AnyReference.element (bindReference_eq_self (parts unbound))
  | «attribute» r => exact congrArg AnyReference.attribute (bindReference_eq_self (parts unbound))
  | group r => exact congrArg AnyReference.group (bindReference_eq_self (parts unbound))
  | attributeGroup r =>
    exact congrArg AnyReference.attributeGroup (bindReference_eq_self (parts unbound))

/-- What is not bound after an attempt is what was broken before it. -/
theorem unbound_bindWith (classifies : registry.Classifies) (rs : List AnyReference) :
    ((rs.map (·.bindWith (binder registry document))).filter fun r => !r.isBound) =
      rs.filter (isBroken registry document) := by
  induction rs with
  | nil => rfl
  | cons r rs ih =>
    have bound := isBound_bindWith classifies document r
    rw [List.map_cons, List.filter_cons, List.filter_cons, ih, bound, Bool.not_not]
    split
    · rename_i broken
      rw [broken] at bound
      rw [bindWith_eq_self bound]
    · rfl

/-- An attempt leaves the broken references as they are. -/
theorem broken_bindWith (classifies : registry.Classifies) (rs : List AnyReference) :
    (rs.map (·.bindWith (binder registry document))).filter (isBroken registry document) =
      rs.filter (isBroken registry document) := by
  induction rs with
  | nil => rfl
  | cons r rs ih =>
    have bound := isBound_bindWith classifies document r
    rw [List.map_cons, List.filter_cons, List.filter_cons, ih]
    cases broken : isBroken registry document r with
    | true =>
      rw [broken] at bound
      rw [bindWith_eq_self bound, broken]
    | false =>
      rw [broken] at bound
      rw [isBroken, bound]
      rfl

end Broken

/-- The references of a component that cannot be bound. -/
def broken (registry : Registry) (a : Arena) (id : ComponentId) : List AnyReference :=
  ((a.info? id).map fun info =>
    (a.references id).filter (isBroken registry info.document)).getD []

theorem broken_of_info? {registry : Registry} {a : Arena} {id : ComponentId}
    {info : ComponentInfo} (h : a.info? id = some info) :
    broken registry a id = (a.references id).filter (isBroken registry info.document) := by
  rw [broken, h]
  rfl

/-- A namespace that might help is that of a broken reference which sees it. -/
theorem missing?_eq_some_iff {registry : Registry} {document : DocumentId} {r : AnyReference}
    (h : isBroken registry document r = true) {ns : Namespace} :
    missing? registry document r = some ns ↔
      r.name.ns = ns ∧ registry.isVisible document ns = true ∧ registry.isLoaded ns = false := by
  rw [isBroken, Bool.and_eq_true, Bool.or_eq_true] at h
  obtain ⟨unbound, blind⟩ := h
  rw [missing?]
  constructor
  · intro wanted
    split at wanted
    · rename_i all
      cases wanted
      simp only [Bool.and_eq_true, Bool.not_eq_true'] at all
      exact ⟨rfl, all.1.1.2, all.2⟩
    · cases wanted
  · rintro ⟨rfl, visible, unloaded⟩
    rw [visible] at blind
    rw [unbound, visible, unloaded, blind.resolve_left (by decide)]
    rfl

theorem not_isBound_of_missing? {registry : Registry} {document : DocumentId} {r : AnyReference}
    {ns : Namespace} (h : missing? registry document r = some ns) : (!r.isBound) = true := by
  rw [missing?] at h
  split at h
  · rename_i all
    simp only [Bool.and_eq_true] at all
    exact all.1.1.1
  · cases h

/-! ## The pass -/

section Pass

variable {registry : Registry} {a : Arena} {p q : Pass} {done : List ComponentId}
  {id : ComponentId} {info : ComponentInfo}

/-- What a pass makes of open components: their references are bound, but for those that are broken,
and those with no such reference are resolved. -/
structure Examined (registry : Registry) (a : Arena) (done : List ComponentId) (p : Pass) :
    Prop where
  ids : p.arena.componentIds = a.componentIds
  others : ∀ {id}, ¬ (id ∈ done ∧ IsOpen a id) →
    p.arena.info? id = a.info? id ∧ p.arena.references id = a.references id
  info : ∀ {id info}, id ∈ done → a.info? id = some info → info.state = .unresolved →
    p.arena.info? id = some { info with
      state := if broken registry a id = [] then .resolved else .unresolved }
  references : ∀ {id info}, id ∈ done → a.info? id = some info → info.state = .unresolved →
    p.arena.references id = (a.references id).map (·.bindWith (binder registry info.document))
  resolved : p.resolved = 0 ↔ ∀ id ∈ done, IsOpen a id → broken registry a id ≠ []
  needed : ∀ {ns}, ns ∈ p.needed ↔ ∃ id ∈ done, ∃ info, a.info? id = some info ∧
    info.state = .unresolved ∧ ∃ r ∈ broken registry a id, missing? registry info.document r = some ns

namespace Examined

/-- The components of a longer list but for the last one. -/
theorem mem_of_ne {other : ComponentId} (h : other ∈ done ++ [id]) (ne : other ≠ id) :
    other ∈ done :=
  (List.mem_append.mp h).resolve_right fun last => ne (List.mem_singleton.mp last)

/-- A component that is not open is passed over. -/
theorem idle (h : Examined registry a done p) (closed : ¬ IsOpen a id) :
    Examined registry a (done ++ [id]) p := by
  have old : ∀ {other}, other ∈ done ++ [id] → IsOpen a other → other ∈ done := by
    intro other ho opened
    refine mem_of_ne ho ?_
    rintro rfl
    exact closed opened
  constructor
  case ids => exact h.ids
  case others =>
    exact fun ho => h.others fun ⟨listed, opened⟩ => ho ⟨List.mem_append_left _ listed, opened⟩
  case info => exact fun ho hf opened => h.info (old ho ⟨_, hf, opened⟩) hf opened
  case references => exact fun ho hf opened => h.references (old ho ⟨_, hf, opened⟩) hf opened
  case resolved =>
    rw [h.resolved]
    exact ⟨fun all other ho opened => all other (old ho opened) opened,
      fun all other ho => all other (List.mem_append_left _ ho)⟩
  case needed =>
    intro ns
    rw [h.needed]
    constructor
    · rintro ⟨other, ho, rest⟩
      exact ⟨other, List.mem_append_left _ ho, rest⟩
    · rintro ⟨other, ho, found, hf, opened, wanted⟩
      exact ⟨other, old ho ⟨found, hf, opened⟩, found, hf, opened, wanted⟩

/-- An open component that has been left alone so far is bound, and its new state tells whether that
was all. -/
theorem bind (h : Examined registry a done p) (fresh : id ∉ done) (hi : a.info? id = some info)
    (open' : info.state = .unresolved) {state : ResolutionState} {resolved : Nat}
    {needed : List Namespace}
    (hstate : state = if broken registry a id = [] then .resolved else .unresolved)
    (hresolved : resolved = if broken registry a id = [] then p.resolved + 1 else p.resolved)
    (hneeded : ∀ ns, ns ∈ needed ↔ ns ∈ p.needed ∨ ∃ r ∈ broken registry a id,
      missing? registry info.document r = some ns) :
    Examined registry a (done ++ [id])
      ⟨(p.arena.bindWith (binder registry info.document) id).setState state id, resolved,
        needed⟩ := by
  obtain ⟨sameInfo, sameReferences⟩ := h.others fun ⟨listed, _⟩ => fresh listed
  constructor
  case ids => rw [Arena.componentIds_setState, Arena.componentIds_bindWith, h.ids]
  case others =>
    intro other ho
    have ne : other ≠ id := by
      rintro rfl
      exact ho ⟨List.mem_append_right _ List.mem_cons_self, info, hi, open'⟩
    rw [Arena.info?_setState, if_neg ne, Arena.info?_bindWith, Arena.references_setState,
      Arena.references_bindWith, if_neg ne]
    exact h.others fun ⟨listed, opened⟩ => ho ⟨List.mem_append_left _ listed, opened⟩
  case info =>
    intro other found ho hf opened
    rw [Arena.info?_setState, Arena.info?_bindWith, Arena.info?_bindWith]
    split
    · rename_i same
      subst same
      cases hi.symm.trans hf
      rw [sameInfo, hi, hstate]
      rfl
    · rename_i ne
      exact h.info (mem_of_ne ho ne) hf opened
  case references =>
    intro other found ho hf opened
    rw [Arena.references_setState, Arena.references_bindWith]
    split
    · rename_i same
      subst same
      cases hi.symm.trans hf
      rw [sameReferences]
    · rename_i ne
      exact h.references (mem_of_ne ho ne) hf opened
  case resolved =>
    rw [hresolved]
    constructor
    · intro zero other ho opened
      split at zero
      · cases zero
      · rename_i any
        by_cases same : other = id
        · exact same ▸ any
        · exact h.resolved.mp zero other (mem_of_ne ho same) opened
    · intro all
      rw [if_neg (all id (List.mem_append_right _ List.mem_cons_self) ⟨info, hi, open'⟩)]
      exact h.resolved.mpr fun other ho => all other (List.mem_append_left _ ho)
  case needed =>
    intro ns
    rw [hneeded, h.needed]
    constructor
    · rintro (⟨other, ho, rest⟩ | wanted)
      · exact ⟨other, List.mem_append_left _ ho, rest⟩
      · exact ⟨id, List.mem_append_right _ List.mem_cons_self, info, hi, open', wanted⟩
    · rintro ⟨other, ho, found, hf, opened, wanted⟩
      by_cases same : other = id
      · subst same
        cases hi.symm.trans hf
        exact Or.inr wanted
      · exact Or.inl ⟨other, mem_of_ne ho same, found, hf, opened, wanted⟩

theorem attempt (classifies : registry.Classifies) (h : Examined registry a done p)
    (fresh : id ∉ done) (attempt : Attempt registry p id q) :
    Examined registry a (done ++ [id]) q := by
  obtain ⟨sameInfo, sameReferences⟩ := h.others fun ⟨listed, _⟩ => fresh listed
  have unbound : ∀ {info}, p.arena.info? id = some info →
      ((p.arena.bindWith (binder registry info.document) id).references id).filter
        (fun r => !r.isBound) = broken registry a id := by
    intro info hi
    rw [Arena.references_bindWith, if_pos rfl, sameReferences, unbound_bindWith classifies,
      broken_of_info? (sameInfo ▸ hi)]
  cases attempt with
  | idle closed =>
    refine h.idle ?_
    rintro ⟨found, hf, opened⟩
    exact closed (sameInfo.trans hf) opened
  | complete hi open' same all =>
    subst same
    have none : broken registry a id = [] := by
      rw [← unbound hi, List.filter_eq_nil_iff]
      intro r hr
      rw [all r hr]
      decide
    refine h.bind fresh (sameInfo ▸ hi) open' (by rw [if_pos none]) (by rw [if_pos none])
      fun ns => ?_
    rw [none]
    simp
  | release hi open' same some =>
    subst same
    have any : broken registry a id ≠ [] := by
      obtain ⟨r, hr, free⟩ := some
      rw [← unbound hi]
      exact List.ne_nil_of_mem (List.mem_filter.mpr ⟨hr, by simpa using free⟩)
    refine h.bind fresh (sameInfo ▸ hi) open' (by rw [if_neg any]) (by rw [if_neg any])
      fun ns => ?_
    rw [Namespace.mem_foldl_insertSorted, or_comm, List.mem_filterMap]
    refine or_congr Iff.rfl ⟨?_, ?_⟩
    · rintro ⟨r, hr, wanted⟩
      refine ⟨r, ?_, wanted⟩
      rw [← unbound hi, List.mem_filter]
      exact ⟨hr, not_isBound_of_missing? wanted⟩
    · rintro ⟨r, hr, wanted⟩
      rw [← unbound hi, List.mem_filter] at hr
      exact ⟨r, hr.1, wanted⟩

end Examined

theorem examined_pass (classifies : registry.Classifies) {todo : List ComponentId}
    (distinct : todo.Nodup) : Examined registry a todo (pass registry a todo) := by
  have folded : ∀ (rest done : List ComponentId) (p : Pass), Examined registry a done p →
      (done ++ rest).Nodup →
      Examined registry a (done ++ rest) (rest.foldl (resolveComponent registry) p) := by
    intro rest
    induction rest with
    | nil =>
      intro done p h _
      rwa [List.append_nil]
    | cons id rest ih =>
      intro done p h distinct
      have fresh : id ∉ done := fun listed =>
        List.disjoint_of_nodup_append distinct listed List.mem_cons_self
      have := ih (done ++ [id]) _ (h.attempt classifies fresh (attempt_resolveComponent registry p id))
      rw [List.append_assoc] at this
      exact this distinct
  refine folded todo [] ⟨a, 0, []⟩ ⟨rfl, fun _ => ⟨rfl, rfl⟩, fun h => absurd h List.not_mem_nil,
    fun h => absurd h List.not_mem_nil, ⟨fun _ _ h => absurd h List.not_mem_nil, fun _ => rfl⟩, ?_⟩
    distinct
  simp

end Pass

end Resolution

end Xsd
