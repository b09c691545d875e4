import Xsd.Proofs.Schema.Coherent

/-!
# Passes

Each pass of the resolution resolves a component, or is followed by imports that add one, or by the
last pass. So the number of passes that are granted is never used up unless something is wrong.
-/

namespace Xsd

/-! ## Imports between passes -/

/-- What reading adds to the assembly `base`: the documents of that are left as they are, names are
given to new components only, and these are not resolved. -/
structure Assembly.Follows (base a : Assembly) : Prop where
  arena : base.arena.Grows a.arena
  documents : ∀ i < base.registry.documents.size,
    a.registry.documents[i]? = base.registry.documents[i]?
  known : base.registry.documents.size ≤ a.registry.documents.size
  names : a.arena.size = base.arena.size →
    a.registry.declarations = base.registry.declarations
  fresh : ∀ {id info}, a.arena.info? id = some info → ¬ base.arena.Has id →
    info.state = .unresolved

namespace Assembly.Follows

variable {base a : Assembly} {arena : Arena} {id : ComponentId} {info : ComponentInfo}
  {ms : List Mention}

theorem refl (a : Assembly) : a.Follows a :=
  ⟨.refl _, fun _ _ => rfl, le_rfl, fun _ => rfl, fun hi missing =>
    absurd (Arena.has_iff.mpr ⟨_, hi⟩) missing⟩

theorem adds (h : base.Follows a) (adds : a.arena.Adds arena id info ms)
    (grows : a.arena.Grows arena) (more : arena.size ≠ a.arena.size) (admits : a.Admits info ms) :
    base.Follows { a with arena := arena } where
  arena := h.arena.trans grows
  documents := h.documents
  known := h.known
  names same := by
    have lower := h.arena.le
    have upper := grows.le
    change arena.size = _ at same
    omega
  fresh {other found} hi missing := by
    change arena.info? other = some found at hi
    rw [adds.info] at hi
    split at hi
    · cases hi
      exact admits.state
    · exact h.fresh hi missing

end Assembly.Follows

theorem stable_follows (base : Assembly) : Stable base base.Follows where
  note _ h := ⟨h.arena, h.documents, h.known, h.names, h.fresh⟩
  document {a} info _ h := by
    refine ⟨h.arena, fun i hi => ?_, ?_, fun same => ?_, h.fresh⟩
    · have := h.known
      simp only [Registry.documents_addDocument]
      rw [Array.getElem?_push, if_neg (by omega), h.documents i hi]
    · have := h.known
      simp only [Registry.documents_addDocument, Array.size_push]
      omega
    · simp only [Registry.declarations_addDocument]
      exact h.names same
  importEdge {a} document edge late h := by
    obtain ⟨f, -, documents⟩ := Registry.documents_addImport a.registry document edge
    refine ⟨h.arena, fun i hi => ?_, ?_, h.names, h.fresh⟩
    · simp only [documents]
      rw [Array.getElem?_modify, if_neg (by omega), h.documents i hi]
    · simp only [documents, Array.size_modify]
      exact h.known
  declare {a name id r} has missing hr h := by
    have documents := (Registry.declare?_spec hr).1
    refine ⟨h.arena, fun i hi => ?_, ?_, fun same => ?_, h.fresh⟩
    · simp only [documents]
      exact h.documents i hi
    · simp only [documents]
      exact h.known
    · exact absurd (h.arena.eq_of_size same ▸ has) missing
  type _ _ admits h :=
    h.adds (Arena.adds_addType _ _) (.addType _ _) (by simp [Arena.size, Arena.addType]) admits
  elementDecl admits h :=
    h.adds (Arena.adds_addElement _ _) (.addElement _ _)
      (by simp [Arena.size, Arena.addElement]) admits
  attributeDecl _ admits h :=
    h.adds (Arena.adds_addAttribute _ _) (.addAttribute _ _)
      (by simp [Arena.size, Arena.addAttribute]) admits
  groupDef admits h :=
    h.adds (Arena.adds_addGroup _ _) (.addGroup _ _) (by simp [Arena.size, Arena.addGroup]) admits
  attributeGroupDef admits h :=
    h.adds (Arena.adds_addAttributeGroup _ _) (.addAttributeGroup _ _)
      (by simp [Arena.size, Arena.addAttributeGroup]) admits

namespace Registry

variable {r s : Registry} {ns : Namespace}

/-- Documents are included by earlier ones, so the number of documents that are looked through does
not matter as long as it is large enough. -/
theorem importsFrom_eq {n : Nat} (same : ∀ i < n, s.documents[i]? = r.documents[i]?)
    (included : ∀ {i : Nat} {info : DocumentInfo} {d : DocumentId},
      r.documents[i]? = some info → info.includedBy = some d → d.index < i)
    (fuel fuel' : Nat) (id : DocumentId) (known : id.index < n) (enough : id.index < fuel)
    (enough' : id.index < fuel') : s.importsFrom ns fuel' id = r.importsFrom ns fuel id := by
  induction fuel generalizing fuel' id with
  | zero => exact absurd enough (Nat.not_lt_zero _)
  | succ fuel ih =>
    cases fuel' with
    | zero => exact absurd enough' (Nat.not_lt_zero _)
    | succ fuel' =>
      rw [importsFrom, importsFrom, document?, document?, same _ known]
      cases hi : r.documents[id.index]? with
      | none => rfl
      | some info =>
        dsimp only
        cases hd : info.includedBy with
        | none => rfl
        | some includer =>
          have earlier := included hi hd
          dsimp only
          rw [ih fuel' includer (by omega) (by omega) (by omega)]

end Registry

namespace Assembly.Follows

variable {base a : Assembly} {document : DocumentId}

/-- What a document can see has not changed. -/
theorem isVisible_eq (h : base.Follows a) (coherent : base.Coherent)
    (known : document.index < base.registry.documents.size) (ns : Namespace) :
    a.registry.isVisible document ns = base.registry.isVisible document ns := by
  have := h.known
  rw [Registry.isVisible, Registry.isVisible, Registry.document?, Registry.document?,
    h.documents _ known, Registry.importsFrom_eq h.documents coherent.included
      base.registry.documents.size a.registry.documents.size document known known (by omega)]

end Assembly.Follows

/-! ## One attempt -/

namespace Resolution

section Binding

variable {registry r s : Registry} {document : DocumentId}

/-- A reference that does not get bound is left as it is. -/
theorem bindReference_eq_self {α : Type} [DecidableEq α] {category : Category}
    {ofId : ComponentId → Option α} {x : Reference α}
    (unbound : (bindReference registry document category ofId x).target = none) :
    bindReference registry document category ofId x = x := by
  unfold bindReference at unbound ⊢
  split
  · rfl
  · rename_i candidate
    rw [if_neg candidate] at unbound
    split
    · rename_i t found
      cases ht : x.target with
      | none =>
        rw [found] at unbound
        simp only [Reference.bind?, ht, Option.getD_some] at unbound
        cases unbound
      | some t' =>
        rw [Reference.isBound, ht] at candidate
        exact absurd rfl candidate
    · rfl

theorem bindReference_idem {α : Type} [DecidableEq α] {category : Category}
    {ofId : ComponentId → Option α} (x : Reference α) :
    bindReference registry document category ofId
        (bindReference registry document category ofId x) =
      bindReference registry document category ofId x := by
  cases ht : (bindReference registry document category ofId x).target with
  | none => rw [bindReference_eq_self ht, bindReference_eq_self ht]
  | some t =>
    generalize bindReference registry document category ofId x = y at ht
    rw [bindReference, if_pos (by rw [Reference.isBound, ht]; rfl)]

/-- A second attempt with the same names binds nothing more. -/
theorem bindWith_idem (m : Mention) :
    (m.bindWith (binder registry document)).bindWith (binder registry document) =
      m.bindWith (binder registry document) := by
  cases m with
  | own id => rfl
  | named x =>
    cases x with
    | type x => exact congrArg (Mention.named <| .type ·) (bindReference_idem x)
    | element x => exact congrArg (Mention.named <| .element ·) (bindReference_idem x)
    | «attribute» x => exact congrArg (Mention.named <| .attribute ·) (bindReference_idem x)
    | group x => exact congrArg (Mention.named <| .group ·) (bindReference_idem x)
    | attributeGroup x =>
      exact congrArg (Mention.named <| .attributeGroup ·) (bindReference_idem x)

/-- References are bound by the names that there are and by what the document can see. -/
theorem binder_congr (visible : ∀ ns, s.isVisible document ns = r.isVisible document ns)
    (names : ∀ name category, s.get? name category = r.get? name category) :
    binder s document = binder r document := by
  have parts : ∀ {α : Type} [DecidableEq α] (category : Category) (ofId : ComponentId → Option α),
      bindReference s document category ofId = bindReference r document category ofId := by
    intro α _ category ofId
    funext x
    rw [bindReference, bindReference, visible, names]
  unfold binder
  rw [parts, parts, parts, parts, parts]

end Binding

/-- A component that is up for resolving. -/
def IsOpen (a : Arena) (id : ComponentId) : Prop :=
  ∃ info, a.info? id = some info ∧ info.state = .unresolved

theorem mem_pending_iff {a : Arena} {id : ComponentId} : id ∈ pending a ↔ IsOpen a id := by
  rw [pending, List.mem_filter, Arena.mem_componentIds_iff, Arena.has_iff]
  constructor
  · rintro ⟨⟨info, hi⟩, unresolved⟩
    rw [hi] at unresolved
    exact ⟨info, hi, eq_of_beq unresolved⟩
  · rintro ⟨info, hi, unresolved⟩
    refine ⟨⟨info, hi⟩, ?_⟩
    rw [hi, Option.map_some, unresolved]
    rfl

/-- Something that an open component mentions is not bound. -/
def IsUnbound (a : Arena) (id : ComponentId) : Prop :=
  IsOpen a id ∧ ∃ m ∈ a.mentions id, m.target = none

/-- An open component of which no more can be bound with the names that there are. The namespaces
that might help are among those given. -/
structure IsStuck (registry : Registry) (needed : List Namespace) (a : Arena) (id : ComponentId)
    (info : ComponentInfo) : Prop where
  found : a.info? id = some info
  unresolved : info.state = .unresolved
  unbound : ∃ m ∈ a.mentions id, m.target = none
  bound : ∀ m ∈ a.mentions id, m.bindWith (binder registry info.document) = m
  needs : ∀ r ∈ a.references id, ∀ {ns}, missing? registry info.document r = some ns → ns ∈ needed

namespace IsStuck

variable {registry s : Registry} {needed more : List Namespace} {a b : Arena} {id : ComponentId}
  {info : ComponentInfo}

theorem isUnbound (h : IsStuck registry needed a id info) : IsUnbound a id :=
  ⟨⟨info, h.found, h.unresolved⟩, h.unbound⟩

theorem mono (h : IsStuck registry needed a id info) (sameInfo : b.info? id = a.info? id)
    (sameMentions : b.mentions id = a.mentions id) (grows : ∀ ns ∈ needed, ns ∈ more) :
    IsStuck registry more b id info where
  found := sameInfo.trans h.found
  unresolved := h.unresolved
  unbound := sameMentions ▸ h.unbound
  bound := sameMentions ▸ h.bound
  needs r hr ns hns := by
    rw [Arena.references_eq, sameMentions, ← Arena.references_eq] at hr
    exact grows ns (h.needs r hr hns)

/-- If nothing is known by other names, and all namespaces that might help have been loaded, the
component is stuck for good. -/
theorem exhausted (h : IsStuck registry needed a id info)
    (visible : ∀ ns, s.isVisible info.document ns = registry.isVisible info.document ns)
    (names : ∀ name category, s.get? name category = registry.get? name category)
    (loaded : ∀ ns ∈ needed, s.isLoaded ns)
    (kept : ∀ ns, registry.isLoaded ns → s.isLoaded ns) : IsStuck s [] a id info where
  found := h.found
  unresolved := h.unresolved
  unbound := h.unbound
  bound := binder_congr visible names ▸ h.bound
  needs r hr ns hns := by
    dsimp only [missing?] at hns
    split at hns
    · rename_i wanted
      cases hns
      simp only [Bool.and_eq_true, Bool.not_eq_true', visible, names] at wanted
      obtain ⟨⟨⟨unbound, seen⟩, unknown⟩, unloaded⟩ := wanted
      have before : registry.isLoaded r.name.ns = false := by
        rw [Bool.eq_false_iff]
        intro old
        rw [kept _ old] at unloaded
        cases unloaded
      have wanted : r.name.ns ∈ needed :=
        h.needs r hr (by simp [missing?, unbound, seen, unknown, before])
      rw [loaded _ wanted] at unloaded
      cases unloaded
    · cases hns

end IsStuck

/-! ## One pass -/

theorem unloaded_of_missing? {registry : Registry} {document : DocumentId} {r : AnyReference}
    {ns : Namespace} (h : missing? registry document r = some ns) :
    registry.isLoaded ns = false := by
  dsimp only [missing?] at h
  split at h
  · rename_i wanted
    cases h
    simpa using (Bool.and_eq_true_iff.mp wanted).2
  · cases h

/-- A change of an arena by which open components can be resolved and no others change. -/
structure Settles (a b : Arena) : Prop where
  size : b.size = a.size
  has : ∀ {id}, b.Has id ↔ a.Has id
  info : ∀ {id info}, b.info? id = some info → a.info? id = some info ∨
    ∃ before, a.info? id = some before ∧ before.state = .unresolved ∧
      info = { before with state := .resolved }

namespace Settles

variable {a b c : Arena} {id : ComponentId}

theorem refl (a : Arena) : Settles a a := ⟨rfl, Iff.rfl, Or.inl⟩

theorem trans (h : Settles a b) (h' : Settles b c) : Settles a c where
  size := h'.size.trans h.size
  has := h'.has.trans h.has
  info hi := by
    rcases h'.info hi with old | ⟨before, hb, open', rfl⟩
    · exact h.info old
    · rcases h.info hb with old | ⟨_, _, _, rfl⟩
      · exact Or.inr ⟨before, old, open', rfl⟩
      · cases open'

theorem isOpen (h : Settles a b) (hid : IsOpen b id) : IsOpen a id := by
  obtain ⟨info, hi, open'⟩ := hid
  rcases h.info hi with old | ⟨_, _, _, rfl⟩
  · exact ⟨info, old, open'⟩
  · cases open'

end Settles

theorem settles_setState {a : Arena} {b : Binder} {id : ComponentId} {info : ComponentInfo}
    {state : ResolutionState} (hi : a.info? id = some info) (open' : info.state = .unresolved)
    (next : state = .unresolved ∨ state = .resolved) :
    Settles a ((a.bindWith b id).setState state id) where
  size := by cases id <;> simp [Arena.size, Arena.bindWith, Arena.setState]
  has := (Arena.has_setState_iff ..).trans (Arena.has_bindWith_iff ..)
  info {other found} ho := by
    rw [Arena.info?_setState, Arena.info?_bindWith, Arena.info?_bindWith] at ho
    split at ho
    · rename_i same
      subst same
      rw [hi] at ho
      cases ho
      rcases next with rfl | rfl
      · rw [← open']
        exact Or.inl hi
      · exact Or.inr ⟨info, hi, open', rfl⟩
    · exact Or.inl ho

namespace Attempt

variable {registry : Registry} {p q : Pass} {id : ComponentId}

theorem settles (h : Attempt registry p id q) : Settles p.arena q.arena := by
  cases h with
  | idle => exact .refl _
  | complete hi open' bound =>
    subst bound
    exact settles_setState hi open' (Or.inr rfl)
  | release hi open' bound =>
    subst bound
    exact settles_setState hi open' (Or.inl rfl)

/-- Only the component itself changes. -/
theorem others (h : Attempt registry p id q) {other : ComponentId} (ne : other ≠ id) :
    q.arena.info? other = p.arena.info? other ∧
      q.arena.mentions other = p.arena.mentions other := by
  have kept : ∀ (b : Binder) (state : ResolutionState),
      ((p.arena.bindWith b id).setState state id).info? other = p.arena.info? other ∧
        ((p.arena.bindWith b id).setState state id).mentions other = p.arena.mentions other := by
    intro b state
    rw [Arena.info?_setState, if_neg ne, Arena.info?_bindWith, Arena.mentions_setState,
      Arena.mentions_bindWith, if_neg ne]
    exact ⟨rfl, rfl⟩
  cases h with
  | idle => exact ⟨rfl, rfl⟩
  | complete _ _ bound =>
    subst bound
    exact kept _ _
  | release _ _ bound =>
    subst bound
    exact kept _ _

theorem needed (h : Attempt registry p id q) : ∀ ns ∈ p.needed, ns ∈ q.needed := by
  cases h with
  | idle => exact fun _ hns => hns
  | complete => exact fun _ hns => hns
  | release => exact fun _ hns => (Namespace.mem_foldl_insertSorted _ _).mpr (Or.inr hns)

/-- A component that is open is resolved, or it is stuck. -/
theorem outcome (h : Attempt registry p id q) (open' : IsOpen p.arena id) :
    ¬ IsOpen q.arena id ∧ q.resolved = p.resolved + 1 ∨
      (∃ info, IsStuck registry q.needed q.arena id info) ∧ q.resolved = p.resolved := by
  obtain ⟨info', hi', open'⟩ := open'
  cases h with
  | idle closed => exact absurd open' (closed hi')
  | complete hi _ bound =>
    subst bound
    refine Or.inl ⟨?_, rfl⟩
    rintro ⟨found, hf, again⟩
    rw [Arena.info?_setState, if_pos rfl, Arena.info?_bindWith, hi] at hf
    cases hf
    cases again
  | @release info arena hi _ bound unbound =>
    refine Or.inr ⟨⟨{ info with state := .unresolved }, ?_⟩, rfl⟩
    have mentions : (arena.setState .unresolved id).mentions id = arena.mentions id :=
      Arena.mentions_setState ..
    constructor
    case found =>
      rw [Arena.info?_setState, if_pos rfl, bound, Arena.info?_bindWith, hi]
      rfl
    case unresolved => rfl
    case unbound =>
      obtain ⟨r, hr, unbound⟩ := unbound
      rw [Arena.references_eq] at hr
      obtain ⟨m, hm, same⟩ := List.mem_filterMap.mp hr
      refine ⟨m, mentions ▸ hm, ?_⟩
      cases m with
      | own i => cases same
      | named r' =>
        cases same
        exact Option.not_isSome_iff_eq_none.mp unbound
    case bound =>
      intro m hm
      rw [mentions, bound, Arena.mentions_bindWith, if_pos rfl] at hm
      obtain ⟨m', -, rfl⟩ := List.mem_map.mp hm
      exact bindWith_idem m'
    case needs =>
      intro r hr ns hns
      rw [Arena.references_eq, mentions, ← Arena.references_eq] at hr
      exact (Namespace.mem_foldl_insertSorted _ _).mpr (Or.inl (List.mem_filterMap.mpr ⟨r, hr, hns⟩))

end Attempt

/-- What a pass over some components comes to: each of them that was open is resolved or stuck, and
the number says whether any was resolved. -/
structure Passed (registry : Registry) (a : Arena) (done : List ComponentId) (p : Pass) : Prop where
  settles : Settles a p.arena
  outcome : ∀ id ∈ done, IsOpen a id →
    ¬ IsOpen p.arena id ∨ ∃ info, IsStuck registry p.needed p.arena id info
  unchanged : p.resolved = 0 → ∀ id, IsOpen a id → IsOpen p.arena id
  changed : p.resolved ≠ 0 → ∃ id, IsOpen a id ∧ ¬ IsOpen p.arena id

theorem Passed.attempt {registry : Registry} {a : Arena} {done : List ComponentId} {p q : Pass}
    {id : ComponentId} (h : Passed registry a done p) (attempt : Attempt registry p id q) :
    Passed registry a (done ++ [id]) q := by
  have settles := h.settles.trans attempt.settles
  have before : ∀ other ∈ done, other ≠ id → IsOpen a other →
      ¬ IsOpen q.arena other ∨ ∃ info, IsStuck registry q.needed q.arena other info := by
    intro other ho ne open'
    rcases h.outcome other ho open' with closed | ⟨info, stuck⟩
    · exact Or.inl fun again => closed (attempt.settles.isOpen again)
    · exact Or.inr ⟨info, stuck.mono (attempt.others ne).1 (attempt.others ne).2 attempt.needed⟩
  have members : ∀ other ∈ done ++ [id], other ≠ id → other ∈ done := by
    intro other ho ne
    rcases List.mem_append.mp ho with ho | ho
    · exact ho
    · exact absurd (List.mem_singleton.mp ho) ne
  by_cases open' : IsOpen p.arena id
  · rcases attempt.outcome open' with ⟨closed, more⟩ | ⟨⟨info, stuck⟩, same⟩
    · refine ⟨settles, fun other ho opened => ?_, fun none => ?_, fun _ => ?_⟩
      · by_cases eq : other = id
        · exact Or.inl (eq ▸ closed)
        · exact before other (members other ho eq) eq opened
      · omega
      · exact ⟨id, h.settles.isOpen open', closed⟩
    · refine ⟨settles, fun other ho opened => ?_, fun none other opened => ?_, fun some => ?_⟩
      · by_cases eq : other = id
        · exact Or.inr ⟨info, eq ▸ stuck⟩
        · exact before other (members other ho eq) eq opened
      · by_cases eq : other = id
        · exact eq ▸ stuck.isUnbound.1
        · have := h.unchanged (same ▸ none) other opened
          rwa [IsOpen, (attempt.others eq).1]
      · obtain ⟨other, opened, closed⟩ := h.changed (same ▸ some)
        exact ⟨other, opened, fun again => closed (attempt.settles.isOpen again)⟩
  · cases attempt with
    | idle =>
      refine ⟨settles, fun other ho opened => ?_, h.unchanged, h.changed⟩
      by_cases eq : other = id
      · exact Or.inl (eq ▸ open')
      · exact before other (members other ho eq) eq opened
    | complete hi unresolved => exact absurd ⟨_, hi, unresolved⟩ open'
    | release hi unresolved => exact absurd ⟨_, hi, unresolved⟩ open'

theorem passed_pass (registry : Registry) (a : Arena) (todo : List ComponentId) :
    Passed registry a todo (pass registry a todo) := by
  have folded : ∀ (rest done : List ComponentId) (p : Pass), Passed registry a done p →
      Passed registry a (done ++ rest) (rest.foldl (resolveComponent registry) p) := by
    intro rest
    induction rest with
    | nil =>
      intro done p h
      rwa [List.append_nil]
    | cons id rest ih =>
      intro done p h
      have := ih (done ++ [id]) _ (h.attempt (attempt_resolveComponent registry p id))
      rwa [List.append_assoc] at this
  exact folded todo [] ⟨a, 0, []⟩ ⟨.refl a, nofun, fun _ _ h => h, fun h => absurd rfl h⟩

/-! ## A pass without effect -/

theorem IsStuck.not_complete {registry : Registry} {needed : List Namespace} {a : Arena}
    {id : ComponentId} {info : ComponentInfo} (stuck : IsStuck registry needed a id info) :
    (a.bindWith (binder registry info.document) id).mentions id = a.mentions id ∧
      ¬ ∀ r ∈ (a.bindWith (binder registry info.document) id).references id, r.isBound := by
  have same : (a.bindWith (binder registry info.document) id).mentions id = a.mentions id := by
    rw [Arena.mentions_bindWith, if_pos rfl]
    exact (List.map_congr_left stuck.bound).trans (List.map_id _)
  refine ⟨same, fun all => ?_⟩
  obtain ⟨m, hm, none⟩ := stuck.unbound
  have := Mention.isSome_target (Arena.references_eq _ _ ▸ all) (same ▸ hm)
  rw [none] at this
  cases this

/-- Another attempt at a component that is stuck comes to nothing. -/
theorem Attempt.of_isStuck {registry : Registry} {needed : List Namespace} {p q : Pass}
    {id : ComponentId} {info : ComponentInfo} (h : Attempt registry p id q)
    (among : ∀ ns ∈ p.needed, ns ∈ needed) (stuck : IsStuck registry needed p.arena id info) :
    q.resolved = p.resolved ∧ ∀ ns ∈ q.needed, ns ∈ needed := by
  cases h with
  | idle closed => exact absurd stuck.unresolved (closed stuck.found)
  | complete hi _ bound all =>
    subst bound
    cases hi.symm.trans stuck.found
    exact absurd all stuck.not_complete.2
  | release hi _ bound =>
    subst bound
    cases hi.symm.trans stuck.found
    refine ⟨rfl, fun ns hns => ?_⟩
    rcases (Namespace.mem_foldl_insertSorted _ _).mp hns with hns | hns
    · obtain ⟨r, hr, wanted⟩ := List.mem_filterMap.mp hns
      rw [Arena.references_eq, stuck.not_complete.1, ← Arena.references_eq] at hr
      exact stuck.needs r hr wanted
    · exact among ns hns

/-- A pass over components that are stuck resolves none, and asks for nothing that is not known to
be missing. -/
theorem pass_of_isStuck {registry : Registry} {needed : List Namespace} {a : Arena}
    {todo : List ComponentId} (h : ∀ id ∈ todo, ∃ info, IsStuck registry needed a id info) :
    (pass registry a todo).resolved = 0 ∧ ∀ ns ∈ (pass registry a todo).needed, ns ∈ needed := by
  have folded : ∀ (rest : List ComponentId) (p : Pass), (∀ id ∈ rest, id ∈ todo) →
      p.resolved = 0 → (∀ ns ∈ p.needed, ns ∈ needed) →
      (∀ id ∈ todo, ∃ info, IsStuck registry needed p.arena id info) →
      (rest.foldl (resolveComponent registry) p).resolved = 0 ∧
        ∀ ns ∈ (rest.foldl (resolveComponent registry) p).needed, ns ∈ needed := by
    intro rest
    induction rest with
    | nil => exact fun p _ zero among _ => ⟨zero, among⟩
    | cons id rest ih =>
      intro p listed zero among stuck
      obtain ⟨info, here⟩ := stuck id (listed id List.mem_cons_self)
      have attempt := attempt_resolveComponent registry p id
      obtain ⟨sameCount, stillAmong⟩ := attempt.of_isStuck among here
      refine ih _ (fun other ho => listed other (List.mem_cons_of_mem _ ho)) (sameCount.trans zero)
        stillAmong fun other ho => ?_
      by_cases eq : other = id
      · subst eq
        rcases attempt.outcome here.isUnbound.1 with ⟨-, more⟩ | ⟨⟨found, again⟩, -⟩
        · omega
        · exact ⟨found, again.mono rfl rfl stillAmong⟩
      · obtain ⟨found, before⟩ := stuck other ho
        exact ⟨found, before.mono (attempt.others eq).1 (attempt.others eq).2 fun _ h => h⟩
  exact folded todo ⟨a, 0, []⟩ (fun _ h => h) rfl (List.forall_mem_nil _) h

/-! ## Giving up -/

/-- That a component has something unbound is an error that has been reported, or is going to be. -/
def IsDue (id : ComponentId) (a : Assembly) : Prop :=
  a.errors ≠ [] ∨ IsUnbound a.arena id

/-- What giving a component up comes to: it fails if it is open, and what it mentions without a
target is reported. -/
inductive GivenUp (a : Assembly) (failed : List Namespace) (id : ComponentId) : Assembly → Prop
  | idle : ¬ IsOpen a.arena id → GivenUp a failed id a
  | fail : IsOpen a.arena id → GivenUp a failed id
      { a with
        arena := a.arena.setState .failed id
        errors := a.errors ++ unresolved a failed id }

theorem givenUp_giveUp (a : Assembly) (failed : List Namespace) (id : ComponentId) :
    GivenUp a failed id ((giveUp failed id).run a).2 := by
  cases hs : (a.arena.info? id).bind (·.state.fail) with
  | none =>
    have run : ((giveUp failed id).run a).2 = a := by
      rw [giveUp, StateT.run_modify]
      simp only [hs]
      rfl
    rw [run]
    refine .idle ?_
    rintro ⟨info, hi, open'⟩
    rw [hi, Option.bind_some, open'] at hs
    cases hs
  | some state =>
    obtain ⟨info, hi, hf⟩ := Option.bind_eq_some_iff.mp hs
    obtain ⟨open', rfl⟩ := ResolutionState.step_eq_some_iff.mp hf
    have run : ((giveUp failed id).run a).2 =
        { a with
          arena := a.arena.setState .failed id
          errors := a.errors ++ unresolved a failed id } := by
      rw [giveUp, StateT.run_modify]
      simp only [hs]
      rfl
    rw [run]
    exact .fail ⟨info, hi, open'⟩

theorem unresolved_ne_nil {a : Assembly} {id : ComponentId} (failed : List Namespace)
    (h : IsUnbound a.arena id) : unresolved a failed id ≠ [] := by
  obtain ⟨⟨info, hi, -⟩, m, hm, unbound⟩ := h
  have listed : ∃ r ∈ a.arena.references id, ¬ r.isBound := by
    by_contra all
    push Not at all
    rw [Arena.references_eq] at all
    have := Mention.isSome_target all hm
    rw [unbound] at this
    cases this
  obtain ⟨r, hr, open'⟩ := listed
  rw [unresolved, hi]
  refine List.ne_nil_of_mem (List.mem_map.mpr ⟨r, ?_, rfl⟩)
  exact List.mem_filter.mpr ⟨hr, by simpa using open'⟩

theorem giveUp_spec {a : Assembly} {id : ComponentId} (due : IsDue id a) (failed : List Namespace)
    (other : ComponentId) :
    IsDue id ((giveUp failed other).run a).2 ∧
      (other = id → ((giveUp failed other).run a).2.errors ≠ []) := by
  have given := givenUp_giveUp a failed other
  generalize ((giveUp failed other).run a).2 = b at given
  cases given with
  | idle closed =>
    refine ⟨due, ?_⟩
    rintro rfl
    rcases due with reported | unbound
    · exact reported
    · exact absurd unbound.1 closed
  | fail open' =>
    rcases due with reported | unbound
    · have reported : a.errors ++ unresolved a failed other ≠ [] :=
        List.append_ne_nil_of_left_ne_nil reported _
      exact ⟨Or.inl reported, fun _ => reported⟩
    · by_cases same : other = id
      · subst same
        have reported : a.errors ++ unresolved a failed other ≠ [] :=
          List.append_ne_nil_of_right_ne_nil _ (unresolved_ne_nil failed unbound)
        exact ⟨Or.inl reported, fun _ => reported⟩
      · obtain ⟨⟨info, hi, open'⟩, m, hm, none⟩ := unbound
        refine ⟨Or.inr ⟨⟨info, ?_, open'⟩, m, ?_, none⟩, fun eq => absurd eq same⟩
        · exact (Arena.info?_setState ..).trans ((if_neg (Ne.symm same)).trans hi)
        · exact (Arena.mentions_setState ..).symm ▸ hm

theorem errors_of_giveUp {a : Assembly} {id : ComponentId} (failed : List Namespace)
    {todo : List ComponentId} (hid : id ∈ todo) (due : IsDue id a) :
    ((todo.forM (giveUp failed)).run a).2.errors ≠ [] := by
  have reported : ∀ (rest : List ComponentId) (b : Assembly), b.errors ≠ [] →
      ((rest.forM (giveUp failed)).run b).2.errors ≠ [] := by
    intro rest
    refine Keeps.forM (P := fun b : Assembly => b.errors ≠ []) fun other b hb => ?_
    exact (giveUp_spec (Or.inl hb) failed other).2 rfl
  induction todo generalizing a with
  | nil => exact absurd hid List.not_mem_nil
  | cons other todo ih =>
    have step := giveUp_spec due failed other
    by_cases same : other = id
    · exact reported todo _ (step.2 same)
    · exact ih ((List.mem_cons.mp hid).resolve_left (Ne.symm same)) step.1

/-! ## Imports -/

/-- What imports come to that start from the assembly `base` and have got to `b`: if nothing has gone
wrong in the end, the namespaces have been loaded, and the components are not too many. -/
structure Imported (limits : Limits) (base b : Assembly) (namespaces : List Namespace)
    (imports : Imports) : Prop where
  grows : base.Grows b
  follows : base.Follows b
  failed : imports.failed ≠ [] → b.errors ≠ []
  loaded : b.errors = [] → ∀ ns ∈ namespaces, b.registry.isLoaded ns
  size : b.errors = [] → b.arena.size ≤ max limits.schemaComponents base.arena.size

theorem Imported.tryImport {supply : Schema.Supply} {base b : Assembly}
    {namespaces : List Namespace} {imports : Imports}
    (general : base.arena.Has (.type .anyType))
    (h : Imported supply.limits base b namespaces imports) (ns : Namespace) :
    Imported supply.limits base ((tryImport supply imports ns).run b).2 (namespaces ++ [ns])
      ((tryImport supply imports ns).run b).1 := by
  change Imported supply.limits base ((if imports.failed.contains ns || b.registry.isLoaded ns
    then _ else _ : StateM Assembly Imports).run b).2 _ ((if _ then _ else _ :
      StateM Assembly Imports).run b).1
  split
  · rename_i known
    refine ⟨h.grows, h.follows, h.failed, fun none m hm => ?_, h.size⟩
    rcases List.mem_append.mp hm with hm | hm
    · exact h.loaded none m hm
    · cases List.mem_singleton.mp hm
      rcases (Bool.or_eq_true_iff ..).mp known with tried | loaded
      · refine absurd none (h.failed ?_)
        exact List.ne_nil_of_mem (List.elem_iff.mp tried)
      · exact loaded
  · have import' := builds_importNamespace (stable_follows base) general h.grows supply ns h.follows
    rw [StateT.run_bind]
    generalize ((importNamespace supply ns).run).run b = outcome at import'
    obtain ⟨r, c⟩ := outcome
    obtain ⟨follows, grows, result⟩ := import'
    cases r with
    | ok v =>
      obtain ⟨loaded, small⟩ := result v rfl
      refine ⟨h.grows.trans grows, follows, ?_, ?_, ?_⟩
      · intro any none
        exact h.failed any (grows.errors_eq_nil none)
      · intro none m hm
        rcases List.mem_append.mp hm with hm | hm
        · exact grows.loaded (h.loaded (grows.errors_eq_nil none) m hm)
        · cases List.mem_singleton.mp hm
          exact loaded
      · intro none
        have before := h.size (grows.errors_eq_nil none)
        change c.arena.size ≤ _
        dsimp only at small
        omega
    | error e =>
      have wrong : c.errors ++ [e] ≠ [] := by simp
      refine ⟨(h.grows.trans grows).trans (.note c e), (stable_follows base).note e follows,
        fun _ => wrong, fun none => absurd none wrong, fun none => absurd none wrong⟩

theorem imported_foldlM (supply : Schema.Supply) {base : Assembly} {failed : List Namespace}
    (general : base.arena.Has (.type .anyType)) (due : failed ≠ [] → base.errors ≠ [])
    (namespaces : List Namespace) :
    Imported supply.limits base ((namespaces.foldlM (tryImport supply) ⟨failed, 0⟩).run base).2
      namespaces ((namespaces.foldlM (tryImport supply) ⟨failed, 0⟩).run base).1 := by
  have folded : ∀ (rest done : List Namespace) (imports : Imports) (b : Assembly),
      Imported supply.limits base b done imports →
      Imported supply.limits base ((rest.foldlM (tryImport supply) imports).run b).2 (done ++ rest)
        ((rest.foldlM (tryImport supply) imports).run b).1 := by
    intro rest
    induction rest with
    | nil =>
      intro done imports b h
      rwa [List.append_nil]
    | cons ns rest ih =>
      intro done imports b h
      have := ih (done ++ [ns]) _ _ (h.tryImport general ns)
      rwa [List.append_assoc] at this
  exact folded namespaces [] ⟨failed, 0⟩ base
    ⟨.refl _, .refl _, due, fun _ _ hm => absurd hm List.not_mem_nil, fun _ => le_max_right _ _⟩

/-! ## All passes -/

section Passes

variable {supply : Schema.Supply} {failed : List Namespace} {a : Assembly}

/-- The pass with which the resolution of an assembly begins. -/
def nextPass (a : Assembly) : Pass := pass a.registry a.arena (pending a.arena)

/-- Where no component is open, no pass is made. -/
theorem passes_idle (supply : Schema.Supply) (fuel : Nat) (failed : List Namespace)
    (report : ResolutionReport) (none : pending a.arena = []) :
    (passes supply (fuel + 1) failed report).run a = (report, a) := by
  change (if (pending a.arena).isEmpty then _ else _ : StateM Assembly ResolutionReport).run a = _
  rw [if_pos (by simp [none])]
  rfl

/-- A pass is the last one, after which the components that it has looked at are given up, or there
is another one after the imports. -/
theorem passes_step (supply : Schema.Supply) (failed : List Namespace)
    (report : ResolutionReport) (any : pending a.arena ≠ []) :
    ∃ imports b report', report'.passes = report.passes + 1 ∧
      ((nextPass a).needed.foldlM (tryImport supply) ⟨failed, 0⟩).run
        { a with arena := (nextPass a).arena } = (imports, b) ∧
      ∀ fuel, if (nextPass a).resolved = 0 ∧ imports.loaded = 0 then
        (passes supply (fuel + 1) failed report).run a =
          (report', (((pending a.arena).forM (giveUp imports.failed)).run b).2)
      else (passes supply (fuel + 1) failed report).run a =
        (passes supply fuel imports.failed report').run b := by
  rcases hrun : ((nextPass a).needed.foldlM (tryImport supply) ⟨failed, 0⟩).run
    { a with arena := (nextPass a).arena } with ⟨imports, b⟩
  refine ⟨imports, b, ⟨report.passes + 1, report.resolved + (nextPass a).resolved,
    report.importsLoaded + imports.loaded⟩, rfl, rfl, fun fuel => ?_⟩
  have unfolded : (passes supply (fuel + 1) failed report).run a =
      (if (nextPass a).resolved = 0 && imports.loaded = 0 then do
          (pending a.arena).forM (giveUp imports.failed)
          return ⟨report.passes + 1, report.resolved + (nextPass a).resolved,
            report.importsLoaded + imports.loaded⟩
        else passes supply fuel imports.failed ⟨report.passes + 1,
          report.resolved + (nextPass a).resolved, report.importsLoaded + imports.loaded⟩ :
          StateM Assembly ResolutionReport).run b := by
    have some : ¬ (pending a.arena).isEmpty := by simpa using any
    rw [passes_succ]
    change (if (pending a.arena).isEmpty then _ else _ : StateM Assembly ResolutionReport).run a = _
    unfold nextPass at hrun ⊢
    rw [if_neg some, StateT.run_bind, StateT.run_set, pure_bind, StateT.run_bind, hrun]
    rfl
  rw [unfolded]
  by_cases last : (nextPass a).resolved = 0 ∧ imports.loaded = 0
  · rw [if_pos last, if_pos (by simpa using last)]
    rfl
  · rw [if_neg last, if_neg (by simpa using last)]

theorem passed_nextPass (a : Assembly) :
    Passed a.registry a.arena (pending a.arena) (nextPass a) :=
  passed_pass _ _ _

theorem coherent_nextPass (h : a.Coherent) : Assembly.Coherent { a with arena := (nextPass a).arena } :=
  keeps_pass lasting_coherent.attempt _ h

theorem coherent_imports (supply : Schema.Supply) (h : a.Coherent) (imports : Imports)
    (namespaces : List Namespace) :
    ((namespaces.foldlM (tryImport supply) imports).run a).2.Coherent :=
  Keeps.foldlM (lasting_coherent.preserving supply).tryImport a h

/-- What has not been resolved in a pass without effect is stuck. -/
theorem isStuck_nextPass (zero : (nextPass a).resolved = 0) {id : ComponentId}
    (open' : IsOpen a.arena id) :
    ∃ info, IsStuck a.registry (nextPass a).needed (nextPass a).arena id info :=
  ((passed_nextPass a).outcome id (mem_pending_iff.mpr open') open').resolve_left
    fun closed => closed ((passed_nextPass a).unchanged zero id open')

/-- What is wrong before a pass is wrong afterwards. -/
theorem errors_of_passes (h : a.Coherent) (wrong : a.errors ≠ []) (fuel : Nat)
    (failed : List Namespace) (report : ResolutionReport) :
    ((passes supply fuel failed report).run a).2.errors ≠ [] := by
  induction fuel generalizing a failed report with
  | zero => exact wrong
  | succ fuel ih =>
    by_cases any : pending a.arena = []
    · rw [passes_idle supply fuel failed report any]
      exact wrong
    · obtain ⟨imports, b, report', -, hrun, step⟩ := passes_step supply failed report any
      have last := step fuel
      have due : failed ≠ [] → a.errors ≠ [] := fun _ => wrong
      have imported :=
        imported_foldlM supply (coherent_nextPass h).general due (nextPass a).needed
      have coherent := coherent_imports supply (coherent_nextPass h) ⟨failed, 0⟩ (nextPass a).needed
      rw [hrun] at imported coherent
      have wrong : b.errors ≠ [] := fun none => wrong (imported.grows.errors_eq_nil none)
      split at last
      · rw [last]
        obtain ⟨id, hid⟩ := List.exists_mem_of_ne_nil _ any
        exact errors_of_giveUp _ hid (Or.inl wrong)
      · rw [last]
        exact ih coherent wrong _ _

/-- If nothing can be done, the components that are open are given up. -/
theorem errors_of_isStuck (any : pending a.arena ≠ [])
    (stuck : ∀ id ∈ pending a.arena, ∃ info, IsStuck a.registry [] a.arena id info) (fuel : Nat)
    (failed : List Namespace) (report : ResolutionReport) :
    ((passes supply (fuel + 1) failed report).run a).2.errors ≠ [] := by
  obtain ⟨zero, among⟩ := pass_of_isStuck stuck
  have none := List.eq_nil_iff_forall_not_mem.mpr fun ns hns => List.not_mem_nil (among ns hns)
  obtain ⟨imports, b, report', -, hrun, step⟩ := passes_step supply failed report any
  have last := step fuel
  rw [nextPass, none] at hrun
  cases hrun
  rw [if_pos ⟨zero, rfl⟩] at last
  rw [last]
  obtain ⟨id, hid⟩ := List.exists_mem_of_ne_nil _ any
  obtain ⟨info, again⟩ := isStuck_nextPass zero (mem_pending_iff.mp hid)
  exact errors_of_giveUp _ hid (Or.inr again.isUnbound)

/-- No component has been given up. -/
def Unfailed (a : Arena) : Prop :=
  ∀ {id info}, a.info? id = some info → info.state ≠ .failed

theorem Settles.unfailed {a b : Arena} (h : Settles a b) (unfailed : Unfailed a) : Unfailed b := by
  intro id info hi
  rcases h.info hi with old | ⟨_, _, _, rfl⟩
  · exact unfailed old
  · nofun

theorem unfailed_of_follows {base b : Assembly} (h : base.Follows b)
    (unfailed : Unfailed base.arena) : Unfailed b.arena := by
  intro id info hi
  by_cases old : base.arena.Has id
  · exact unfailed ((h.arena.same old).1 ▸ hi)
  · rw [h.fresh hi old]
    decide

/-- The components that are not up for resolving. -/
def closedIds (a : Arena) : Finset ComponentId :=
  a.componentIds.toFinset.filter fun id => id ∉ pending a

theorem mem_closedIds_iff {a : Arena} {id : ComponentId} :
    id ∈ closedIds a ↔ a.Has id ∧ ¬ IsOpen a id := by
  rw [closedIds, Finset.mem_filter, List.mem_toFinset, Arena.mem_componentIds_iff, mem_pending_iff]

theorem card_closedIds_le (a : Arena) : (closedIds a).card ≤ a.size := by
  refine (Finset.card_filter_le _ _).trans ((List.toFinset_card_le _).trans (le_of_eq ?_))
  simp only [Arena.componentIds, Arena.typeIds, Arena.elementIds, Arena.attributeIds,
    Arena.groupIds, Arena.attributeGroupIds, Arena.size, List.length_append, List.length_map,
    List.length_range]

theorem Settles.closedIds_subset {a b : Arena} (h : Settles a b) : closedIds a ⊆ closedIds b := by
  intro id hid
  obtain ⟨has, closed⟩ := mem_closedIds_iff.mp hid
  exact mem_closedIds_iff.mpr ⟨h.has.mpr has, fun again => closed (h.isOpen again)⟩

theorem closedIds_subset_of_grows {a b : Arena} (h : a.Grows b) : closedIds a ⊆ closedIds b := by
  intro id hid
  obtain ⟨has, closed⟩ := mem_closedIds_iff.mp hid
  refine mem_closedIds_iff.mpr ⟨h.has has, fun again => closed ?_⟩
  rwa [IsOpen, ← (h.same has).1]

/-- A pass by which a component is resolved. -/
theorem card_closedIds_lt (some : (nextPass a).resolved ≠ 0) :
    (closedIds a.arena).card < (closedIds (nextPass a).arena).card := by
  have passed := passed_nextPass a
  obtain ⟨id, open', closed⟩ := passed.changed some
  refine Finset.card_lt_card ⟨passed.settles.closedIds_subset, fun back => ?_⟩
  have has : a.arena.Has id := Arena.has_iff.mpr ⟨_, open'.choose_spec.1⟩
  have := back (mem_closedIds_iff.mpr ⟨passed.settles.has.mpr has, closed⟩)
  exact (mem_closedIds_iff.mp this).2 open'

/-- If a pass and the imports that follow it resolve no component and add none, the next pass is the
last one. -/
theorem errors_of_idle {b : Assembly} {imports : Imports} (h : a.Coherent)
    (any : pending a.arena ≠ []) (zero : (nextPass a).resolved = 0)
    (imported : Imported supply.limits { a with arena := (nextPass a).arena } b (nextPass a).needed
      imports) (none : b.errors = []) (same : b.arena.size = (nextPass a).arena.size) (fuel : Nat)
    (failed : List Namespace) (report : ResolutionReport) :
    ((passes supply (fuel + 1) failed report).run b).2.errors ≠ [] := by
  have sameArena : b.arena = (nextPass a).arena := imported.grows.arena.eq_of_size same
  have passed := passed_nextPass a
  have names : ∀ name category, b.registry.get? name category = a.registry.get? name category := by
    intro name category
    rw [Registry.get?, Registry.get?, imported.follows.names same]
  refine errors_of_isStuck ?_ (fun id hid => ?_) fuel failed report
  · obtain ⟨id, hid⟩ := List.exists_mem_of_ne_nil _ any
    refine List.ne_nil_of_mem (a := id) (mem_pending_iff.mpr ?_)
    rw [sameArena]
    exact passed.unchanged zero id (mem_pending_iff.mp hid)
  · rw [sameArena] at hid ⊢
    have open' := passed.settles.isOpen (mem_pending_iff.mp hid)
    obtain ⟨info, stuck⟩ := isStuck_nextPass zero open'
    have known := (coherent_nextPass h).placed stuck.found
    exact ⟨info, stuck.exhausted
      (imported.follows.isVisible_eq (coherent_nextPass h) known) names (imported.loaded none)
      fun ns => imported.grows.loaded⟩

/-- As many passes are granted as can be needed: in the end all components are resolved, unless
something is wrong. By induction on their number; what is left of it covers the components that are
not resolved, or not there, as yet. -/
theorem pending_of_passes (limit : Nat) {fuel : Nat} (limited : supply.limits.schemaComponents ≤ limit)
    (h : a.Coherent) (unfailed : Unfailed a.arena) {failed : List Namespace}
    (due : failed ≠ [] → a.errors ≠ []) (small : a.arena.size ≤ limit)
    (enough : 2 * limit + 2 ≤ fuel + (closedIds a.arena).card + a.arena.size)
    (report : ResolutionReport)
    (none : ((passes supply fuel failed report).run a).2.errors = []) :
    pending ((passes supply fuel failed report).run a).2.arena = [] ∧
      Unfailed ((passes supply fuel failed report).run a).2.arena := by
  induction fuel generalizing a failed report with
  | zero =>
    have := card_closedIds_le a.arena
    omega
  | succ fuel ih =>
    by_cases any : pending a.arena = []
    · rw [passes_idle supply fuel failed report any]
      exact ⟨any, unfailed⟩
    · obtain ⟨imports, b, report', -, hrun, step⟩ := passes_step supply failed report any
      have last := step fuel
      have coherent := coherent_nextPass h
      have imported := imported_foldlM supply coherent.general due (nextPass a).needed
      have kept := coherent_imports supply coherent ⟨failed, 0⟩ (nextPass a).needed
      rw [hrun] at imported kept
      have passed := passed_nextPass a
      split at last
      · rename_i zero
        rw [last] at none
        obtain ⟨id, hid⟩ := List.exists_mem_of_ne_nil _ any
        obtain ⟨info, stuck⟩ := isStuck_nextPass zero.1 (mem_pending_iff.mp hid)
        have unbound : IsUnbound b.arena id := by
          have same := imported.grows.arena.same (Arena.has_iff.mpr ⟨_, stuck.found⟩)
          have := stuck.isUnbound
          rwa [IsUnbound, IsOpen, ← same.1, ← same.2] at this
        exact absurd none (errors_of_giveUp _ hid (Or.inr unbound))
      · rw [last] at none ⊢
        have clean : b.errors = [] := by
          by_contra wrong
          exact errors_of_passes kept wrong _ _ _ none
        have sizes : a.arena.size = (nextPass a).arena.size := passed.settles.size.symm
        have lower : (nextPass a).arena.size ≤ b.arena.size := imported.grows.arena.le
        have upper : b.arena.size ≤ max supply.limits.schemaComponents (nextPass a).arena.size :=
          imported.size clean
        have kept' : (closedIds a.arena).card ≤ (closedIds (nextPass a).arena).card :=
          Finset.card_le_card passed.settles.closedIds_subset
        have added : (closedIds (nextPass a).arena).card ≤ (closedIds b.arena).card :=
          Finset.card_le_card (closedIds_subset_of_grows imported.grows.arena)
        have progress : (closedIds a.arena).card + a.arena.size <
            (closedIds b.arena).card + b.arena.size := by
          by_cases some : (nextPass a).resolved = 0
          · by_contra stagnant
            have same : b.arena.size = (nextPass a).arena.size := by omega
            cases fuel with
            | zero =>
              have := card_closedIds_le a.arena
              omega
            | succ fuel => exact errors_of_idle h any some imported clean same fuel _ _ none
          · have := card_closedIds_lt some
            omega
        have small : b.arena.size ≤ limit := by omega
        have enough : 2 * limit + 2 ≤ fuel + (closedIds b.arena).card + b.arena.size := by omega
        exact ih kept (unfailed_of_follows imported.follows (passed.settles.unfailed unfailed))
          imported.failed small enough report' none

end Passes

end Resolution

/-! ## Assemblies without open references -/

/-- All components are resolved. -/
def Assembly.Resolved (a : Assembly) : Prop :=
  ∀ {id info}, a.arena.info? id = some info → info.state = .resolved

/-- The resolution is as many passes as can be needed. -/
theorem Resolution.exists_passes (supply : Schema.Supply) (a : Assembly) :
    ∃ fuel, 2 * (supply.limits.schemaComponents + a.arena.size) + 2 ≤ fuel ∧
      (resolve supply).run a = (passes supply fuel [] ⟨0, 0, 0⟩).run a := by
  refine ⟨(supply.retriever.map (·.size)).getD 0 +
    2 * (supply.limits.schemaComponents + a.arena.size) + 3, by omega, ?_⟩
  rw [resolve, StateT.run_bind]
  rfl

/-- If nothing is wrong after the resolution, all components are resolved. -/
theorem Resolution.resolved_of_resolve (supply : Schema.Supply) {a : Assembly} (h : a.Coherent)
    (unfailed : Unfailed a.arena) (none : ((resolve supply).run a).2.errors = []) :
    Assembly.Resolved ((resolve supply).run a).2 := by
  have coherent := keeps_resolve lasting_coherent supply a h
  obtain ⟨fuel, enough, run⟩ := exists_passes supply a
  rw [run] at none coherent ⊢
  have ended := pending_of_passes (supply.limits.schemaComponents + a.arena.size)
    (Nat.le_add_right _ _) h unfailed (fun any => absurd rfl any) (Nat.le_add_left _ _) (by omega) _
    none
  intro id info hi
  have settled := coherent.settled hi
  have kept := ended.2 hi
  cases state : info.state with
  | unresolved =>
    have open' := mem_pending_iff.mpr ⟨info, hi, state⟩
    exact absurd open' (ended.1 ▸ List.not_mem_nil)
  | resolving => exact absurd state settled
  | resolved => rfl
  | failed => exact absurd state kept

namespace Model

theorem unfailed_initial : Resolution.Unfailed Assembly.initial.arena := by
  intro id info hi
  rcases id with i | i | i | i | i
  · obtain ⟨t, ht, rfl⟩ := Option.map_eq_some_iff.mp hi
    rw [Arena.initial_state ht]
    decide
  all_goals cases hi

/-- Reading documents gives no component up. -/
theorem keeps_build_unfailed (supply : Schema.Supply) (documents : List Document) :
    Keeps (fun a => a.Coherent ∧ Resolution.Unfailed a.arena) (build supply documents) := by
  refine .mapM fun document a ⟨coherent, unfailed⟩ => ⟨?_, ?_⟩
  · exact (Schema.builds_readAt (stable_coherent a) coherent.general (.refl a) 0 document coherent).1
  · refine Resolution.unfailed_of_follows ?_ unfailed
    exact (Schema.builds_readAt (stable_follows a) coherent.general (.refl a) 0 document
      (.refl a)).1

theorem resolved_of_assembled {supply : Schema.Supply} {documents : List Document}
    {report : ResolutionReport} {a : Assembly} (h : assembled supply documents = .ok (report, a)) :
    a.Resolved := by
  obtain ⟨results, b, hb, ha, clean⟩ := assembled_eq_ok h
  have built := keeps_build_unfailed supply documents .initial ⟨coherent_initial, unfailed_initial⟩
  rw [hb] at built
  have resolved := Resolution.resolved_of_resolve supply built.1 built.2
  rw [ha] at resolved
  intro id info hi
  exact resolved clean hi

end Model

end Xsd
