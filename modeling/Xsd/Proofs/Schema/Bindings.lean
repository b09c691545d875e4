import Xsd.Proofs.Schema.Passes

/-!
# What references are bound to

A reference is bound to what the registry has under its name, and only if its document sees the
namespace. Names keep their meaning and documents go on seeing what they see, so this holds as long
as documents are read and references are bound.
-/

namespace Xsd

namespace Registry

variable {r s : Registry} {ns : Namespace} {document : DocumentId} {m : Mention}

/-- More documents can be looked through, and those that were there import no less. -/
theorem Extends.importsFrom (h : r.Extends s) {fuel fuel' : Nat} (more : fuel ≤ fuel')
    {id : DocumentId} (found : r.importsFrom ns fuel id = true) :
    s.importsFrom ns fuel' id = true := by
  induction fuel generalizing fuel' id with
  | zero => cases found
  | succ fuel ih =>
    obtain ⟨fuel', rfl⟩ : ∃ n, fuel' = n + 1 := ⟨fuel' - 1, by omega⟩
    rw [Registry.importsFrom, document?] at found ⊢
    cases hi : r.documents[id.index]? with
    | none =>
      rw [hi] at found
      cases found
    | some info =>
      obtain ⟨info', hi', kept⟩ := h.documents hi
      rw [hi] at found
      rw [hi']
      dsimp only at found ⊢
      rw [kept.includedBy]
      rcases Bool.or_eq_true_iff.mp found with own | includer
      · refine Bool.or_eq_true_iff.mpr (Or.inl ?_)
        obtain ⟨edge, he, same⟩ := List.any_eq_true.mp own
        exact List.any_eq_true.mpr ⟨edge, kept.imports he, same⟩
      · refine Bool.or_eq_true_iff.mpr (Or.inr ?_)
        cases hd : info.includedBy with
        | none =>
          rw [hd] at includer
          cases includer
        | some d =>
          rw [hd] at includer
          exact ih (by omega) includer

theorem Extends.isVisible (h : r.Extends s) (found : r.isVisible document ns = true) :
    s.isVisible document ns = true := by
  unfold Registry.isVisible at found ⊢
  simp only [Bool.or_eq_true] at found ⊢
  rcases found with (general | own) | imported
  · exact Or.inl (Or.inl general)
  · refine Or.inl (Or.inr ?_)
    rw [document?] at own ⊢
    cases hi : r.documents[document.index]? with
    | none =>
      rw [hi] at own
      cases own
    | some info =>
      obtain ⟨info', hi', kept⟩ := h.documents hi
      rw [hi] at own
      rw [hi', Option.map_some, kept.target]
      exact own
  · exact Or.inr (h.importsFrom h.size imported)

/-! ## Bound references -/

/-- If a name is bound, it is to what it stands for, and the document sees the namespace. -/
def Backs (r : Registry) (document : DocumentId) (m : Mention) : Prop :=
  ∀ reference target, m = .named reference → reference.target = some target →
    r.get? reference.name reference.category = some target ∧
      r.isVisible document reference.name.ns = true

theorem Backs.mono (h : r.Backs document m) (more : r.Extends s) : s.Backs document m := by
  intro reference target hm ht
  obtain ⟨found, visible⟩ := h reference target hm ht
  exact ⟨more.names found, more.isVisible visible⟩

/-- The namespace of the schema language is visible everywhere. -/
theorem isVisible_xsd (r : Registry) (document : DocumentId) (localName : String) :
    r.isVisible document (QName.xsd localName).ns = true := by
  rw [isVisible, QName.xsd, BEq.rfl, Bool.true_or, Bool.true_or]

/-- What is known from the start is bound from the start. -/
theorem backs_known {localName : String} {id : TypeId}
    (h : r.get? (.xsd localName) .type = some (.type id)) (document : DocumentId) :
    r.Backs document (TypeUse.known localName id).mention := by
  rintro reference target ⟨⟩ ⟨⟩
  exact ⟨h, isVisible_xsd r document localName⟩

end Registry

namespace Resolution

variable {registry : Registry} {document : DocumentId}

/-- Binding keeps the name, and what is bound anew is bound to what the name stands for. -/
theorem bindReference_spec {α : Type} [DecidableEq α] (registry : Registry) (document : DocumentId)
    (category : Category) (ofId : ComponentId → Option α) (r : Reference α) :
    (bindReference registry document category ofId r).name = r.name ∧
      ∀ t, (bindReference registry document category ofId r).target = some t →
        r.target = some t ∨ registry.isVisible document r.name.ns = true ∧
          ∃ id, registry.get? r.name category = some id ∧ ofId id = some t := by
  unfold bindReference
  split
  · exact ⟨rfl, fun t ht => Or.inl ht⟩
  · rename_i candidate
    split
    · rename_i target found
      obtain ⟨unbound, visible⟩ := by simpa using candidate
      have free : r.target = none := by simpa [Reference.isBound] using unbound
      rw [Reference.bind?, free]
      refine ⟨rfl, fun t ht => Or.inr ⟨visible, ?_⟩⟩
      cases ht
      exact Option.bind_eq_some_iff.mp found
    · exact ⟨rfl, fun t ht => Or.inl ht⟩

theorem backs_bindWith {m : Mention} (h : registry.Backs document m) :
    registry.Backs document (m.bindWith (binder registry document)) := by
  have parts : ∀ {β : Type} [DecidableEq β] {category : Category} {ofId : ComponentId → Option β}
      {toId : β → ComponentId} (r : Reference β) {target : ComponentId},
      (∀ {t}, r.target = some t → registry.get? r.name category = some (toId t) ∧
        registry.isVisible document r.name.ns = true) →
      (∀ {i t}, ofId i = some t → toId t = i) →
      (bindReference registry document category ofId r).target.map toId = some target →
        registry.get? (bindReference registry document category ofId r).name category =
            some target ∧
          registry.isVisible document
            (bindReference registry document category ofId r).name.ns = true := by
    intro β _ category ofId toId r target old inverse ht
    obtain ⟨name, bound⟩ := bindReference_spec registry document category ofId r
    rw [name]
    obtain ⟨t, hbound, rfl⟩ := Option.map_eq_some_iff.mp ht
    rcases bound t hbound with before | ⟨visible, i, hi, hit⟩
    · exact old before
    · exact ⟨inverse hit ▸ hi, visible⟩
  cases m with
  | own i => exact h
  | named r =>
    rintro _ target ⟨⟩ ht
    cases r with
    | type r =>
      exact parts r (fun hr => h _ _ rfl (congrArg (Option.map _) hr))
        (fun {i t} h => by cases i <;> cases h; rfl) ht
    | element r =>
      exact parts r (fun hr => h _ _ rfl (congrArg (Option.map _) hr))
        (fun {i t} h => by cases i <;> cases h; rfl) ht
    | «attribute» r =>
      exact parts r (fun hr => h _ _ rfl (congrArg (Option.map _) hr))
        (fun {i t} h => by cases i <;> cases h; rfl) ht
    | group r =>
      exact parts r (fun hr => h _ _ rfl (congrArg (Option.map _) hr))
        (fun {i t} h => by cases i <;> cases h; rfl) ht
    | attributeGroup r =>
      exact parts r (fun hr => h _ _ rfl (congrArg (Option.map _) hr))
        (fun {i t} h => by cases i <;> cases h; rfl) ht

end Resolution

/-! ## Assemblies -/

/-- All bound references of components are bound to what their names stand for. -/
structure Assembly.Backed (a : Assembly) : Prop where
  general : a.arena.Has (.type .anyType)
  known : a.registry.get? (.xsd "anyType") .type = some (.type .anyType)
  backs : ∀ {id info}, a.arena.info? id = some info → ∀ m ∈ a.arena.mentions id,
    a.registry.Backs info.document m

namespace Assembly.Backed

variable {a : Assembly} {arena : Arena} {id : ComponentId} {info : ComponentInfo}
  {ms : List Mention}

theorem withErrors (h : a.Backed) (errors : List Error) : Backed { a with errors := errors } :=
  ⟨h.general, h.known, h.backs⟩

theorem extend (h : a.Backed) {registry : Registry} (more : a.registry.Extends registry) :
    Backed { a with registry := registry } :=
  ⟨h.general, more.names h.known, fun hi m hm => (h.backs hi m hm).mono more⟩

/-- The names that a new component mentions are not bound, but for that of the most general type. -/
theorem adds (h : a.Backed) (adds : a.arena.Adds arena id info ms) (admits : a.Admits info ms) :
    Backed { a with arena := arena } := by
  refine ⟨adds.has.mpr (Or.inr h.general), h.known, fun {other found} ho m hm => ?_⟩
  change arena.info? other = some found at ho
  change m ∈ arena.mentions other at hm
  rw [adds.info] at ho
  rw [adds.mentions] at hm
  split at ho
  · rename_i new
    cases ho
    rw [if_pos new] at hm
    intro reference target same ht
    have bound : reference.isBound := by rw [AnyReference.isBound, ht]; rfl
    have first := (admits.offers m hm).2 reference same bound
    subst first
    exact Registry.backs_known h.known _ reference target same ht
  · rename_i old
    rw [if_neg old] at hm
    exact h.backs ho m hm

theorem bindWith (h : a.Backed) (hi : a.arena.info? id = some info) :
    Backed { a with
      arena := a.arena.bindWith (Resolution.binder a.registry info.document) id } := by
  refine ⟨(Arena.has_bindWith_iff ..).mpr h.general, h.known, fun {other found} ho m hm => ?_⟩
  have before := (Arena.info?_bindWith ..).symm.trans ho
  rw [Arena.mentions_bindWith] at hm
  split at hm
  · rename_i same
    subst same
    cases hi.symm.trans before
    obtain ⟨m', hm', rfl⟩ := List.mem_map.mp hm
    exact Resolution.backs_bindWith (h.backs hi m' hm')
  · exact h.backs before m hm

theorem setState (h : a.Backed) (state : ResolutionState) :
    Backed { a with arena := a.arena.setState state id } := by
  refine ⟨(Arena.has_setState_iff ..).mpr h.general, h.known, fun {other found} ho m hm => ?_⟩
  rw [Arena.mentions_setState] at hm
  rw [Arena.info?_setState] at ho
  split at ho
  · rename_i same
    subst same
    obtain ⟨before, hb, rfl⟩ := Option.map_eq_some_iff.mp ho
    exact h.backs hb m hm
  · exact h.backs ho m hm

end Assembly.Backed

theorem stable_backed (base : Assembly) : Stable base Assembly.Backed where
  note _ h := h.withErrors _
  document info _ h := h.extend (Registry.extends_addDocument _ info)
  importEdge document edge _ h := h.extend (Registry.extends_addImport _ document edge)
  declare _ _ declared h := h.extend (Registry.extends_declare? declared)
  type _ _ admits h := h.adds (Arena.adds_addType _ _) admits
  elementDecl admits h := h.adds (Arena.adds_addElement _ _) admits
  attributeDecl _ admits h := h.adds (Arena.adds_addAttribute _ _) admits
  groupDef admits h := h.adds (Arena.adds_addGroup _ _) admits
  attributeGroupDef admits h := h.adds (Arena.adds_addAttributeGroup _ _) admits

theorem lasting_backed : Resolution.Lasting Assembly.Backed where
  stable := stable_backed
  general h := h.general
  attempt attempt h := by
    cases attempt with
    | idle => exact h
    | complete hi _ bound => exact bound ▸ (h.bindWith hi).setState _
    | release hi _ bound => exact bound ▸ (h.bindWith hi).setState _
  giveUp failed id := by
    refine .modify fun a h => ?_
    split
    · exact h
    · rename_i state _
      have given : Assembly.Backed { a with arena := a.arena.setState state id } := h.setState state
      exact given.withErrors _

theorem backed_initial : Assembly.initial.Backed where
  general := coherent_initial.general
  known := rfl
  backs {id info} hi m hm := by
    rcases id with i | i | i | i | i
    · obtain ⟨t, ht, rfl⟩ := Option.map_eq_some_iff.mp hi
      rw [Arena.mentions, show Assembly.initial.arena.type? i = some t from ht] at hm
      change m ∈ t.mentions at hm
      rcases Arena.initial_cases ht with rfl | rfl | ⟨b, rfl⟩
      · cases hm
      · cases List.mem_singleton.mp hm
        exact Registry.backs_known rfl _
      · cases b <;> cases List.mem_singleton.mp hm <;> exact Registry.backs_known rfl _
    all_goals cases hi

/-! ## The outcome -/

namespace Model

/-- What the documents have been read into, with the errors that were noted in doing so set aside. -/
def readInto (supply : Schema.Supply) (documents : List Document) : Assembly :=
  { ((build supply documents).run .initial).2 with errors := [] }

theorem coherent_readInto (supply : Schema.Supply) (documents : List Document) :
    (readInto supply documents).Coherent :=
  (keeps_build lasting_coherent supply documents .initial coherent_initial).withErrors []

theorem backed_readInto (supply : Schema.Supply) (documents : List Document) :
    (readInto supply documents).Backed :=
  (keeps_build lasting_backed supply documents .initial backed_initial).withErrors []

theorem unfailed_readInto (supply : Schema.Supply) (documents : List Document) :
    Resolution.Unfailed (readInto supply documents).arena :=
  (keeps_build_unfailed supply documents .initial ⟨coherent_initial, unfailed_initial⟩).2

end Model

namespace Resolution

/-- If nothing is wrong after the resolution, all components are resolved, and all references are
bound to what the registry has under their names, in namespaces that can be seen. Whatever is wrong,
no component is left while it is being resolved, and those that are resolved are bound. -/
theorem resolve_binds (supply supply' : Schema.Supply) (documents : List Document) {after : Assembly}
    (h : after = ((resolve supply').run (Model.readInto supply documents)).2) :
    (after.errors = [] → ∀ id info, after.arena.info? id = some info → info.state = .resolved ∧
      ∀ r ∈ after.arena.references id, ∃ target, r.target = some target ∧
        after.registry.get? r.name r.category = some target ∧
        after.registry.isVisible info.document r.name.ns = true) ∧
    ∀ id info, after.arena.info? id = some info → info.state ≠ .resolving ∧
      (info.state = .resolved → ∀ r ∈ after.arena.references id, r.isBound) := by
  have read := Model.coherent_readInto supply documents
  have coherent : after.Coherent := h ▸ keeps_resolve lasting_coherent supply' _ read
  have backed : after.Backed :=
    h ▸ keeps_resolve lasting_backed supply' _ (Model.backed_readInto supply documents)
  have bound : ∀ {id info}, after.arena.info? id = some info → info.state = .resolved →
      ∀ r ∈ after.arena.references id, r.isBound := by
    intro id info hi state r hr
    rw [Arena.references_eq] at hr
    exact Mention.isBound_of_isSome_target (coherent.resolved hi state) hr
  refine ⟨fun none id info hi => ?_, fun id info hi => ⟨coherent.settled hi, bound hi⟩⟩
  have state : info.state = .resolved := by
    subst h
    exact resolved_of_resolve supply' read (Model.unfailed_readInto supply documents) none hi
  refine ⟨state, fun r hr => ?_⟩
  obtain ⟨target, ht⟩ := Option.isSome_iff_exists.mp (bound hi state r hr)
  rw [Arena.references_eq] at hr
  obtain ⟨m, hm, same⟩ := List.mem_filterMap.mp hr
  cases m with
  | own i => cases same
  | named reference =>
    cases same
    exact ⟨target, ht, backed.backs hi _ hm r target rfl ht⟩

/-- A document with a type, and with an element of the type of the next one, which it imports. -/
def link (key : String) (next : Option String) : Document :=
  let node (word : String) (attributes : List (String × String)) (nodes : List Node) : Node :=
    .element ⟨.xsd word, ⟨attributes.map fun (name, value) => (⟨none, name⟩, value)⟩,
      ⟨next.toList.map fun key => ("next", "urn:" ++ key), none⟩, 0⟩ nodes
  let imports := next.toList.flatMap fun key =>
    [node "import" [("namespace", "urn:" ++ key), ("schemaLocation", key)] [],
      node "element" [("name", "e"), ("type", "next:T")] []]
  ⟨.memory key, some ⟨⟨.xsd "schema", ⟨[(⟨none, "targetNamespace"⟩, "urn:" ++ key)]⟩, default, 0⟩,
    imports ++ [node "complexType" [("name", "T")] []]⟩⟩

/-- The second and the third document of a chain, within the limits. -/
def chainSupply (limits : Limits) : Schema.Supply where
  limits := limits
  retriever := some {
    size := 2
    fetch := fun request =>
      if request = .document (.memory "b") then .ok (link "b" (some "c"))
      else if request = .document (.memory "c") then .ok (link "c" none)
      else .error (.source (.notRegistered request.render)) }

/-- What is read before the others are imported. -/
def chained (limits : Limits) : Assembly :=
  Model.readInto (chainSupply limits) [link "a" (some "b")]

/-- Before the second document is imported, the name of the type of the element is not bound.
Afterwards it is, to the type that is declared there. -/
theorem chained_binds : ∃ after,
    after = ((resolve (chainSupply .standard)).run (chained .standard)).2 ∧
    (chained .standard).arena.references (.element ⟨0⟩) =
      [.type ⟨⟨some "urn:b", "T"⟩, none⟩] ∧
    after.errors = [] ∧ ∃ info, after.arena.info? (.element ⟨0⟩) = some info ∧
      info.state = .resolved ∧
      .type ⟨⟨some "urn:b", "T"⟩, some ⟨47⟩⟩ ∈ after.arena.references (.element ⟨0⟩) ∧
      after.registry.get? ⟨some "urn:b", "T"⟩ .type = some (.type ⟨47⟩) ∧
      after.registry.isVisible info.document (some "urn:b") = true := by
  have before : (chained .standard).arena.references (.element ⟨0⟩) =
      [.type ⟨⟨some "urn:b", "T"⟩, none⟩] := by
    decide +kernel
  have resolved : (fun after : Assembly => (after.errors,
      (after.arena.info? (.element ⟨0⟩)).isSome, after.arena.references (.element ⟨0⟩)))
        ((resolve (chainSupply .standard)).run (chained .standard)).2 =
      ([], true, [.type ⟨⟨some "urn:b", "T"⟩, some ⟨47⟩⟩]) := by
    decide +kernel
  generalize run : ((resolve (chainSupply .standard)).run (chained .standard)).2 = after at resolved
  obtain ⟨clean, rest⟩ := Prod.mk.inj resolved
  obtain ⟨known, listed⟩ := Prod.mk.inj rest
  obtain ⟨info, hi⟩ := Option.isSome_iff_exists.mp known
  obtain ⟨state, bound⟩ :=
    (resolve_binds (chainSupply .standard) (chainSupply .standard) [link "a" (some "b")]
      run.symm).1 clean _ info hi
  have mem := listed ▸ List.mem_singleton_self (AnyReference.type ⟨⟨some "urn:b", "T"⟩, _⟩)
  obtain ⟨target, same, declared, visible⟩ := bound _ mem
  cases same
  exact ⟨after, rfl, before, clean, info, hi, state, mem, declared, visible⟩

end Resolution

end Xsd
