import Xsd.Proofs.Schema.Mentions
import Xsd.Schema.Assembly

/-!
# How an assembly grows

Components and documents are added one after the other. What is there stays under its number.
-/

namespace Xsd

namespace Arena

/-- What a component mentions. -/
def mentions (a : Arena) : ComponentId → List Mention
  | .type id => ((a.type? id).map (·.mentions)).getD []
  | .element id => ((a.element? id).map (·.mentions)).getD []
  | .attribute id => ((a.attribute? id).map (·.mentions)).getD []
  | .group id => ((a.group? id).map (·.group.mentions)).getD []
  | .attributeGroup id => ((a.attributeGroup? id).map (·.attributes.mentions)).getD []

/-- There is a component of the number. -/
def Has (a : Arena) : ComponentId → Prop
  | .type id => id.index < a.types.size
  | .element id => id.index < a.elements.size
  | .attribute id => id.index < a.attributes.size
  | .group id => id.index < a.groups.size
  | .attributeGroup id => id.index < a.attributeGroups.size

/-- All that is mentioned, as far as it has a target, is there. -/
def Holds (a : Arena) (ms : List Mention) : Prop :=
  ∀ m ∈ ms, ∀ id, m.target = some id → a.Has id

/-- All that is mentioned has been added before or is to be found by its name. Of the names only that
of the most general type has a target from the start. -/
def Offers (a : Arena) (ms : List Mention) : Prop :=
  ∀ m ∈ ms, (∀ id, m.target = some id → a.Has id) ∧
    ∀ r, m = .named r → r.isBound → m = TypeUse.anyType.mention

variable {a b c : Arena} {id other : ComponentId} {ms ns : List Mention}

theorem references_eq (a : Arena) (id : ComponentId) :
    a.references id = Mention.references (a.mentions id) := by
  rcases id with id | id | id | id | id
  · rw [references, mentions]
    cases a.type? id with
    | none => rfl
    | some t => exact t.references_eq
  · rw [references, mentions]
    cases a.element? id with
    | none => rfl
    | some e => exact e.references_eq
  · rw [references, mentions]
    cases a.attribute? id with
    | none => rfl
    | some d => exact d.references_eq
  · rw [references, mentions]
    cases a.group? id with
    | none => rfl
    | some g => exact Particle.allReferences_eq g.group.particles
  · rw [references, mentions]
    cases a.attributeGroup? id with
    | none => rfl
    | some g => exact g.attributes.references_eq

theorem has_iff : a.Has id ↔ ∃ info, a.info? id = some info := by
  cases id <;>
    simp [Has, info?, type?, element?, attribute?, group?, attributeGroup?, Array.getElem?_eq_some_iff]

theorem mem_componentIds_iff : id ∈ a.componentIds ↔ a.Has id := by
  rcases id with ⟨⟨i⟩⟩ | ⟨⟨i⟩⟩ | ⟨⟨i⟩⟩ | ⟨⟨i⟩⟩ | ⟨⟨i⟩⟩ <;>
    simp [componentIds, typeIds, elementIds, attributeIds, groupIds, attributeGroupIds, Has]

theorem mem_typeIds_iff {id : TypeId} : id ∈ a.typeIds ↔ (a.type? id).isSome := by
  obtain ⟨i⟩ := id
  simp [typeIds, type?]

theorem mem_elementIds_iff {id : ElementId} : id ∈ a.elementIds ↔ (a.element? id).isSome := by
  obtain ⟨i⟩ := id
  simp [elementIds, element?]

theorem mem_groupIds_iff {id : GroupId} : id ∈ a.groupIds ↔ (a.group? id).isSome := by
  obtain ⟨i⟩ := id
  simp [groupIds, group?]

theorem mem_attributeGroupIds_iff {id : AttributeGroupId} :
    id ∈ a.attributeGroupIds ↔ (a.attributeGroup? id).isSome := by
  obtain ⟨i⟩ := id
  simp [attributeGroupIds, attributeGroup?]

/-- Only components that are there mention anything. -/
theorem has_of_mem_mentions {m : Mention} (h : m ∈ a.mentions id) : a.Has id := by
  rw [has_iff]
  by_contra missing
  have absent : a.info? id = none :=
    Option.eq_none_iff_forall_not_mem.mpr fun info hi => missing ⟨info, hi⟩
  rcases id with id | id | id | id | id <;>
    · rw [info?, Option.map_eq_none_iff] at absent
      rw [mentions, absent] at h
      cases h

/-! ## What is offered -/

theorem offers_nil : a.Offers [] := fun _ h => absurd h List.not_mem_nil

theorem offers_append_iff : a.Offers (ms ++ ns) ↔ a.Offers ms ∧ a.Offers ns :=
  List.forall_mem_append

theorem Offers.append (hm : a.Offers ms) (hn : a.Offers ns) : a.Offers (ms ++ ns) :=
  offers_append_iff.mpr ⟨hm, hn⟩

theorem offers_own (h : a.Has id) : a.Offers [.own id] := by
  intro m hm
  rw [List.mem_singleton.mp hm]
  refine ⟨fun id' ht => Option.some.inj ht ▸ h, ?_⟩
  rintro _ ⟨⟩

/-- Nothing is asked of a name that is not bound. -/
theorem offers_of_target {m : Mention} (h : m.target = none) : a.Offers [m] := by
  intro m' hm
  rw [List.mem_singleton.mp hm]
  refine ⟨fun id ht => ?_, fun r hr bound => ?_⟩
  · rw [h] at ht
    cases ht
  · subst hr
    rw [AnyReference.isBound, show r.target = none from h] at bound
    cases bound

theorem offers_anyType (h : a.Has (.type .anyType)) : a.Offers [TypeUse.anyType.mention] := by
  intro m hm
  rw [List.mem_singleton.mp hm]
  exact ⟨fun id ht => Option.some.inj ht ▸ h, fun _ _ _ => rfl⟩

/-! ## One more component -/

/-- The second arena has a component in addition to those of the first. -/
structure Adds (a b : Arena) (id : ComponentId) (info : ComponentInfo) (ms : List Mention) :
    Prop where
  fresh : a.info? id = none
  info : ∀ other, b.info? other = if other = id then some info else a.info? other
  mentions : ∀ other, b.mentions other = if other = id then ms else a.mentions other

theorem adds_addType (a : Arena) (t : TypeDefinition) :
    a.Adds (a.addType t).2 (.type (a.addType t).1) t.info t.mentions where
  fresh := by simp [info?, type?, addType]
  info := by
    rintro (⟨⟨i⟩⟩ | _ | _ | _ | _)
    case type =>
      by_cases h : i = a.types.size <;> simp [info?, type?, addType, Array.getElem?_push, h]
    all_goals simp [info?, element?, attribute?, group?, attributeGroup?, addType]
  mentions := by
    rintro (⟨⟨i⟩⟩ | _ | _ | _ | _)
    case type =>
      by_cases h : i = a.types.size <;> simp [Arena.mentions, type?, addType, Array.getElem?_push, h]
    all_goals simp [Arena.mentions, element?, attribute?, group?, attributeGroup?, addType]

theorem adds_addElement (a : Arena) (e : ElementDecl) :
    a.Adds (a.addElement e).2 (.element (a.addElement e).1) e.info e.mentions where
  fresh := by simp [info?, element?, addElement]
  info := by
    rintro (_ | ⟨⟨i⟩⟩ | _ | _ | _)
    case element =>
      by_cases h : i = a.elements.size <;> simp [info?, element?, addElement, Array.getElem?_push, h]
    all_goals simp [info?, type?, attribute?, group?, attributeGroup?, addElement]
  mentions := by
    rintro (_ | ⟨⟨i⟩⟩ | _ | _ | _)
    case element =>
      by_cases h : i = a.elements.size <;> simp [Arena.mentions, element?, addElement, Array.getElem?_push, h]
    all_goals simp [Arena.mentions, type?, attribute?, group?, attributeGroup?, addElement]

theorem adds_addAttribute (a : Arena) (d : AttributeDecl) :
    a.Adds (a.addAttribute d).2 (.attribute (a.addAttribute d).1) d.info d.mentions where
  fresh := by simp [info?, attribute?, addAttribute]
  info := by
    rintro (_ | _ | ⟨⟨i⟩⟩ | _ | _)
    case «attribute» =>
      by_cases h : i = a.attributes.size <;> simp [info?, attribute?, addAttribute, Array.getElem?_push, h]
    all_goals simp [info?, type?, element?, group?, attributeGroup?, addAttribute]
  mentions := by
    rintro (_ | _ | ⟨⟨i⟩⟩ | _ | _)
    case «attribute» =>
      by_cases h : i = a.attributes.size <;> simp [Arena.mentions, attribute?, addAttribute, Array.getElem?_push, h]
    all_goals simp [Arena.mentions, type?, element?, group?, attributeGroup?, addAttribute]

theorem adds_addGroup (a : Arena) (g : GroupDef) :
    a.Adds (a.addGroup g).2 (.group (a.addGroup g).1) g.info g.group.mentions where
  fresh := by simp [info?, group?, addGroup]
  info := by
    rintro (_ | _ | _ | ⟨⟨i⟩⟩ | _)
    case group =>
      by_cases h : i = a.groups.size <;> simp [info?, group?, addGroup, Array.getElem?_push, h]
    all_goals simp [info?, type?, element?, attribute?, attributeGroup?, addGroup]
  mentions := by
    rintro (_ | _ | _ | ⟨⟨i⟩⟩ | _)
    case group =>
      by_cases h : i = a.groups.size <;> simp [Arena.mentions, group?, addGroup, Array.getElem?_push, h]
    all_goals simp [Arena.mentions, type?, element?, attribute?, attributeGroup?, addGroup]

theorem adds_addAttributeGroup (a : Arena) (g : AttributeGroupDef) :
    a.Adds (a.addAttributeGroup g).2 (.attributeGroup (a.addAttributeGroup g).1) g.info g.attributes.mentions where
  fresh := by simp [info?, attributeGroup?, addAttributeGroup]
  info := by
    rintro (_ | _ | _ | _ | ⟨⟨i⟩⟩)
    case attributeGroup =>
      by_cases h : i = a.attributeGroups.size <;> simp [info?, attributeGroup?, addAttributeGroup, Array.getElem?_push, h]
    all_goals simp [info?, type?, element?, attribute?, group?, addAttributeGroup]
  mentions := by
    rintro (_ | _ | _ | _ | ⟨⟨i⟩⟩)
    case attributeGroup =>
      by_cases h : i = a.attributeGroups.size <;> simp [Arena.mentions, attributeGroup?, addAttributeGroup, Array.getElem?_push, h]
    all_goals simp [Arena.mentions, type?, element?, attribute?, group?, addAttributeGroup]


theorem Adds.has {info : ComponentInfo} (h : a.Adds b id info ms) : b.Has other ↔ other = id ∨ a.Has other := by
  rw [has_iff, has_iff, h.info]
  split
  · rename_i same
    simp [same]
  · rename_i ne
    simp [ne]

theorem Adds.not_has {info : ComponentInfo} (h : a.Adds b id info ms) : ¬ a.Has id := by
  rw [has_iff, h.fresh]
  rintro ⟨_, ⟨⟩⟩

/-! ## Growth -/

/-- The second arena has the components of the first under the same numbers. -/
structure Grows (a b : Arena) : Prop where
  types : a.types.toList <+: b.types.toList
  elements : a.elements.toList <+: b.elements.toList
  attributes : a.attributes.toList <+: b.attributes.toList
  groups : a.groups.toList <+: b.groups.toList
  attributeGroups : a.attributeGroups.toList <+: b.attributeGroups.toList

namespace Grows

theorem refl (a : Arena) : a.Grows a :=
  ⟨List.prefix_rfl, List.prefix_rfl, List.prefix_rfl, List.prefix_rfl, List.prefix_rfl⟩

theorem trans (h : a.Grows b) (h' : b.Grows c) : a.Grows c :=
  ⟨h.types.trans h'.types, h.elements.trans h'.elements, h.attributes.trans h'.attributes,
    h.groups.trans h'.groups, h.attributeGroups.trans h'.attributeGroups⟩

theorem addType (a : Arena) (t : TypeDefinition) : a.Grows (a.addType t).2 :=
  { refl a with types := by simp [Arena.addType] }

theorem addElement (a : Arena) (e : ElementDecl) : a.Grows (a.addElement e).2 :=
  { refl a with elements := by simp [Arena.addElement] }

theorem addAttribute (a : Arena) (d : AttributeDecl) : a.Grows (a.addAttribute d).2 :=
  { refl a with attributes := by simp [Arena.addAttribute] }

theorem addGroup (a : Arena) (g : GroupDef) : a.Grows (a.addGroup g).2 :=
  { refl a with groups := by simp [Arena.addGroup] }

theorem addAttributeGroup (a : Arena) (g : AttributeGroupDef) :
    a.Grows (a.addAttributeGroup g).2 :=
  { refl a with attributeGroups := by simp [Arena.addAttributeGroup] }

theorem size_le (h : a.Grows b) : a.types.size ≤ b.types.size ∧ a.elements.size ≤ b.elements.size ∧
    a.attributes.size ≤ b.attributes.size ∧ a.groups.size ≤ b.groups.size ∧
    a.attributeGroups.size ≤ b.attributeGroups.size :=
  ⟨h.types.length_le, h.elements.length_le, h.attributes.length_le, h.groups.length_le,
    h.attributeGroups.length_le⟩

theorem le (h : a.Grows b) : a.size ≤ b.size := by
  have := h.size_le
  unfold size
  omega

/-- An arena that has as many components has no others. -/
theorem eq_of_size (h : a.Grows b) (same : b.size = a.size) : b = a := by
  obtain ⟨types, elements, attributes, groups, attributeGroups⟩ := h.size_le
  unfold size at same
  obtain ⟨ts, es, ds, gs, ags⟩ := a
  obtain ⟨ts', es', ds', gs', ags'⟩ := b
  dsimp only at types elements attributes groups attributeGroups same
  have hts := Array.toList_inj.mp (h.types.eq_of_length (by simp; omega))
  have hes := Array.toList_inj.mp (h.elements.eq_of_length (by simp; omega))
  have hds := Array.toList_inj.mp (h.attributes.eq_of_length (by simp; omega))
  have hgs := Array.toList_inj.mp (h.groups.eq_of_length (by simp; omega))
  have hags := Array.toList_inj.mp (h.attributeGroups.eq_of_length (by simp; omega))
  dsimp only at hts hes hds hgs hags
  rw [hts, hes, hds, hgs, hags]

theorem has (h : a.Grows b) (hid : a.Has id) : b.Has id := by
  obtain ⟨types, elements, attributes, groups, attributeGroups⟩ := h.size_le
  cases id <;> simp only [Has] at hid ⊢ <;> omega

theorem offers (h : a.Grows b) (hms : a.Offers ms) : b.Offers ms :=
  fun m hm => ⟨fun id ht => h.has ((hms m hm).1 id ht), (hms m hm).2⟩

private theorem getElem?_of_prefix {α : Type} {xs ys : Array α} {i : Nat} {x : α}
    (h : xs.toList <+: ys.toList) (hx : xs[i]? = some x) : ys[i]? = some x := by
  obtain ⟨rest, hr⟩ := h
  rw [← Array.getElem?_toList] at hx ⊢
  rw [← hr, List.getElem?_append_left (List.getElem?_eq_some_iff.mp hx).1, hx]

/-- A component that is there is left as it is. -/
theorem same (h : a.Grows b) (hid : a.Has id) :
    b.info? id = a.info? id ∧ b.mentions id = a.mentions id := by
  rcases id with id | id | id | id | id
  · have ht := Array.getElem?_eq_getElem hid
    simp only [info?, mentions, Arena.type?, ht, getElem?_of_prefix h.types ht, and_self]
  · have he := Array.getElem?_eq_getElem hid
    simp only [info?, mentions, element?, he, getElem?_of_prefix h.elements he, and_self]
  · have hd := Array.getElem?_eq_getElem hid
    simp only [info?, mentions, attribute?, hd, getElem?_of_prefix h.attributes hd, and_self]
  · have hg := Array.getElem?_eq_getElem hid
    simp only [info?, mentions, group?, hg, getElem?_of_prefix h.groups hg, and_self]
  · have hg := Array.getElem?_eq_getElem hid
    simp only [info?, mentions, attributeGroup?, hg, getElem?_of_prefix h.attributeGroups hg,
      and_self]

end Grows

end Arena

/-! ## The registry -/

/-- The document keeps its place, its namespace and the one that includes it, and imports no less. -/
structure DocumentInfo.Extends (before after : DocumentInfo) : Prop where
  location : after.location = before.location
  target : after.target = before.target
  includedBy : after.includedBy = before.includedBy
  imports : before.imports ⊆ after.imports

theorem DocumentInfo.Extends.refl (info : DocumentInfo) : info.Extends info :=
  ⟨rfl, rfl, rfl, List.Subset.refl _⟩

theorem DocumentInfo.Extends.trans {x y z : DocumentInfo} (h : x.Extends y) (h' : y.Extends z) :
    x.Extends z :=
  ⟨h'.location.trans h.location, h'.target.trans h.target, h'.includedBy.trans h.includedBy,
    List.Subset.trans h.imports h'.imports⟩

/-- Names and documents keep their meaning. -/
structure Registry.Extends (r s : Registry) : Prop where
  names : ∀ {name category id}, r.get? name category = some id → s.get? name category = some id
  size : r.documents.size ≤ s.documents.size
  documents : ∀ {i : Nat} {info : DocumentInfo}, r.documents[i]? = some info →
    ∃ info', s.documents[i]? = some info' ∧ info.Extends info'

namespace Registry

variable {r s t : Registry} {name : QName} {id : ComponentId} {ns : Namespace}

theorem documents_mention : (r.mention ns).documents = r.documents := by
  unfold mention
  split <;> rfl

theorem declarations_mention : (r.mention ns).declarations = r.declarations := by
  unfold mention
  split <;> rfl

theorem documents_addDocument {info : DocumentInfo} :
    (r.addDocument info).2.documents = r.documents.push info := by
  simp [addDocument, documents_mention]

theorem declarations_addDocument {info : DocumentInfo} :
    (r.addDocument info).2.declarations = r.declarations := by
  simp [addDocument, declarations_mention]

theorem id_addDocument {info : DocumentInfo} : (r.addDocument info).1 = ⟨r.documents.size⟩ := by
  simp [addDocument, documents_mention]

/-- Declaring a name adds just that to the names, unless it stands for the component already. -/
theorem declare?_spec (h : r.declare? name id = some s) :
    s.documents = r.documents ∧
      ∀ other category, s.get? other category = r.get? other category ∨
        other = name ∧ category = id.category ∧ s.get? other category = some id := by
  unfold declare? at h
  split at h
  · split at h
    · cases h
      exact ⟨rfl, fun _ _ => Or.inl rfl⟩
    · cases h
  · cases h
    refine ⟨documents_mention, fun other category => ?_⟩
    simp only [get?, declarations_mention, Table.get?_insert]
    split
    · rename_i same
      have := eq_of_beq same
      cases this
      exact Or.inr ⟨rfl, rfl, rfl⟩
    · exact Or.inl rfl

/-- A name that has been declared stands for its component. -/
theorem get?_declare? (h : r.declare? name id = some s) : s.get? name id.category = some id := by
  unfold declare? at h
  split at h
  · rename_i other found
    split at h
    · rename_i same
      cases h
      exact same ▸ found
    · cases h
  · cases h
    simp [get?, Table.get?_insert]

theorem isLoaded_iff : r.isLoaded ns ↔ ∃ (i : Nat) (info : DocumentInfo),
    r.documents[i]? = some info ∧ info.target = ns := by
  rw [isLoaded, Array.any_eq_true]
  constructor
  · rintro ⟨i, bound, same⟩
    exact ⟨i, _, Array.getElem?_eq_getElem bound, eq_of_beq same⟩
  · rintro ⟨i, info, hi, rfl⟩
    obtain ⟨bound, rfl⟩ := Array.getElem?_eq_some_iff.mp hi
    exact ⟨i, bound, BEq.rfl⟩

theorem isLoaded_addDocument (r : Registry) (info : DocumentInfo) :
    (r.addDocument info).2.isLoaded info.target := by
  refine isLoaded_iff.mpr ⟨r.documents.size, info, ?_, rfl⟩
  rw [documents_addDocument, Array.getElem?_push_size]

/-- An import is noted in one document, and nothing else is. -/
theorem documents_addImport (r : Registry) (document : DocumentId) (edge : ImportEdge) :
    ∃ f : DocumentInfo → DocumentInfo,
      (∀ info, (f info).target = info.target ∧ (f info).includedBy = info.includedBy) ∧
        (r.addImport document edge).documents = r.documents.modify document.index f := by
  refine ⟨fun info => if info.imports.any edge.isSame then info
    else { info with imports := info.imports ++ [edge] }, fun info => ?_, rfl⟩
  dsimp only
  split <;> exact ⟨rfl, rfl⟩

/-! ### What stays of it -/

namespace Extends

theorem refl (r : Registry) : r.Extends r :=
  ⟨fun h => h, le_rfl, fun {_ info} hi => ⟨info, hi, .refl info⟩⟩

theorem trans (h : r.Extends s) (h' : s.Extends t) : r.Extends t := by
  refine ⟨fun hn => h'.names (h.names hn), h.size.trans h'.size, fun hi => ?_⟩
  obtain ⟨info', hi', kept⟩ := h.documents hi
  obtain ⟨info'', hi'', kept'⟩ := h'.documents hi'
  exact ⟨info'', hi'', kept.trans kept'⟩

theorem isLoaded (h : r.Extends s) (loaded : r.isLoaded ns) : s.isLoaded ns := by
  obtain ⟨i, info, hi, same⟩ := isLoaded_iff.mp loaded
  obtain ⟨info', hi', kept⟩ := h.documents hi
  exact isLoaded_iff.mpr ⟨i, info', hi', kept.target.trans same⟩

end Extends

theorem extends_of_documents (same : s.documents = r.documents)
    (names : ∀ {name category id}, r.get? name category = some id → s.get? name category = some id) :
    r.Extends s where
  names := names
  size := le_of_eq (by rw [same])
  documents {i info} hi := ⟨info, same ▸ hi, .refl info⟩

theorem extends_addDocument (r : Registry) (info : DocumentInfo) :
    r.Extends (r.addDocument info).2 where
  names h := by
    rwa [get?, declarations_addDocument]
  size := by
    rw [documents_addDocument, Array.size_push]
    exact Nat.le_succ _
  documents {i found} hi := by
    have bound := (Array.getElem?_eq_some_iff.mp hi).1
    refine ⟨found, ?_, .refl found⟩
    rw [documents_addDocument, Array.getElem?_push, if_neg (by omega), hi]

theorem extends_addImport (r : Registry) (document : DocumentId) (edge : ImportEdge) :
    r.Extends (r.addImport document edge) where
  names h := h
  size := by simp [addImport]
  documents {i info} hi := by
    simp only [addImport, Array.getElem?_modify, hi]
    split
    · refine ⟨_, rfl, ?_⟩
      dsimp only
      split
      · exact .refl info
      · exact ⟨rfl, rfl, rfl, List.subset_append_left _ _⟩
    · exact ⟨info, rfl, .refl info⟩

/-- A name is given to a component only if it stands for no other. -/
theorem extends_declare? (h : r.declare? name id = some s) :
    r.Extends s := by
  refine extends_of_documents (declare?_spec h).1 fun {other category found} hf => ?_
  unfold declare? at h
  split at h
  · split at h
    · cases h
      exact hf
    · cases h
  · rename_i free
    cases h
    simp only [get?, declarations_mention, Table.get?_insert]
    split
    · rename_i same
      have := eq_of_beq same
      cases this
      rw [free] at hf
      cases hf
    · exact hf

/-! ### The order of documents -/

/-- Documents are included by earlier ones. -/
def IsOrdered (r : Registry) : Prop :=
  ∀ ⦃i : Nat⦄ ⦃info : DocumentInfo⦄ ⦃d : DocumentId⦄,
    r.documents[i]? = some info → info.includedBy = some d → d.index < i

theorem IsOrdered.addDocument (ordered : r.IsOrdered) {info : DocumentInfo}
    (included : ∀ d, info.includedBy = some d → d.index < r.documents.size) :
    (r.addDocument info).2.IsOrdered := by
  intro i found d hi hd
  simp only [documents_addDocument, Array.getElem?_push] at hi
  split at hi
  · rename_i last
    cases hi
    exact last ▸ included d hd
  · exact ordered hi hd

theorem IsOrdered.addImport (ordered : r.IsOrdered) (document : DocumentId)
    (edge : ImportEdge) : (r.addImport document edge).IsOrdered := by
  obtain ⟨f, hf, documents⟩ := documents_addImport r document edge
  intro i found d hi hd
  simp only [documents, Array.getElem?_modify] at hi
  split at hi
  · obtain ⟨old, ho, rfl⟩ := Option.map_eq_some_iff.mp hi
    exact ordered ho ((hf old).2 ▸ hd)
  · exact ordered hi hd

theorem IsOrdered.of_documents (ordered : r.IsOrdered)
    (same : s.documents = r.documents) : s.IsOrdered :=
  fun _ _ _ hi hd => ordered (same ▸ hi) hd

end Registry

/-! ## Assemblies -/

/-- The second assembly has what the first one has, under the same numbers and names. -/
structure Assembly.Grows (a b : Assembly) : Prop where
  arena : a.arena.Grows b.arena
  registry : a.registry.Extends b.registry
  errors : a.errors <+: b.errors

namespace Assembly.Grows

variable {a b c : Assembly} {ns : Namespace}

theorem refl (a : Assembly) : a.Grows a := ⟨.refl _, .refl _, List.prefix_rfl⟩

theorem trans (h : a.Grows b) (h' : b.Grows c) : a.Grows c :=
  ⟨h.arena.trans h'.arena, h.registry.trans h'.registry, h.errors.trans h'.errors⟩

theorem documents (h : a.Grows b) : a.registry.documents.size ≤ b.registry.documents.size :=
  h.registry.size

theorem loaded (h : a.Grows b) (loaded : a.registry.isLoaded ns) : b.registry.isLoaded ns :=
  h.registry.isLoaded loaded

theorem ofArena {arena : Arena} (h : a.arena.Grows arena) : a.Grows { a with arena := arena } :=
  ⟨h, .refl _, List.prefix_rfl⟩

theorem ofRegistry {registry : Registry} (h : a.registry.Extends registry) :
    a.Grows { a with registry := registry } :=
  ⟨.refl _, h, List.prefix_rfl⟩

theorem note (a : Assembly) (e : Error) : a.Grows { a with errors := a.errors ++ [e] } :=
  ⟨.refl _, .refl _, List.prefix_append _ _⟩

theorem errors_eq_nil (h : a.Grows b) (none : b.errors = []) : a.errors = [] :=
  List.prefix_nil.mp (none ▸ h.errors)

end Assembly.Grows

end Xsd
