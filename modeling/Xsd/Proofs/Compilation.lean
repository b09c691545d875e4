import Xsd.Proofs.Derivation.Circles
import Xsd.Proofs.Derivation.Descent
import Xsd.Proofs.Derivation.Uses
import Xsd.Proofs.Schema.Passes
import Xsd.Proofs.Validation.Modes

/-!
# Compiled models are complete

In a model that has been compiled no reference is left unbound, and no type is without a result or a
content model: a failure at any stage leaves an error. A validation therefore never finds that
a type has no compiled content model.
-/

namespace Xsd

/-- The type of an element is there: its own, that of one of its heads, or the most general type. -/
theorem Arena.IsBound.has_elementType {a : Arena} (bound : a.IsBound)
    (general : a.Has (.type .anyType)) (id : ElementId) : a.Has (.type (a.elementType id)) := by
  have own : ∀ {id type}, a.ownType? id = some type → a.Has (.type type) := by
    intro id type h
    obtain ⟨use, hu, target⟩ := Option.bind_eq_some_iff.mp h
    obtain ⟨e, he, hu⟩ := Option.bind_eq_some_iff.mp hu
    have mem : use.mention ∈ a.mentions (.element id) := by
      rw [mentions, he]
      refine List.mem_append_left _ (List.mem_map_of_mem ?_)
      rw [hu]
      exact List.mem_singleton_self use
    obtain ⟨type', target', has⟩ := (bound (.element id) _ mem).type
    cases target.symm.trans target'
    exact has
  have along : ∀ (fuel : Nat) (seen : List ElementId) (id : ElementId),
      a.Has (.type (a.typeAlongHeads fuel seen id)) := by
    intro fuel
    induction fuel with
    | zero => exact fun _ _ => general
    | succ fuel ih =>
      intro seen id
      unfold typeAlongHeads
      split
      · rename_i type h
        exact own h
      · split
        · exact general
        · split
          · exact general
          · exact ih _ _
  exact along _ _ _

namespace Model

variable {supply : Schema.Supply} {documents : List Document} {m : Model}
  {report : ResolutionReport} {a : Assembly} {limits : Limits}

/-- Nothing is missing in an assembly in which all references are resolved. -/
theorem isWhole_of_assembled (h : assembled supply documents = .ok (report, a)) :
    a.arena.IsWhole := by
  have coherent := holds_of_assembled lasting_coherent coherent_initial h
  have grounded := holds_of_assembled lasting_grounded Arena.grounded_initial h
  have resolved : a.Resolved := resolved_of_assembled h
  constructor
  case bound =>
    intro id mention hm
    obtain ⟨info, hi⟩ := Arena.has_iff.mp (Arena.has_of_mem_mentions hm)
    obtain ⟨target, ht⟩ :=
      Option.isSome_iff_exists.mp (coherent.resolved hi (resolved hi) mention hm)
    exact ⟨target, ht, coherent.closed id mention hm target ht⟩
  case general => exact (Array.getElem?_eq_some_iff.mp grounded.type?_anySimpleType).1
  case named =>
    intro id d hd
    have info : a.arena.info? (.attribute id) = some d.info := by
      rw [Arena.info?, hd]
      rfl
    exact coherent.named info
  case based => exact fun ht special => coherent.based ht special

/-- There are no errors in a model, and each type that has a result has a content model. -/
theorem complete_of_ofAssembly (h : ofAssembly a report limits = .ok m) :
    (Derivation.deriveAll a.arena).2 = [] ∧
      ∀ id, (a.arena.type? id).isSome → (m.derived.get? id).isSome → (m.contentModel? id).isSome := by
  obtain ⟨faultless, rfl⟩ := ofAssembly_eq_ok_iff.mp h
  refine ⟨faultless.types, fun id known entry => ?_⟩
  obtain ⟨t, ht⟩ := Option.isSome_iff_exists.mp known
  have bound : id.index < a.arena.types.size := (Array.getElem?_eq_some_iff.mp ht).1
  obtain ⟨content, made⟩ := faultless.contents id (Arena.mem_typeIds_iff.mpr known) entry
  rw [contentModel?_made bound, made]
  rfl

/-! ## A schema of drawings -/

/-- An element of the schema language. -/
def schemaNode (word : String) (attributes : List (String × String)) (nodes : List Node) : Node :=
  .element ⟨.xsd word, ⟨attributes.map fun (name, value) => (⟨none, name⟩, value)⟩,
    ⟨[("xs", QName.xsdNamespace)], none⟩, 0⟩ nodes

/-- A drawing holds a shape, and then anything. Circles are shapes, with a radius; shapes as such are
abstract. But blobs are declared to be of their type, and a size to be what it cannot be. -/
def drawings : Document :=
  ⟨.memory "drawings.xsd", some ⟨⟨.xsd "schema", .empty, default, 0⟩,
    [schemaNode "complexType" [("name", "Shape"), ("abstract", "true")] [],
      schemaNode "complexType" [("name", "Circle")]
        [schemaNode "complexContent" []
          [schemaNode "extension" [("base", "Shape")]
            [schemaNode "attributeGroup" [("ref", "marks")] []]]],
      schemaNode "attributeGroup" [("name", "marks")]
        [schemaNode "attribute" [("name", "radius"), ("type", "xs:byte"), ("default", "1")] []],
      schemaNode "attribute" [("name", "size"), ("type", "xs:byte"), ("fixed", "many")] [],
      schemaNode "element" [("name", "shape"), ("type", "Shape"), ("abstract", "true")] [],
      schemaNode "element"
        [("name", "circle"), ("type", "Circle"), ("substitutionGroup", "shape")] [],
      schemaNode "element" [("name", "blob"), ("type", "Shape")] [],
      schemaNode "element" [("name", "drawing")]
        [schemaNode "complexType" []
          [schemaNode "sequence" []
            [schemaNode "element" [("ref", "shape")] [],
              schemaNode "any" [("processContents", "lax")] []]]]]⟩⟩

/-- A shape, and then anything. -/
def drawingContent : Content :=
  .group .once .sequence [.element .once ⟨0⟩, .wildcard .once .anyLax]

def drawingAutomaton : Automaton :=
  ⟨#[.element ⟨none, "circle"⟩ ⟨1⟩, .wildcard .anyLax],
    #[⟨false, [⟨0, 1, none⟩]⟩, ⟨false, [⟨0, 2, some 1⟩, ⟨1, 2, none⟩]⟩, ⟨true, []⟩], 0⟩

/-- Of shapes and circles, only circles have a symbol. -/
theorem automatonOf_drawingContent {env : Nfa.Environment} {shape circle : ElementDecl}
    (standard : env.limits = .standard) (members : env.substitutions.members ⟨0⟩ = [⟨1⟩])
    (hs : env.arena.element? ⟨0⟩ = some shape) (abstract : shape.isAbstract = true)
    (hc : env.arena.element? ⟨1⟩ = some circle) (concrete : circle.isAbstract = false)
    (name : circle.info.name = some ⟨none, "circle"⟩) :
    ContentModel.automatonOf env (some drawingContent) = .ok drawingAutomaton := by
  have symbols : Nfa.Construct.elementSymbols env ⟨0⟩ = (do
      let n ← Nfa.Construct.symbol (·.isElementNamed ⟨none, "circle"⟩)
        (.element ⟨none, "circle"⟩ ⟨1⟩)
      return [n]) := by
    simp [Nfa.Construct.elementSymbols, Nfa.Construct.addElementSymbol, members, hs, hc, abstract,
      concrete, name]
  obtain ⟨arena, substitutions, limits, owner⟩ := env
  cases standard
  rw [ContentModel.automatonOf, Nfa.ofContent, drawingContent, Nfa.Construct.content,
    Nfa.Construct.once]
  simp only [Nfa.Construct.membersOf, Nfa.Construct.once]
  rw [symbols]
  cbv

/-- A name of the schema, which has no target namespace. -/
def drawingName (name : String) : QName := ⟨none, name⟩

def drawingElement (name : String) (type : TypeUse) (head : Option (Reference ElementId))
    (isAbstract : Bool) : ElementDecl :=
  ⟨⟨some (drawingName name), true, ⟨1⟩, .resolved, none⟩, some type, head, none, false, isAbstract⟩

def shapeDecl : ElementDecl :=
  drawingElement "shape" (.named ⟨drawingName "Shape", some ⟨46⟩⟩) none true

def circleDecl : ElementDecl :=
  drawingElement "circle" (.named ⟨drawingName "Circle", some ⟨47⟩⟩)
    (some ⟨drawingName "shape", some ⟨0⟩⟩) false

def blobDecl : ElementDecl :=
  drawingElement "blob" (.named ⟨drawingName "Shape", some ⟨46⟩⟩) none false

def drawingDecl : ElementDecl := drawingElement "drawing" (.own ⟨48⟩) none false

def radius : EffectiveAttribute :=
  ⟨drawingName "radius", ⟨0⟩, Builtin.byte.typeId, .optional, some ⟨false, "1"⟩⟩

/-- The content is that of drawings. -/
def isDrawingContent : Option Content → Bool
  | some (.group ⟨1, some 1⟩ .sequence
      [.element ⟨1, some 1⟩ ⟨0⟩, .wildcard ⟨1, some 1⟩ ⟨.any, .lax⟩]) => true
  | _ => false

theorem eq_drawingContent {content : Option Content} (h : isDrawingContent content = true) :
    content = some drawingContent := by
  unfold isDrawingContent at h
  split at h
  · rfl
  · cases h

/-- The attributes of a complex type, as they are declared. -/
def attributesOf? : TypeDefinition → Option AttributeDecls
  | .complex t => some t.attributes
  | .simple _ => none

/-- What the schema is compiled to, as far as it matters and apart from the automata. -/
structure IsDrawings (m : Model) : Prop where
  elements : m.arena.elements = #[shapeDecl, circleDecl, blobDecl, drawingDecl]
  globals : ["shape", "circle", "blob", "drawing"].map
      (fun name => m.globalElement? (drawingName name)) = [some ⟨0⟩, some ⟨1⟩, some ⟨2⟩, some ⟨3⟩]
  elementTypes : m.arena.elementIds.map m.elementType = [⟨46⟩, ⟨47⟩, ⟨46⟩, ⟨48⟩]
  members : m.substitutions.members ⟨0⟩ = [⟨1⟩]
  contents : [⟨46⟩, ⟨47⟩].map m.contentModel? = [some .empty, some .empty]
  types : [⟨46⟩, ⟨47⟩, ⟨48⟩].map (fun id =>
      (m.derived.complex? id).map fun t => (t.isAbstract, t.attributes)) =
    [some (true, .empty), some (false, ⟨[(radius.name, radius)]⟩), some (false, .empty)]
  drawingType : (m.derived.complex? ⟨48⟩).map
      (fun t => (t.label, isDrawingContent t.content, t.mixed)) = some (.elementOnly, true, false)
  attributes : (m.arena.attributes.map fun d => (d.valueTypeId, d.constraint)) =
    #[(Builtin.byte.typeId, some ⟨false, "1"⟩), (Builtin.byte.typeId, some ⟨true, "many"⟩)]
  values : ["1", "many"].map (fun text => (m.derived.checkValue Builtin.byte.typeId text).isOk) =
    [true, false]
  circle : (m.arena.type? ⟨47⟩).bind attributesOf? =
    some ⟨[], [⟨drawingName "marks", some ⟨0⟩⟩], none⟩
  marks : (m.arena.attributeGroup? ⟨0⟩).map (·.attributes) =
    some ⟨[⟨.own ⟨0⟩, .optional, none⟩], [], none⟩
  report : m.report = ⟨1, 10, 0⟩

instance (m : Model) : Decidable (IsDrawings m) :=
  decidable_of_iff (_ ∧ _ ∧ _ ∧ _ ∧ _ ∧ _ ∧ _ ∧ _ ∧ _ ∧ _ ∧ _ ∧ _)
    ⟨fun ⟨a, b, c, d, e, f, g, h, i, j, k, l⟩ => ⟨a, b, c, d, e, f, g, h, i, j, k, l⟩,
      fun ⟨a, b, c, d, e, f, g, h, i, j, k, l⟩ => ⟨a, b, c, d, e, f, g, h, i, j, k, l⟩⟩

theorem IsDrawings.element? (h : IsDrawings m) :
    m.arena.element? ⟨0⟩ = some shapeDecl ∧ m.arena.element? ⟨1⟩ = some circleDecl ∧
      m.arena.element? ⟨2⟩ = some blobDecl ∧ m.arena.element? ⟨3⟩ = some drawingDecl := by
  unfold Arena.element?
  rw [h.elements]
  exact ⟨rfl, rfl, rfl, rfl⟩

theorem IsDrawings.globalElement? (h : IsDrawings m) :
    m.globalElement? (drawingName "shape") = some ⟨0⟩ ∧
      m.globalElement? (drawingName "circle") = some ⟨1⟩ ∧
      m.globalElement? (drawingName "blob") = some ⟨2⟩ ∧
      m.globalElement? (drawingName "drawing") = some ⟨3⟩ := by
  simpa using h.globals

theorem IsDrawings.elementType (h : IsDrawings m) :
    m.elementType ⟨0⟩ = ⟨46⟩ ∧ m.elementType ⟨1⟩ = ⟨47⟩ ∧ m.elementType ⟨2⟩ = ⟨46⟩ ∧
      m.elementType ⟨3⟩ = ⟨48⟩ := by
  have ids : m.arena.elementIds = [⟨0⟩, ⟨1⟩, ⟨2⟩, ⟨3⟩] := by
    rw [Arena.elementIds, h.elements]
    rfl
  simpa [ids] using h.elementTypes

theorem IsDrawings.contentModel? (h : IsDrawings m) :
    m.contentModel? ⟨46⟩ = some .empty ∧ m.contentModel? ⟨47⟩ = some .empty := by
  simpa using h.contents

theorem IsDrawings.complex? (h : IsDrawings m) :
    (∃ t, m.derived.complex? ⟨46⟩ = some t ∧ t.isAbstract = true ∧ t.attributes = .empty) ∧
      (∃ t, m.derived.complex? ⟨47⟩ = some t ∧ t.isAbstract = false ∧
        t.attributes = ⟨[(radius.name, radius)]⟩) ∧
      ∃ t, m.derived.complex? ⟨48⟩ = some t ∧ t.isAbstract = false ∧ t.attributes = .empty := by
  simpa using h.types

/-- The automaton is made from what can be computed. -/
private theorem contentOf_drawing (computed : IsDrawings (made a report .standard)) :
    contentOf a.arena .standard ⟨48⟩ = .ok (.elements drawingAutomaton false) := by
  obtain ⟨t, complex, same⟩ := Option.map_eq_some_iff.mp computed.drawingType
  simp only [Prod.mk.injEq] at same
  obtain ⟨label, content, mixed⟩ := same
  obtain ⟨shape, circle, -, -⟩ := computed.element?
  have automaton : ContentModel.automatonOf ⟨a.arena, .ofArena a.arena, .standard,
      a.arena.typeName ⟨48⟩⟩ t.content = .ok drawingAutomaton := by
    rw [eq_drawingContent content]
    exact automatonOf_drawingContent rfl computed.members shape rfl circle rfl rfl
  exact mixed ▸ contentOf_eq_elements complex (Or.inl label) automaton

/-- What can be computed of the schema. -/
private theorem drawings_computed :
    (assembled ⟨none, .standard⟩ [drawings]).isOk = true ∧
      IsSound (readAll [drawings]).2.arena [⟨48⟩] ∧
      IsDrawings (made (readAll [drawings]).2 (readAll [drawings]).1 .standard) ∧
      (readAll [drawings]).2.arena.types.size = 49 := by
  decide +kernel

theorem exists_drawings : ∃ m, compile ⟨none, .standard⟩ [drawings] = .ok m ∧ IsDrawings m ∧
    m.contentModel? ⟨48⟩ = some (.elements drawingAutomaton false) := by
  obtain ⟨isOk, sound, isDrawings, size⟩ := drawings_computed
  have drawing := contentOf_drawing isDrawings
  refine ⟨_, compile_of_isSound isOk sound ?_, isDrawings, ?_⟩
  · exact fun id mem => ⟨_, List.mem_singleton.mp mem ▸ drawing⟩
  · rw [contentModel?_made (by rw [size]; decide), drawing]
    rfl

/-! ## Complete models -/

/-- Nothing is left open in a model, and no validation comes to a type without a content model. -/
structure IsComplete (m : Model) : Prop where
  bound : m.arena.IsBound
  derived : ∀ id, (m.arena.type? id).isSome → (m.derived.get? id).isSome
  compiled : ∀ id, (m.arena.type? id).isSome → (m.contentModel? id).isSome
  declared : ∀ id, (m.arena.element? id).isSome → (m.contentModel? (m.elementType id)).isSome
  reached : ∀ document, ∀ v ∈ Validation.violations m document, v.kind = .unknownComponent →
    ∀ id, v.message ≠ (Validation.notCompiled m id).message

/-- Where nothing is missing and all types have results, they have content models as well. -/
theorem isComplete_of_ofAssembly (whole : a.arena.IsWhole)
    (general : a.arena.Has (.type .anyType)) (h : ofAssembly a report limits = .ok m) :
    m.IsComplete := by
  obtain ⟨none, models⟩ := complete_of_ofAssembly h
  obtain ⟨sameArena, sameTypes⟩ := ofAssembly_eq_ok h
  have derived : ∀ id, (m.arena.type? id).isSome → (m.derived.get? id).isSome := by
    intro id known
    rw [sameArena] at known
    rw [sameTypes]
    exact Derivation.deriveAll_complete whole none known
  have compiled : ∀ id, (m.arena.type? id).isSome → (m.contentModel? id).isSome := by
    intro id known
    exact models id (sameArena ▸ known) (derived id known)
  have declared : ∀ id, (m.contentModel? (m.elementType id)).isSome := by
    intro id
    refine compiled _ ?_
    rw [elementType, sameArena]
    have has : a.arena.Has (.type _) := whole.bound.has_elementType general id
    exact Option.isSome_iff_exists.mpr ⟨_, Array.getElem?_eq_getElem has⟩
  refine ⟨sameArena ▸ whole.bound, derived, compiled, fun id _ => declared id, ?_⟩
  intro document v hv kind id same
  obtain ⟨e, -, missing⟩ := Validation.justified_of_mem_violations hv kind id same
  have found := declared e
  rw [missing] at found
  cases found

/-- A type of an assembled schema has a result, or an error is reported. A compiled model is
complete. -/
theorem compile_complete (supply : Schema.Supply) (documents : List Document) :
    (∀ report a, assembled supply documents = .ok (report, a) → ∀ id, (a.arena.type? id).isSome →
      ((Derivation.deriveAll a.arena).1.get? id).isSome ∨
        (Derivation.deriveAll a.arena).2 ≠ []) ∧
      ∀ m, compile supply documents = .ok m → m.IsComplete := by
  constructor
  · intro report a h id known
    rw [or_iff_not_imp_right, not_ne_iff]
    exact fun none => Derivation.deriveAll_complete (isWhole_of_assembled h) none known
  · intro m h
    rw [compile_eq] at h
    obtain ⟨⟨report, a⟩, ha, h⟩ := bind_eq_ok_iff.mp h
    have grounded := holds_of_assembled lasting_grounded Arena.grounded_initial ha
    have general : a.arena.Has (.type .anyType) :=
      (Array.getElem?_eq_some_iff.mp grounded.type?_anyType).1
    exact isComplete_of_ofAssembly (isWhole_of_assembled ha) general h

/-- The schema of drawings is complete: the names that circles speak of have been bound in a pass, and
their type has a result and a content model. -/
theorem drawings_complete : ∃ m, compile ⟨none, .standard⟩ [drawings] = .ok m ∧ m.IsComplete ∧
    m.report = ⟨1, 10, 0⟩ ∧
    m.arena.references (.element ⟨1⟩) =
      [.type ⟨drawingName "Circle", some ⟨47⟩⟩, .element ⟨drawingName "shape", some ⟨0⟩⟩] ∧
    (m.derived.get? ⟨47⟩).isSome ∧ (m.contentModel? (m.elementType ⟨1⟩)).isSome ∧
    ∃ report a, assembled ⟨none, .standard⟩ [drawings] = .ok (report, a) ∧
      (a.arena.type? ⟨47⟩).isSome ∧
      (((Derivation.deriveAll a.arena).1.get? ⟨47⟩).isSome ∨
        (Derivation.deriveAll a.arena).2 ≠ []) := by
  obtain ⟨m, compiled, isDrawings, -⟩ := exists_drawings
  obtain ⟨reported, completes⟩ := compile_complete ⟨none, .standard⟩ [drawings]
  have complete := completes m compiled
  obtain ⟨-, circle, -, -⟩ := isDrawings.element?
  have names : m.arena.references (.element ⟨1⟩) =
      [.type ⟨drawingName "Circle", some ⟨47⟩⟩, .element ⟨drawingName "shape", some ⟨0⟩⟩] := by
    rw [Arena.references, circle]
    rfl
  obtain ⟨type, known, -⟩ := Option.bind_eq_some_iff.mp isDrawings.circle
  have known := Option.isSome_of_eq_some known
  obtain ⟨report, a, isAssembled, -, rfl⟩ := compile_eq_ok_iff.mp compiled
  exact ⟨_, compiled, complete, isDrawings.report, names, complete.derived _ known,
    complete.declared _ (Option.isSome_of_eq_some circle), report, a, isAssembled, known,
    reported report a isAssembled _ known⟩

end Model

end Xsd
