import Xsd.Proofs.Schema.Emptiable
import Xsd.Proofs.Validation.Abstract

/-!
# Elements without content

An element that contains nothing takes the default or fixed value of its declaration for its text.
When a schema is compiled, the value is looked at: it has to be one of the type, or to stand in the
place of a mixed content that may be left out. So nothing can be wrong with an element for having
no content. But a fixed value is not taken for the text where that is mixed content: an element
without content is then compared with it as if it had an empty text.
-/

namespace Xsd

/-- An accepted value is accepted as the literal with which others are compared. -/
theorem Validation.checkValue_eq_expectedLiteral {m : Model} {type : TypeId} {text literal : String}
    (accepted : m.derived.checkValue type text = .ok literal) :
    m.derived.checkValue type text = .ok (expectedLiteral m type text) := by
  rw [expectedLiteral, accepted]

/-! ## What is compiled -/

/-- A value constraint on a type with literals is one that the type has to accept. -/
theorem Arena.elementConstraintError?_eq_typeError? {a : Arena} {d : DerivedTypes} {e : ElementId}
    {decl : ElementDecl} {k : ValueConstraint} (declared : a.element? e = some decl)
    (constrained : decl.constraint = some k) {v : ValueType}
    (valued : d.valueType? (a.elementType e) = some v) :
    a.elementConstraintError? d e =
      k.typeError? d (decl.info.describe .element) (a.elementType e) := by
  unfold DerivedTypes.valueType? at valued
  split at valued
  · rename_i entry
    simp [elementConstraintError?, declared, constrained, entry]
  · rename_i entry
    simp [elementConstraintError?, declared, constrained, entry, valued]
  · cases valued

namespace Model

variable {supply : Schema.Supply} {documents : List Document} {m : Model}
  {report : ResolutionReport} {a : Assembly}

/-- The type of an element has a content model, if nothing is wrong. -/
theorem exists_contentOf_elementType (isAssembled : assembled supply documents = .ok (report, a))
    (faultless : IsFaultless a.arena supply.limits) (id : ElementId) :
    ∃ content, contentOf a.arena supply.limits (a.arena.elementType id) = .ok content ∧
      (made a report supply.limits).contentModel? (a.arena.elementType id) = some content := by
  have whole := isWhole_of_assembled isAssembled
  have grounded := holds_of_assembled lasting_grounded Arena.grounded_initial isAssembled
  have general : a.arena.Has (.type .anyType) :=
    (Array.getElem?_eq_some_iff.mp grounded.type?_anyType).1
  have has : (a.arena.elementType id).index < a.arena.types.size :=
    whole.bound.has_elementType general id
  have known : (a.arena.type? (a.arena.elementType id)).isSome :=
    Option.isSome_of_eq_some (Array.getElem?_eq_getElem has)
  obtain ⟨content, h⟩ := faultless.contents _ (Arena.mem_typeIds_iff.mpr known)
    (Derivation.deriveAll_complete whole faultless.types known)
  exact ⟨content, h, by rw [contentModel?_made has, h]; rfl⟩

/-- The value of an element has been looked at: it is one of the type, or else stands in the place of
a mixed content that may be left out. -/
theorem supplied_of_compile (compiled : compile supply documents = .ok m) {id : ElementId}
    {decl : ElementDecl} {k : ValueConstraint} (declared : m.arena.element? id = some decl)
    (constrained : decl.constraint = some k) :
    (∃ v, m.contentModel? (m.elementType id) = some (.simple v) ∧
      m.derived.checkValue (m.elementType id) k.value =
        .ok (Validation.expectedLiteral m (m.elementType id) k.value)) ∨
    ∃ automaton, m.contentModel? (m.elementType id) = some (.elements automaton true) ∧
      automaton.accepts [] = true := by
  obtain ⟨-, -, -, clean⟩ := derived_of_compile compiled
  obtain ⟨report, a, isAssembled, faultless, rfl⟩ := compile_eq_ok_iff.mp compiled
  have none := List.filterMap_eq_nil_iff.mp (List.append_eq_nil_iff.mp clean).1 id
    (Arena.mem_elementIds_iff.mpr (Option.isSome_of_eq_some declared))
  obtain ⟨content, h, hmodel⟩ := exists_contentOf_elementType isAssembled faultless id
  rcases ContentModel.ofType_cases h with
    ⟨v, t, rfl, valued⟩ | ⟨t, complex, label, plain⟩
  · have accepted :=
      (Arena.elementConstraintError?_eq_typeError? declared constrained valued).symm.trans none
    obtain ⟨literal, accepted⟩ := ValueConstraint.typeError?_eq_none_iff.mp accepted
    exact Or.inl ⟨v, hmodel, Validation.checkValue_eq_expectedLiteral accepted⟩
  · have admits := (Arena.elementConstraintError?_eq_none_iff declared constrained complex
      ((Derivation.isLabelled_of_complex? complex).plain label)).mp none
    have mixed : t.mixed = true := (Bool.and_eq_true_iff.mp admits).1
    rcases plain with ⟨rfl, text⟩ | ⟨automaton, rfl, built⟩
    · cases mixed.symm.trans text
    · refine Or.inr ⟨automaton, mixed ▸ hmodel, ?_⟩
      rw [ComplexType.admitsText_iff mixed (isComposed_of_assembled isAssembled complex).full]
        at admits
      rw [accepts_nil_iff isAssembled complex built]
      intro c hc
      rw [Content.isEmptiable, admits c hc]
      rfl

end Model

/-! ## What is looked at -/

namespace Validation

variable {m : Model} {c : Context} {e : Element} {type : TypeId} {k : ValueConstraint}

/-- Look at the attributes of an element of the type. -/
def checkOutside (m : Model) (c : Context) (e : Element) (type : TypeId) : Look :=
  match m.derived.complex? type with
  | some t => checkAttributes m c e t
  | none => forbidAttributes c e

/-- What is wrong with what an element that is not nil says about that. -/
def checkNilWord (c : Context) (e : Element) : Look :=
  match nilText? e with
  | none => return ()
  | some word =>
    if word == "true" || word == "1" then
      c.raise (.of .invalidValue s!"Element '{e.name.clark}' is not nillable")
    else if !(word == "false" || word == "0") then
      c.raise (.of .invalidValue s!"Invalid xsi:nil value '{word}'")
    else return ()

theorem checkDeclared_of_not_isNil {id : ElementId} {decl : ElementDecl} {children : List Child}
    (declared : m.arena.element? id = some decl) (notNil : isNil e decl = false) :
    checkDeclared m e children c id = (do
      checkNilWord c e
      checkTyped m e children c (m.elementType id) decl.constraint) := by
  unfold checkDeclared checkNilWord
  rw [declared]
  cases said : nilText? e with
  | none => rfl
  | some word =>
    dsimp only
    split
    · rename_i yes
      have : decl.nillable = false := by simpa [isNil, said, yes] using notNil
      simp [this]
    · split
      · rfl
      · rfl

theorem checkTyped_of_simple {children : List Child} {v : TypeId} {constraint : Option ValueConstraint}
    (simple : m.contentModel? type = some (.simple v)) (flat : e.children = []) :
    checkTyped m e children c type constraint = (do
      checkOutside m c e type
      checkText m c e type constraint) := by
  unfold checkTyped checkOutside
  rw [simple, flat]
  cases m.derived.complex? type <;> rfl

/-- Without text, the value of the declaration is the text. -/
theorem checkText_of_blank (blank : e.text = "")
    (accepted : m.derived.checkValue type k.value = .ok (expectedLiteral m type k.value)) :
    checkText m c e type (some k) = return () := by
  unfold checkText
  rw [blank]
  dsimp only
  rw [if_pos (by decide), Option.map_some, Option.getD_some, accepted]
  cases h : k.fixed <;> simp [fixedValue?, h]

/-- Mixed content without children has to be the fixed value, if there is one. -/
theorem checkTyped_of_elements {automaton : Automaton} {constraint : Option ValueConstraint}
    (elements : m.contentModel? type = some (.elements automaton true))
    (accepts : automaton.accepts [] = true) :
    checkTyped m e [] c type constraint = (do
      checkOutside m c e type
      checkFixedText c e constraint) := by
  have finish : (ContentRun.start automaton true).finish = .ok () := by
    have accepting : automaton.isAccepting automaton.start = true := by
      simpa [Automaton.accepts, Automaton.run] using accepts
    exact if_pos accepting
  unfold checkTyped checkOutside
  rw [elements]
  cases m.derived.complex? type <;>
    simp only [checkChildren, pure_bind, finish, Context.raiseIfError, if_true]

end Validation

/-! ## A schema of remarks -/

namespace Model

variable {m : Model} {report : ResolutionReport} {a : Assembly}

/-- A remark is text, and so is a comment, but a remark says always the same. A price is always one
and a half, and an item has a rate that is. -/
def remarks : Document :=
  ⟨.memory "remarks.xsd", some ⟨⟨.xsd "schema", .empty, default, 0⟩,
    [schemaNode "complexType" [("name", "Remark"), ("mixed", "true")] [],
      schemaNode "complexType" [("name", "Item")]
        [schemaNode "attribute" [("name", "rate"), ("type", "xs:decimal"), ("fixed", "1.5")] []],
      schemaNode "element" [("name", "remark"), ("type", "Remark"), ("fixed", "none")] [],
      schemaNode "element" [("name", "comment"), ("type", "Remark"), ("default", "none")] [],
      schemaNode "element" [("name", "price"), ("type", "xs:decimal"), ("fixed", "1.5")] [],
      schemaNode "element" [("name", "item"), ("type", "Item")] []]⟩⟩

/-- The automaton of a content that is not there. -/
def blankAutomaton : Automaton := ⟨#[], #[⟨true, []⟩], 0⟩

theorem automatonOf_none (arena : Arena) (substitutions : SubstitutionGroups) (owner : String) :
    ContentModel.automatonOf ⟨arena, substitutions, .standard, owner⟩ none = .ok blankAutomaton := by
  cbv

/-- A remark or, if its value is not fixed, a comment. -/
def remarkDecl (fixed : Bool) : ElementDecl :=
  { drawingElement (if fixed then "remark" else "comment")
      (.named ⟨drawingName "Remark", some ⟨46⟩⟩) none false with
    constraint := some ⟨fixed, "none"⟩ }

def priceDecl : ElementDecl :=
  { drawingElement "price" (.known "decimal" Builtin.decimal.typeId) none false with
    constraint := some ⟨true, "1.5"⟩ }

def itemDecl : ElementDecl :=
  drawingElement "item" (.named ⟨drawingName "Item", some ⟨47⟩⟩) none false

def rate : EffectiveAttribute :=
  ⟨drawingName "rate", ⟨0⟩, Builtin.decimal.typeId, .optional, some ⟨true, "1.5"⟩⟩

/-- What the schema is compiled to, as far as it matters and apart from the automaton. -/
structure IsRemarks (m : Model) : Prop where
  elements : m.arena.elements = #[remarkDecl true, remarkDecl false, priceDecl, itemDecl]
  globals : ["remark", "price"].map (fun name => m.globalElement? (drawingName name)) =
    [some ⟨0⟩, some ⟨2⟩]
  elementTypes : m.arena.elementIds.map m.elementType =
    [⟨46⟩, ⟨46⟩, Builtin.decimal.typeId, ⟨47⟩]
  contents : [Builtin.decimal.typeId, ⟨47⟩].map m.contentModel? =
    [some (.simple Builtin.decimal.typeId), some .empty]
  remarkType : (m.derived.complex? ⟨46⟩).map
      (fun t => (t.label, t.content.isSome, t.mixed, t.attributes)) = some (.mixed, false, true, .empty)
  itemType : (m.derived.complex? ⟨47⟩).map (·.attributes) = some ⟨[(rate.name, rate)]⟩
  values : ["1.5", " 1.5 ", "1.50"].map
      (fun text => (m.derived.checkValue Builtin.decimal.typeId text).toOption) =
    [some "1.5", some "1.5", some "1.50"]
  space : (m.derived.simple? Builtin.decimal.typeId).map (·.space) = some .decimal

instance (m : Model) : Decidable (IsRemarks m) :=
  decidable_of_iff (_ ∧ _ ∧ _ ∧ _ ∧ _ ∧ _ ∧ _ ∧ _)
    ⟨fun ⟨a, b, c, d, e, f, g, h⟩ => ⟨a, b, c, d, e, f, g, h⟩,
      fun ⟨a, b, c, d, e, f, g, h⟩ => ⟨a, b, c, d, e, f, g, h⟩⟩

theorem IsRemarks.element? (h : IsRemarks m) :
    m.arena.element? ⟨0⟩ = some (remarkDecl true) ∧
      m.arena.element? ⟨1⟩ = some (remarkDecl false) ∧ m.arena.element? ⟨2⟩ = some priceDecl := by
  unfold Arena.element?
  rw [h.elements]
  exact ⟨rfl, rfl, rfl⟩

theorem IsRemarks.globalElement? (h : IsRemarks m) :
    m.globalElement? (drawingName "remark") = some ⟨0⟩ ∧
      m.globalElement? (drawingName "price") = some ⟨2⟩ := by
  simpa using h.globals

theorem IsRemarks.elementType (h : IsRemarks m) :
    m.elementType ⟨0⟩ = ⟨46⟩ ∧ m.elementType ⟨1⟩ = ⟨46⟩ ∧
      m.elementType ⟨2⟩ = Builtin.decimal.typeId := by
  have ids : m.arena.elementIds = [⟨0⟩, ⟨1⟩, ⟨2⟩, ⟨3⟩] := by
    rw [Arena.elementIds, h.elements]
    rfl
  have types := h.elementTypes
  simp only [ids, List.map_cons, List.cons.injEq] at types
  exact ⟨types.1, types.2.1, types.2.2.1⟩

theorem IsRemarks.complex? (h : IsRemarks m) :
    (∃ t, m.derived.complex? ⟨46⟩ = some t ∧ t.label = .mixed ∧ t.content = none ∧
        t.mixed = true ∧ t.attributes = .empty) ∧
      ∃ t, m.derived.complex? ⟨47⟩ = some t ∧ t.attributes = ⟨[(rate.name, rate)]⟩ := by
  obtain ⟨t, found, same⟩ := Option.map_eq_some_iff.mp h.remarkType
  simp only [Prod.mk.injEq, Option.isSome_eq_false_iff, Option.isNone_iff_eq_none] at same
  exact ⟨⟨t, found, same⟩, Option.map_eq_some_iff.mp h.itemType⟩

/-- The automaton is that of no content. -/
private theorem contentOf_remark (computed : IsRemarks (made a report .standard)) :
    contentOf a.arena .standard ⟨46⟩ = .ok (.elements blankAutomaton true) := by
  obtain ⟨⟨t, complex, label, content, mixed, -⟩, -⟩ := computed.complex?
  have automaton := automatonOf_none a.arena (.ofArena a.arena) (a.arena.typeName ⟨46⟩)
  rw [← content] at automaton
  exact mixed ▸ contentOf_eq_elements complex (Or.inr label) automaton

/-- What can be computed of the schema. -/
private theorem remarks_computed :
    (assembled ⟨none, .standard⟩ [remarks]).isOk = true ∧
      IsSound (readAll [remarks]).2.arena [⟨46⟩] ∧
      IsRemarks (made (readAll [remarks]).2 (readAll [remarks]).1 .standard) ∧
      (readAll [remarks]).2.arena.types.size = 48 := by
  decide +kernel

theorem exists_remarks : ∃ m, compile ⟨none, .standard⟩ [remarks] = .ok m ∧ IsRemarks m ∧
    m.contentModel? ⟨46⟩ = some (.elements blankAutomaton true) := by
  obtain ⟨isOk, sound, isRemarks, size⟩ := remarks_computed
  have remark := contentOf_remark isRemarks
  refine ⟨_, compile_of_isSound isOk sound ?_, isRemarks, ?_⟩
  · exact fun id mem => ⟨_, List.mem_singleton.mp mem ▸ remark⟩
  · rw [contentModel?_made (by rw [size]; decide), remark]
    rfl

end Model

/-! ## Elements that contain nothing -/

namespace Validation

variable {m : Model} {e : Element} {k : ValueConstraint} {supply : Schema.Supply}
  {documents : List Document} {id : ElementId} {decl : ElementDecl}

/-- With an element that contains nothing, nothing is wrong but what it says about being nil, and its
attributes; unless the content is mixed and has a fixed value, with which nothing is not the same. -/
theorem checkDeclared_of_nodes_nil (compiled : Model.compile supply documents = .ok m)
    (declared : m.arena.element? id = some decl) (constrained : decl.constraint = some k)
    (nothing : e.nodes = []) (notNil : isNil e decl = false) (c : Context) :
    ∃ content, m.contentModel? (m.elementType id) = some content ∧
      (¬ (content.isMixed = true ∧ k.fixed = true ∧ k.value ≠ "") →
        checkDeclared m e (childrenOf m e.nodes) c id = (do
          checkNilWord c e
          checkOutside m c e (m.elementType id))) ∧
      (content.isMixed = true → k.fixed = true → k.value ≠ "" →
        checkDeclared m e (childrenOf m e.nodes) c id = (do
          checkNilWord c e
          checkOutside m c e (m.elementType id)
          c.raise (.of .invalidValue
            s!"Content '' does not match the fixed value '{k.value}'"))) := by
  have flat : e.children = [] := by rw [Element.children, nothing]; rfl
  have blank : e.text = "" := by rw [Element.text, nothing]; rfl
  have whole : checkDeclared m e [] c id = (do
      checkNilWord c e
      checkTyped m e [] c (m.elementType id) decl.constraint) :=
    checkDeclared_of_not_isNil declared notNil
  rw [nothing, childrenOf, whole, constrained]
  rcases Model.supplied_of_compile compiled declared constrained with
    ⟨v, simple, accepted⟩ | ⟨automaton, elements, accepts⟩
  · refine ⟨_, simple, fun _ => ?_, nofun⟩
    rw [checkTyped_of_simple simple flat, checkText_of_blank blank accepted, bind_pure_unit]
  · refine ⟨_, elements, fun other => ?_, fun _ fixed value => ?_⟩
    · have same : checkFixedText c e (some k) = return () := by
        unfold checkFixedText
        cases fixed : k.fixed with
        | false => simp [fixedValue?, fixed]
        | true =>
          have value : k.value = "" := by
            by_contra value
            exact other ⟨rfl, fixed, value⟩
          simp [fixedValue?, fixed, flat, blank, value]
      rw [checkTyped_of_elements elements accepts, same, bind_pure_unit]
    · have differs : checkFixedText c e (some k) =
          c.raise (.of .invalidValue
            s!"Content '' does not match the fixed value '{k.value}'") := by
        have own : fixedValue? (some k) = some k.value := by simp [fixedValue?, fixed]
        rw [checkFixedText, own]
        dsimp only
        rw [blank, if_pos (by simp [flat, Ne.symm value])]
        rfl
      rw [checkTyped_of_elements elements accepts, differs]

/-- A comment may be empty: its value is a default one. -/
theorem checkDeclared_comment : ∃ m, Model.compile ⟨none, .standard⟩ [Model.remarks] = .ok m ∧
    m.arena.element? ⟨1⟩ = some (Model.remarkDecl false) ∧
    isNil ⟨bareTag "comment", []⟩ (Model.remarkDecl false) = false ∧
    ∀ c, checkDeclared m ⟨bareTag "comment", []⟩ (childrenOf m []) c ⟨1⟩ = (do
      checkNilWord c ⟨bareTag "comment", []⟩
      checkOutside m c ⟨bareTag "comment", []⟩ (m.elementType ⟨1⟩)) := by
  obtain ⟨m, compiled, isRemarks, -⟩ := Model.exists_remarks
  obtain ⟨-, declared, -⟩ := isRemarks.element?
  refine ⟨m, compiled, declared, rfl, fun c => ?_⟩
  obtain ⟨content, -, plain, -⟩ := checkDeclared_of_nodes_nil (e := ⟨bareTag "comment", []⟩)
    compiled declared rfl rfl rfl c
  exact plain (by simp)

/-- An empty remark. -/
def silence : Document := ⟨.memory "silence.xml", some ⟨bareTag "remark", []⟩⟩

theorem violations_silence (isRemarks : m.IsRemarks)
    (content : m.contentModel? ⟨46⟩ = some (.elements Model.blankAutomaton true)) :
    violations m silence = [{ Violation.of .invalidValue
      "Content '' does not match the fixed value 'none'" with path := some "/remark" }] := by
  obtain ⟨global, -⟩ := isRemarks.globalElement?
  obtain ⟨declared, -, -⟩ := isRemarks.element?
  obtain ⟨type, -, -⟩ := isRemarks.elementType
  obtain ⟨⟨t, complex, -, -, -, attributes⟩, -⟩ := isRemarks.complex?
  have optional : ∀ x ∈ t.attributes.entries, x.2.use ≠ .required := by
    simp [attributes, Table.empty]
  have typed (c : Context) : checkTyped m ⟨bareTag "remark", []⟩ [] c ⟨46⟩
      (Model.remarkDecl true).constraint = (do
        checkOutside m c ⟨bareTag "remark", []⟩ ⟨46⟩
        checkFixedText c ⟨bareTag "remark", []⟩ (Model.remarkDecl true).constraint) :=
    checkTyped_of_elements content rfl
  have look (c : Context) : checkDeclared m ⟨bareTag "remark", []⟩ [] c ⟨0⟩ = (do
      checkNilWord c ⟨bareTag "remark", []⟩
      checkTyped m ⟨bareTag "remark", []⟩ [] c (m.elementType ⟨0⟩)
        (Model.remarkDecl true).constraint) :=
    checkDeclared_of_not_isNil declared rfl
  simp only [type, typed, checkOutside, complex, checkAttributes_bareTag optional] at look
  simp only [violations, checkDocument, silence, Element.name, bareTag_name, global,
    declared, childrenOf, look]
  rfl

/-- With an empty remark something is wrong, though it has neither attributes nor content. -/
theorem not_checkDeclared_of_nodes_nil : ¬ ∀ (supply : Schema.Supply) (documents : List Document)
    (m : Model) (document : Document) (e : Element) (id : ElementId) (decl : ElementDecl)
    (k : ValueConstraint), Model.compile supply documents = .ok m → document.root = some e →
      rootDeclaration? m document = some id → m.arena.element? id = some decl →
      decl.constraint = some k → e.nodes = [] → e.tag.attributes = .empty →
      ∀ v ∈ violations m document, v.kind ≠ .invalidValue := by
  intro always
  obtain ⟨m, compiled, isRemarks, content⟩ := Model.exists_remarks
  obtain ⟨global, -⟩ := isRemarks.globalElement?
  obtain ⟨declared, -, -⟩ := isRemarks.element?
  have root : rootDeclaration? m silence = some ⟨0⟩ := by
    simp [rootDeclaration?, silence, Element.name, bareTag_name, global, declared, Model.remarkDecl,
      Model.drawingElement]
  have fine := always _ _ m silence _ _ _ _ compiled rfl root declared rfl rfl rfl
  rw [violations_silence isRemarks content] at fine
  exact fine _ List.mem_cons_self rfl

end Validation

end Xsd
