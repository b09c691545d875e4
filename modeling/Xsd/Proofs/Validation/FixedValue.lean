import Xsd.Proofs.Derivation.Links
import Xsd.Proofs.Validation.EmptyElement
import Xsd.Proofs.Value.Canonical

/-!
# Fixed values

What an element or attribute with a fixed value says is compared with that value as a text, the white
space of both dealt with, while the members of an enumeration are compared by their values. So other
literals of the fixed value are not accepted in its place, unless they are written in the same way;
and canonical literals are.
-/

namespace Xsd

/-- No value has an empty literal. -/
theorem ValueSpace.parse_empty (space : ValueSpace) : space.parse "" = none := by
  cases space <;> rfl

namespace DerivedTypes

variable {d : DerivedTypes} {id : TypeId}

/-- Only types with literals accept some. -/
theorem exists_valueType?_of_checkValue {text n : String} (accepted : d.checkValue id text = .ok n) :
    ∃ t, d.valueType? id = some t := by
  unfold checkValue at accepted
  split at accepted
  · exact ⟨_, ‹_›⟩
  · cases accepted

theorem complex?_of_simple? {t : ValueType} (simple : d.simple? id = some t) :
    d.complex? id = none := by
  obtain ⟨⟨base, method, _⟩, entry, effective⟩ := get?_of_simple? simple
  cases effective
  rw [complex?, entry]

end DerivedTypes

namespace Validation

variable {m : Model} {c : Context} {type : TypeId} {k : ValueConstraint} {text n : String}

/-- The text is a literal of the value that is fixed for a type. -/
def HasValueOf (m : Model) (type : TypeId) (text fixed : String) : Prop :=
  ∃ t a b, m.derived.valueType? type = some t ∧ t.space.parse text = some a ∧
    t.space.parse fixed = some b ∧ a.isEqual b = true

theorem HasValueOf.text_ne_empty {fixed : String} (same : HasValueOf m type text fixed) :
    text ≠ "" := by
  rintro rfl
  obtain ⟨t, a, b, -, none, -⟩ := same
  rw [t.space.parse_empty] at none
  cases none

/-- Accepted or not, a literal keeps its value. -/
theorem parse_expectedLiteral {t : ValueType} (valued : m.derived.valueType? type = some t)
    (fixed : String) : t.space.parse (expectedLiteral m type fixed) = t.space.parse fixed := by
  unfold expectedLiteral
  split
  · rename_i literal accepted
    rw [DerivedTypes.checkValue, valued] at accepted
    exact ValueType.parse_of_check accepted
  · rfl

/-- Both literals that are compared have the same value. -/
theorem HasValueOf.exists_isEqual {fixed : String} (same : HasValueOf m type text fixed)
    (accepted : m.derived.checkValue type text = .ok n) :
    ∃ t a b, m.derived.valueType? type = some t ∧ t.space.parse n = some a ∧
      t.space.parse (expectedLiteral m type fixed) = some b ∧ a.isEqual b = true := by
  obtain ⟨t, a, b, valued, ha, hb, equal⟩ := same
  rw [DerivedTypes.checkValue, valued] at accepted
  exact ⟨t, a, b, valued, (ValueType.parse_of_check accepted).trans ha,
    (parse_expectedLiteral valued fixed).trans hb, equal⟩

theorem checkText_of_fixed {e : Element} (fixed : k.fixed = true) (filled : e.text ≠ "")
    (accepted : m.derived.checkValue type e.text = .ok n) :
    checkText m c e type (some k) =
      if n = expectedLiteral m type k.value then return ()
      else c.raise (.of .invalidValue
        s!"Value '{n}' does not match the fixed value '{k.value}'") := by
  have own : fixedValue? (some k) = some k.value := by simp [fixedValue?, fixed]
  have blank : ¬ e.text.isEmpty = true := by simpa using filled
  unfold checkText
  dsimp only
  rw [if_neg blank, accepted, own]

theorem checkAttributeValue_of_fixed {name : QName} (fixed : k.fixed = true)
    (accepted : m.derived.checkValue type text = .ok n) :
    checkAttributeValue m c name text type (some k) =
      if n = expectedLiteral m type k.value then return ()
      else c.raise (.of .invalidValue
        s!"Attribute '{name.clark}' must have the fixed value '{k.value}'") := by
  have own : fixedValue? (some k) = some k.value := by simp [fixedValue?, fixed]
  rw [checkAttributeValue, accepted, own]

end Validation

/-- A complex type without a simple content has no literals. -/
theorem Derivation.valueType?_eq_none {a : Arena} {id : TypeId} {t : ComplexType}
    (complex : (deriveAll a).1.complex? id = some t) (label : t.label ≠ .simple) :
    (deriveAll a).1.valueType? id = none := by
  obtain ⟨base, method, entry⟩ := DerivedTypes.get?_of_complex? complex
  rw [DerivedTypes.valueType?_of_get? entry]
  change t.valueType = none
  simpa using (isLabelled_of_complex? complex).plain label

/-- In a compiled model, elements of a type with literals have a simple content. -/
theorem Model.contentModel?_of_valueType? {supply : Schema.Supply} {documents : List Document}
    {m : Model} (compiled : compile supply documents = .ok m) {id : ElementId} {t : ValueType}
    (valued : m.derived.valueType? (m.elementType id) = some t) :
    ∃ v, m.contentModel? (m.elementType id) = some (.simple v) := by
  obtain ⟨report, a, isAssembled, faultless, rfl⟩ := compile_eq_ok_iff.mp compiled
  obtain ⟨content, h, hmodel⟩ := exists_contentOf_elementType isAssembled faultless id
  rcases ContentModel.ofType_cases h with ⟨v, _, rfl, -⟩ | ⟨t', complex, label, -⟩
  · exact ⟨v, hmodel⟩
  · cases (Derivation.valueType?_eq_none complex label).symm.trans valued

namespace Validation

variable {m : Model} {type : TypeId} {k : ValueConstraint} {text n : String}
  {supply : Schema.Supply} {documents : List Document}

/-- An element with a fixed value, and something in it, has to say the same as that, apart from white
space. -/
theorem checkDeclared_of_fixed (compiled : Model.compile supply documents = .ok m) {id : ElementId}
    {decl : ElementDecl} {e : Element} {c : Context} (declared : m.arena.element? id = some decl)
    (constrained : decl.constraint = some k) (fixed : k.fixed = true) (flat : e.children = [])
    (filled : e.text ≠ "") (accepted : m.derived.checkValue (m.elementType id) e.text = .ok n)
    (notNil : isNil e decl = false) :
    checkDeclared m e (childrenOf m e.nodes) c id = (do
      checkNilWord c e
      checkOutside m c e (m.elementType id)
      if n = expectedLiteral m (m.elementType id) k.value then return ()
      else c.raise (.of .invalidValue
        s!"Value '{n}' does not match the fixed value '{k.value}'")) := by
  obtain ⟨t, valued⟩ := DerivedTypes.exists_valueType?_of_checkValue accepted
  obtain ⟨v, simple⟩ := Model.contentModel?_of_valueType? compiled valued
  rw [checkDeclared_of_not_isNil declared notNil, checkTyped_of_simple simple flat, constrained,
    checkText_of_fixed fixed filled accepted]

/-- An accepted literal of a fixed value would be found in an enumeration of that value. As the text
of an element or the value of an attribute it passes only if it is written as the fixed value is,
with the white space of both dealt with; if both are canonical, that is so. -/
theorem fixed_matches_iff (compiled : Model.compile supply documents = .ok m)
    (fixed : k.fixed = true) (accepted : m.derived.checkValue type text = .ok n)
    (same : HasValueOf m type text k.value) :
    (∀ t, m.derived.valueType? type = some t →
      FacetSet.isListed t.space n (expectedLiteral m type k.value) = true ∧
        (t.space.IsCanonical n → t.space.IsCanonical (expectedLiteral m type k.value) →
          n = expectedLiteral m type k.value)) ∧
    (∀ (id : ElementId) (decl : ElementDecl) (e : Element) (c : Context),
      m.arena.element? id = some decl → decl.constraint = some k → m.elementType id = type →
      e.children = [] → e.text = text → isNil e decl = false →
      checkDeclared m e (childrenOf m e.nodes) c id = (do
        checkNilWord c e
        checkOutside m c e type
        if n = expectedLiteral m type k.value then return ()
        else c.raise (.of .invalidValue
          s!"Value '{n}' does not match the fixed value '{k.value}'"))) ∧
    ∀ (name : QName) (c : Context),
      checkAttributeValue m c name text type (some k) =
        if n = expectedLiteral m type k.value then return ()
        else c.raise (.of .invalidValue
          s!"Attribute '{name.clark}' must have the fixed value '{k.value}'") := by
  obtain ⟨t, a, b, valued, ha, hb, equal⟩ := same.exists_isEqual accepted
  refine ⟨fun t' valued' => ?_, ?_, fun name c => checkAttributeValue_of_fixed fixed accepted⟩
  · cases valued.symm.trans valued'
    exact ⟨FacetSet.isListed_iff.mpr (Or.inl ⟨a, b, ha, hb, equal⟩),
      fun canonical canonical' => canonical.eq_of_isEqual canonical' ha hb equal⟩
  · rintro id decl e c declared constrained rfl flat rfl notNil
    exact checkDeclared_of_fixed compiled declared constrained fixed flat same.text_ne_empty
      accepted notNil

/-! ## Prices -/

theorem isCanonical_price : ValueSpace.decimal.IsCanonical "1.5" :=
  ⟨.decimal ⟨false, 15, 1⟩, by decide, by decide, by decide⟩

theorem exists_price (isRemarks : m.IsRemarks) :
    m.derived.checkValue Builtin.decimal.typeId "1.5" = .ok "1.5" ∧
      m.derived.checkValue Builtin.decimal.typeId " 1.5 " = .ok "1.5" ∧
      m.derived.checkValue Builtin.decimal.typeId "1.50" = .ok "1.50" ∧
      m.derived.complex? Builtin.decimal.typeId = none ∧
      ∃ t, m.derived.valueType? Builtin.decimal.typeId = some t ∧ t.space = .decimal := by
  obtain ⟨t, simple, space⟩ := Option.map_eq_some_iff.mp isRemarks.space
  have values := isRemarks.values
  simp only [List.map_cons, List.map_nil, List.cons.injEq, and_true, toOption_eq_some_iff] at values
  obtain ⟨plain, spaced, long⟩ := values
  exact ⟨plain, spaced, long, DerivedTypes.complex?_of_simple? simple, t,
    DerivedTypes.valueType?_of_simple? simple, space⟩

/-- A price of one and a half. -/
def price (text : String) : Element := ⟨bareTag "price", [.text text]⟩

theorem text_price (text : String) : (price text).text = text := by
  simp [price, Element.text]

theorem hasValueOf_price (isRemarks : m.IsRemarks) {a : OrderedValue}
    (ha : ValueSpace.decimal.parse text = some a)
    (equal : a.isEqual (.decimal ⟨false, 15, 1⟩) = true) :
    HasValueOf m Builtin.decimal.typeId text "1.5" := by
  obtain ⟨-, -, -, -, t, valued, space⟩ := exists_price isRemarks
  exact ⟨t, a, _, valued, space ▸ ha, space ▸ rfl, equal⟩

/-- With white space around it, a price and a rate pass. -/
theorem fixed_matches_price : ∃ m, Model.compile ⟨none, .standard⟩ [Model.remarks] = .ok m ∧
    m.arena.element? ⟨2⟩ = some Model.priceDecl ∧
    Model.priceDecl.constraint = some ⟨true, "1.5"⟩ ∧
    m.elementType ⟨2⟩ = Builtin.decimal.typeId ∧
    m.derived.checkValue Builtin.decimal.typeId " 1.5 " = .ok "1.5" ∧
    HasValueOf m Builtin.decimal.typeId " 1.5 " "1.5" ∧
    ValueSpace.decimal.IsCanonical "1.5" ∧
    (∀ c, checkDeclared m (price " 1.5 ") (childrenOf m (price " 1.5 ").nodes) c ⟨2⟩ = (do
      checkNilWord c (price " 1.5 ")
      checkOutside m c (price " 1.5 ") Builtin.decimal.typeId
      return ())) ∧
    ∀ c, checkAttributeValue m c Model.rate.name " 1.5 " Builtin.decimal.typeId
      Model.rate.constraint = return () := by
  obtain ⟨m, compiled, isRemarks, -⟩ := Model.exists_remarks
  obtain ⟨-, -, declared⟩ := isRemarks.element?
  obtain ⟨-, -, type⟩ := isRemarks.elementType
  obtain ⟨plain, spaced, -, -⟩ := exists_price isRemarks
  have same : HasValueOf m Builtin.decimal.typeId " 1.5 " "1.5" :=
    hasValueOf_price (a := .decimal ⟨false, 15, 1⟩) isRemarks (by decide) (by decide)
  have written : expectedLiteral m Builtin.decimal.typeId "1.5" = "1.5" := by
    rw [expectedLiteral, plain]
  obtain ⟨-, elements, attributes⟩ :=
    fixed_matches_iff (k := ⟨true, "1.5"⟩) compiled rfl spaced same
  simp only [written, if_true] at elements attributes
  exact ⟨m, compiled, declared, rfl, type, spaced, same, isCanonical_price,
    fun c => elements ⟨2⟩ _ _ c declared rfl type rfl (text_price " 1.5 ") rfl, attributes _⟩

/-- The price, with one more digit. -/
def longPrice : Document := ⟨.memory "price.xml", some (price "1.50")⟩

theorem violations_longPrice (compiled : Model.compile supply documents = .ok m)
    (isRemarks : m.IsRemarks) : violations m longPrice = [{ Violation.of .invalidValue
      "Value '1.50' does not match the fixed value '1.5'" with path := some "/price" }] := by
  obtain ⟨-, global⟩ := isRemarks.globalElement?
  obtain ⟨-, -, declared⟩ := isRemarks.element?
  obtain ⟨-, -, type⟩ := isRemarks.elementType
  obtain ⟨plain, -, long, simple, -⟩ := exists_price isRemarks
  have written : expectedLiteral m Builtin.decimal.typeId "1.5" = "1.5" := by
    rw [expectedLiteral, plain]
  have look (c : Context) := checkDeclared_of_fixed (e := price "1.50") (k := ⟨true, "1.5"⟩) (c := c)
    compiled declared rfl rfl rfl (by rw [text_price]; decide)
    (by rw [type, text_price]; exact long) rfl
  simp only [type, written, checkOutside, simple] at look
  simp only [violations, checkDocument, longPrice, Element.name, price, bareTag_name, global,
    declared] at look ⊢
  rw [look]
  rfl

/-- A price with one more digit does not pass, though it has the same value. -/
theorem not_fixed_matches : ¬ ∀ (supply : Schema.Supply) (documents : List Document) (m : Model)
    (document : Document) (e : Element) (id : ElementId) (decl : ElementDecl) (k : ValueConstraint)
    (literal : String), Model.compile supply documents = .ok m → document.root = some e →
      rootDeclaration? m document = some id → m.arena.element? id = some decl →
      decl.constraint = some k → k.fixed = true → e.children = [] → e.tag.attributes = .empty →
      m.derived.checkValue (m.elementType id) e.text = .ok literal →
      HasValueOf m (m.elementType id) e.text k.value →
      ∀ v ∈ violations m document, v.kind ≠ .invalidValue := by
  intro always
  obtain ⟨m, compiled, isRemarks, -⟩ := Model.exists_remarks
  obtain ⟨-, -, declared⟩ := isRemarks.element?
  obtain ⟨-, -, type⟩ := isRemarks.elementType
  obtain ⟨-, -, accepted, -⟩ := exists_price isRemarks
  obtain ⟨-, global⟩ := isRemarks.globalElement?
  have root : rootDeclaration? m longPrice = some ⟨2⟩ := by
    simp [rootDeclaration?, longPrice, price, Element.name, bareTag_name, global, declared,
      Model.priceDecl, Model.drawingElement]
  have same : HasValueOf m Builtin.decimal.typeId "1.50" "1.5" :=
    hasValueOf_price (a := .decimal ⟨false, 150, 2⟩) isRemarks (by decide) (by decide)
  have fine := always _ _ m longPrice (price "1.50") _ _ ⟨true, "1.5"⟩ "1.50" compiled rfl root
    declared rfl rfl rfl rfl (by rw [type, text_price]; exact accepted)
    (by rw [type, text_price]; exact same)
  rw [violations_longPrice compiled isRemarks] at fine
  exact fine _ List.mem_cons_self rfl

end Validation

end Xsd
