import Xsd.Schema.Content

/-!
# Complex types in schema documents
-/

namespace Xsd.Schema

/-- The child of a content element that says how the type is derived. -/
def derivationChild (s : Setting) (owner : Element) (found : Option (Element × DerivationMethod))
    (c : Element) : Except Error (Option (Element × DerivationMethod)) := do
  s.expectXsd c
  let method : Option DerivationMethod ← match c.localName with
    | "annotation" => .ok none
    | "restriction" => .ok (some .restriction)
    | "extension" => .ok (some .extension)
    | other => s.refuse c (.unexpectedChild other ("xs:" ++ owner.localName))
  match method, found with
  | none, _ => return found
  | some _, some _ => s.refuse owner (.manyDerivations owner.localName)
  | some method, none => return some (c, method)

def derivation (s : Setting) (e : Element) : Except Error (Element × DerivationMethod) := do
  match ← e.children.foldlM (derivationChild s e) none with
  | some found => .ok found
  | none => s.refuse e (.missingDerivation e.localName)

/-- The base that a derivation names. -/
def baseType (s : Setting) (e : Element) (content : String) : Except Error TypeUse :=
  match e.attribute? "base" with
  | some text => s.typeUse e text
  | none => s.refuse e (.missingBase content)

/-- The attributes and the facets of a derivation, as far as they have been read. -/
def simpleContentChild (inner : Nested) (s : Setting) (method : DerivationMethod)
    (parts : AttributeDecls × List FacetDecl) (c : Element) :
    Assemble (AttributeDecls × List FacetDecl) := do
  s.expectXsd c
  let (decls, facets) := parts
  if c.localName == "annotation" then return parts
  else if isAttributeItem c.localName then return (← typeAttribute inner s decls c, facets)
  else if c.localName == "simpleType" && method == .restriction then
    s.refuse c .inlineContentType
  else
    match FacetKind.ofName? c.localName, method with
    | some kind, .restriction => return (decls, facets ++ [← s.facet c kind])
    | _, _ => s.refuse c (.unexpectedChild c.localName "a simpleContent derivation")

/-- Read simple content. -/
def simpleContent (inner : Nested) (s : Setting) (t : ComplexTypeDef) (e : Element) :
    Assemble ComplexTypeDef := do
  let (c, method) ← derivation s e
  let base ← baseType s c "simpleContent"
  let (decls, facets) ←
    c.children.foldlM (simpleContentChild inner s method) (t.attributes, [])
  return { t with
    base := some base, derivation := method, content := .simple facets, attributes := decls }

/-- An element that stands for a content model. -/
def isContentModel (localName : String) : Bool :=
  localName == "sequence" || localName == "choice" || localName == "all" || localName == "group"

def complexContentChild (inner : Nested) (s : Setting) (owner : Element)
    (parts : AttributeDecls × Option Particle) (c : Element) :
    Assemble (AttributeDecls × Option Particle) := do
  s.expectXsd c
  let (decls, content) := parts
  if c.localName == "annotation" then return parts
  else if isContentModel c.localName then
    if content.isSome then s.refuse owner (.manyContentModels "complexContent derivation")
    else return (decls, some (← particle inner s c))
  else if isAttributeItem c.localName then return (← typeAttribute inner s decls c, content)
  else s.refuse c (.unexpectedChild c.localName "a complexContent derivation")

/-- Read complex content. What it says about mixing takes precedence. -/
def complexContent (inner : Nested) (s : Setting) (t : ComplexTypeDef) (e : Element) :
    Assemble ComplexTypeDef := do
  let mixed := (← s.boolean? e "mixed").getD t.mixed
  let (c, method) ← derivation s e
  let base ← baseType s c "complexContent"
  let (decls, content) ←
    c.children.foldlM (complexContentChild inner s c) (t.attributes, none)
  return { t with
    base := some base, derivation := method, content := .particle content, mixed := mixed
    attributes := decls }

/-- A complex type as far as it has been read; whether it has a content model, and whether that
is a derivation. -/
structure ComplexTypeParts where
  definition : ComplexTypeDef
  hasContent : Bool
  isDerived : Bool

def complexTypeChild (inner : Nested) (s : Setting) (owner : Element) (parts : ComplexTypeParts)
    (c : Element) : Assemble ComplexTypeParts := do
  s.expectXsd c
  let t := parts.definition
  let first (derived : Bool) (read : Assemble ComplexTypeDef) : Assemble ComplexTypeParts := do
    if parts.hasContent then s.refuse owner (.manyContentModels "complexType")
    else return ⟨← read, true, derived⟩
  if c.localName == "annotation" then
    return { parts with
      definition := { t with info := { t.info with annotation := some c.annotation } } }
  else if c.localName == "simpleContent" then first true (simpleContent inner s t c)
  else if c.localName == "complexContent" then first true (complexContent inner s t c)
  else if isContentModel c.localName then
    first false do return { t with content := .particle (some (← particle inner s c)) }
  else if isAttributeItem c.localName then
    if parts.isDerived then s.refuse c .misplacedAttribute
    else
      let decls ← typeAttribute inner s t.attributes c
      return { parts with definition := { t with attributes := decls } }
  else s.refuse c (.unexpectedChild c.localName "xs:complexType")

/-- Read the definition of a complex type. -/
def complexType (inner : Nested) (s : Setting) (name : Option QName) (e : Element) :
    Assemble TypeId := do
  let mixed ← s.boolean e "mixed"
  let isAbstract ← s.boolean e "abstract"
  let start : ComplexTypeDef :=
    { ComplexTypeDef.plain (s.info name) with mixed := mixed, isAbstract := isAbstract }
  let parts ← e.children.foldlM (complexTypeChild inner s e) ⟨start, false, false⟩
  Assemble.enter (·.addType (.complex parts.definition))

/-- Read a complex type that is defined in place. -/
def ownComplexType (inner : Nested) (s : Setting) (e : Element) : Assemble TypeId := do
  unnamed s e
  complexType inner s none e

/-- How to read what is nested in a declaration of at most so many elements' height. -/
def nested (s : Setting) : (height : Nat) → Nested
  | 0 => .none s
  | height + 1 =>
    let inner := nested s height
    ⟨ownSimpleType inner s, ownComplexType inner s, particle inner s⟩

end Xsd.Schema
