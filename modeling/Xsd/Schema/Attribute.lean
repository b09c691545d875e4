import Xsd.Schema.SimpleType

/-!
# Attributes in schema documents
-/

namespace Xsd.Schema

def attributeChild (inner : Nested) (s : Setting) (parts : ComponentInfo × Option TypeId)
    (c : Element) : Assemble (ComponentInfo × Option TypeId) := do
  s.expectXsd c
  let (info, own) := parts
  match c.localName, own with
  | "annotation", _ => return ({ info with annotation := some c.annotation }, own)
  | "simpleType", none => return (info, some (← inner.simpleType c))
  | other, _ => s.refuse c (.unexpectedChild other "xs:attribute")

/-- Read the declaration of an attribute. -/
def attributeDecl (inner : Nested) (s : Setting) (info : ComponentInfo) (e : Element) :
    Assemble AttributeDecl := do
  let (info, own) ← e.children.foldlM (attributeChild inner s) (info, none)
  let type ← declaredType s e "attribute" own
  return ⟨info, type, ← s.valueConstraint e⟩

/-- Read an attribute declaration that is not local. -/
def globalAttribute (inner : Nested) (s : Setting) (e : Element) : Assemble Unit := do
  s.forbid e ["ref", "use", "form"] "a global attribute"
  let name ← s.globalName e
  let decl ← attributeDecl inner s (.ofGlobal name s.document) e
  let id ← Assemble.enter (·.addAttribute decl)
  Assemble.declare name (.attribute id)

/-- How an attribute is used. One that need not be there only can have a default value. -/
def attributeUse (s : Setting) (e : Element) :
    Except Error (AttributeUse × Option ValueConstraint) := do
  let use ← match e.attribute? "use" with
    | none => .ok .optional
    | some word =>
      match AttributeUse.ofName? word with
      | some use => .ok use
      | none => s.refuse e (.invalidUse word)
  let constraint ← s.valueConstraint e
  match constraint with
  | some c =>
    if !c.fixed && use != .optional then s.refuse e .defaultNotOptional
    else return (use, constraint)
  | none => return (use, constraint)

/-- Read the use of an attribute: a reference, or a declaration in place. The value constraint of
the latter belongs to the declaration. -/
def localAttribute (inner : Nested) (s : Setting) (e : Element) : Assemble AttributeUseDecl := do
  let (use, constraint) ← attributeUse s e
  match e.attribute? "ref" with
  | some text =>
    s.forbid e ["name", "type", "form"] "an attribute reference"
    s.annotationOnly e
    return ⟨.named (.unbound (← s.resolve e text)), use, constraint⟩
  | none =>
    let name ← s.localName e s.attributesQualified
    let decl ← attributeDecl inner s (.ofLocal (some name) s.document) e
    return ⟨.own (← Assemble.enter (·.addAttribute decl)), use, none⟩

/-- Read the use of an attribute group. -/
def attributeGroupUse (s : Setting) (e : Element) : Except Error (Reference AttributeGroupId) := do
  match e.attribute? "ref" with
  | none => s.refuse e (.missingRef "attributeGroup")
  | some text =>
    s.annotationOnly e
    return .unbound (← s.resolve e text)

/-- An element that declares attributes. -/
def isAttributeItem (localName : String) : Bool :=
  localName == "attribute" || localName == "attributeGroup" || localName == "anyAttribute"

/-- Read an element that declares attributes, in addition to others. -/
def attributeItem (inner : Nested) (s : Setting) (decls : AttributeDecls) (e : Element) :
    Assemble AttributeDecls := do
  match e.localName with
  | "attributeGroup" => return { decls with groups := decls.groups ++ [← attributeGroupUse s e] }
  | "anyAttribute" =>
    s.annotationOnly e
    return { decls with wildcard := some (← s.wildcard e) }
  | _ => return { decls with uses := decls.uses ++ [← localAttribute inner s e] }

def attributeGroupChild (inner : Nested) (s : Setting) (parts : ComponentInfo × AttributeDecls)
    (c : Element) : Assemble (ComponentInfo × AttributeDecls) := do
  s.expectXsd c
  let (info, decls) := parts
  if c.localName == "annotation" then
    return ({ info with annotation := some c.annotation }, decls)
  else if isAttributeItem c.localName then
    if decls.wildcard.isSome then s.refuse c .wildcardNotLast
    else return (info, ← attributeItem inner s decls c)
  else s.refuse c (.unexpectedChild c.localName "xs:attributeGroup")

/-- Read the definition of an attribute group. -/
def globalAttributeGroup (inner : Nested) (s : Setting) (e : Element) : Assemble Unit := do
  s.forbid e ["ref"] "an attribute group definition"
  let name ← s.globalName e
  let (info, decls) ←
    e.children.foldlM (attributeGroupChild inner s) (.ofGlobal name s.document, {})
  let id ← Assemble.enter (·.addAttributeGroup ⟨info, decls⟩)
  Assemble.declare name (.attributeGroup id)

/-- Read an element that declares attributes of a type. Nothing follows a wildcard; an element that
does is read before it is refused. -/
def typeAttribute (inner : Nested) (s : Setting) (decls : AttributeDecls) (c : Element) :
    Assemble AttributeDecls := do
  let extended ← attributeItem inner s decls c
  if decls.wildcard.isSome then s.refuse c .wildcardNotLast else return extended

end Xsd.Schema
