import Xsd.Schema.Attribute

/-!
# Elements and groups in schema documents
-/

namespace Xsd.Schema

/-- A declaration as far as it has been read, and the type that is defined in place. -/
structure ElementParts where
  info : ComponentInfo
  own : Option TypeId

def elementChild (inner : Nested) (s : Setting) (owner : Element) (parts : ElementParts)
    (c : Element) : Assemble ElementParts := do
  s.expectXsd c
  let first (read : Assemble TypeId) : Assemble ElementParts := do
    if parts.own.isSome then s.refuse owner .manyInlineTypes
    else return { parts with own := some (← read) }
  match c.localName with
  | "annotation" =>
    return { parts with info := { parts.info with annotation := some c.annotation } }
  | "simpleType" => first (inner.simpleType c)
  | "complexType" => first (inner.complexType c)
  | "unique" => return parts
  | "key" => return parts
  | "keyref" => return parts
  | other => s.refuse c (.unexpectedChild other "xs:element")

/-- Read what global and local declarations of elements have in common. -/
def elementDecl (inner : Nested) (s : Setting) (info : ComponentInfo) (e : Element) :
    Assemble ElementDecl := do
  let parts ← e.children.foldlM (elementChild inner s e) ⟨info, none⟩
  let type ← declaredType s e "element" parts.own
  let constraint ← s.valueConstraint e
  let nillable ← s.boolean e "nillable"
  return ⟨parts.info, type, none, constraint, nillable, false⟩

/-- Read an element declaration that is not local. -/
def globalElement (inner : Nested) (s : Setting) (e : Element) : Assemble Unit := do
  s.forbid e ["ref", "minOccurs", "maxOccurs", "form"] "a global element"
  let name ← s.globalName e
  let decl ← elementDecl inner s (.ofGlobal name s.document) e
  let head ← match e.attribute? "substitutionGroup" with
    | some text => pure (some (.unbound (← s.resolve e text)))
    | none => pure none
  let isAbstract ← s.boolean e "abstract"
  let id ← Assemble.enter (·.addElement { decl with head := head, isAbstract := isAbstract })
  Assemble.declare name (.element id)

/-- Read an element as part of some content: a reference, or a declaration in place. -/
def elementParticle (inner : Nested) (s : Setting) (e : Element) : Assemble Particle := do
  let occurs ← s.occurs e
  match e.attribute? "ref" with
  | some text =>
    s.forbid e ["name", "type", "nillable", "default", "fixed", "form", "block"]
      "an element reference"
    if e.children.any fun c => c.localName != "annotation" then s.refuse e .referenceWithType
    else return .element occurs (.named (.unbound (← s.resolve e text)))
  | none =>
    s.forbid e ["substitutionGroup", "abstract", "final"] "a local element"
    let name ← s.localName e s.elementsQualified
    let decl ← elementDecl inner s (.ofLocal (some name) s.document) e
    return .element occurs (.own (← Assemble.enter (·.addElement decl)))

/-- Read the use of a named group. -/
def groupUse (s : Setting) (e : Element) : Except Error Particle := do
  match e.attribute? "ref" with
  | none => s.refuse e (.missingRef "group")
  | some text =>
    s.forbid e ["name"] "a group reference"
    s.annotationOnly e
    let occurs ← s.occurs e
    return .groupUse occurs (.unbound (← s.resolve e text))

def wildcardParticle (s : Setting) (e : Element) : Except Error Particle := do
  let occurs ← s.occurs e
  s.annotationOnly e
  return .wildcard occurs (← s.wildcard e)

/-- A member of an `all` group occurs at most once. -/
def fitsAll (p : Particle) : Bool :=
  match p.occurs.max with
  | some max => max ≤ 1
  | none => false

def groupChild (inner : Nested) (s : Setting) (compositor : Compositor) (members : List Particle)
    (c : Element) : Assemble (List Particle) := do
  s.expectXsd c
  match c.localName with
  | "annotation" => return members
  | "element" =>
    let particle ← elementParticle inner s c
    if compositor = .all && !fitsAll particle then s.refuse c .allMemberOccurs
    else return members ++ [particle]
  | "all" => s.refuse c .nestedAll
  | other =>
    if compositor ≠ .all &&
        (other == "any" || other == "group" || other == "sequence" || other == "choice") then
      return members ++ [← inner.particle c]
    else s.refuse c (.unexpectedChild other ("xs:" ++ compositor.name))

/-- Read the members of a group. -/
def modelGroup (inner : Nested) (s : Setting) (compositor : Compositor) (e : Element) :
    Assemble ModelGroup := do
  return ⟨compositor, ← e.children.foldlM (groupChild inner s compositor) []⟩

/-- A group of the compositor can occur so often. -/
def admitsOccurs (compositor : Compositor) (occurs : Occurs) : Bool :=
  compositor != .all || (occurs.min ≤ 1 && occurs.max == some 1)

/-- Read a group as part of some content. -/
def groupParticle (inner : Nested) (s : Setting) (compositor : Compositor) (e : Element) :
    Assemble Particle := do
  let occurs ← s.occurs e
  let group ← modelGroup inner s compositor e
  if admitsOccurs compositor occurs then return .group occurs group.compositor group.particles
  else s.refuse e .allOccurs

/-- Read a wildcard, a group or the use of a group. -/
def particle (inner : Nested) (s : Setting) (e : Element) : Assemble Particle := do
  match e.localName with
  | "any" => wildcardParticle s e
  | "group" => groupUse s e
  | other =>
    match Compositor.ofName? other with
    | some compositor => groupParticle inner s compositor e
    | none => s.refuse e .groupContent

def globalGroupChild (inner : Nested) (s : Setting) (owner : Element)
    (parts : ComponentInfo × Option ModelGroup) (c : Element) :
    Assemble (ComponentInfo × Option ModelGroup) := do
  s.expectXsd c
  let (info, group) := parts
  if c.localName == "annotation" then
    return ({ info with annotation := some c.annotation }, group)
  else
    match Compositor.ofName? c.localName, group with
    | some compositor, none =>
      s.forbid c ["minOccurs", "maxOccurs"] "the compositor of a group definition"
      return (info, some (← modelGroup inner s compositor c))
    | _, _ => s.refuse owner .groupContent

/-- Read the definition of a named group. -/
def globalGroup (inner : Nested) (s : Setting) (e : Element) : Assemble Unit := do
  s.forbid e ["ref", "minOccurs", "maxOccurs"] "a group definition"
  let name ← s.globalName e
  let (info, group) ←
    e.children.foldlM (globalGroupChild inner s e) (.ofGlobal name s.document, none)
  match group with
  | none => s.refuse e .groupContent
  | some group =>
    let id ← Assemble.enter (·.addGroup ⟨info, group⟩)
    Assemble.declare name (.group id)

end Xsd.Schema
