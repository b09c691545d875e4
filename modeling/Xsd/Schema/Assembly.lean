import Xsd.Arena
import Xsd.Error
import Xsd.Registry

/-!
# Assembly

What a schema consists of while its documents are being read: the components and names so far, and
the errors that did not stop the reading. A computation that fails keeps what it has assembled.
-/

namespace Xsd

structure Assembly where
  arena : Arena
  registry : Registry
  errors : List Error
deriving Inhabited

/-- Nothing but what is there from the start. -/
def Assembly.initial : Assembly := ⟨.initial Registry.builtinDocument, .initial, []⟩

/-- A step of the assembly. -/
abbrev Assemble (α : Type) : Type := ExceptT Error (StateM Assembly) α

namespace Assemble

/-- Note an error and go on. -/
def note (e : Error) : Assemble Unit :=
  modify fun a => { a with errors := a.errors ++ [e] }

/-- Give a component that `insert` enters its number. -/
def enter {α : Type} (insert : Arena → α × Arena) : Assemble α :=
  modifyGet fun a =>
    let (id, arena) := insert a.arena
    (id, { a with arena := arena })

/-- Declare a name. That it is taken is noted. -/
def declare (name : QName) (id : ComponentId) : Assemble Unit := do
  match (← get).registry.declare? name id with
  | some registry => modify fun a => { a with registry := registry }
  | none => note (.duplicateDeclaration name id.category)

end Assemble

/-- What holds for a schema document as a whole. -/
structure Setting where
  document : DocumentId
  location : Location
  target : Namespace
  /-- The document has no target namespace of its own and takes that of the one that includes it;
  so do names that are in no namespace. -/
  adopted : Bool
  elementsQualified : Bool
  attributesQualified : Bool
deriving Inhabited

namespace Setting

/-- An error at an element of the document. -/
def error (s : Setting) (e : Element) (fault : SchemaFault) : Error :=
  let label := match e.attribute? "name" with
    | some name => some name
    | none => e.attribute? "ref"
  .schemaStructure fault (some (.element s.location e.tag.position e.localName label))

def refuse {α : Type} (s : Setting) (e : Element) (fault : SchemaFault) : Except Error α :=
  .error (s.error e fault)

/-- The element is one of the schema language. -/
def expectXsd (s : Setting) (e : Element) : Except Error Unit :=
  if e.name.isXsd then .ok () else s.refuse e (.foreignElement e.name)

/-- The element has none of the attributes. -/
def forbid (s : Setting) (e : Element) (words : List String) (owner : String) :
    Except Error Unit :=
  match words.find? fun word => (e.attribute? word).isSome with
  | some word => s.refuse e (.forbidden word owner)
  | none => .ok ()

/-- The element holds annotations only. -/
def annotationOnly (s : Setting) (e : Element) : Except Error Unit :=
  match e.children.find? fun c => c.localName != "annotation" with
  | some c => s.refuse c (.unexpectedChild c.localName ("xs:" ++ e.localName))
  | none => .ok ()

/-- A truth value, blanks around it apart. -/
def boolean? (s : Setting) (e : Element) (word : String) : Except Error (Option Bool) :=
  match (e.attribute? word).map Text.trim with
  | none => .ok none
  | some "true" => .ok (some true)
  | some "1" => .ok (some true)
  | some "false" => .ok (some false)
  | some "0" => .ok (some false)
  | some other => s.refuse e (.invalidBoolean other word)

def boolean (s : Setting) (e : Element) (word : String) : Except Error Bool := do
  return (← s.boolean? e word).getD false

/-- The name that the element gives to what it declares. -/
def ncName (s : Setting) (e : Element) : Except Error String :=
  match e.attribute? "name" with
  | none => s.refuse e .missingName
  | some name =>
    match Name.checkNCName name with
    | .error fault => s.refuse e (.badName fault)
    | .ok () => .ok name

/-- The name of a component that can be used from anywhere. -/
def globalName (s : Setting) (e : Element) : Except Error QName := do
  return ⟨s.target, ← s.ncName e⟩

/-- The name of a component that is known in its place only. It is in the target namespace if it
says so, or, if it says nothing, if the document says so. -/
def localName (s : Setting) (e : Element) (qualified : Bool) : Except Error QName := do
  let name ← s.ncName e
  let qualified ← match e.attribute? "form" with
    | none => .ok qualified
    | some "qualified" => .ok true
    | some "unqualified" => .ok false
    | some other => s.refuse e (.invalidForm other)
  return ⟨if qualified then s.target else none, name⟩

/-- The name that a text stands for at an element. -/
def resolve (s : Setting) (e : Element) (text : String) : Except Error QName :=
  match e.resolve text with
  | .error fault => s.refuse e (.unresolvedName text fault)
  | .ok name => .ok (if s.adopted && name.ns.isNone then { name with ns := s.target } else name)

/-- A type that is spoken of by name. -/
def typeUse (s : Setting) (e : Element) (text : String) : Except Error TypeUse := do
  return .named (.unbound (← s.resolve e text))

def occurs (s : Setting) (e : Element) : Except Error Occurs :=
  match Occurs.parse (e.attribute? "minOccurs") (e.attribute? "maxOccurs") with
  | .error fault => s.refuse e (.occurs fault)
  | .ok o => .ok o

def valueConstraint (s : Setting) (e : Element) : Except Error (Option ValueConstraint) :=
  match e.attribute? "default", e.attribute? "fixed" with
  | some _, some _ => s.refuse e .defaultAndFixed
  | some value, none => .ok (some ⟨false, value⟩)
  | none, some value => .ok (some ⟨true, value⟩)
  | none, none => .ok none

def wildcard (s : Setting) (e : Element) : Except Error Wildcard := do
  let constraint ←
    match NamespaceConstraint.parse ((e.attribute? "namespace").getD "##any") s.target with
    | .error word => s.refuse e (.namespaceWord word)
    | .ok constraint => .ok constraint
  let process ← match e.attribute? "processContents" with
    | none => .ok .strict
    | some word =>
      match ProcessContents.ofName? word with
      | some process => .ok process
      | none => s.refuse e (.invalidProcessContents word)
  return ⟨constraint, process⟩

def facet (s : Setting) (e : Element) (kind : FacetKind) : Except Error FacetDecl := do
  match e.attribute? "value" with
  | none => s.refuse e (.facetWithoutValue kind)
  | some value => return ⟨kind, value, ← s.boolean e "fixed"⟩

/-- What is known of a component from the start. One without a name is known in its place only. -/
def info (s : Setting) : Option QName → ComponentInfo
  | some name => .ofGlobal name s.document
  | none => .ofLocal none s.document

end Setting

/-- The texts of an annotation, without the blanks around them. -/
def Element.annotation (e : Element) : Annotation :=
  let texts (localName : String) := (e.childrenNamed localName).map fun c => Text.trim c.text
  ⟨texts "documentation", texts "appinfo"⟩

/-- How to read what is nested in the parts of a declaration. -/
structure Nested where
  /-- A simple type defined in place. -/
  simpleType : Element → Assemble TypeId
  /-- A complex type defined in place. -/
  complexType : Element → Assemble TypeId
  /-- A group or wildcard inside a group. -/
  particle : Element → Assemble Particle

/-- Nothing can be nested any deeper. -/
def Nested.none (s : Setting) : Nested :=
  let refuse {α : Type} (e : Element) : Assemble α := s.refuse e .tooDeep
  ⟨refuse, refuse, refuse⟩

end Xsd
