import Xsd.Builtin.Basic
import Xsd.Component.Particle

/-!
# Definitions and declarations

The components of each category as a schema declares them, with their references.
-/

namespace Xsd

/-- A type named, or defined in place. -/
inductive TypeUse where
  | named (reference : Reference TypeId)
  | own (id : TypeId)
deriving DecidableEq, Repr, Inhabited

namespace TypeUse

/-- A type of the schema language itself, which needs no resolving. -/
def known (localName : String) (id : TypeId) : TypeUse := .named ⟨.xsd localName, some id⟩

def anyType : TypeUse := known "anyType" .anyType

def anySimpleType : TypeUse := known "anySimpleType" .anySimpleType

def target : TypeUse → Option TypeId
  | .named r => r.target
  | .own id => some id

def references : TypeUse → List AnyReference
  | .named r => [.type r]
  | .own _ => []

def bindWith (b : Binder) : TypeUse → TypeUse
  | .named r => .named (b.typeRef r)
  | .own id => .own id

end TypeUse

/-! ## Attributes -/

/-- An attribute declared in place, or named. -/
inductive AttributeSource where
  | own (id : AttributeId)
  | named (reference : Reference AttributeId)
deriving DecidableEq, Repr, Inhabited

def AttributeSource.target : AttributeSource → Option AttributeId
  | .own id => some id
  | .named r => r.target

/-- Whether an attribute has to be there, may be, or must not. -/
inductive AttributeUse where
  | optional
  | required
  | prohibited
deriving DecidableEq, Repr, Inhabited

namespace AttributeUse

def name : AttributeUse → String
  | .optional => "optional"
  | .required => "required"
  | .prohibited => "prohibited"

def ofName? : String → Option AttributeUse
  | "optional" => some .optional
  | "required" => some .required
  | "prohibited" => some .prohibited
  | _ => none

def occurs : AttributeUse → Occurs
  | .optional => .optional
  | .required => .once
  | .prohibited => .never

end AttributeUse

/-- An attribute as a type or an attribute group uses it. -/
structure AttributeUseDecl where
  source : AttributeSource
  use : AttributeUse
  constraint : Option ValueConstraint
deriving DecidableEq, Repr, Inhabited

namespace AttributeUseDecl

def references (a : AttributeUseDecl) : List AnyReference :=
  match a.source with
  | .own _ => []
  | .named r => [.attribute r]

def bindWith (b : Binder) (a : AttributeUseDecl) : AttributeUseDecl :=
  match a.source with
  | .own _ => a
  | .named r => { a with source := .named (b.attributeRef r) }

end AttributeUseDecl

/-- The attributes that a type or an attribute group declares. -/
structure AttributeDecls where
  uses : List AttributeUseDecl := []
  groups : List (Reference AttributeGroupId) := []
  wildcard : Option Wildcard := none
deriving DecidableEq, Repr, Inhabited

namespace AttributeDecls

def references (a : AttributeDecls) : List AnyReference :=
  a.uses.flatMap (·.references) ++ a.groups.map .attributeGroup

def bindWith (b : Binder) (a : AttributeDecls) : AttributeDecls :=
  { a with uses := a.uses.map (·.bindWith b), groups := a.groups.map b.attributeGroupRef }

end AttributeDecls

structure AttributeDecl where
  info : ComponentInfo
  type : Option TypeUse
  constraint : Option ValueConstraint
deriving DecidableEq, Repr, Inhabited

structure AttributeGroupDef where
  info : ComponentInfo
  attributes : AttributeDecls
deriving DecidableEq, Repr, Inhabited

/-! ## Types -/

inductive DerivationMethod where
  | restriction
  | extension
  | none
deriving DecidableEq, Repr, Inhabited

def DerivationMethod.name : DerivationMethod → String
  | .restriction => "restriction"
  | .extension => "extension"
  | .none => "none"

/-- How a simple type is made from others. -/
inductive SimpleVariety where
  | restriction (base : TypeUse) (facets : List FacetDecl)
  | list (item : TypeUse)
  | union (members : List TypeUse)
deriving DecidableEq, Repr, Inhabited

namespace SimpleVariety

def references : SimpleVariety → List AnyReference
  | .restriction base _ => base.references
  | .list item => item.references
  | .union members => members.flatMap (·.references)

def bindWith (b : Binder) : SimpleVariety → SimpleVariety
  | .restriction base facets => .restriction (base.bindWith b) facets
  | .list item => .list (item.bindWith b)
  | .union members => .union (members.map (·.bindWith b))

end SimpleVariety

structure SimpleTypeDef where
  info : ComponentInfo
  variety : SimpleVariety
  /-- The builtin type that is defined here, if it is one. -/
  builtin : Option Builtin
deriving DecidableEq, Repr, Inhabited

/-- The content that a complex type declares. -/
inductive ContentDecl where
  | particle (particle : Option Particle)
  | simple (facets : List FacetDecl)
deriving Repr, Inhabited

structure ComplexTypeDef where
  info : ComponentInfo
  base : Option TypeUse
  derivation : DerivationMethod
  content : ContentDecl
  mixed : Bool
  isAbstract : Bool
  attributes : AttributeDecls
deriving Repr, Inhabited

namespace ComplexTypeDef

/-- A type that says nothing about itself: it restricts the most general type. -/
def plain (info : ComponentInfo) : ComplexTypeDef :=
  ⟨info, some .anyType, .restriction, .particle none, false, false, {}⟩

def references (t : ComplexTypeDef) : List AnyReference :=
  (t.base.map (·.references)).getD [] ++
    (match t.content with
      | .particle (some p) => p.references
      | _ => []) ++
    t.attributes.references

def bindWith (b : Binder) (t : ComplexTypeDef) : ComplexTypeDef :=
  { t with
    base := t.base.map (·.bindWith b)
    content := match t.content with
      | .particle p => .particle (p.map (·.bindWith b))
      | .simple facets => .simple facets
    attributes := t.attributes.bindWith b }

end ComplexTypeDef

inductive TypeDefinition where
  | simple (definition : SimpleTypeDef)
  | complex (definition : ComplexTypeDef)
deriving Repr, Inhabited

namespace TypeDefinition

def info : TypeDefinition → ComponentInfo
  | .simple t => t.info
  | .complex t => t.info

def isSimple : TypeDefinition → Bool
  | .simple _ => true
  | .complex _ => false

def references : TypeDefinition → List AnyReference
  | .simple t => t.variety.references
  | .complex t => t.references

def bindWith (b : Binder) : TypeDefinition → TypeDefinition
  | .simple t => .simple { t with variety := t.variety.bindWith b }
  | .complex t => .complex (t.bindWith b)

def setState (s : ResolutionState) : TypeDefinition → TypeDefinition
  | .simple t => .simple { t with info := { t.info with state := s } }
  | .complex t => .complex { t with info := { t.info with state := s } }

end TypeDefinition

/-! ## Elements and groups -/

structure ElementDecl where
  info : ComponentInfo
  type : Option TypeUse
  /-- The element that this one may stand in for. -/
  head : Option (Reference ElementId)
  constraint : Option ValueConstraint
  nillable : Bool
  isAbstract : Bool
deriving DecidableEq, Repr, Inhabited

namespace ElementDecl

def plain (info : ComponentInfo) : ElementDecl := ⟨info, none, none, none, false, false⟩

def references (e : ElementDecl) : List AnyReference :=
  (e.type.map (·.references)).getD [] ++ (e.head.map fun r => [AnyReference.element r]).getD []

def bindWith (b : Binder) (e : ElementDecl) : ElementDecl :=
  { e with type := e.type.map (·.bindWith b), head := e.head.map b.elementRef }

end ElementDecl

namespace AttributeDecl

def references (a : AttributeDecl) : List AnyReference := (a.type.map (·.references)).getD []

def bindWith (b : Binder) (a : AttributeDecl) : AttributeDecl :=
  { a with type := a.type.map (·.bindWith b) }

end AttributeDecl

structure GroupDef where
  info : ComponentInfo
  group : ModelGroup
deriving Repr, Inhabited

end Xsd
