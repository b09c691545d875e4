import Xsd.QName

/-!
# Schema components

What components of all categories have in common: their numbers, how far their references are
resolved, and the references themselves.
-/

namespace Xsd

/-- The number of a type definition. -/
structure TypeId where
  index : Nat
deriving DecidableEq, Hashable, Ord, Repr, Inhabited

structure ElementId where
  index : Nat
deriving DecidableEq, Hashable, Ord, Repr, Inhabited

structure AttributeId where
  index : Nat
deriving DecidableEq, Hashable, Ord, Repr, Inhabited

/-- The number of a named model group. -/
structure GroupId where
  index : Nat
deriving DecidableEq, Hashable, Ord, Repr, Inhabited

structure AttributeGroupId where
  index : Nat
deriving DecidableEq, Hashable, Ord, Repr, Inhabited

/-- The number of a schema document. -/
structure DocumentId where
  index : Nat
deriving DecidableEq, Hashable, Ord, Repr, Inhabited

/-- The type from which every other one derives. -/
def TypeId.anyType : TypeId := ⟨0⟩

/-- The type from which every other simple type derives. -/
def TypeId.anySimpleType : TypeId := ⟨1⟩

/-- The symbol spaces of names. -/
inductive Category where
  | type
  | element
  | attribute
  | group
  | attributeGroup
deriving DecidableEq, Hashable, Ord, Repr, Inhabited

namespace Category

def name : Category → String
  | .type => "type"
  | .element => "element"
  | .attribute => "attribute"
  | .group => "group"
  | .attributeGroup => "attributeGroup"

def all : List Category := [.type, .element, .attribute, .group, .attributeGroup]

end Category

/-- The number of a component with its category. Numbers are ordered by category first. -/
inductive ComponentId where
  | type (id : TypeId)
  | element (id : ElementId)
  | attribute (id : AttributeId)
  | group (id : GroupId)
  | attributeGroup (id : AttributeGroupId)
deriving DecidableEq, Hashable, Ord, Repr, Inhabited

namespace ComponentId

def category : ComponentId → Category
  | .type _ => .type
  | .element _ => .element
  | .attribute _ => .attribute
  | .group _ => .group
  | .attributeGroup _ => .attributeGroup

/-- The form in which messages show a number. -/
def render : ComponentId → String
  | .type id => s!"TypeId#{id.index}"
  | .element id => s!"ElementId#{id.index}"
  | .attribute id => s!"AttributeId#{id.index}"
  | .group id => s!"GroupId#{id.index}"
  | .attributeGroup id => s!"AttributeGroupId#{id.index}"

end ComponentId

/-! ## Resolution -/

/-- How far the references of a component are resolved. -/
inductive ResolutionState where
  | unresolved
  | resolving
  | resolved
  | failed
deriving DecidableEq, Repr, Inhabited

namespace ResolutionState

def name : ResolutionState → String
  | .unresolved => "Unresolved"
  | .resolving => "Resolving"
  | .resolved => "Resolved"
  | .failed => "Failed"

/-- A step from one state to another, possible only in the first. -/
def step (before after state : ResolutionState) : Option ResolutionState :=
  if state = before then some after else none

/-- Start to resolve. -/
def claim : ResolutionState → Option ResolutionState := step .unresolved .resolving

/-- All references have been bound. -/
def complete : ResolutionState → Option ResolutionState := step .resolving .resolved

/-- Leave the rest for later. -/
def release : ResolutionState → Option ResolutionState := step .resolving .unresolved

/-- Give up. -/
def fail : ResolutionState → Option ResolutionState := step .unresolved .failed

end ResolutionState

/-- A component named by another one, and the one that the name has been bound to. -/
structure Reference (α : Type) where
  name : QName
  target : Option α
deriving DecidableEq, Repr, Inhabited

namespace Reference

variable {α : Type}

/-- A reference that is not bound yet. -/
def unbound (name : QName) : Reference α := ⟨name, none⟩

def isBound (r : Reference α) : Bool := r.target.isSome

/-- Bind the reference. It stays with its first target. -/
def bind? [DecidableEq α] (r : Reference α) (target : α) : Option (Reference α) :=
  match r.target with
  | none => some { r with target := some target }
  | some t => if t = target then some r else none

end Reference

/-- A reference of any category. -/
inductive AnyReference where
  | type (r : Reference TypeId)
  | element (r : Reference ElementId)
  | attribute (r : Reference AttributeId)
  | group (r : Reference GroupId)
  | attributeGroup (r : Reference AttributeGroupId)
deriving DecidableEq, Repr, Inhabited

namespace AnyReference

def name : AnyReference → QName
  | .type r => r.name
  | .element r => r.name
  | .attribute r => r.name
  | .group r => r.name
  | .attributeGroup r => r.name

def category : AnyReference → Category
  | .type _ => .type
  | .element _ => .element
  | .attribute _ => .attribute
  | .group _ => .group
  | .attributeGroup _ => .attributeGroup

/-- The component to which the reference is bound. -/
def target : AnyReference → Option ComponentId
  | .type r => r.target.map .type
  | .element r => r.target.map .element
  | .attribute r => r.target.map .attribute
  | .group r => r.target.map .group
  | .attributeGroup r => r.target.map .attributeGroup

def isBound (r : AnyReference) : Bool := r.target.isSome

/-- Bind the reference to a component of its own category. -/
def bind? : AnyReference → ComponentId → Option AnyReference
  | .type r, .type id => (r.bind? id).map .type
  | .element r, .element id => (r.bind? id).map .element
  | .attribute r, .attribute id => (r.bind? id).map .attribute
  | .group r, .group id => (r.bind? id).map .group
  | .attributeGroup r, .attributeGroup id => (r.bind? id).map .attributeGroup
  | _, _ => none

end AnyReference

/-! ## Common properties -/

/-- What a schema says about a component for its readers and for other programs. -/
structure Annotation where
  documentation : List String
  appinfo : List String
deriving DecidableEq, Repr, Inhabited

/-- A value that an element or attribute has if none is given, or always. -/
structure ValueConstraint where
  fixed : Bool
  value : String
deriving DecidableEq, Repr, Inhabited

def ValueConstraint.keyword (c : ValueConstraint) : String := if c.fixed then "fixed" else "default"

structure ComponentInfo where
  name : Option QName
  /-- The component can be named from anywhere. -/
  isGlobal : Bool
  document : DocumentId
  state : ResolutionState
  annotation : Option Annotation
deriving DecidableEq, Repr, Inhabited

namespace ComponentInfo

def ofGlobal (name : QName) (document : DocumentId) : ComponentInfo :=
  ⟨some name, true, document, .unresolved, none⟩

def ofLocal (name : Option QName) (document : DocumentId) : ComponentInfo :=
  ⟨name, false, document, .unresolved, none⟩

/-- The form in which messages name a component. -/
def describe (info : ComponentInfo) (category : Category) : String :=
  match info.name with
  | some name =>
    if info.isGlobal then s!"{category.name} '{name.clark}'"
    else s!"local {category.name} '{name.clark}'"
  | none => s!"anonymous {category.name}"

end ComponentInfo

end Xsd
