import Xsd.Component.Definition
import Xsd.Derivation.Content
import Xsd.Derivation.ValueType
import Xsd.Table

/-!
# Derived types

What types amount to with all that they inherit, and how they derive from each other.
-/

namespace Xsd

/-- An attribute that a type admits. -/
structure EffectiveAttribute where
  name : QName
  declaration : AttributeId
  type : TypeId
  use : AttributeUse
  constraint : Option ValueConstraint
deriving DecidableEq, Repr, Inhabited

/-- Attributes under their names. -/
abbrev AttributeTable := Table QName EffectiveAttribute

inductive ContentLabel where
  | empty
  | simple
  | elementOnly
  | mixed
deriving DecidableEq, Repr, Inhabited

def ContentLabel.name : ContentLabel → String
  | .empty => "Empty"
  | .simple => "Simple"
  | .elementOnly => "ElementOnly"
  | .mixed => "Mixed"

structure ComplexType where
  label : ContentLabel
  content : Option Content
  mixed : Bool
  valueType : Option ValueType
  attributes : AttributeTable
  wildcard : Option Wildcard
  isAbstract : Bool
deriving Repr, Inhabited

inductive EffectiveType where
  | simple (type : ValueType)
  | complex (type : ComplexType)
deriving Repr, Inhabited

structure TypeInfo where
  base : Option TypeId
  derivation : DerivationMethod
  effective : EffectiveType
deriving Repr, Inhabited

/-- The types that could be derived, by number. -/
structure DerivedTypes where
  types : Array (Option TypeInfo)
deriving Inhabited

namespace DerivedTypes

def get? (d : DerivedTypes) (id : TypeId) : Option TypeInfo := d.types[id.index]?.join

def simple? (d : DerivedTypes) (id : TypeId) : Option ValueType :=
  match d.get? id with
  | some ⟨_, _, .simple t⟩ => some t
  | _ => none

def complex? (d : DerivedTypes) (id : TypeId) : Option ComplexType :=
  match d.get? id with
  | some ⟨_, _, .complex t⟩ => some t
  | _ => none

/-- What literals a type admits, if it admits any: those of a simple type or of simple content. -/
def valueType? (d : DerivedTypes) (id : TypeId) : Option ValueType :=
  match d.get? id with
  | some ⟨_, _, .simple t⟩ => some t
  | some ⟨_, _, .complex t⟩ => t.valueType
  | none => none

def base? (d : DerivedTypes) (id : TypeId) : Option TypeId := (d.get? id).bind (·.base)

/-- The bases of a type as long as they are not among those seen. `fuel` bounds their number. -/
def bases (d : DerivedTypes) : (fuel : Nat) → (seen : List TypeId) → TypeId → List TypeId
  | 0, _, _ => []
  | fuel + 1, seen, id =>
    match d.base? id with
    | none => []
    | some base => if seen.contains base then [] else base :: bases d fuel (base :: seen) base

/-- A type, its base, the base of that one, and so on. -/
def chain (d : DerivedTypes) (id : TypeId) : List TypeId := id :: d.bases d.types.size [id] id

def isDerivedFrom (d : DerivedTypes) (id base : TypeId) : Bool := (d.chain id).contains base

/-- Look at a literal of a type. -/
def checkValue (d : DerivedTypes) (id : TypeId) (text : String) : Except Violation String :=
  match d.valueType? id with
  | some t => t.check text
  | none =>
    .error (.of .unknownComponent s!"{(ComponentId.type id).render} has no simple value type")

end DerivedTypes

end Xsd
