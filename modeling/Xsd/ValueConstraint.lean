import Xsd.Substitution

/-!
# Value constraints

Default and fixed values have to be values of the type of the element or attribute that they belong
to.
-/

namespace Xsd

/-- The error of a value that the type does not admit. -/
def ValueConstraint.typeError? (c : ValueConstraint) (d : DerivedTypes) (component : String)
    (type : TypeId) : Option Error :=
  match d.checkValue type c.value with
  | .ok _ => none
  | .error v => some (.invalidValueConstraint component c (.violation v))

/-- Text alone may stand in the place of the content. -/
def ComplexType.admitsText (t : ComplexType) : Bool :=
  t.mixed && ((t.content.map fun c => c.occurs.min == 0 || c.isEmpty).getD true)

/-- The error of the value constraint of an element, if it has one that is wrong. -/
def Arena.elementConstraintError? (a : Arena) (d : DerivedTypes) (id : ElementId) :
    Option Error := do
  let e ← a.element? id
  let c ← e.constraint
  let type := a.elementType id
  let info ← d.get? type
  let component := e.info.describe .element
  let ofType := c.typeError? d component type
  match info.effective with
  | .simple _ => ofType
  | .complex t =>
    if t.valueType.isSome then ofType
    else if t.admitsText then none
    else some (.invalidValueConstraint component c .noValue)

/-- The errors of the value constraints of the attributes of a type. -/
def Arena.attributeConstraintErrors (a : Arena) (d : DerivedTypes) (id : TypeId) : List Error :=
  match d.complex? id with
  | none => []
  | some t =>
    t.attributes.values.filterMap fun x =>
      x.constraint.bind fun c =>
        c.typeError? d s!"attribute '{x.name.clark}' of {a.typeName id}" x.type

/-- The errors of all value constraints, those of elements first. -/
def Arena.constraintErrors (a : Arena) (d : DerivedTypes) : List Error :=
  a.elementIds.filterMap (a.elementConstraintError? d) ++
    a.typeIds.flatMap (a.attributeConstraintErrors d)

end Xsd
