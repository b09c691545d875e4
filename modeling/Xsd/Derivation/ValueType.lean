import Xsd.Builtin.Basic
import Xsd.Facet.FacetSet

/-!
# Value types

What literals a simple type admits, all that it inherits included: the facets in force and, for
lists and unions, the types of their items and members.
-/

namespace Xsd

inductive ValueType where
  | atomic (facets : FacetSet) (builtin : Option Builtin)
  | list (facets : FacetSet) (itemId : TypeId) (item : ValueType)
  | union (facets : FacetSet) (memberIds : List TypeId) (members : List ValueType)
deriving Repr, Inhabited

namespace ValueType

/-- The most general value type: any text as it is. -/
def any : ValueType := .atomic .empty none

def facets : ValueType → FacetSet
  | .atomic facets _ => facets
  | .list facets _ _ => facets
  | .union facets _ _ => facets

def withFacets (facets : FacetSet) : ValueType → ValueType
  | .atomic _ builtin => .atomic facets builtin
  | .list _ itemId item => .list facets itemId item
  | .union _ memberIds members => .union facets memberIds members

/-- The builtin type whose literals atomic values are. -/
def builtin? : ValueType → Option Builtin
  | .atomic _ builtin => builtin
  | _ => none

def isList : ValueType → Bool
  | .list _ _ _ => true
  | _ => false

/-- The space in which values are compared. Only builtin types have one. -/
def space (t : ValueType) : ValueSpace := (t.builtin?.map (·.valueSpace)).getD .unordered

/-- An atomic literal is one of the builtin type, and fits the facets. -/
def checkAtomic (facets : FacetSet) (builtin : Option Builtin) (literal : String) :
    Except Violation Unit :=
  match builtin with
  | none => facets.check literal (some literal.length) .unordered
  | some b =>
    if b.isLiteral literal then facets.check literal (some (b.lengthOf literal)) b.valueSpace
    else
      .error ((Violation.of .invalidValue s!"Invalid value '{literal}'").withReason
        (b.refusal literal))

/-- No member of a union admits the literal. -/
def noMember (literal : String) (reasons : List String) : Violation :=
  (Violation.of .invalidValue
    s!"'{literal}' is not valid for any member type of the union").withReason
    ("; ".intercalate reasons)

mutual

/-- Look at a literal. What is accepted is the literal with its white space dealt with. -/
def check : ValueType → String → Except Violation String
  | .atomic facets builtin, text => do
    let literal := facets.whiteSpaceMode.normalize text
    checkAtomic facets builtin literal
    return literal
  | .list facets _ item, text => do
    let literal := facets.whiteSpaceMode.normalize text
    let items := Text.words literal
    items.forM fun word => discard (check item word)
    facets.check literal (some items.length) .unordered
    return literal
  | .union facets _ members, text => do
    let literal := facets.whiteSpaceMode.normalize text
    match checkMembers members literal with
    | .error reasons => .error (noMember literal reasons)
    | .ok () =>
      facets.check literal none .unordered
      return literal

/-- Some member admits the literal; if not, what each of them says. -/
def checkMembers : List ValueType → String → Except (List String) Unit
  | [], _ => .error []
  | member :: rest, text =>
    match check member text with
    | .ok _ => .ok ()
    | .error v =>
      match checkMembers rest text with
      | .ok () => .ok ()
      | .error reasons => .error (v.message :: reasons)

end

/-- The facets of a type that declares more of them. Of the literals that it lists those count
that the base admits. -/
def restrict (base : ValueType) (decls : List FacetDecl) :
    Except (FacetKind × FacetFault) ValueType := do
  let facets ← base.facets.restrict decls base.space
  if decls.any fun d => d.kind == .enumeration then
    let kept := (facets.enumeration.getD []).filter fun v => (base.check v).isOk
    return base.withFacets { facets with enumeration := some kept }
  else return base.withFacets facets

end ValueType

end Xsd
