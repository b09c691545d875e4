import Xsd.Arena
import Xsd.Derivation.TypeInfo
import Xsd.Error
import Xsd.Reach

/-!
# Substitution groups

Which elements may stand in for another one, and the types of elements that take theirs from the
element that they stand in for.
-/

namespace Xsd

namespace Arena

/-- The element that another one may stand in for. -/
def head? (a : Arena) (id : ElementId) : Option ElementId :=
  ((a.element? id).bind (·.head)).bind (·.target)

/-- The type that an element itself says it has. -/
def ownType? (a : Arena) (id : ElementId) : Option TypeId :=
  ((a.element? id).bind (·.type)).bind (·.target)

/-- The first type on the way from an element over its heads, as far as they are not among those
seen. `fuel` bounds their number. -/
def typeAlongHeads (a : Arena) : (fuel : Nat) → (seen : List ElementId) → ElementId → TypeId
  | 0, _, _ => .anyType
  | fuel + 1, seen, id =>
    match a.ownType? id with
    | some type => type
    | none =>
      match a.head? id with
      | none => .anyType
      | some head =>
        if seen.contains head then .anyType else typeAlongHeads a fuel (head :: seen) head

/-- The type of an element: its own, that of the nearest head that has one, or the most general
type. -/
def elementType (a : Arena) (id : ElementId) : TypeId :=
  a.typeAlongHeads (a.elements.size + 1) [] id

/-- The elements that may stand in for the given one directly. -/
def directMembers (a : Arena) (head : ElementId) : List ElementId :=
  a.elementIds.filter fun id => a.head? id == some head

end Arena

/-- For each head, the elements that may stand in for it, in the order of their numbers. -/
structure SubstitutionGroups where
  groups : Table ElementId (List ElementId)
deriving Inhabited

namespace SubstitutionGroups

def members (s : SubstitutionGroups) (head : ElementId) : List ElementId :=
  (s.groups.get? head).getD []

/-- The elements that have members, in the order of their numbers. -/
def heads (s : SubstitutionGroups) : List ElementId := s.groups.keys

/-- The elements other than the head from which a way over heads leads to it. -/
def closure (a : Arena) (head : ElementId) : List ElementId :=
  let found := reachable (fun n => (a.directMembers ⟨n⟩).map (·.index)) a.elements.size
    [head.index]
  (found.toList.filter fun n => n != head.index).map (⟨·⟩)

def ofArena (a : Arena) : SubstitutionGroups :=
  let heads := a.elementIds.filter fun id => !(a.directMembers id).isEmpty
  ⟨⟨heads.map fun head => (head, closure a head)⟩⟩

/-- The type of an element has to derive from that of its head, as far as both could be derived. -/
def typeErrors (a : Arena) (d : DerivedTypes) : List Error :=
  a.elementIds.filterMap fun id =>
    match a.head? id with
    | none => none
    | some head =>
      let own := a.elementType id
      let other := a.elementType head
      if (d.get? own).isSome && (d.get? other).isSome && !d.isDerivedFrom own other then
        some (.invalidDerivation (a.describe (.element id))
          (.unrelatedHead (((a.name? (.element head)).map (·.clark)).getD "")))
      else none

end SubstitutionGroups

end Xsd
