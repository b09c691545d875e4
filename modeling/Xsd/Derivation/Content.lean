import Xsd.Component.Particle

/-!
# Content

What a complex type admits as content once the uses of named groups are replaced by what the groups
consist of.
-/

namespace Xsd

inductive Content where
  | element (occurs : Occurs) (id : ElementId)
  | wildcard (occurs : Occurs) (wildcard : Wildcard)
  | group (occurs : Occurs) (compositor : Compositor) (members : List Content)
deriving Repr, Inhabited

namespace Content

def occurs : Content → Occurs
  | .element o _ => o
  | .wildcard o _ => o
  | .group o _ _ => o

mutual

/-- The content cannot occur, or consists of such content only. A group without members is empty
whatever its compositor. -/
def isEmpty : Content → Bool
  | .element o _ => o.isEmpty
  | .wildcard o _ => o.isEmpty
  | .group o _ members => o.isEmpty || areEmpty members

def areEmpty : List Content → Bool
  | [] => true
  | c :: cs => c.isEmpty && areEmpty cs

end

/-- The sequence of two contents. -/
def followedBy (first second : Content) : Content := .group .once .sequence [first, second]

/-- What an extension admits: the content of the base and then its own, as far as they are not
empty. -/
def extend : Option Content → Option Content → Option Content
  | none, own => own
  | some base, none => if base.isEmpty then none else some base
  | some base, some own =>
    if base.isEmpty then some own
    else if own.isEmpty then some base
    else some (base.followedBy own)

end Content

end Xsd
