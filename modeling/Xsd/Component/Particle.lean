import Xsd.Component.Basic
import Xsd.Component.Occurs
import Xsd.Wildcard

/-!
# Particles

The content that a schema declares: elements, wildcards and groups of them, with the number of
times that each may occur.
-/

namespace Xsd

/-- How the members of a group combine. -/
inductive Compositor where
  | sequence
  | choice
  | all
deriving DecidableEq, Repr, Inhabited

namespace Compositor

def name : Compositor → String
  | .sequence => "sequence"
  | .choice => "choice"
  | .all => "all"

def ofName? : String → Option Compositor
  | "sequence" => some .sequence
  | "choice" => some .choice
  | "all" => some .all
  | _ => none

end Compositor

/-- An element declared in place, or named. -/
inductive ElementUse where
  | own (id : ElementId)
  | named (reference : Reference ElementId)
deriving DecidableEq, Repr, Inhabited

def ElementUse.target : ElementUse → Option ElementId
  | .own id => some id
  | .named r => r.target

inductive Particle where
  | element (occurs : Occurs) (declaration : ElementUse)
  | wildcard (occurs : Occurs) (wildcard : Wildcard)
  | group (occurs : Occurs) (compositor : Compositor) (particles : List Particle)
  | groupUse (occurs : Occurs) (reference : Reference GroupId)
deriving Repr, Inhabited

def Particle.occurs : Particle → Occurs
  | .element o _ => o
  | .wildcard o _ => o
  | .group o _ _ => o
  | .groupUse o _ => o

/-- A group without bounds of its own. -/
structure ModelGroup where
  compositor : Compositor
  particles : List Particle
deriving Repr, Inhabited

/-- How to bind the references of a component, category by category. -/
structure Binder where
  typeRef : Reference TypeId → Reference TypeId
  elementRef : Reference ElementId → Reference ElementId
  attributeRef : Reference AttributeId → Reference AttributeId
  groupRef : Reference GroupId → Reference GroupId
  attributeGroupRef : Reference AttributeGroupId → Reference AttributeGroupId

namespace Particle

mutual

/-- The references of a particle in document order. -/
def references : Particle → List AnyReference
  | .element _ (.named r) => [.element r]
  | .element _ (.own _) => []
  | .wildcard _ _ => []
  | .group _ _ particles => allReferences particles
  | .groupUse _ r => [.group r]

def allReferences : List Particle → List AnyReference
  | [] => []
  | p :: ps => p.references ++ allReferences ps

end

mutual

/-- The particle with its references bound. -/
def bindWith (b : Binder) : Particle → Particle
  | .element o (.named r) => .element o (.named (b.elementRef r))
  | .element o (.own id) => .element o (.own id)
  | .wildcard o w => .wildcard o w
  | .group o c particles => .group o c (bindAllWith b particles)
  | .groupUse o r => .groupUse o (b.groupRef r)

def bindAllWith (b : Binder) : List Particle → List Particle
  | [] => []
  | p :: ps => p.bindWith b :: bindAllWith b ps

end

end Particle

namespace ModelGroup

def references (g : ModelGroup) : List AnyReference := Particle.allReferences g.particles

def bindWith (b : Binder) (g : ModelGroup) : ModelGroup :=
  { g with particles := Particle.bindAllWith b g.particles }

end ModelGroup

end Xsd
