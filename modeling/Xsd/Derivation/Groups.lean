import Xsd.Derivation.Progress

/-!
# Expansion of named groups
-/

namespace Xsd.Derivation

def groupName (a : Arena) (id : GroupId) : String :=
  ((a.name? (.group id)).map (·.clark)).getD s!"group#{id.index}"

/-- How to expand the group of a number inside those of a stack. -/
abbrev ExpandGroup := List GroupId → GroupId → Except (Option Error) (Compositor × List Content)

/-- The group that a reference is bound to, which must not be one of those it stands in. -/
def expandUse (a : Arena) (expand : ExpandGroup) (stack : List GroupId) (r : Reference GroupId) :
    Except (Option Error) (Compositor × List Content) :=
  match r.target with
  | none => .error none
  | some id =>
    if stack.contains id then
      .error (some (.circularGroupReference .group (Derive.circle (groupName a) stack id)))
    else expand (stack ++ [id]) id

mutual

/-- The content that a particle declares, inside the groups of the stack. -/
def expandParticle (a : Arena) (expand : ExpandGroup) (stack : List GroupId) :
    Particle → Except (Option Error) Content
  | .element o use =>
    match use.target with
    | some id => .ok (.element o id)
    | none => .error none
  | .wildcard o w => .ok (.wildcard o w)
  | .group o c particles => do
    return .group o c (← expandParticles a expand stack particles)
  | .groupUse o r => do
    let (c, members) ← expandUse a expand stack r
    return .group o c members

def expandParticles (a : Arena) (expand : ExpandGroup) (stack : List GroupId) :
    List Particle → Except (Option Error) (List Content)
  | [] => .ok []
  | p :: ps => do
    let c ← expandParticle a expand stack p
    let cs ← expandParticles a expand stack ps
    return c :: cs

end

/-- Expand a named group; `fuel` bounds the number of groups inside each other. -/
def expandNamed (a : Arena) : (fuel : Nat) → ExpandGroup
  | 0, _, _ => .error none
  | fuel + 1, stack, id =>
    match a.group? id with
    | none => .error none
    | some g => do
      return (g.group.compositor,
        ← expandParticles a (expandNamed a fuel) stack g.group.particles)

/-- The content that a particle declares. Groups inside each other are different ones, so there
are at most as many of them as there are groups. -/
def expand (a : Arena) (p : Particle) : Except (Option Error) Content :=
  expandParticle a (expandNamed a (a.groups.size + 1)) [] p

/-- Expand the group of a number. -/
def expandGroup (a : Arena) (id : GroupId) : Except (Option Error) (Compositor × List Content) :=
  expandNamed a (a.groups.size + 1) [id] id

end Xsd.Derivation
