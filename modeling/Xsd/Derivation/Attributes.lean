import Xsd.Derivation.Progress

/-!
# Attributes of derived types

The attributes that a type declares, those of attribute groups included, and their combination with
those of the base.
-/

namespace Xsd.Derivation

/-- How to have a type derived. -/
abbrev Need := TypeId → Derive Unit

/-- Attributes, and the wildcard for further ones. -/
structure AttributeSet where
  attributes : AttributeTable
  wildcard : Option Wildcard

def attributeGroupName (a : Arena) (id : AttributeGroupId) : String :=
  ((a.name? (.attributeGroup id)).map (·.clark)).getD s!"attributeGroup#{id.index}"

/-- The attribute that is used. Its type is derived. -/
def attributeUse (a : Arena) (need : Need) (u : AttributeUseDecl) : Derive EffectiveAttribute := do
  let id ← Derive.expect u.source.target
  let decl ← Derive.expect (a.attribute? id)
  let name ← Derive.expect decl.info.name
  let type ← match decl.type with
    | some use => Derive.expect use.target
    | none => pure .anySimpleType
  let definition ← Derive.expect (a.type? type)
  if definition.isSimple then
    need type
    return ⟨name, id, type, u.use, u.constraint <|> decl.constraint⟩
  else
    Derive.refuse
      (.invalidDerivation (decl.info.describe .attribute) (.complexAttributeType (a.typeName type)))

/-- Add an attribute that is not there yet. -/
def addAttribute (owner : String) (table : AttributeTable) (x : EffectiveAttribute) :
    Derive AttributeTable :=
  if table.contains x.name then Derive.refuse (.duplicateAttribute owner x.name)
  else return table.insert x.name x

/-- What both wildcards admit, as far as there are two. -/
def bothWildcards : Option Wildcard → Option Wildcard → Option Wildcard
  | some a, some b => some ⟨a.constraint.intersection b.constraint, a.process⟩
  | some a, none => some a
  | none, b => b

/-- Add what a group declares. -/
def addGroup (owner : String) (sofar group : AttributeSet) : Derive AttributeSet := do
  let attributes ← group.attributes.values.foldlM (addAttribute owner) sofar.attributes
  return ⟨attributes, bothWildcards sofar.wildcard group.wildcard⟩

/-- The attributes that are declared on behalf of the owner, inside the attribute groups of the
stack. `fuel` bounds the number of groups inside each other. -/
def flatten (a : Arena) (need : Need) (owner : String) : (fuel : Nat) →
    (stack : List AttributeGroupId) → AttributeDecls → Derive AttributeSet
  | 0, _, _ => throw none
  | fuel + 1, stack, decls => do
    let used ← decls.uses.foldlM
      (fun table u => do addAttribute owner table (← attributeUse a need u)) .empty
    decls.groups.foldlM
      (fun sofar r => do
        let id ← Derive.expect r.target
        if stack.contains id then
          Derive.refuse (.circularGroupReference .attributeGroup
            (Derive.circle (attributeGroupName a) stack id))
        else
          let group ← Derive.expect (a.attributeGroup? id)
          addGroup owner sofar (← flatten a need owner fuel (stack ++ [id]) group.attributes))
      ⟨used, decls.wildcard⟩

/-- The attributes that are declared on behalf of the owner. -/
def declared (a : Arena) (need : Need) (owner : String) (stack : List AttributeGroupId)
    (decls : AttributeDecls) : Derive AttributeSet :=
  flatten a need owner (a.attributeGroups.size + 1) stack decls

/-! ## Extension -/

/-- Add an attribute to those of the base, none of which it may repeat. -/
def extendAttribute (owner : String) (table : AttributeTable) (x : EffectiveAttribute) :
    Derive AttributeTable :=
  if table.contains x.name then Derive.refuse (.duplicateAttribute owner x.name)
  else if x.use = .prohibited then return table
  else return table.insert x.name x

/-- What either wildcard admits, as far as there are two. -/
def eitherWildcard : Option Wildcard → Option Wildcard → Option Wildcard
  | some own, some base => some ⟨own.constraint.union base.constraint, own.process⟩
  | some own, none => some own
  | none, base => base

def extend (owner : String) (base own : AttributeSet) : Derive AttributeSet := do
  let attributes ← own.attributes.values.foldlM (extendAttribute owner) base.attributes
  return ⟨attributes, eitherWildcard own.wildcard base.wildcard⟩

/-! ## Restriction -/

/-- Why an attribute does not restrict the inherited one, if it does not. -/
def restrictionFault? (a : Arena) (d : DerivedTypes) (inherited x : EffectiveAttribute) :
    Option AttributeFault :=
  if !x.use.occurs.restricts inherited.use.occurs then some (.widerUse x.use inherited.use)
  else
    match inherited.constraint with
    | some c =>
      if c.fixed && x.constraint != some c then some (.changedFixed c.value)
      else if !d.isDerivedFrom x.type inherited.type then
        some (.unrelatedType (a.typeName x.type) (a.typeName inherited.type))
      else none
    | none =>
      if !d.isDerivedFrom x.type inherited.type then
        some (.unrelatedType (a.typeName x.type) (a.typeName inherited.type))
      else none

/-- Put an attribute in the place of that of the base, or take that one away. -/
def restrictAttribute (a : Arena) (d : DerivedTypes) (owner : String) (base : AttributeSet)
    (table : AttributeTable) (x : EffectiveAttribute) : Derive AttributeTable :=
  let refuse (fault : AttributeFault) : Derive AttributeTable :=
    Derive.refuse (.invalidAttributeRestriction owner x.name fault)
  match base.attributes.get? x.name with
  | none =>
    if x.use = .prohibited then return table
    else if ((base.wildcard.map fun w => w.allows x.name.ns).getD false) then
      return table.insert x.name x
    else refuse .notAdmitted
  | some inherited =>
    if x.use = .prohibited then
      if inherited.use = .required then refuse .prohibitsRequired
      else return table.erase x.name
    else
      match restrictionFault? a d inherited x with
      | some fault => refuse fault
      | none => return table.insert x.name x

/-- The own wildcard, which must not admit more than that of the base. -/
def restrictWildcard (owner : String) :
    Option Wildcard → Option Wildcard → Derive (Option Wildcard)
  | none, _ => return none
  | some own, some base =>
    if own.constraint.isSubsetOf base.constraint then return some own
    else Derive.refuse (.invalidDerivation owner .widerWildcard)
  | some _, none => Derive.refuse (.invalidDerivation owner .widerWildcard)

def restrict (a : Arena) (owner : String) (base own : AttributeSet) : Derive AttributeSet := do
  let d := (← get).derived
  let attributes ← own.attributes.values.foldlM (restrictAttribute a d owner base) base.attributes
  return ⟨attributes, ← restrictWildcard owner own.wildcard base.wildcard⟩

/-- The attributes of a type whose base has the given ones. -/
def merge (a : Arena) (owner : String) (method : DerivationMethod) (base own : AttributeSet) :
    Derive AttributeSet :=
  match method with
  | .extension => extend owner base own
  | _ => restrict a owner base own

end Xsd.Derivation
