import Xsd.Derivation.Attributes
import Xsd.Derivation.Groups

/-!
# Derivation of types
-/

namespace Xsd.Derivation

/-- A facet fault is an error of the type that declares the facet. -/
def ofFacets {α : Type} (owner : String) (result : Except (FacetKind × FacetFault) α) : Derive α :=
  match result with
  | .ok x => return x
  | .error fault => Derive.refuse (.ofFacet owner fault)

/-- A type that has been derived. -/
def derivedInfo (id : TypeId) : Derive TypeInfo := do
  Derive.expect ((← get).derived.get? id)

/-- The simple type that a definition uses. -/
def operand (a : Arena) (need : Need) (owner action : String) (use : TypeUse) :
    Derive (TypeId × ValueType) := do
  let id ← Derive.expect use.target
  let definition ← Derive.expect (a.type? id)
  if !definition.isSimple then
    Derive.refuse (.invalidDerivation owner (.complexOperand action (a.typeName id)))
  else
    need id
    return (id, ← Derive.expect ((← get).derived.simple? id))

/-- A builtin type adds its own literals and facets. -/
def specialize (owner : String) (builtin : Option Builtin) (t : ValueType) : Derive ValueType :=
  match builtin with
  | none => return t
  | some b => do
    return .atomic (← ofFacets owner (t.facets.restrict b.impliedFacets b.valueSpace)) (some b)

/-- The facets of all list types. -/
def listFacets (builtin : Option Builtin) : List FacetDecl :=
  ⟨.whiteSpace, "collapse", true⟩ :: (builtin.map (·.impliedFacets)).getD []

def deriveSimple (a : Arena) (need : Need) (id : TypeId) (t : SimpleTypeDef) :
    Derive TypeInfo := do
  if id = .anySimpleType then return ⟨some .anyType, .restriction, .simple .any⟩
  let owner := a.typeName id
  match t.variety with
  | .restriction base facets =>
    let (baseId, base) ← operand a need owner "restrict" base
    let own ← ofFacets owner (base.restrict facets)
    return ⟨some baseId, .restriction, .simple (← specialize owner t.builtin own)⟩
  | .list item =>
    let (itemId, item) ← operand a need owner "use as list item" item
    if item.isList then
      Derive.refuse (.invalidDerivation owner (.listOfLists (a.typeName itemId)))
    else
      let facets ← ofFacets owner (FacetSet.empty.restrict (listFacets t.builtin) .unordered)
      return ⟨some .anySimpleType, .restriction, .simple (.list facets itemId item)⟩
  | .union members =>
    let members ← members.mapM (operand a need owner "use as union member")
    return ⟨some .anySimpleType, .restriction,
      .simple (.union .empty (members.map (·.1)) (members.map (·.2)))⟩

/-- The most general type. -/
def anyType : TypeInfo :=
  ⟨none, .none,
    .complex
      { label := .mixed
        content := some (.wildcard .anyNumber .anyLax)
        mixed := true
        valueType := none
        attributes := .empty
        wildcard := some .anyLax
        isAbstract := false }⟩

/-- The literals of simple content. -/
def deriveSimpleContent (a : Arena) (owner : String) (t : ComplexTypeDef) (baseId : TypeId)
    (base : EffectiveType) (facets : List FacetDecl) : Derive ValueType := do
  let baseType ← match base with
    | .simple s =>
      if t.derivation = .extension then pure s
      else Derive.refuse (.invalidDerivation owner .simpleBase)
    | .complex c =>
      match c.valueType with
      | some s => pure s
      | none =>
        Derive.refuse (.invalidDerivation owner (.baseWithoutSimpleContent (a.typeName baseId)))
  match t.derivation with
  | .restriction => ofFacets owner (baseType.restrict facets)
  | _ => return baseType

/-- The content that a type declares, on top of that of its base if it extends it, and whether text
may stand between its elements. -/
def deriveContent (a : Arena) (owner : String) (t : ComplexTypeDef) (baseId : TypeId)
    (base : EffectiveType) (particle : Option Particle) : Derive (Option Content × Bool) := do
  let refuse : Derive (Option Content × Bool) :=
    Derive.refuse (.invalidDerivation owner (.baseWithSimpleContent (a.typeName baseId)))
  match base with
  | .simple _ => refuse
  | .complex c =>
    if c.label = .simple then refuse
    else
      let own ← match particle with
        | some p => some <$> (expand a p : Except (Option Error) Content)
        | none => pure none
      let (content, mixed) := match t.derivation with
        | .extension => (Content.extend c.content own, c.mixed || t.mixed)
        | _ => (own, t.mixed)
      return (content.filter fun c => !c.isEmpty, mixed)

def contentLabel (content : Option Content) (mixed : Bool) : ContentLabel :=
  if mixed then .mixed else if content.isSome then .elementOnly else .empty

def deriveComplex (a : Arena) (need : Need) (id : TypeId) (t : ComplexTypeDef) :
    Derive TypeInfo := do
  if id = .anyType then return anyType
  let owner := a.typeName id
  let baseId ← Derive.expect (t.base.bind (·.target))
  need baseId
  let base ← derivedInfo baseId
  let own ← declared a need owner [] t.attributes
  let inherited : AttributeSet := match base.effective with
    | .complex c => ⟨c.attributes, c.wildcard⟩
    | .simple _ => ⟨.empty, none⟩
  let attributes ← merge a owner t.derivation inherited own
  let complex ← match t.content with
    | .simple facets => do
      let valueType ← deriveSimpleContent a owner t baseId base.effective facets
      pure (⟨.simple, none, false, some valueType, attributes.attributes, attributes.wildcard,
        t.isAbstract⟩ : ComplexType)
    | .particle particle => do
      let (content, mixed) ← deriveContent a owner t baseId base.effective particle
      pure ⟨contentLabel content mixed, content, mixed, none, attributes.attributes,
        attributes.wildcard, t.isAbstract⟩
  return ⟨some baseId, t.derivation, .complex complex⟩

/-- Derive the type of a number from its definition. -/
def deriveDefinition (a : Arena) (need : Need) (id : TypeId) : TypeDefinition → Derive TypeInfo
  | .simple t => deriveSimple a need id t
  | .complex t => deriveComplex a need id t

/-- The name of a type in a circle. -/
def shortName (a : Arena) (id : TypeId) : String :=
  ((a.name? (.type id)).map (·.clark)).getD s!"anonymous#{id.index}"

/-- Start to derive a type. -/
def start (id : TypeId) : StateM DerivationState Unit :=
  modify fun s =>
    { s with status := s.status.setIfInBounds id.index .inProgress, stack := s.stack ++ [id] }

/-- Note what has come out of the derivation of a type, the last one on the stack. -/
def finish (id : TypeId) (result : Except (Option Error) TypeInfo) :
    StateM DerivationState Bool := do
  modify fun s => { s with stack := s.stack.dropLast }
  match result with
  | .ok info =>
    modify fun s =>
      { s with
        derived := ⟨s.derived.types.setIfInBounds id.index (some info)⟩
        status := s.status.setIfInBounds id.index .done }
    return true
  | .error e =>
    match e with
    | some e => Derive.report e
    | none => pure ()
    modify fun s => { s with status := s.status.setIfInBounds id.index .failed }
    return false

/-- Derive a type and those that it needs; the answer is whether there is one now. `fuel` bounds
the number of types in progress. -/
def derive (a : Arena) : (fuel : Nat) → TypeId → StateM DerivationState Bool
  | 0, _ => return false
  | fuel + 1, id => do
    let s ← get
    match a.type? id, s.status[id.index]? with
    | some _, some .done => return true
    | some _, some .inProgress =>
      Derive.report (.circularTypeDefinition (Derive.circle (shortName a) s.stack id))
      return false
    | some definition, some .notStarted =>
      start id
      let need : Need := fun other => do
        if ← derive a fuel other then return () else throw none
      finish id (← (deriveDefinition a need id definition).run)
    | _, _ => return false

/-- Report what stops a step. -/
def reportFailure {α : Type} (result : Except (Option Error) α) : StateM DerivationState Unit :=
  match result with
  | .error (some e) => Derive.report e
  | _ => return ()

/-- Types in progress are different ones, so there are at most as many of them as there are
types. -/
def deriveType (a : Arena) (id : TypeId) : StateM DerivationState Bool :=
  derive a (a.types.size + 1) id

/-- A named group does not contain itself. -/
def checkGroup (a : Arena) (id : GroupId) : StateM DerivationState Unit :=
  reportFailure (expandGroup a id)

/-- An attribute group does not contain itself, and declares its attributes once. -/
def checkAttributeGroup (a : Arena) (id : AttributeGroupId) : StateM DerivationState Unit := do
  match a.attributeGroup? id with
  | none => return ()
  | some g =>
    let need : Need := fun other => do
      if ← deriveType a other then return () else throw none
    reportFailure
      (← (declared a need (g.info.describe .attributeGroup) [id] g.attributes).run)

/-- Derive all types, and look at all groups, used or not. -/
def deriveAll (a : Arena) : DerivedTypes × List Error :=
  let work : StateM DerivationState Unit := do
    a.typeIds.forM fun id => discard (deriveType a id)
    a.groupIds.forM (checkGroup a)
    a.attributeGroupIds.forM (checkAttributeGroup a)
  let s := (work.run (Derive.initial a)).2
  (s.derived, s.errors)

end Xsd.Derivation
