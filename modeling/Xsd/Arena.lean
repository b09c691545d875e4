import Xsd.Component.Definition

/-!
# Arena

All components of a schema, each under its number. The most general types and the builtin types
come first.
-/

namespace Xsd

structure Arena where
  types : Array TypeDefinition
  elements : Array ElementDecl
  attributes : Array AttributeDecl
  groups : Array GroupDef
  attributeGroups : Array AttributeGroupDef
deriving Inhabited

namespace Arena

def empty : Arena := ⟨#[], #[], #[], #[], #[]⟩

/-- The number of components. -/
def size (a : Arena) : Nat :=
  a.types.size + a.elements.size + a.attributes.size + a.groups.size + a.attributeGroups.size

/-! ## Looking up -/

def type? (a : Arena) (id : TypeId) : Option TypeDefinition := a.types[id.index]?

def element? (a : Arena) (id : ElementId) : Option ElementDecl := a.elements[id.index]?

def attribute? (a : Arena) (id : AttributeId) : Option AttributeDecl := a.attributes[id.index]?

def group? (a : Arena) (id : GroupId) : Option GroupDef := a.groups[id.index]?

def attributeGroup? (a : Arena) (id : AttributeGroupId) : Option AttributeGroupDef :=
  a.attributeGroups[id.index]?

def info? (a : Arena) : ComponentId → Option ComponentInfo
  | .type id => (a.type? id).map (·.info)
  | .element id => (a.element? id).map (·.info)
  | .attribute id => (a.attribute? id).map (·.info)
  | .group id => (a.group? id).map (·.info)
  | .attributeGroup id => (a.attributeGroup? id).map (·.info)

/-- The references of a component in document order. -/
def references (a : Arena) : ComponentId → List AnyReference
  | .type id => ((a.type? id).map (·.references)).getD []
  | .element id => ((a.element? id).map (·.references)).getD []
  | .attribute id => ((a.attribute? id).map (·.references)).getD []
  | .group id => ((a.group? id).map (·.group.references)).getD []
  | .attributeGroup id => ((a.attributeGroup? id).map (·.attributes.references)).getD []

/-- The form in which messages name a component. -/
def describe (a : Arena) (id : ComponentId) : String :=
  ((a.info? id).map (·.describe id.category)).getD ""

def typeName (a : Arena) (id : TypeId) : String := a.describe (.type id)

/-- The name of a component, if it has one. -/
def name? (a : Arena) (id : ComponentId) : Option QName := (a.info? id).bind (·.name)

/-! ## Numbers -/

def typeIds (a : Arena) : List TypeId := (List.range a.types.size).map (⟨·⟩)

def elementIds (a : Arena) : List ElementId := (List.range a.elements.size).map (⟨·⟩)

def attributeIds (a : Arena) : List AttributeId := (List.range a.attributes.size).map (⟨·⟩)

def groupIds (a : Arena) : List GroupId := (List.range a.groups.size).map (⟨·⟩)

def attributeGroupIds (a : Arena) : List AttributeGroupId :=
  (List.range a.attributeGroups.size).map (⟨·⟩)

/-- The numbers of all components, category by category. -/
def componentIds (a : Arena) : List ComponentId :=
  a.typeIds.map .type ++ a.elementIds.map .element ++ a.attributeIds.map .attribute ++
    a.groupIds.map .group ++ a.attributeGroupIds.map .attributeGroup

/-! ## Changing -/

def addType (a : Arena) (t : TypeDefinition) : TypeId × Arena :=
  (⟨a.types.size⟩, { a with types := a.types.push t })

def addElement (a : Arena) (e : ElementDecl) : ElementId × Arena :=
  (⟨a.elements.size⟩, { a with elements := a.elements.push e })

def addAttribute (a : Arena) (d : AttributeDecl) : AttributeId × Arena :=
  (⟨a.attributes.size⟩, { a with attributes := a.attributes.push d })

def addGroup (a : Arena) (g : GroupDef) : GroupId × Arena :=
  (⟨a.groups.size⟩, { a with groups := a.groups.push g })

def addAttributeGroup (a : Arena) (g : AttributeGroupDef) : AttributeGroupId × Arena :=
  (⟨a.attributeGroups.size⟩, { a with attributeGroups := a.attributeGroups.push g })

/-- Bind the references of a component. -/
def bindWith (a : Arena) (b : Binder) : ComponentId → Arena
  | .type id => { a with types := a.types.modify id.index (·.bindWith b) }
  | .element id => { a with elements := a.elements.modify id.index (·.bindWith b) }
  | .attribute id => { a with attributes := a.attributes.modify id.index (·.bindWith b) }
  | .group id =>
    { a with groups := a.groups.modify id.index fun g => { g with group := g.group.bindWith b } }
  | .attributeGroup id =>
    { a with
      attributeGroups := a.attributeGroups.modify id.index fun g =>
        { g with attributes := g.attributes.bindWith b } }

/-- Set the state of a component. -/
def setState (a : Arena) (state : ResolutionState) : ComponentId → Arena
  | .type id => { a with types := a.types.modify id.index (·.setState state) }
  | .element id =>
    { a with
      elements := a.elements.modify id.index fun e =>
        { e with info := { e.info with state := state } } }
  | .attribute id =>
    { a with
      attributes := a.attributes.modify id.index fun d =>
        { d with info := { d.info with state := state } } }
  | .group id =>
    { a with
      groups := a.groups.modify id.index fun g =>
        { g with info := { g.info with state := state } } }
  | .attributeGroup id =>
    { a with
      attributeGroups := a.attributeGroups.modify id.index fun g =>
        { g with info := { g.info with state := state } } }

/-! ## The types that are there from the start -/

/-- A component that is defined without references to resolve. -/
def resolvedInfo (name : QName) (document : DocumentId) : ComponentInfo :=
  ⟨some name, true, document, .resolved, none⟩

/-- The most general type: any content and any attributes, looked at as far as they are known. -/
def anyType (document : DocumentId) : TypeDefinition :=
  .complex
    { info := resolvedInfo (.xsd "anyType") document
      base := none
      derivation := .none
      content := .particle (some (.wildcard .anyNumber .anyLax))
      mixed := true
      isAbstract := false
      attributes := { wildcard := some .anyLax } }

/-- The most general simple type. -/
def anySimpleType (document : DocumentId) : TypeDefinition :=
  .simple ⟨resolvedInfo (.xsd "anySimpleType") document, .restriction .anyType [], none⟩

/-- The definition of a builtin type. -/
def builtinType (document : DocumentId) (b : Builtin) : TypeDefinition :=
  let use (b : Builtin) : TypeUse := .known b.localName b.typeId
  let variety : SimpleVariety := match b.item? with
    | some item => .list (use item)
    | none => .restriction ((b.base?.map use).getD .anySimpleType) []
  .simple ⟨resolvedInfo b.qname document, variety, some b⟩

/-- An arena with the types that are there from the start. -/
def initial (document : DocumentId) : Arena :=
  { empty with
    types := #[anyType document, anySimpleType document] ++
      (Builtin.all.map (builtinType document)).toArray }

end Arena

end Xsd
