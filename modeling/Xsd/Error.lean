import Xsd.Component.Definition
import Xsd.Facet.FacetSet
import Xsd.Retrieval

/-!
# Errors

What can be wrong with a schema or with what is asked of one. Each error names its cause; the
wording is that of `Error.message`.
-/

namespace Xsd

/-! ## Structure -/

/-- What is wrong with the structure of a schema document. -/
inductive SchemaFault where
  | emptyDocument
  | wrongRoot (name : QName)
  | emptyTargetNamespace
  | includedNamespace (found : String) (expected : Namespace)
  | invalidFormDefault (value word : String)
  | redefinition
  | unexpectedTopLevel (name : String)
  | missingSchemaLocation
  | importOfOwnNamespace
  | manyInlineTypes
  | unexpectedChild (child parent : String)
  | namedAndInlineType (owner : String)
  | referenceWithType
  | invalidForm (value : String)
  | namedAnonymousType
  | varietyCount
  | namedAndInlineBase
  | missingBaseType
  | itemTypeCount
  | emptyUnion
  | facetWithoutValue (kind : FacetKind)
  | manyContentModels (owner : String)
  | misplacedAttribute
  | manyDerivations (owner : String)
  | missingDerivation (owner : String)
  | missingBase (content : String)
  | inlineContentType
  | missingRef (owner : String)
  | allOccurs
  | nestedAll
  | allMemberOccurs
  | groupContent
  | wildcardNotLast
  | invalidUse (value : String)
  | defaultNotOptional
  | invalidProcessContents (value : String)
  | defaultAndFixed
  | missingName
  | badName (fault : NameFault)
  | unresolvedName (text : String) (fault : NameFault)
  | invalidBoolean (value word : String)
  | forbidden (word owner : String)
  | foreignElement (name : QName)
  | occurs (fault : OccursFault)
  | namespaceWord (word : String)
  | tooDeep
deriving DecidableEq, Repr

def SchemaFault.message : SchemaFault → String
  | .emptyDocument => "empty schema document"
  | .wrongRoot name => s!"expected xs:schema root element, found '{name.clark}'"
  | .emptyTargetNamespace => "targetNamespace must not be empty"
  | .includedNamespace found expected =>
    s!"included schema has targetNamespace '{found}', expected '{expected.label}'"
  | .invalidFormDefault value word => s!"invalid value '{value}' for attribute '{word}'"
  | .redefinition => "xs:redefine is not supported"
  | .unexpectedTopLevel name => s!"unexpected top-level element 'xs:{name}'"
  | .missingSchemaLocation => "xs:include requires a 'schemaLocation'"
  | .importOfOwnNamespace => "xs:import must not name the document's own target namespace"
  | .manyInlineTypes => "element declares more than one inline type"
  | .unexpectedChild child parent => s!"unexpected child 'xs:{child}' of {parent}"
  | .namedAndInlineType owner => s!"{owner} has both a 'type' attribute and an inline type"
  | .referenceWithType => "an element reference cannot have an inline type"
  | .invalidForm value => s!"invalid form '{value}'"
  | .namedAnonymousType => "an anonymous type must not have a 'name'"
  | .varietyCount => "simpleType must have exactly one of restriction, list or union"
  | .namedAndInlineBase => "restriction has both a 'base' and an inline base type"
  | .missingBaseType => "restriction requires a 'base' or an inline base type"
  | .itemTypeCount => "list requires exactly one item type"
  | .emptyUnion => "union requires at least one member type"
  | .facetWithoutValue kind => s!"facet '{kind.name}' requires a 'value'"
  | .manyContentModels owner => s!"{owner} contains more than one content model"
  | .misplacedAttribute =>
    "attributes of a derived complexType belong inside its restriction or extension"
  | .manyDerivations owner => s!"xs:{owner} must have exactly one derivation"
  | .missingDerivation owner => s!"xs:{owner} requires a restriction or extension"
  | .missingBase content => s!"{content} derivation requires a 'base'"
  | .inlineContentType => "inline simpleType in a simpleContent restriction is not supported"
  | .missingRef owner => s!"a local xs:{owner} requires a 'ref'"
  | .allOccurs => "an 'all' group must have minOccurs 0 or 1 and maxOccurs 1"
  | .nestedAll => "an 'all' group must be the top-level particle of a content model"
  | .allMemberOccurs => "elements of an 'all' group must have maxOccurs 0 or 1"
  | .groupContent => "a group definition must contain exactly one sequence, choice or all"
  | .wildcardNotLast => "xs:anyAttribute must be the last attribute declaration"
  | .invalidUse value => s!"invalid use '{value}'"
  | .defaultNotOptional => "an attribute with a 'default' must have use=\"optional\""
  | .invalidProcessContents value => s!"invalid processContents '{value}'"
  | .defaultAndFixed => "'default' and 'fixed' are mutually exclusive"
  | .missingName => "missing required attribute 'name'"
  | .badName fault => "name error: " ++ fault.message
  | .unresolvedName text fault => s!"cannot resolve QName '{text}': name error: {fault.message}"
  | .invalidBoolean value word => s!"invalid boolean '{value}' for attribute '{word}'"
  | .forbidden word owner => s!"attribute '{word}' is not allowed on {owner}"
  | .foreignElement name => s!"unexpected non-schema element '{name.clark}'"
  | .occurs fault => fault.message
  | .namespaceWord word => s!"wrong value '{word}' in 'namespace' attribute"
  | .tooDeep => "elements are nested too deep"

/-- Where in a schema something is wrong: in a document as a whole, or at an element, which is
named if it has a name or refers to one. -/
inductive Place where
  | document (location : Location)
  | element (location : Location) (position : Nat) (localName : String) (label : Option String)
deriving DecidableEq, Repr

def Place.render : Place → String
  | .document location => location.render
  | .element location position localName none =>
    s!"{location.render}@{position} (xs:{localName})"
  | .element location position localName (some label) =>
    s!"{location.render}@{position} (xs:{localName} '{label}')"

/-! ## References and imports -/

/-- Why a name stands for nothing that is known. -/
inductive ReferenceFault where
  | notImported (ns : Namespace)
  | importFailed
  | notLoaded
deriving DecidableEq, Repr

def ReferenceFault.message : ReferenceFault → String
  | .notImported ns => s!"namespace '{ns.label}' is not imported by the referencing document"
  | .importFailed => "the import of its namespace failed"
  | .notLoaded => "no schema document was loaded for its namespace"

/-- Why a namespace could not be imported. -/
inductive ImportFault where
  | noRetriever
  | otherNamespace (location : Location) (declared : Namespace)
  | fetch (fault : FetchFault)
deriving DecidableEq, Repr

def ImportFault.message : ImportFault → String
  | .noRetriever => "no retriever configured"
  | .otherNamespace location declared =>
    s!"document at '{location.render}' has target namespace '{declared.label}'"
  | .fetch fault => fault.message

/-- Why a document could not be retrieved. -/
inductive RetrievalFault where
  | source (fault : SourceFault)
  | inclusion (location : Location) (fault : FetchFault)
  | noRetriever (location : Location)
deriving DecidableEq, Repr

def RetrievalFault.message : RetrievalFault → String
  | .source fault => fault.message
  | .inclusion location fault => s!"cannot include '{location.render}': {fault.message}"
  | .noRetriever location => s!"cannot include '{location.render}': no retriever configured"

/-! ## Derivation -/

/-- Why a type cannot be derived. -/
inductive DerivationFault where
  | complexOperand (action typeName : String)
  | listOfLists (typeName : String)
  | simpleBase
  | baseWithoutSimpleContent (typeName : String)
  | baseWithSimpleContent (typeName : String)
  | widerWildcard
  | complexAttributeType (typeName : String)
  | unrelatedHead (head : String)
  | notDerived
deriving DecidableEq, Repr

def DerivationFault.message : DerivationFault → String
  | .complexOperand action typeName => s!"cannot {action} complex {typeName}"
  | .listOfLists typeName => s!"list item type {typeName} is itself a list"
  | .simpleBase => "a simpleContent restriction needs a complex base with simple content"
  | .baseWithoutSimpleContent typeName => s!"base {typeName} does not have simple content"
  | .baseWithSimpleContent typeName =>
    s!"complexContent cannot derive from {typeName}, which has simple content"
  | .widerWildcard => "attribute wildcard is not a subset of the base type's wildcard"
  | .complexAttributeType typeName => s!"attribute type {typeName} is not a simple type"
  | .unrelatedHead head =>
    s!"its type does not derive from the type of substitution head '{head}'"
  | .notDerived => "the type has no derivation result"

/-- Why an attribute of a restriction does not restrict that of the base. -/
inductive AttributeFault where
  | notAdmitted
  | prohibitsRequired
  | widerUse (declared inherited : AttributeUse)
  | changedFixed (value : String)
  | unrelatedType (declared inherited : String)
deriving DecidableEq, Repr

def AttributeFault.message : AttributeFault → String
  | .notAdmitted => "not declared by the base type nor admitted by its attribute wildcard"
  | .prohibitsRequired => "cannot prohibit a required attribute"
  | .widerUse declared inherited =>
    s!"use '{declared.name}' widens the inherited use '{inherited.name}'"
  | .changedFixed value => s!"must keep the inherited fixed value '{value}'"
  | .unrelatedType declared inherited =>
    s!"type {declared} does not derive from the inherited {inherited}"

/-- Why a default or fixed value cannot stand. -/
inductive ConstraintFault where
  | violation (violation : Violation)
  | noValue
deriving DecidableEq, Repr

def ConstraintFault.message : ConstraintFault → String
  | .violation v => v.describe
  | .noValue => "only simple or emptiable mixed content can have a value constraint"

/-! ## All errors -/

inductive Error where
  | schemaStructure (fault : SchemaFault) (place : Option Place)
  | duplicateDeclaration (name : QName) (category : Category)
  | unresolvableReference (name : QName) (category : Category) (origin : String)
      (fault : Option ReferenceFault)
  | importUnavailable (ns : Namespace) (fault : ImportFault)
  | circularTypeDefinition (chain : List String)
  | circularGroupReference (category : Category) (chain : List String)
  | invalidFacetRestriction (typeName : String) (kind : FacetKind) (fault : FacetFault)
  | duplicateAttribute (typeName : String) (name : QName)
  | invalidAttributeRestriction (typeName : String) (name : QName) (fault : AttributeFault)
  | invalidDerivation (typeName : String) (fault : DerivationFault)
  | ambiguousContentModel (typeName : String) (first second : Wildcard)
  | invalidValueConstraint (component : String) (constraint : ValueConstraint)
      (fault : ConstraintFault)
  | retrieval (fault : RetrievalFault)
  | limitExceeded (excess : LimitExcess)
  | memberSets (owner : String) (members : Nat)
  | validation (violation : Violation)
  | badName (fault : NameFault)
  | document (fault : Markup.DocumentFault)
deriving DecidableEq, Repr

namespace Error

def chainText (chain : List String) : String := " -> ".intercalate chain

def message : Error → String
  | .schemaStructure fault place =>
    s!"schema structure error: {fault.message}" ++
      (place.map fun p => s!" (at {p.render})").getD ""
  | .duplicateDeclaration name category => s!"duplicate {category.name} declaration '{name.clark}'"
  | .unresolvableReference name category origin fault =>
    s!"unresolvable {category.name} reference '{name.clark}' from {origin}" ++
      (fault.map fun f => ": " ++ f.message).getD ""
  | .importUnavailable ns fault => s!"import of namespace '{ns.label}' unavailable: {fault.message}"
  | .circularTypeDefinition chain => "circular type definition: " ++ chainText chain
  | .circularGroupReference category chain =>
    s!"circular {category.name} reference: " ++ chainText chain
  | .invalidFacetRestriction typeName kind fault =>
    s!"invalid restriction of facet '{kind.name}' in type {typeName}: {fault.message}"
  | .duplicateAttribute typeName name => s!"duplicate attribute '{name.clark}' in type {typeName}"
  | .invalidAttributeRestriction typeName name fault =>
    s!"invalid restriction of attribute '{name.clark}' in type {typeName}: {fault.message}"
  | .invalidDerivation typeName fault =>
    s!"invalid derivation of type {typeName}: {fault.message}"
  | .ambiguousContentModel typeName first second =>
    s!"ambiguous content model of {typeName}: {first.describe} and {second.describe} " ++
      "admit the same elements"
  | .invalidValueConstraint component constraint fault =>
    s!"invalid {constraint.keyword} value '{constraint.value}' on {component}: {fault.message}"
  | .retrieval fault => "retrieval error: " ++ fault.message
  | .limitExceeded excess => "limit exceeded: " ++ excess.message
  | .memberSets owner members =>
    s!"sets of the {members} members of an 'all' group in {owner} do not fit a word"
  | .validation v => "validation error: " ++ v.describe
  | .badName fault => "name error: " ++ fault.message
  | .document fault => fault.message

/-- The error of a request that was not answered. -/
def ofFetch : FetchFault → Error
  | .source fault => .retrieval (.source fault)
  | .document fault => .document fault

/-- The error of a facet that a type cannot have. -/
def ofFacet (typeName : String) (fault : FacetKind × FacetFault) : Error :=
  .invalidFacetRestriction typeName fault.1 fault.2

end Error

instance : ToString Error := ⟨Error.message⟩

end Xsd
