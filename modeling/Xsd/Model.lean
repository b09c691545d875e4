import Xsd.Automaton.ContentModel
import Xsd.Derivation.Derive
import Xsd.Resolution
import Xsd.ValueConstraint

/-!
# Models

A schema that has been compiled: its documents read, its references resolved, its types derived and
their contents turned into automata. An error at one stage keeps the later ones from being reached,
apart from those that look at derived types.
-/

namespace Xsd

structure Model where
  arena : Arena
  registry : Registry
  derived : DerivedTypes
  substitutions : SubstitutionGroups
  contentModels : Array (Option ContentModel)
  report : ResolutionReport
  limits : Limits

namespace Model

/-! ## Compilation -/

/-- Read the documents that the schema starts from; the answer is what has become of each. -/
def build (supply : Schema.Supply) (documents : List Document) :
    StateM Assembly (List (Except Error DocumentId)) :=
  documents.mapM fun document => (Schema.build supply document).run

/-- The errors among results. -/
def failures {α : Type} (results : List (Except Error α)) : List Error :=
  results.filterMap fun
    | .error e => some e
    | .ok _ => none

/-- The errors that have been noted, which are then forgotten. -/
def takeErrors : StateM Assembly (List Error) :=
  modifyGet fun a => (a.errors, { a with errors := [] })

/-- The content models of the types that could be derived. -/
def contentModelsOf (a : Arena) (d : DerivedTypes) (substitutions : SubstitutionGroups)
    (limits : Limits) : List (Option (Except Error ContentModel)) :=
  a.typeIds.map fun id =>
    if (d.get? id).isSome then some (ContentModel.ofType a d substitutions limits id) else none

/-- The model of an assembly in which all references are resolved, or what is wrong with its types
and contents. -/
def ofAssembly (a : Assembly) (report : ResolutionReport) (limits : Limits) :
    Except (List Error) Model :=
  let (derived, errors) := Derivation.deriveAll a.arena
  let substitutions := SubstitutionGroups.ofArena a.arena
  let models := contentModelsOf a.arena derived substitutions limits
  let errors :=
    errors ++ SubstitutionGroups.typeErrors a.arena derived ++ a.arena.constraintErrors derived ++
      failures (models.filterMap id)
  if errors.isEmpty then
    .ok ⟨a.arena, a.registry, derived, substitutions,
      (models.map fun m => m.bind (·.toOption)).toArray, report, limits⟩
  else .error errors

/-- Compile a schema. -/
def compile (supply : Schema.Supply) (documents : List Document) : Except (List Error) Model :=
  let (results, a) := (build supply documents).run .initial
  let errors := failures results ++ a.errors
  if !errors.isEmpty then .error errors
  else
    let (report, a) := (Resolution.resolve supply).run a
    if !a.errors.isEmpty then .error a.errors else ofAssembly a report supply.limits

/-- The text of the errors that kept a schema from being compiled. -/
def failureText (errors : List Error) : String :=
  s!"schema compilation failed with {errors.length} error(s)" ++
    String.join (errors.map fun e => "\n  - " ++ e.message)

/-! ## Queries -/

/-- The element declaration of a name that can be used from anywhere. -/
def globalElement? (m : Model) (name : QName) : Option ElementId :=
  match m.registry.get? name .element with
  | some (.element id) => some id
  | _ => none

def globalType? (m : Model) (name : QName) : Option TypeId :=
  match m.registry.get? name .type with
  | some (.type id) => some id
  | _ => none

def globalAttribute? (m : Model) (name : QName) : Option AttributeDecl :=
  match m.registry.get? name .attribute with
  | some (.attribute id) => m.arena.attribute? id
  | _ => none

def typeName (m : Model) (id : TypeId) : String := m.arena.typeName id

def contentModel? (m : Model) (id : TypeId) : Option ContentModel := m.contentModels[id.index]?.join

def elementType (m : Model) (id : ElementId) : TypeId := m.arena.elementType id

/-- The order of names, and of numbers under one name. -/
def isBefore (a b : QName × ComponentId) : Bool :=
  match compare a.1 b.1 with
  | .lt => true
  | .gt => false
  | .eq => compare a.2 b.2 != .gt

/-- The names of a category that the schema declares, in order. -/
def globals (m : Model) (category : Category) : List (QName × ComponentId) :=
  let declared := m.registry.namespaces.flatMap fun ns => m.registry.names ns category
  (declared.filter fun d => !d.1.isXsd).mergeSort isBefore

end Model

end Xsd
