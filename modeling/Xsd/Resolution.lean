import Xsd.Schema.Reading

/-!
# Resolution

Binding the references of components to what their names stand for. A pass binds all that it can
and collects the namespaces that are still missing; their documents are then imported, and another
pass follows as long as that helps.
-/

namespace Xsd

structure ResolutionReport where
  passes : Nat
  resolved : Nat
  importsLoaded : Nat
deriving DecidableEq, Repr, Inhabited

namespace Resolution

/-- Bind a reference in a document to what the registry has under its name, if the document can
see the namespace. -/
def bindReference {α : Type} [DecidableEq α] (registry : Registry) (document : DocumentId)
    (category : Category) (ofId : ComponentId → Option α) (r : Reference α) : Reference α :=
  if r.isBound || !registry.isVisible document r.name.ns then r
  else
    match (registry.get? r.name category).bind ofId with
    | some target => (r.bind? target).getD r
    | none => r

/-- How references in a document are bound. -/
def binder (registry : Registry) (document : DocumentId) : Binder where
  typeRef := bindReference registry document .type fun
    | .type id => some id
    | _ => none
  elementRef := bindReference registry document .element fun
    | .element id => some id
    | _ => none
  attributeRef := bindReference registry document .attribute fun
    | .attribute id => some id
    | _ => none
  groupRef := bindReference registry document .group fun
    | .group id => some id
    | _ => none
  attributeGroupRef := bindReference registry document .attributeGroup fun
    | .attributeGroup id => some id
    | _ => none

/-- The namespace of an unbound reference, if a document for it might declare the name. -/
def missing? (registry : Registry) (document : DocumentId) (r : AnyReference) : Option Namespace :=
  let ns := r.name.ns
  if !r.isBound && registry.isVisible document ns && (registry.get? r.name r.category).isNone &&
      !registry.isLoaded ns then some ns
  else none

/-- What has been achieved so far: the components, the number of those resolved in this pass, and
the missing namespaces in order. -/
structure Pass where
  arena : Arena
  resolved : Nat
  needed : List Namespace

/-- Bind what can be bound of one component. -/
def resolveComponent (registry : Registry) (p : Pass) (id : ComponentId) : Pass :=
  match p.arena.info? id with
  | none => p
  | some info =>
    match info.state.claim with
    | none => p
    | some claimed =>
      let arena := p.arena.bindWith (binder registry info.document) id
      let references := arena.references id
      if references.all (·.isBound) then
        ⟨arena.setState (claimed.complete.getD claimed) id, p.resolved + 1, p.needed⟩
      else
        let needed := references.filterMap (missing? registry info.document)
        ⟨arena.setState (claimed.release.getD claimed) id, p.resolved,
          needed.foldl (fun ns n => Namespace.insertSorted n ns) p.needed⟩

/-- Go over the components once. -/
def pass (registry : Registry) (arena : Arena) (pending : List ComponentId) : Pass :=
  pending.foldl (resolveComponent registry) ⟨arena, 0, []⟩

/-- The components that have still to be resolved. -/
def pending (arena : Arena) : List ComponentId :=
  arena.componentIds.filter fun id =>
    ((arena.info? id).map fun info => info.state == .unresolved).getD false

/-- Import a namespace from the first location that is said to have it, or else by its name. -/
def importNamespace (supply : Schema.Supply) (ns : Namespace) : Assemble Unit := do
  match supply.retriever with
  | none => throw (.importUnavailable ns .noRetriever)
  | some retriever =>
    let request := match (← get).registry.importsOf ns |>.findSome? (·.location) with
      | some location => Request.document location
      | none => Request.declaring ns
    match retriever.fetch request with
    | .error fault => throw (.importUnavailable ns (.fetch fault))
    | .ok document => discard (Schema.buildImported supply ns document)

/-- The imports that have been tried: the namespaces for which they failed, and the number of
others. -/
structure Imports where
  failed : List Namespace
  loaded : Nat

/-- Import a namespace, in the way that is given, unless it has been loaded, or has failed before. -/
def tryImportWith {m : Type → Type} [Monad m] [MonadLiftT (StateM Assembly) m]
    (load : Namespace → m (Except Error Unit)) (imports : Imports) (ns : Namespace) :
    m Imports := do
  let a ← (get : StateM Assembly Assembly)
  if imports.failed.contains ns || a.registry.isLoaded ns then return imports
  match ← load ns with
  | .ok () => return { imports with loaded := imports.loaded + 1 }
  | .error e =>
    (modify fun a => { a with errors := a.errors ++ [e] } : StateM Assembly Unit)
    return { imports with failed := ns :: imports.failed }

/-- Import a namespace unless it has been loaded, or has failed before. -/
def tryImport (supply : Schema.Supply) : Imports → Namespace → StateM Assembly Imports :=
  tryImportWith fun ns => (importNamespace supply ns).run

/-- Why an unbound reference in a document stands for nothing. -/
def fault? (registry : Registry) (failed : List Namespace) (document : DocumentId)
    (r : AnyReference) : Option ReferenceFault :=
  let ns := r.name.ns
  if !registry.isVisible document ns then some (.notImported ns)
  else if failed.contains ns then some .importFailed
  else if !registry.isLoaded ns then some .notLoaded
  else none

/-- The errors of the references of a component that are not bound. -/
def unresolved (a : Assembly) (failed : List Namespace) (id : ComponentId) : List Error :=
  match a.arena.info? id with
  | none => []
  | some info =>
    let location := ((a.registry.document? info.document).map (·.location.render)).getD ""
    let origin := s!"{info.describe id.category} in {location}"
    ((a.arena.references id).filter fun r => !r.isBound).map fun r =>
      .unresolvableReference r.name r.category origin (fault? a.registry failed info.document r)

/-- Give a component up. -/
def giveUp (failed : List Namespace) (id : ComponentId) : StateM Assembly Unit :=
  modify fun a =>
    match (a.arena.info? id).bind (·.state.fail) with
    | none => a
    | some state =>
      { a with arena := a.arena.setState state id, errors := a.errors ++ unresolved a failed id }

/-- Pass after pass, as long as references get bound or documents are loaded, in the way that is
given. `fuel` bounds the number of passes. -/
def passesWith {m : Type → Type} [Monad m] [MonadLiftT (StateM Assembly) m]
    (load : Namespace → m (Except Error Unit)) : (fuel : Nat) → (failed : List Namespace) →
    ResolutionReport → m ResolutionReport
  | 0, _, report => return report
  | fuel + 1, failed, report => do
    let a ← (get : StateM Assembly Assembly)
    let todo := pending a.arena
    if todo.isEmpty then return report
    let p := pass a.registry a.arena todo
    (set { a with arena := p.arena } : StateM Assembly PUnit)
    let imports ← p.needed.foldlM (tryImportWith load) ⟨failed, 0⟩
    let report : ResolutionReport :=
      ⟨report.passes + 1, report.resolved + p.resolved, report.importsLoaded + imports.loaded⟩
    if p.resolved = 0 && imports.loaded = 0 then
      (todo.forM (giveUp imports.failed) : StateM Assembly PUnit)
      return report
    else passesWith load fuel imports.failed report

/-- Pass after pass, by which documents of the source are loaded. -/
def passes (supply : Schema.Supply) : (fuel : Nat) → (failed : List Namespace) →
    ResolutionReport → StateM Assembly ResolutionReport :=
  passesWith fun ns => (importNamespace supply ns).run

/-- Resolve all references. As long as nothing goes wrong, each pass but the last two resolves a
component or adds one, of which there are at most so many; each import that goes wrong is of a
namespace of its own, so the size of the source bounds their number. -/
def resolve (supply : Schema.Supply) : StateM Assembly ResolutionReport := do
  let components := supply.limits.schemaComponents + (← get).arena.size
  passes supply ((supply.retriever.map (·.size)).getD 0 + 2 * components + 3) [] ⟨0, 0, 0⟩

end Resolution

end Xsd
