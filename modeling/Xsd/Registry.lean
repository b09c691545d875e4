import Xsd.Builtin.Basic
import Xsd.Location
import Xsd.Table

/-!
# Registry

Which names are declared, which documents have been read, and which namespaces can be seen from
where.
-/

namespace Xsd

/-- A namespace that a document imports, and where its schema is said to be. -/
structure ImportEdge where
  ns : Namespace
  location : Option Location
deriving DecidableEq, Repr, Inhabited

/-- The imports are of one namespace, and from one location if from any. -/
def ImportEdge.isSame (a b : ImportEdge) : Bool :=
  a.ns == b.ns &&
    match a.location, b.location with
    | some l, some m => l.isSame m
    | none, none => true
    | _, _ => false

structure DocumentInfo where
  location : Location
  target : Namespace
  includedBy : Option DocumentId
  imports : List ImportEdge
deriving DecidableEq, Repr, Inhabited

/-- Namespaces in the order in which they were first spoken of, declarations, and documents by
number. -/
structure Registry where
  namespaces : List Namespace
  declarations : Table (Category × QName) ComponentId
  documents : Array DocumentInfo
deriving Inhabited

namespace Registry

def empty : Registry := ⟨[], .empty, #[]⟩

/-- Note that a namespace has been spoken of. -/
def mention (r : Registry) (ns : Namespace) : Registry :=
  if r.namespaces.contains ns then r else { r with namespaces := r.namespaces ++ [ns] }

/-! ## Names -/

/-- The component of a name. -/
def get? (r : Registry) (name : QName) (category : Category) : Option ComponentId :=
  r.declarations.get? (category, name)

/-- Declare a name; nothing if it already stands for another component of the category. -/
def declare? (r : Registry) (name : QName) (id : ComponentId) : Option Registry :=
  match r.get? name id.category with
  | some other => if other = id then some r else none
  | none =>
    let r := r.mention name.ns
    some { r with declarations := r.declarations.insert (id.category, name) id }

/-- The names of a category in a namespace, in the order of their declaration. -/
def names (r : Registry) (ns : Namespace) (category : Category) : List (QName × ComponentId) :=
  r.declarations.entries.filterMap fun e =>
    if e.1.1 = category && e.1.2.ns == ns then some (e.1.2, e.2) else none

/-- The number of names of a category. -/
def count (r : Registry) (category : Category) : Nat :=
  r.declarations.entries.countP fun e => e.1.1 = category

/-! ## Documents -/

def document? (r : Registry) (id : DocumentId) : Option DocumentInfo := r.documents[id.index]?

def addDocument (r : Registry) (info : DocumentInfo) : DocumentId × Registry :=
  let r := r.mention info.target
  (⟨r.documents.size⟩, { r with documents := r.documents.push info })

/-- Note an import of a document, unless it is known. -/
def addImport (r : Registry) (document : DocumentId) (edge : ImportEdge) : Registry :=
  { r with
    documents := r.documents.modify document.index fun info =>
      if info.imports.any edge.isSame then info
      else { info with imports := info.imports ++ [edge] } }

/-- The first document that was read from a location. -/
def findDocument? (r : Registry) (location : Location) : Option DocumentId :=
  (r.documents.findIdx? fun info => info.location.isSame location).map (⟨·⟩)

/-- Some document has the target namespace. -/
def isLoaded (r : Registry) (ns : Namespace) : Bool :=
  r.documents.any fun info => info.target == ns

/-- The document, or one of those that include it, imports the namespace. `fuel` bounds their
number. -/
def importsFrom (r : Registry) (ns : Namespace) : (fuel : Nat) → DocumentId → Bool
  | 0, _ => false
  | fuel + 1, id =>
    match r.document? id with
    | none => false
    | some info =>
      info.imports.any (fun edge => edge.ns == ns) ||
        match info.includedBy with
        | some includer => importsFrom r ns fuel includer
        | none => false

/-- Names of a namespace can be used in a document if the namespace is that of the schema language,
its own, or one that it or a document that includes it imports. -/
def isVisible (r : Registry) (document : DocumentId) (ns : Namespace) : Bool :=
  ns == some QName.xsdNamespace ||
    ((r.document? document).map fun info => info.target == ns).getD false ||
    r.importsFrom ns r.documents.size document

/-- Leave out what repeats the edge before it, the first one following `last`. -/
def dropRepeats (last : ImportEdge) : List ImportEdge → List ImportEdge
  | [] => []
  | edge :: rest =>
    if last.isSame edge then dropRepeats last rest else edge :: dropRepeats edge rest

/-- The imports of a namespace, those with a location first. -/
def importsOf (r : Registry) (ns : Namespace) : List ImportEdge :=
  let edges := (r.documents.toList.flatMap (·.imports)).filter fun edge => edge.ns == ns
  match edges.filter (·.location.isSome) ++ edges.filter (·.location.isNone) with
  | [] => []
  | edge :: rest => edge :: dropRepeats edge rest

/-! ## The start -/

/-- The location of the document of the schema language itself. -/
def builtinLocation : Location := .memory "builtin:XMLSchema"

/-- The document of the schema language itself. -/
def builtinDocument : DocumentId := ⟨0⟩

/-- A registry that knows the types that are there from the start. -/
def initial : Registry :=
  { namespaces := [some QName.xsdNamespace]
    declarations :=
      ⟨((Category.type, .xsd "anyType"), .type .anyType) ::
        ((Category.type, .xsd "anySimpleType"), .type .anySimpleType) ::
        Builtin.all.map fun b => ((Category.type, b.qname), .type b.typeId)⟩
    documents := #[⟨builtinLocation, some QName.xsdNamespace, none, []⟩] }

end Registry

end Xsd
