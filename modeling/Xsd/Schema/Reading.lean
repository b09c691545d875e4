import Xsd.Schema.ComplexType

/-!
# Schema documents

Reading the documents of a schema into an assembly: their own declarations, and the documents that
they include. Imports are noted only.
-/

namespace Xsd.Schema

/-- The document that includes another one, and its target namespace. -/
structure Includer where
  document : DocumentId
  target : Namespace

/-- Where documents are from, and within which limits they are read. -/
structure Supply where
  retriever : Option Retriever
  limits : Limits

/-- How to read a document that is included by another one. -/
abbrev ReadIncluded := Includer → Document → Assemble DocumentId

/-- An error in a document as a whole. -/
def refuseDocument {α : Type} (document : Document) (fault : SchemaFault) : Except Error α :=
  .error (.schemaStructure fault (some (.document document.location)))

/-- The root of a schema document. -/
def schemaRoot (document : Document) : Except Error Element :=
  match document.root with
  | none => refuseDocument document .emptyDocument
  | some root =>
    if root.name = .xsd "schema" then .ok root
    else refuseDocument document (.wrongRoot root.name)

/-- The target namespace that is in effect, and whether it is that of the includer for want of an
own one. -/
def targetNamespace (document : Document) (includer : Option Includer) (root : Element) :
    Except Error (Namespace × Bool) := do
  let declared := root.attribute? "targetNamespace"
  if declared = some "" then refuseDocument document .emptyTargetNamespace
  else
    match includer, declared with
    | none, _ => .ok (declared, false)
    | some includer, none => .ok (includer.target, includer.target.isSome)
    | some includer, some uri =>
      if includer.target = some uri then .ok (declared, false)
      else refuseDocument document (.includedNamespace uri includer.target)

/-- Whether local names are in the target namespace unless they say otherwise. -/
def formDefault (document : Document) (root : Element) (word : String) : Except Error Bool :=
  match root.attribute? word with
  | none => .ok false
  | some "unqualified" => .ok false
  | some "qualified" => .ok true
  | some other => refuseDocument document (.invalidFormDefault other word)

/-- Include a document unless one from its location has been read. What is wrong in it is noted. -/
def inclusion (supply : Supply) (depth : Nat) (read : ReadIncluded) (s : Setting) (e : Element) :
    Assemble Unit := do
  match e.attribute? "schemaLocation" with
  | none => s.refuse e .missingSchemaLocation
  | some hint =>
    let location := s.location.join hint
    if ((← get).registry.findDocument? location).isSome then return ()
    match supply.limits.checkSchemaDepth (depth + 1) with
    | .error excess => throw (.limitExceeded excess)
    | .ok () => pure ()
    match supply.retriever with
    | none => Assemble.note (.retrieval (.noRetriever location))
    | some retriever =>
      match retriever.fetch (.document location) with
      | .error fault => Assemble.note (.retrieval (.inclusion location fault))
      | .ok document =>
        try
          discard (read ⟨s.document, s.target⟩ { document with location := location })
        catch e => Assemble.note e

/-- Note an import. -/
def importation (s : Setting) (e : Element) : Assemble Unit := do
  let ns := e.attribute? "namespace"
  if ns = s.target then s.refuse e .importOfOwnNamespace
  else
    let location := (e.attribute? "schemaLocation").map s.location.join
    modify fun a => { a with registry := a.registry.addImport s.document ⟨ns, location⟩ }

/-- Read one child of the root. -/
def topLevel (supply : Supply) (depth : Nat) (read : ReadIncluded) (inner : Nested) (s : Setting)
    (e : Element) : Assemble Unit := do
  s.expectXsd e
  match e.localName with
  | "annotation" => return ()
  | "notation" => return ()
  | "include" => inclusion supply depth read s e
  | "import" => importation s e
  | "redefine" => s.refuse e .redefinition
  | "element" => globalElement inner s e
  | "simpleType" =>
    let name ← s.globalName e
    let id ← simpleType inner s (some name) e
    Assemble.declare name (.type id)
  | "complexType" =>
    let name ← s.globalName e
    let id ← complexType inner s (some name) e
    Assemble.declare name (.type id)
  | "attribute" => globalAttribute inner s e
  | "attributeGroup" => globalAttributeGroup inner s e
  | "group" => globalGroup inner s e
  | other => s.refuse e (.unexpectedTopLevel other)

/-- The number of components must stay within its limit. -/
def checkSize (limits : Limits) : Assemble Unit := do
  match limits.checkSchemaComponents (← get).arena.size with
  | .error excess => throw (.limitExceeded excess)
  | .ok () => return ()

/-- Read a document that other documents at the given depth may include; `read` reads those that it
includes. -/
def readDocument (supply : Supply) (depth : Nat) (read : ReadIncluded) (includer : Option Includer)
    (document : Document) : Assemble DocumentId := do
  let root ← schemaRoot document
  let (target, adopted) ← targetNamespace document includer root
  let elementsQualified ← formDefault document root "elementFormDefault"
  let attributesQualified ← formDefault document root "attributeFormDefault"
  let info : DocumentInfo := ⟨document.location, target, includer.map (·.document), []⟩
  let id ← modifyGet fun a =>
    let (id, registry) := a.registry.addDocument info
    (id, { a with registry := registry })
  let s : Setting :=
    ⟨id, document.location, target, adopted, elementsQualified, attributesQualified⟩
  let inner := nested s root.height
  root.children.forM fun e => do
    topLevel supply depth read inner s e
    checkSize supply.limits
  return id

/-- Read a document that is included by another one, `room` being the number of further documents
that may include each other below it. -/
def readIncluded (supply : Supply) (depth : Nat) : (room : Nat) → ReadIncluded
  | 0, includer, document =>
    readDocument supply depth
      (fun _ _ => throw (.limitExceeded (.schemaDepth (depth + 1) supply.limits.schemaDepth)))
      (some includer) document
  | room + 1, includer, document =>
    readDocument supply depth (readIncluded supply (depth + 1) room) (some includer) document

/-- Read a document at the depth. -/
def readAt (supply : Supply) (depth : Nat) (document : Document) : Assemble DocumentId :=
  readDocument supply depth
    (readIncluded supply (depth + 1) (supply.limits.schemaDepth - depth)) none document

/-- Read a document that the schema starts from. -/
def build (supply : Supply) (document : Document) : Assemble DocumentId :=
  readAt supply 0 document

/-- Read a document for a namespace that is imported. It has to declare just that. -/
def buildImported (supply : Supply) (ns : Namespace) (document : Document) :
    Assemble DocumentId := do
  let declared := document.root.bind fun root => root.attribute? "targetNamespace"
  if declared = ns then readAt supply 1 document
  else throw (.importUnavailable ns (.otherNamespace document.location declared))

end Xsd.Schema
