import Xsd.Document

/-!
# Retrieval

How documents are found that others refer to: under the keys of a store in memory, or in files.
-/

namespace Xsd

/-- What is asked for: the document at a location, or one that declares a namespace. -/
inductive Request where
  | document (location : Location)
  | declaring (ns : Namespace)
deriving DecidableEq, Repr

def Request.render : Request → String
  | .document location => location.render
  | .declaring (some uri) => "namespace " ++ uri
  | .declaring none => "no-namespace schema"

/-- Why a file could not be read. -/
inductive FileFault where
  | missing
  | isDirectory
  | notDirectory
  | denied
  | notText
  | other (text : String)
deriving DecidableEq, Repr

def FileFault.message : FileFault → String
  | .missing => "No such file or directory (os error 2)"
  | .isDirectory => "Is a directory (os error 21)"
  | .notDirectory => "Not a directory (os error 20)"
  | .denied => "Permission denied (os error 13)"
  | .notText => "stream did not contain valid UTF-8"
  | .other text => text

/-- Why a source has no text for a request. -/
inductive SourceFault where
  | unreadable (path : String) (fault : FileFault)
  | remote (location : Location)
  | notInFiles (key : String)
  | noLocation (request : Request)
  | notRegistered (key : String)
  | noneDeclaring (request : Request)
deriving DecidableEq, Repr

def SourceFault.message : SourceFault → String
  | .unreadable path fault => s!"Failed to read file '{path}': {fault.message}"
  | .remote location => s!"Remote retrieval is not supported: {location.render}"
  | .notInFiles key => s!"No in-memory resource '{key}' available to the file retriever"
  | .noLocation request => s!"No location known for {request.render}"
  | .notRegistered key => s!"No document registered at '{key}'"
  | .noneDeclaring request => s!"No document registered for {request.render}"

/-- Why a request was not answered by a document. -/
inductive FetchFault where
  | source (fault : SourceFault)
  | document (fault : Markup.DocumentFault)
deriving DecidableEq, Repr

def FetchFault.message : FetchFault → String
  | .source fault => "retrieval error: " ++ fault.message
  | .document fault => fault.message

/-- A source of documents. -/
structure Retriever where
  fetch : Request → Except FetchFault Document
  /-- The number of texts in the source. Its documents declare at most so many namespaces. -/
  size : Nat

/-- Read the text that a source has for a location. -/
def readText (location : Location) (text : Except SourceFault String) :
    Except FetchFault Document :=
  match text with
  | .error fault => .error (.source fault)
  | .ok text =>
    match Document.ofText location text with
    | .error fault => .error (.document fault)
    | .ok document => .ok document

/-! ## Documents in memory -/

/-- Texts by the written form of their location, and by the namespace that they declare. -/
structure MemoryStore where
  byLocation : Table String String
  byNamespace : Table Namespace String

namespace MemoryStore

def fetch (store : MemoryStore) : Request → Except FetchFault Document
  | .document location =>
    let key := location.render
    readText location
      (match store.byLocation.get? key with
        | some text => .ok text
        | none => .error (.notRegistered key))
  | .declaring ns =>
    readText (.memory ns.label)
      (match store.byNamespace.get? ns with
        | some text => .ok text
        | none => .error (.noneDeclaring (.declaring ns)))

def retriever (store : MemoryStore) : Retriever :=
  ⟨store.fetch, store.byLocation.size + store.byNamespace.size⟩

end MemoryStore

/-! ## Documents in files -/

/-- The texts of files by path, and the number of files. -/
structure Files where
  read : String → Except FileFault String
  size : Nat

namespace Files

/-- The text at a location, if it is that of a file. -/
def load (files : Files) : Location → Except SourceFault String
  | .path path =>
    match files.read path with
    | .ok text => .ok text
    | .error fault => .error (.unreadable path fault)
  | .url u => .error (.remote (.url u))
  | .memory key => .error (.notInFiles key)

def loadDocument (files : Files) (location : Location) : Except FetchFault Document :=
  readText location (files.load location)

/-- Documents are looked for where they are said to be; for a namespace that needs a known
location. -/
def fetch (files : Files) (known : Table Namespace Location) : Request → Except FetchFault Document
  | .document location => files.loadDocument location
  | .declaring ns =>
    match known.get? ns with
    | some location => files.loadDocument location
    | none => .error (.source (.noLocation (.declaring ns)))

def retriever (files : Files) (known : Table Namespace Location) : Retriever :=
  ⟨files.fetch known, files.size⟩

end Files

end Xsd
