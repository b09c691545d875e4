import Xsd.CommandLine.Arguments
import Xsd.CommandLine.Report
import Xsd.Validation

/-!
# The command line

What the program answers to its arguments, given the files that it can read.
-/

namespace Xsd.CommandLine

/-- The answer of the program: its exit code, and what it writes where. -/
structure Outcome where
  code : Nat
  output : String
  errorText : String
deriving DecidableEq, Repr

def success (output : String) : Outcome := ⟨0, output, ""⟩

def failure (message : String) : Outcome := ⟨1, "", s!"Error: {message}\n"⟩

/-- Compile the schema in a file. What it refers to is looked for in files. -/
def loadSchema (files : Files) (path : String) : Except String Model := do
  let document ← (files.loadDocument (.path path)).mapError (·.message)
  (Model.compile ⟨some (files.retriever .empty), .standard⟩ [document]).mapError Model.failureText

/-- The first type of the schema whose local or Clark name is the given one. -/
def findType? (m : Model) (name : String) : Option (QName × TypeId) :=
  match (m.globals .type).find? fun g => g.1.localName == name || g.1.clark == name with
  | some (q, .type id) => some (q, id)
  | _ => none

def describeType (m : Model) (name : String) (json : Bool) : Except String String :=
  match findType? m name with
  | none => .error s!"Type '{name}' not found in schema"
  | some (q, id) =>
    match m.contentModel? id with
    | none => .error s!"Type '{name}' has no content model"
    | some content =>
      .ok (if json then lines [content.toJson.pretty] else typeDetails m q id content)

def inspect (files : Files) (schema : String) (type : Option String) (json : Bool) :
    Except String Outcome := do
  let m ← loadSchema files schema
  match type with
  | some name => return success (← describeType m name json)
  | none => return success (if json then summaryJson m else summary m)

/-- The mode of a name, in capital or small letters. -/
def modeOf? (word : String) : Option ValidationMode :=
  match word.toLower with
  | "strict" => some .strict
  | "lazy" => some .lazy
  | _ => none

/-- The violations that are shown: in strict mode there is at most one. -/
def violationsShown (m : Model) (mode : ValidationMode) (document : Document) : List Violation :=
  match mode with
  | .lazy => Validation.violations m document
  | .strict =>
    match Validation.checkStrictly m document with
    | .ok () => []
    | .error v => [v]

def validate (files : Files) (schema file mode : String) : Except String Outcome := do
  let m ← loadSchema files schema
  let mode ← match modeOf? mode with
    | some mode => .ok mode
    | none => .error s!"Unknown validation mode: {mode}. Use: strict, lazy"
  let document ← (files.loadDocument (.path file)).mapError (·.message)
  let violations := violationsShown m mode document
  if violations.isEmpty then return success "✓ Document is valid\n"
  else
    let shown := violations.map fun v => "  - " ++ v.describe
    return ⟨1, lines (["✗ Document is invalid", "", "Errors:"] ++ shown), ""⟩

def runCommand (files : Files) : Command → Except String Outcome
  | .version => .ok (success s!"xsdc {version}\n")
  | .inspect schema type json => inspect files schema type json
  | .validate schema file mode => validate files schema file mode

/-- The answer to the arguments. -/
def run (files : Files) (arguments : List String) : Outcome :=
  match readCommand arguments with
  | .error fault => ⟨2, "", s!"error: {fault.message}\n"⟩
  | .ok command =>
    match runCommand files command with
    | .ok outcome => outcome
    | .error message => failure message

/-! ## Files that are needed -/

/-- The files that a command reads first. -/
def sources : Command → List String
  | .version => []
  | .inspect schema _ _ => [schema]
  | .validate schema file _ => [schema, file]

/-- The files to which a schema document in a file refers. -/
def references (path text : String) : List String :=
  match Document.ofText (.path path) text with
  | .error _ => []
  | .ok document =>
    ((document.root.map (·.children)).getD []).filterMap fun c =>
      match (c.attribute? "schemaLocation").map document.location.join with
      | some (.path p) => some p
      | _ => none

end Xsd.CommandLine
