import Xsd.Limits
import Xsd.Markup.Element
import Xsd.Markup.Scan

/-!
# Documents

The tree that a sequence of markup events describes. Namespace declarations of a tag are in force
for its own name and attributes, wherever in the tag they stand.
-/

namespace Xsd

/-- Why a text is no document. -/
inductive Markup.DocumentFault where
  | limit (excess : LimitExcess)
  | form (fault : Markup.Fault)
  | unresolvedElement (name : String) (fault : NameFault)
  | unresolvedAttribute (name : String) (fault : NameFault)
  | unclosed (name : QName)
deriving DecidableEq, Repr

/-- What is wrong, with the class of the fault before it. -/
def Markup.DocumentFault.message : Markup.DocumentFault → String
  | .limit excess => "limit exceeded: " ++ excess.message
  | .form fault => "XML error: " ++ fault.message
  | .unresolvedElement name fault => s!"XML error: Element '{name}': name error: {fault.message}"
  | .unresolvedAttribute name fault =>
    s!"XML error: Attribute '{name}': name error: {fault.message}"
  | .unclosed name => s!"XML error: Unclosed element '{name.clark}'"

namespace Markup

/-- An element that is not yet closed: its tag and its content so far, the latest first. -/
structure OpenElement where
  tag : Tag
  nodes : List Node
deriving Repr, Inhabited

/-- Add text to content, the latest first. Text after text continues it. -/
def addText (content : String) : List Node → List Node
  | .text before :: rest => .text (before ++ content) :: rest
  | nodes => .text content :: nodes

/-- Declarations and other attributes, told apart in the order of the tag; declarations take effect
on the scope. -/
def declare (scope : Scope) (others : List (String × String)) :
    List (Except Fault (String × String)) → Except DocumentFault (Scope × List (String × String))
  | [] => .ok (scope, others.reverse)
  | .error fault :: _ => .error (.form fault)
  | .ok (name, value) :: rest =>
    if name = "xmlns" then declare (scope.setDefault value) others rest
    else
      match Text.after? "xmlns:" name with
      | some mark => declare (scope.bind mark value) others rest
      | none => declare scope ((name, value) :: others) rest

/-- Resolve the names of attributes. -/
def resolveAttributes (scope : Scope) (table : Table QName String) :
    List (String × String) → Except DocumentFault (Table QName String)
  | [] => .ok table
  | (name, value) :: rest =>
    match scope.resolveAttribute name with
    | .error fault => .error (.unresolvedAttribute name fault)
    | .ok q => resolveAttributes scope (table.insert q value) rest

/-- The tag with its names resolved, inside the scope of the element around it. -/
def resolveTag (outer : Scope) (position : Nat) (raw : RawTag) : Except DocumentFault Tag := do
  let name ← match raw.name with
    | .error fault => .error (.form fault)
    | .ok name => .ok name
  let (scope, others) ← declare outer [] raw.attributes
  let q ← match scope.resolveElement name with
    | .error fault => .error (.unresolvedElement name fault)
    | .ok q => .ok q
  let attributes ← resolveAttributes scope .empty others
  .ok ⟨q, attributes, scope, position⟩

/-- The scope inside the innermost open element. -/
def scopeOf : List OpenElement → Scope
  | [] => .initial
  | e :: _ => e.tag.scope

/-- Put a finished element into the one around it; outside all it is the root. -/
def close (e : Element) : List OpenElement → Option Element → List OpenElement × Option Element
  | [], _ => ([], some e)
  | parent :: rest, root =>
    ({ parent with nodes := .element e.tag e.nodes :: parent.nodes } :: rest, root)

def checkDepth (limits : Limits) (depth : Nat) : Except DocumentFault Unit :=
  match limits.checkXmlDepth depth with
  | .error excess => .error (.limit excess)
  | .ok () => .ok ()

/-- The root that the events build, given the open elements, innermost first, and the root so far.
Of several roots the last one counts. -/
def build (limits : Limits) (opened : List OpenElement) (root : Option Element) :
    List Event → Except DocumentFault (Option Element)
  | [] =>
    match opened with
    | [] => .ok root
    | e :: _ => .error (.unclosed e.tag.name)
  | .start position raw :: rest => do
    let tag ← resolveTag (scopeOf opened) position raw
    checkDepth limits (opened.length + 1)
    build limits (⟨tag, []⟩ :: opened) root rest
  | .empty position raw :: rest => do
    let tag ← resolveTag (scopeOf opened) position raw
    checkDepth limits (opened.length + 1)
    let (opened, root) := close ⟨tag, []⟩ opened root
    build limits opened root rest
  | .finish :: rest =>
    match opened with
    | [] => build limits [] root rest
    | e :: opened =>
      let (opened, root) := close ⟨e.tag, e.nodes.reverse⟩ opened root
      build limits opened root rest
  | .text content :: rest =>
    match opened with
    | [] => build limits [] root rest
    | e :: opened =>
      match content with
      | .error fault => .error (.form fault)
      | .ok s => build limits ({ e with nodes := addText s e.nodes } :: opened) root rest
  | .cdata s :: rest =>
    match opened with
    | [] => build limits [] root rest
    | e :: opened => build limits ({ e with nodes := addText s e.nodes } :: opened) root rest
  | .other :: rest => build limits opened root rest
  | .broken fault :: _ => .error (.form fault)

/-- The root of the document that the bytes write down, if there is one. -/
def parse (limits : Limits) (bytes : ByteArray) : Except DocumentFault (Option Element) :=
  match limits.checkXmlSize bytes.size with
  | .error excess => .error (.limit excess)
  | .ok () => build limits [] none (Scan.document bytes.toList)

end Markup

end Xsd
