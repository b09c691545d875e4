import Xsd.Model

/-!
# Validation

Looking at a document, or at the content of one element, with a model. A strict validation ends at
the first violation, a lazy one collects them all.
-/

namespace Xsd

inductive ValidationMode where
  | strict
  | lazy
deriving DecidableEq, Repr, Inhabited

namespace Validation

/-- A look at some part of a document. It fails with the violation that ends it, and collects the
others. -/
abbrev Look : Type := ExceptT Violation (StateM (List Violation)) Unit

/-- How violations are dealt with, and the names of the elements around and at the place. -/
structure Context where
  mode : ValidationMode
  path : List String

namespace Context

/-- The place inside an element. -/
def enter (c : Context) (name : QName) : Context := { c with path := c.path ++ [name.clark] }

def pathText (c : Context) : String := "/" ++ "/".intercalate c.path

/-- Deal with a violation. One that has no path is at this place. -/
def raise (c : Context) (v : Violation) : Look :=
  let v := { v with path := some (v.path.getD c.pathText) }
  match c.mode with
  | .strict => throw v
  | .lazy => modify fun vs => vs ++ [v]

/-- Deal with what is wrong, if anything is. -/
def raiseIfError {α : Type} (c : Context) : Except Violation α → Look
  | .ok _ => return ()
  | .error v => c.raise v

end Context

/-! ## Violations of content -/

def unexpectedText (text : String) : Violation :=
  .of .unexpectedText s!"Character data '{Text.trim text}' is not allowed here"

def unexpectedElement (name : QName) (reason : String) : Violation :=
  (Violation.of .unexpectedElement s!"Unexpected child element '{name.clark}'").withReason reason

def emptyContent : String := "the content is empty"

def simpleContent : String := "the content is a simple value"

def notCompiled (m : Model) (id : TypeId) : Violation :=
  .of .unknownComponent s!"{m.typeName id} has no compiled content model"

/-- How far the content of an element has been read by an automaton. -/
structure ContentRun where
  automaton : Automaton
  mixed : Bool
  state : Nat

namespace ContentRun

def start (automaton : Automaton) (mixed : Bool) : ContentRun := ⟨automaton, mixed, automaton.start⟩

/-- Read an element; the answer is the symbol that reads it. -/
def element (r : ContentRun) (name : QName) : Except Violation (Symbol × ContentRun) :=
  match r.automaton.step r.state name with
  | some (next, symbol) => .ok (symbol, { r with state := next })
  | none =>
    .error ((Violation.of .unexpectedElement
      s!"Unexpected child element '{name.clark}'").withExpected (r.automaton.expected r.state))

def text (r : ContentRun) (text : String) : Except Violation Unit :=
  if r.mixed || Text.isAllBlank text then .ok () else .error (unexpectedText text)

/-- The content may end here. -/
def finish (r : ContentRun) : Except Violation Unit :=
  if r.automaton.isAccepting r.state then .ok ()
  else
    .error ((Violation.of .incompleteContent
      "The content is incomplete: more child elements are required").withExpected
      (r.automaton.expected r.state))

end ContentRun

/-! ## Events -/

/-- A piece of the content of an element. -/
inductive ContentEvent where
  | element (name : QName)
  | text (content : String)
deriving DecidableEq, Repr

def checkEmpty : ContentEvent → Except Violation Unit
  | .element name => .error (unexpectedElement name emptyContent)
  | .text content => if Text.isAllBlank content then .ok () else .error (unexpectedText content)

/-- The value that pieces of text make up. -/
def valueOf (sofar : String) : List ContentEvent → Except Violation String
  | [] => .ok sofar
  | .element name :: _ => .error (unexpectedElement name simpleContent)
  | .text content :: rest => valueOf (sofar ++ content) rest

def runEvents (r : ContentRun) : List ContentEvent → Except Violation Unit
  | [] => r.finish
  | .element name :: rest => do
    let (_, r) ← r.element name
    runEvents r rest
  | .text content :: rest => do
    r.text content
    runEvents r rest

/-- Look at the content of an element of a type, without going into the elements inside. -/
def checkEvents (m : Model) (id : TypeId) (events : List ContentEvent) : Except Violation Unit :=
  match m.contentModel? id with
  | none => .error (notCompiled m id)
  | some .empty => events.forM checkEmpty
  | some (.simple _) => do
    let value ← valueOf "" events
    discard (m.derived.checkValue id value)
  | some (.elements automaton mixed) => runEvents (.start automaton mixed) events

/-! ## Attributes -/

/-- The fixed value of a constraint, if it fixes one. -/
def fixedValue? (c : Option ValueConstraint) : Option String :=
  c.bind fun c => if c.fixed then some c.value else none

/-- A fixed value in the form in which literals are compared. -/
def expectedLiteral (m : Model) (type : TypeId) (fixed : String) : String :=
  match m.derived.checkValue type fixed with
  | .ok literal => literal
  | .error _ => fixed

def checkAttributeValue (m : Model) (c : Context) (name : QName) (value : String) (type : TypeId)
    (constraint : Option ValueConstraint) : Look :=
  match m.derived.checkValue type value with
  | .error v =>
    c.raise { v with
      kind := .invalidValue
      message := s!"Invalid value for attribute '{name.clark}': {v.message}"
      path := none
      expected := [] }
  | .ok literal =>
    match fixedValue? constraint with
    | none => return ()
    | some fixed =>
      if literal = expectedLiteral m type fixed then return ()
      else
        c.raise (.of .invalidValue
          s!"Attribute '{name.clark}' must have the fixed value '{fixed}'")

/-- Look at an attribute that only a wildcard admits. -/
def checkMatchedAttribute (m : Model) (c : Context) (process : ProcessContents) (name : QName)
    (value : String) : Look :=
  match process with
  | .skip => return ()
  | _ =>
    match m.globalAttribute? name with
    | some decl =>
      checkAttributeValue m c name value ((decl.type.bind (·.target)).getD .anySimpleType)
        decl.constraint
    | none =>
      if process = .strict then
        c.raise (.of .unknownComponent
          s!"No global declaration for attribute '{name.clark}' matched by a strict wildcard")
      else return ()

/-- An attribute that speaks about the instance. -/
def isInstanceAttribute (name : QName) : Bool := name.ns == some QName.instanceNamespace

def checkAttribute (m : Model) (c : Context) (t : ComplexType) (name : QName) (value : String) :
    Look :=
  if isInstanceAttribute name then return ()
  else
    match t.attributes.get? name with
    | some x => checkAttributeValue m c name value x.type x.constraint
    | none =>
      match t.wildcard.filter fun w => w.allows name.ns with
      | some w => checkMatchedAttribute m c w.process name value
      | none => c.raise (.of .unexpectedAttribute s!"Attribute '{name.clark}' is not allowed")

/-- Look at the attributes that there are, and then for those that have to be there. -/
def checkAttributes (m : Model) (c : Context) (e : Element) (t : ComplexType) : Look := do
  e.tag.attributes.entries.forM fun (name, value) => checkAttribute m c t name value
  t.attributes.entries.forM fun (name, x) =>
    if x.use = .required && !e.tag.attributes.contains name then
      c.raise (.of .missingAttribute s!"Missing required attribute '{name.clark}'")
    else return ()

/-- An element of simple type has no attributes of its own. -/
def forbidAttributes (c : Context) (e : Element) : Look :=
  e.tag.attributes.keys.forM fun name =>
    if isInstanceAttribute name then return ()
    else
      c.raise (.of .unexpectedAttribute
        s!"Attribute '{name.clark}' is not allowed on an element of simple type")

/-! ## Elements -/

/-- The element holds neither elements nor text. -/
def checkNothing (c : Context) (e : Element) (reason : String) : Look :=
  match e.children with
  | child :: _ => c.raise (unexpectedElement child.name reason)
  | [] => if e.hasText then c.raise (unexpectedText e.text) else return ()

/-- The text of an element is a value of the type. Where there is none, the value constraint
supplies one. -/
def checkText (m : Model) (c : Context) (e : Element) (type : TypeId)
    (constraint : Option ValueConstraint) : Look :=
  let own := e.text
  let text := if own.isEmpty then ((constraint.map (·.value)).getD own) else own
  match m.derived.checkValue type text with
  | .error v => c.raise v
  | .ok literal =>
    match fixedValue? constraint with
    | none => return ()
    | some fixed =>
      if literal = expectedLiteral m type fixed then return ()
      else
        c.raise (.of .invalidValue
          s!"Value '{literal}' does not match the fixed value '{fixed}'")

/-- What an element contains, each element together with how to look at it: as one that a
declaration describes, or as one that a wildcard admits. -/
inductive Child where
  | text (content : String)
  | element (e : Element) (declared : Context → ElementId → Look)
      (matched : Context → ProcessContents → Look)

/-- Look at what an element contains while an automaton reads it. -/
def checkChildren (c : Context) (r : ContentRun) : List Child →
    ExceptT Violation (StateM (List Violation)) ContentRun
  | [] => return r
  | .text content :: rest => do
    c.raiseIfError (r.text content)
    checkChildren c r rest
  | .element e declared matched :: rest => do
    let inside := c.enter e.name
    match r.element e.name with
    | .error v =>
      inside.raise v
      checkChildren c r rest
    | .ok (symbol, next) =>
      match symbol with
      | .element _ id => declared inside id
      | .wildcard w => matched inside w.process
      checkChildren c next rest

/-- Mixed content without elements is the fixed value, if there is one. -/
def checkFixedText (c : Context) (e : Element) (constraint : Option ValueConstraint) : Look :=
  match fixedValue? constraint with
  | none => return ()
  | some fixed =>
    if e.children.isEmpty && e.text != fixed then
      c.raise (.of .invalidValue s!"Content '{e.text}' does not match the fixed value '{fixed}'")
    else return ()

/-- Look at an element as one of the type. -/
def checkTyped (m : Model) (e : Element) (children : List Child) (c : Context) (type : TypeId)
    (constraint : Option ValueConstraint) : Look := do
  match m.contentModel? type with
  | none => c.raise (notCompiled m type)
  | some content =>
    match m.derived.complex? type with
    | some t => checkAttributes m c e t
    | none => forbidAttributes c e
    match content with
    | .empty => checkNothing c e emptyContent
    | .simple _ =>
      match e.children with
      | child :: _ => c.raise (unexpectedElement child.name simpleContent)
      | [] => checkText m c e type constraint
    | .elements automaton mixed =>
      let r ← checkChildren c (.start automaton mixed) children
      c.raiseIfError r.finish
      if mixed then checkFixedText c e constraint

/-- What an element says about its being nil, if it says anything. -/
def nilText? (e : Element) : Option String :=
  (e.tag.attributes.get? ⟨some QName.instanceNamespace, "nil"⟩).map Text.trim

/-- Look at an element that is nil: it holds nothing, but can have attributes. -/
def checkNil (m : Model) (e : Element) (c : Context) (type : TypeId) : Look := do
  checkNothing c e "a nilled element must be empty"
  match m.derived.complex? type with
  | some t => checkAttributes m c e t
  | none => return ()

/-- Look at an element as one that the declaration describes. -/
def checkDeclared (m : Model) (e : Element) (children : List Child) (c : Context)
    (id : ElementId) : Look := do
  match m.arena.element? id with
  | none => return ()
  | some decl =>
    let type := m.elementType id
    let typed := checkTyped m e children c type decl.constraint
    match nilText? e with
    | none => typed
    | some word =>
      if word == "true" || word == "1" then
        if decl.nillable then checkNil m e c type
        else
          c.raise (.of .invalidValue s!"Element '{e.name.clark}' is not nillable")
          typed
      else
        if !(word == "false" || word == "0") then
          c.raise (.of .invalidValue s!"Invalid xsi:nil value '{word}'")
        typed

/-- Look at an element that a wildcard admits. Where nothing is known of it, that can be said of
what is inside. -/
def checkMatched (m : Model) (e : Element) (children : List Child) (c : Context)
    (process : ProcessContents) : Look :=
  if process = .skip then return ()
  else
    match m.globalElement? e.name with
    | some id => checkDeclared m e children c id
    | none =>
      if process = .strict then
        c.raise (.of .unknownComponent
          s!"No global declaration for element '{e.name.clark}' matched by a strict wildcard")
      else
        children.forM fun
          | .text _ => return ()
          | .element inner _ matched => matched (c.enter inner.name) .lax

mutual

def child (m : Model) : Node → Child
  | .text content => .text content
  | .element tag nodes =>
    let children := childrenOf m nodes
    .element ⟨tag, nodes⟩ (checkDeclared m ⟨tag, nodes⟩ children)
      (checkMatched m ⟨tag, nodes⟩ children)

def childrenOf (m : Model) : List Node → List Child
  | [] => []
  | n :: ns => child m n :: childrenOf m ns

end

/-- Look at a document. -/
def checkDocument (m : Model) (mode : ValidationMode) (document : Document) : Look :=
  let c : Context := ⟨mode, []⟩
  match document.root with
  | none => c.raise (.of .incompleteContent "Document has no root element")
  | some root =>
    let c := c.enter root.name
    match m.globalElement? root.name with
    | none =>
      c.raise (.of .unknownComponent
        s!"No global element declaration for root element '{root.name.clark}'")
    | some id =>
      if ((m.arena.element? id).map (·.isAbstract)).getD false then
        c.raise (.of .unexpectedElement s!"Root element '{root.name.clark}' is declared abstract")
      else checkDeclared m root (childrenOf m root.nodes) c id

/-- What has been collected, or the violation that has ended the look. -/
def result (look : Look) : Except Violation (List Violation) :=
  match (look.run).run [] with
  | (.ok (), collected) => .ok collected
  | (.error v, _) => .error v

/-- The first violation, if a document is not valid. -/
def checkStrictly (m : Model) (document : Document) : Except Violation Unit :=
  (result (checkDocument m .strict document)).map fun _ => ()

/-- All violations of a document. -/
def violations (m : Model) (document : Document) : List Violation :=
  match result (checkDocument m .lazy document) with
  | .ok collected => collected
  | .error v => [v]

def isValid (m : Model) (document : Document) : Bool := (checkStrictly m document).isOk

end Validation

end Xsd
