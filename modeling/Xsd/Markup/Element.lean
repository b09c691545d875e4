import Xsd.Scope
import Xsd.Table

/-!
# Elements

A document as a tree: elements with their names resolved, their attributes, the namespaces in scope
and what they contain.
-/

namespace Xsd

/-- A start tag with its names resolved. -/
structure Tag where
  name : QName
  attributes : Table QName String
  scope : Scope
  /-- Where the tag starts, in bytes. -/
  position : Nat
deriving Repr, Inhabited

/-- A piece of what an element contains. -/
inductive Node where
  | text (content : String)
  | element (tag : Tag) (nodes : List Node)
deriving Repr, Inhabited

structure Element where
  tag : Tag
  nodes : List Node
deriving Repr, Inhabited

namespace Node

mutual

/-- How many elements are nested in a piece of content. -/
def height : Node → Nat
  | .text _ => 0
  | .element _ nodes => heights nodes + 1

/-- The greatest height of several pieces. -/
def heights : List Node → Nat
  | [] => 0
  | n :: ns => max n.height (heights ns)

end

end Node

namespace Element

def name (e : Element) : QName := e.tag.name

def localName (e : Element) : String := e.tag.name.localName

/-- How many elements are nested, this one included. -/
def height (e : Element) : Nat := Node.heights e.nodes + 1

/-- The elements directly inside. -/
def children (e : Element) : List Element :=
  e.nodes.filterMap fun
    | .element tag nodes => some ⟨tag, nodes⟩
    | .text _ => none

/-- The text directly inside. -/
def text (e : Element) : String :=
  String.join (e.nodes.filterMap fun
    | .text content => some content
    | .element _ _ => none)

/-- There is text directly inside that is not all blank. -/
def hasText (e : Element) : Bool :=
  e.nodes.any fun
    | .text content => !Text.isAllBlank content
    | .element _ _ => false

/-- The value of an attribute that is in no namespace. -/
def attribute? (e : Element) (localName : String) : Option String :=
  e.tag.attributes.get? ⟨none, localName⟩

/-- The children of a local name, in any namespace. -/
def childrenNamed (e : Element) (localName : String) : List Element :=
  e.children.filter fun c => c.localName == localName

/-- The name that a text stands for inside the element. -/
def resolve (e : Element) (text : String) : Except NameFault QName := e.tag.scope.resolve text

end Element

end Xsd
