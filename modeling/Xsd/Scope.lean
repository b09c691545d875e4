import Xsd.QName
import Xsd.Text.Blank

/-!
# Namespaces in scope

The prefixes that are bound at some place of a document, and the namespace of names without one.
-/

namespace Xsd

/-- The bindings in force, the latest first, and the default namespace. -/
structure Scope where
  bindings : List (String × String)
  unprefixed : Namespace
deriving DecidableEq, Repr, Inhabited

namespace Scope

/-- Outside all declarations only the prefix `xml` is bound. -/
def initial : Scope := ⟨[("xml", QName.xmlNamespace)], none⟩

/-- Bind a prefix, in place of what it was bound to. -/
def bind (scope : Scope) (mark uri : String) : Scope :=
  { scope with bindings := (mark, uri) :: scope.bindings }

/-- Declare the default namespace; the empty name takes it away. -/
def setDefault (scope : Scope) (uri : String) : Scope :=
  { scope with unprefixed := if uri.isEmpty then none else some uri }

/-- The namespace to which a prefix is bound. -/
def lookup (scope : Scope) (mark : String) : Option String :=
  scope.bindings.lookup mark

/-- The name that a text stands for here: blanks at its ends do not count, and the first colon ends
the prefix. -/
def resolve (scope : Scope) (text : String) : Except NameFault QName :=
  let text := Text.trim text
  match Text.cutAt ':' text with
  | some (mark, localName) =>
    match scope.lookup mark with
    | some uri => .ok ⟨some uri, localName⟩
    | none => .error (.unknownPrefix mark)
  | none => .ok ⟨scope.unprefixed, text⟩

/-- The name of an element: without a prefix it is in the default namespace. -/
def resolveElement (scope : Scope) (tag : String) : Except NameFault QName :=
  if tag.toList.contains ':' then scope.resolve tag else .ok ⟨scope.unprefixed, tag⟩

/-- The name of an attribute: without a prefix it is in no namespace. -/
def resolveAttribute (scope : Scope) (tag : String) : Except NameFault QName :=
  if tag.toList.contains ':' then scope.resolve tag else .ok ⟨none, tag⟩

@[simp] theorem lookup_bind (scope : Scope) (mark uri other : String) :
    (scope.bind mark uri).lookup other =
      if other == mark then some uri else scope.lookup other := by
  cases h : other == mark <;> simp [lookup, bind, List.lookup_cons, h]

@[simp] theorem lookup_setDefault (scope : Scope) (uri mark : String) :
    (scope.setDefault uri).lookup mark = scope.lookup mark := rfl

@[simp] theorem unprefixed_bind (scope : Scope) (mark uri : String) :
    (scope.bind mark uri).unprefixed = scope.unprefixed := rfl

end Scope

end Xsd
