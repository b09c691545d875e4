/-!
# Violations

What a validator finds wrong with an instance.
-/

namespace Xsd

/-- The kinds of violations. -/
inductive ViolationKind where
  | unexpectedElement
  | incompleteContent
  | unexpectedText
  | invalidValue
  | missingAttribute
  | unexpectedAttribute
  | unknownComponent
deriving DecidableEq, Repr, Inhabited

def ViolationKind.name : ViolationKind → String
  | .unexpectedElement => "unexpected element"
  | .incompleteContent => "incomplete content"
  | .unexpectedText => "unexpected text"
  | .invalidValue => "invalid value"
  | .missingAttribute => "missing attribute"
  | .unexpectedAttribute => "unexpected attribute"
  | .unknownComponent => "unknown component"

/-- A violation: what it is, where in the document, what would have been right, and what caused
it. -/
structure Violation where
  kind : ViolationKind
  message : String
  path : Option String := none
  expected : List String := []
  reason : Option String := none
deriving DecidableEq, Repr, Inhabited

namespace Violation

def of (kind : ViolationKind) (message : String) : Violation :=
  ⟨kind, message, none, [], none⟩

def withReason (v : Violation) (reason : String) : Violation := { v with reason := some reason }

def withExpected (v : Violation) (expected : List String) : Violation :=
  { v with expected := expected }

/-- All that is known of a violation, a paragraph each. -/
def describe (v : Violation) : String :=
  let paragraph (title : String) (text : Option String) : String :=
    (text.map fun t => "\n\n" ++ title ++ ": " ++ t).getD ""
  v.kind.name ++ ": " ++ v.message ++ paragraph "Reason" v.reason ++ paragraph "Path" v.path ++
    paragraph "Expected"
      (if v.expected.isEmpty then none else some (", ".intercalate v.expected))

end Violation

end Xsd
