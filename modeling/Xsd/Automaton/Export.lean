import Xsd.Automaton.ContentModel
import Xsd.Json

/-!
# Content models in JSON

The form in which automata and content models are handed to other programs.
-/

namespace Xsd

def NamespaceConstraint.toJson : NamespaceConstraint → Json
  | .any => .string "Any"
  | .other excluded => .object [("Other", .ofOption excluded)]
  | .enumeration members => .object [("Enumeration", .array (members.map .ofOption))]

/-- The name of the processing in the exported form. -/
def ProcessContents.exportName : ProcessContents → String
  | .strict => "Strict"
  | .lax => "Lax"
  | .skip => "Skip"

def Wildcard.toJson (w : Wildcard) : Json :=
  .object
    [("constraint", w.constraint.toJson), ("process_contents", .string w.process.exportName)]

def QName.toJson (name : QName) : Json :=
  .object [("namespace", .ofOption name.ns), ("local_name", .string name.localName)]

def Symbol.toJson : Symbol → Json
  | .element name id =>
    .object [("kind", .string "element"), ("name", name.toJson), ("element", .number id.index)]
  | .wildcard w => .object [("kind", .string "wildcard"), ("wildcard", w.toJson)]

/-- A transition in which no other symbol reads has no member for one. -/
def Transition.toJson (t : Transition) : Json :=
  .object ([("symbol", .number t.symbol), ("target", .number t.target)] ++
    (t.wildcard.map fun w => ("wildcard", Json.number w)).toList)

def State.toJson (s : State) : Json :=
  .object
    [("accepting", .bool s.accepting), ("transitions", .array (s.transitions.map (·.toJson)))]

def Automaton.toJson (a : Automaton) : Json :=
  .object
    [("alphabet", .array (a.alphabet.toList.map (·.toJson))),
     ("states", .array (a.states.toList.map (·.toJson))),
     ("start", .number a.start)]

def ContentModel.toJson : ContentModel → Json
  | .empty => .object [("kind", .string "empty")]
  | .simple valueType =>
    .object [("kind", .string "simple"), ("value_type", .number valueType.index)]
  | .elements automaton mixed =>
    .object
      [("kind", .string "elements"), ("automaton", automaton.toJson), ("mixed", .bool mixed)]

end Xsd
