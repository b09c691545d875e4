import Xsd.Automaton.Export
import Xsd.Model

/-!
# Reports

The texts in which the command line describes a schema and its types.
-/

namespace Xsd.CommandLine

def version : String := "0.1.0"

/-- What kind of content a component has. -/
def contentWord (m : Model) : ComponentId → String
  | .type id =>
    match m.derived.complex? id with
    | none => "simple"
    | some t =>
      match t.label with
      | .empty => "empty"
      | .simple => "simple content"
      | .elementOnly => "element-only"
      | .mixed => "mixed"
  | _ => ""

/-- Lines, each of them ended. -/
def lines (texts : List String) : String := String.join (texts.map fun t => t ++ "\n")

def statistics (m : Model) : List String :=
  let count (title : String) (category : Category) : String :=
    s!"  {title}: {(m.globals category).length}"
  ["Statistics:", count "Global Elements" .element, count "Global Types" .type,
   count "Global Attributes" .attribute, count "Model Groups" .group,
   count "Attribute Groups" .attributeGroup, s!"  Resolver Passes: {m.report.passes}",
   s!"  Imports Loaded: {m.report.importsLoaded}"]

def elementLine (m : Model) : QName × ComponentId → Option String
  | (name, .element id) => some s!"  {name.clark} : {m.typeName (m.elementType id)}"
  | _ => none

def typeLine (m : Model) (global : QName × ComponentId) : String :=
  let automaton := match global.2 with
    | .type id => (m.contentModel? id).bind (·.automaton?)
    | _ => none
  let states := (automaton.map fun a => s!", {a.states.size} states").getD ""
  s!"  {global.1.clark} ({contentWord m global.2}{states})"

/-- An overview of a schema. -/
def summary (m : Model) : String :=
  lines (["xsdc v" ++ version, ""] ++ statistics m ++
    ["", "=== Global Elements ==="] ++ (m.globals .element).filterMap (elementLine m) ++
    ["", "=== Global Types ==="] ++ (m.globals .type).map (typeLine m))

/-! ## Overview in JSON -/

def typeJson (m : Model) (global : QName × ComponentId) : Json :=
  let content := match global.2 with
    | .type id => m.contentModel? id
    | _ => none
  .object
    [("name", .string global.1.clark), ("content", .string (contentWord m global.2)),
     ("model", (content.map ContentModel.toJson).getD .null)]

def elementJson (m : Model) : QName × ComponentId → Option Json
  | (name, .element id) =>
    let decl := m.arena.element? id
    some (.object
      [("name", .string name.clark), ("type", .string (m.typeName (m.elementType id))),
       ("abstract", .bool ((decl.map (·.isAbstract)).getD false)),
       ("nillable", .bool ((decl.map (·.nillable)).getD false))])
  | _ => none

def reportJson (r : ResolutionReport) : Json :=
  .object
    [("passes", .number r.passes), ("resolved", .number r.resolved),
     ("imports_loaded", .number r.importsLoaded)]

/-- An overview of a schema, the members of objects in the order of their names. -/
def summaryJson (m : Model) : String :=
  let overview : Json := .object
    [("resolution", reportJson m.report),
     ("elements", .array ((m.globals .element).filterMap (elementJson m))),
     ("types", .array ((m.globals .type).map (typeJson m)))]
  lines [overview.sorted.pretty]

/-! ## One type -/

def attributeLine (m : Model) (x : QName × EffectiveAttribute) : String :=
  s!"  @{x.1.clark} ({x.2.use.name}) : {m.typeName x.2.type}"

def transitionLine (a : Automaton) (t : Transition) : String :=
  let symbol := ((a.alphabet[t.symbol]?).map (·.render)).getD ""
  s!"        {symbol} -> {t.target}"

def stateLines (a : Automaton) (s : State × Nat) : List String :=
  let start := if s.2 == a.start then ">" else " "
  let marker := if s.1.accepting then "*" else " "
  s!"  {start}{marker}{s.2}" :: s.1.transitions.map (transitionLine a)

def contentLines (m : Model) : ContentModel → List String
  | .empty => ["  Content: empty"]
  | .simple valueType => [s!"  Content: simple ({m.typeName valueType})"]
  | .elements a mixed =>
    let word := if mixed then "mixed" else "element-only"
    s!"  Content: {word} automaton, {a.states.size} states, {a.transitionCount} transitions" ::
      a.states.toList.zipIdx.flatMap (stateLines a)

/-- A description of a type: what it derives from, its attributes and its content. -/
def typeDetails (m : Model) (name : QName) (id : TypeId) (content : ContentModel) : String :=
  let chain := (m.derived.chain id).map m.typeName
  let attributes := ((m.derived.complex? id).map (·.attributes.entries)).getD []
  lines ([s!"Type: {name.clark}", "  Derivation: " ++ " -> ".intercalate chain] ++
    attributes.map (attributeLine m) ++ contentLines m content)

end Xsd.CommandLine
