import Xsd.QName
import Xsd.Text.Blank

/-!
# Wildcards

A namespace constraint says which namespaces a wildcard admits: all of them, every one but a given
namespace and the absent one, or those of a list. The list is kept in order and without
repetition, the absent namespace first.
-/

namespace Xsd

/-- How closely what a wildcard has matched is looked at. -/
inductive ProcessContents where
  | strict
  | lax
  | skip
deriving DecidableEq, Repr, Inhabited

namespace ProcessContents

def name : ProcessContents → String
  | .strict => "strict"
  | .lax => "lax"
  | .skip => "skip"

def ofName? : String → Option ProcessContents
  | "strict" => some .strict
  | "lax" => some .lax
  | "skip" => some .skip
  | _ => none

end ProcessContents

/-- The namespaces that a wildcard admits. -/
inductive NamespaceConstraint where
  | any
  | other (excluded : Namespace)
  | enumeration (members : List Namespace)
deriving DecidableEq, Repr, Inhabited

namespace NamespaceConstraint

/-- The members of a list of words, in which two words stand for the absent and for the target
namespace; a word with two leading marks that is neither is refused. -/
def members (target : Namespace) (sofar : List Namespace) :
    List String → Except String (List Namespace)
  | [] => .ok sofar
  | "##local" :: rest => members target (Namespace.insertSorted none sofar) rest
  | "##targetNamespace" :: rest => members target (Namespace.insertSorted target sofar) rest
  | word :: rest =>
    if (Text.after? "##" word).isSome then .error word
    else members target (Namespace.insertSorted (some word) sofar) rest

/-- Read a constraint; the error is the word that is not known. -/
def parse (text : String) (target : Namespace) : Except String NamespaceConstraint :=
  match Text.trim text with
  | "##any" => .ok .any
  | "##other" => .ok (.other target)
  | text => (members target [] (Text.words text)).map .enumeration

/-- The constraint admits the namespace. -/
def allows : NamespaceConstraint → Namespace → Bool
  | .any, _ => true
  | .other excluded, ns => ns.isSome && ns != excluded
  | .enumeration members, ns => members.contains ns

/-- A constraint that admits what either of two admits; where none says just that, a wider one. -/
def union : NamespaceConstraint → NamespaceConstraint → NamespaceConstraint
  | .any, _ => .any
  | _, .any => .any
  | .other a, .other b => if a = b then .other a else .any
  | .enumeration a, .enumeration b =>
    .enumeration (b.foldl (fun s ns => Namespace.insertSorted ns s) a)
  | .other excluded, .enumeration members
  | .enumeration members, .other excluded =>
    if members.contains none && members.contains excluded then .any else .other excluded

/-- A constraint for what two of them admit together; of two negations the first is kept. -/
def intersection : NamespaceConstraint → NamespaceConstraint → NamespaceConstraint
  | .any, c => c
  | c, .any => c
  | .other a, .other _ => .other a
  | .enumeration a, .enumeration b => .enumeration (a.filter b.contains)
  | .other excluded, .enumeration members
  | .enumeration members, .other excluded =>
    .enumeration (members.filter (allows (.other excluded)))

/-- Some namespace is admitted by both. -/
def overlaps : NamespaceConstraint → NamespaceConstraint → Bool
  | .enumeration members, c => members.any c.allows
  | c, .enumeration members => members.any c.allows
  | _, _ => true

/-- Every namespace that the first admits is admitted by the second. -/
def isSubsetOf : NamespaceConstraint → NamespaceConstraint → Bool
  | _, .any => true
  | .any, _ => false
  | .other a, .other b => a == b
  | .other _, .enumeration _ => false
  | .enumeration members, c => members.all c.allows

end NamespaceConstraint

/-- A wildcard: what it admits, and how closely that is looked at. -/
structure Wildcard where
  constraint : NamespaceConstraint
  process : ProcessContents
deriving DecidableEq, Repr, Inhabited

namespace Wildcard

/-- The wildcard of the most general type. -/
def anyLax : Wildcard := ⟨.any, .lax⟩

def allows (w : Wildcard) (ns : Namespace) : Bool := w.constraint.allows ns

/-- The form in which messages name a wildcard. -/
def describe (w : Wildcard) : String :=
  let namespaces := match w.constraint with
    | .any => "##any"
    | .other _ => "##other"
    | .enumeration members => " ".intercalate (members.map Namespace.label)
  s!"any({namespaces}, {w.process.name})"

end Wildcard

end Xsd
