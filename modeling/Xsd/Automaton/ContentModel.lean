import Xsd.Automaton.Determinize

/-!
# Content models

What validation goes by: nothing, a simple value, or elements in the order of an automaton.
-/

namespace Xsd

inductive ContentModel where
  | empty
  | simple (valueType : TypeId)
  | elements (automaton : Automaton) (mixed : Bool)
deriving DecidableEq, Repr, Inhabited

namespace ContentModel

def automaton? : ContentModel → Option Automaton
  | .elements a _ => some a
  | _ => none

def isMixed : ContentModel → Bool
  | .elements _ mixed => mixed
  | _ => false

/-- The automaton of a content. -/
def automatonOf (env : Nfa.Environment) (content : Option Content) : Except Error Automaton := do
  let (nfa, alphabet) ← Nfa.ofContent env content
  return ⟨alphabet, ← nfa.determinize alphabet env.limits env.owner, 0⟩

/-- The content model of a type. -/
def ofType (a : Arena) (d : DerivedTypes) (substitutions : SubstitutionGroups) (limits : Limits)
    (id : TypeId) : Except Error ContentModel :=
  let owner := a.typeName id
  match d.get? id with
  | none => .error (.invalidDerivation owner .notDerived)
  | some ⟨_, _, .simple _⟩ => .ok (.simple id)
  | some ⟨_, _, .complex t⟩ =>
    match t.label with
    | .empty => .ok .empty
    | .simple =>
      .ok (.simple (((d.chain id).find? fun base => (d.simple? base).isSome).getD .anySimpleType))
    | _ => do
      return .elements (← automatonOf ⟨a, substitutions, limits, owner⟩ t.content) t.mixed

end ContentModel

end Xsd
