import Xsd.Arena
import Xsd.Derivation.TypeInfo
import Xsd.Error

/-!
# Derivation in progress

Types are derived on demand, each of them once. A type that is needed while it is being derived
itself is circular.
-/

namespace Xsd

inductive DerivationStatus where
  | notStarted
  | inProgress
  | done
  | failed
deriving DecidableEq, Repr, Inhabited

/-- What has been derived so far, the types in progress with the outermost first, and the errors;
of circular groups, the names that have been reported together. -/
structure DerivationState where
  derived : DerivedTypes
  status : Array DerivationStatus
  stack : List TypeId
  errors : List Error
  cycles : List (List String)
deriving Inhabited

/-- A step of a derivation. It fails with an error that is still to be reported, or because of
one that has been. -/
abbrev Derive (α : Type) : Type := ExceptT (Option Error) (StateM DerivationState) α

namespace Derive

/-- The types in the arena, none of them derived. -/
def initial (a : Arena) : DerivationState :=
  ⟨⟨Array.replicate a.types.size none⟩, Array.replicate a.types.size .notStarted, [], [], []⟩

/-- Fail because of an error that is to be reported. -/
def refuse {α : Type} (e : Error) : Derive α := throw (some e)

/-- What there is, or failure because of something reported already. -/
def expect {α : Type} : Option α → Derive α
  | some x => return x
  | none => throw none

/-- The lists have the same members. -/
def isSameSet (a b : List String) : Bool := a.all b.contains && b.all a.contains

/-- Report an error. Groups that lead to each other are reported once. -/
def report (e : Error) : StateM DerivationState Unit :=
  modify fun s =>
    match e with
    | .circularGroupReference _ chain =>
      if s.cycles.any (isSameSet chain) then s
      else { s with errors := s.errors ++ [e], cycles := chain :: s.cycles }
    | _ => { s with errors := s.errors ++ [e] }

/-- The names of a circle: of the members of the stack from the given one on, and of that one
again. -/
def circle {α : Type} [BEq α] (name : α → String) (stack : List α) (x : α) : List String :=
  (stack.dropWhile fun y => !(y == x)).map name ++ [name x]

end Derive

end Xsd
