import Xsd.Text.Blank
import Xsd.Text.Digits

/-!
# Occurrence bounds

How often a particle may occur in a row.
-/

namespace Xsd

/-- At least `min` times and, where there is a `max`, at most so many times. -/
structure Occurs where
  min : Nat
  max : Option Nat
deriving DecidableEq, Hashable, Repr, Inhabited

inductive OccursFault where
  | badMin
  | badMax
  | minExceedsMax
deriving DecidableEq, Repr

def OccursFault.message : OccursFault → String
  | .badMin => "minOccurs value is not a valid non-negative integer"
  | .badMax => "maxOccurs value must be a non-negative integer or 'unbounded'"
  | .minExceedsMax => "minOccurs must be lesser or equal than maxOccurs"

namespace Occurs

def once : Occurs := ⟨1, some 1⟩

def optional : Occurs := ⟨0, some 1⟩

def never : Occurs := ⟨0, some 0⟩

def anyNumber : Occurs := ⟨0, none⟩

def isEmptiable (o : Occurs) : Bool := o.min == 0

def isEmpty (o : Occurs) : Bool := o.max == some 0

def isSingle (o : Occurs) : Bool := o.max == some 1

def isMultiple (o : Occurs) : Bool := !o.isEmpty && !o.isSingle

/-- The bounds lie within others, apart from what a maximum of zero leaves open. -/
def restricts (a b : Occurs) : Bool :=
  if a.min < b.min then false
  else
    match a.max, b.max with
    | some 0, _ => true
    | _, none => true
    | none, some _ => false
    | some m, some n => m ≤ n

def render (o : Occurs) : String :=
  match o.max with
  | some max => s!"\x7b{o.min},{max}\x7d"
  | none => s!"\x7b{o.min},unbounded\x7d"

/-- Numbers are below this one. -/
def limit : Nat := 1 <<< 32

/-- The bounds that two attributes give; either is one if it is left out. -/
def parse (min max : Option String) : Except OccursFault Occurs := do
  let low ← match min with
    | none => .ok 1
    | some text =>
      match Text.natBelow? limit (Text.trimList text.toList) with
      | some n => .ok n
      | none => .error .badMin
  match max.map Text.trim with
  | some "unbounded" => .ok ⟨low, none⟩
  | some text =>
    match Text.natBelow? limit text.toList with
    | none => .error .badMax
    | some high => if high < low then .error .minExceedsMax else .ok ⟨low, some high⟩
  | none => if 1 < low then .error .minExceedsMax else .ok ⟨low, some 1⟩

end Occurs

end Xsd
