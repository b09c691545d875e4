import Std.Data.TreeSet

/-!
# Reachability

The numbers that can be reached from given ones along the edges of a graph.
-/

namespace Xsd

/-- The numbers found, together with those to which edges lead from the ones on the stack. `room`
bounds the number of those that are still to be found. -/
def reach (next : Nat → List Nat) :
    (room : Nat) → (found : Std.TreeSet Nat) → (stack : List Nat) → Std.TreeSet Nat
  | 0, found, _ => found
  | room + 1, found, stack =>
    match stack.dropWhile found.contains with
    | [] => found
    | n :: rest => reach next room (found.insert n) (next n ++ rest)

/-- The numbers below `size` that are among the seeds or can be reached from them. -/
def reachable (next : Nat → List Nat) (size : Nat) (seeds : List Nat) : Std.TreeSet Nat :=
  reach next size ∅ seeds

end Xsd
