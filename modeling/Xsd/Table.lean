/-!
# Tables

Finite maps that keep the order in which their keys were first entered.
-/

namespace Xsd

/-- Entries in the order of their keys' first entry. -/
structure Table (κ : Type) (ν : Type) where
  entries : List (κ × ν)
deriving DecidableEq, Repr, Inhabited

namespace Table

variable {κ ν : Type} [BEq κ]

def empty : Table κ ν := ⟨[]⟩

def get? (t : Table κ ν) (k : κ) : Option ν := t.entries.lookup k

def contains (t : Table κ ν) (k : κ) : Bool := (t.get? k).isSome

def size (t : Table κ ν) : Nat := t.entries.length

def keys (t : Table κ ν) : List κ := t.entries.map (·.1)

def values (t : Table κ ν) : List ν := t.entries.map (·.2)

/-- Give the key the value in its place, or append it. -/
def insertList (k : κ) (v : ν) : List (κ × ν) → List (κ × ν)
  | [] => [(k, v)]
  | e :: es => if e.1 == k then (e.1, v) :: es else e :: insertList k v es

/-- Enter a value; a key that is there keeps its place. -/
def insert (t : Table κ ν) (k : κ) (v : ν) : Table κ ν := ⟨insertList k v t.entries⟩

/-- Leave a key out. -/
def erase (t : Table κ ν) (k : κ) : Table κ ν := ⟨t.entries.filter fun e => !(e.1 == k)⟩

theorem lookup_insertList [LawfulBEq κ] (k j : κ) (v : ν) (es : List (κ × ν)) :
    (insertList k v es).lookup j = if j == k then some v else es.lookup j := by
  induction es with
  | nil => cases h : j == k <;> simp [insertList, List.lookup_cons, h]
  | cons e es ih =>
    obtain ⟨i, w⟩ := e
    by_cases hi : i = k
    · cases h : j == k <;> simp [insertList, hi, List.lookup_cons, h]
    · by_cases hj : j = i
      · subst hj
        simp [insertList, hi]
      · have : (j == i) = false := by simp [hj]
        simp [insertList, hi, List.lookup_cons, this, ih]

@[simp] theorem get?_insert [LawfulBEq κ] (t : Table κ ν) (k j : κ) (v : ν) :
    (t.insert k v).get? j = if j == k then some v else t.get? j :=
  lookup_insertList k j v t.entries

@[simp] theorem get?_empty (k : κ) : (empty : Table κ ν).get? k = none := rfl

end Table

end Xsd
