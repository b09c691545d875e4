/-!
# Limits

Bounds on the resources that a document or a schema may take, and the check of each.
-/

namespace Xsd

structure Limits where
  /-- Nesting of elements in a document. -/
  xmlDepth : Nat
  /-- Length of a document in bytes. -/
  xmlSize : Nat
  /-- Length of a chain of included documents. -/
  schemaDepth : Nat
  schemaComponents : Nat
  automatonStates : Nat
  allGroupMembers : Nat
deriving DecidableEq, Repr

/-- A quantity that is larger than its limit. -/
inductive LimitExcess where
  | xmlDepth (depth limit : Nat)
  | xmlSize (size limit : Nat)
  | schemaDepth (depth limit : Nat)
  | schemaComponents (count limit : Nat)
  | automatonStates (owner : String) (limit : Nat)
  | allGroupMembers (owner : String) (count limit : Nat)
deriving DecidableEq, Repr

def LimitExcess.message : LimitExcess → String
  | .xmlDepth depth limit => s!"XML depth {depth} exceeds maximum {limit}"
  | .xmlSize size limit => s!"XML size {size} bytes exceeds maximum {limit} bytes"
  | .schemaDepth depth limit => s!"Schema depth {depth} exceeds maximum {limit}"
  | .schemaComponents count limit => s!"Schema component count {count} exceeds maximum {limit}"
  | .automatonStates owner limit =>
    s!"Content model of {owner} needs more than {limit} automaton states"
  | .allGroupMembers owner count limit =>
    s!"'all' group in {owner} has {count} members, maximum is {limit}"

namespace Limits

/-- The limits in force unless others are asked for. -/
def standard : Limits :=
  { xmlDepth := 1000, xmlSize := 100 * 1024 * 1024, schemaDepth := 100,
    schemaComponents := 100000, automatonStates := 131072, allGroupMembers := 16 }

/-- Limits for input that is not trusted. -/
def strict : Limits :=
  { xmlDepth := 100, xmlSize := 10 * 1024 * 1024, schemaDepth := 20,
    schemaComponents := 10000, automatonStates := 5000, allGroupMembers := 10 }

/-- Limits for very large schemas. -/
def permissive : Limits :=
  { xmlDepth := 10000, xmlSize := 1024 * 1024 * 1024, schemaDepth := 1000,
    schemaComponents := 1000000, automatonStates := 2097152, allGroupMembers := 20 }

def check (quantity limit : Nat) (excess : LimitExcess) : Except LimitExcess Unit :=
  if quantity > limit then .error excess else .ok ()

def checkXmlDepth (l : Limits) (depth : Nat) : Except LimitExcess Unit :=
  check depth l.xmlDepth (.xmlDepth depth l.xmlDepth)

def checkXmlSize (l : Limits) (size : Nat) : Except LimitExcess Unit :=
  check size l.xmlSize (.xmlSize size l.xmlSize)

def checkSchemaDepth (l : Limits) (depth : Nat) : Except LimitExcess Unit :=
  check depth l.schemaDepth (.schemaDepth depth l.schemaDepth)

def checkSchemaComponents (l : Limits) (count : Nat) : Except LimitExcess Unit :=
  check count l.schemaComponents (.schemaComponents count l.schemaComponents)

def checkAutomatonStates (l : Limits) (owner : String) (count : Nat) : Except LimitExcess Unit :=
  check count l.automatonStates (.automatonStates owner l.automatonStates)

def checkAllGroupMembers (l : Limits) (owner : String) (count : Nat) : Except LimitExcess Unit :=
  check count l.allGroupMembers (.allGroupMembers owner count l.allGroupMembers)

/-- Whatever is within the first limits is within the second ones. -/
structure Le (l l' : Limits) : Prop where
  xmlDepth : l.xmlDepth ≤ l'.xmlDepth
  xmlSize : l.xmlSize ≤ l'.xmlSize
  schemaDepth : l.schemaDepth ≤ l'.schemaDepth
  schemaComponents : l.schemaComponents ≤ l'.schemaComponents
  automatonStates : l.automatonStates ≤ l'.automatonStates
  allGroupMembers : l.allGroupMembers ≤ l'.allGroupMembers

instance : LE Limits := ⟨Le⟩

theorem le_refl (l : Limits) : l ≤ l where
  xmlDepth := Nat.le_refl _
  xmlSize := Nat.le_refl _
  schemaDepth := Nat.le_refl _
  schemaComponents := Nat.le_refl _
  automatonStates := Nat.le_refl _
  allGroupMembers := Nat.le_refl _

@[simp] theorem check_eq_ok_iff {quantity limit : Nat} {excess : LimitExcess} :
    check quantity limit excess = .ok () ↔ quantity ≤ limit := by
  unfold check
  split <;> simp <;> omega

/-- What passes a check passes that against a larger limit. -/
theorem check_mono {quantity limit limit' : Nat} {excess excess' : LimitExcess}
    (le : limit ≤ limit') (h : check quantity limit excess = .ok ()) :
    check quantity limit' excess' = .ok () :=
  check_eq_ok_iff.mpr (Nat.le_trans (check_eq_ok_iff.mp h) le)

end Limits

end Xsd
