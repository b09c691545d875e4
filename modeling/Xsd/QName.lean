import Xsd.Text.Cut

/-!
# Qualified names

A qualified name is a local name in a namespace, or in none. Its Clark form writes the namespace
in braces before the local name.
-/

namespace Xsd

/-- A namespace name; `none` is the absent namespace. -/
abbrev Namespace := Option String

/-- What can be wrong with a name. -/
inductive NameFault where
  | unterminatedNamespace (text : String)
  | unknownPrefix (mark : String)
  | invalidNCName (text : String)
deriving DecidableEq, Repr

def NameFault.message : NameFault → String
  | .unterminatedNamespace text => s!"Unterminated namespace in '{text}'"
  | .unknownPrefix mark => s!"Unknown prefix: {mark}"
  | .invalidNCName text => s!"Invalid NCName: '{text}'"

/-- A local name in a namespace. Names are ordered by namespace, the absent one first. -/
structure QName where
  ns : Namespace
  localName : String
deriving DecidableEq, Hashable, Ord, Repr, Inhabited

namespace QName

/-- The namespace of the schema language itself. -/
def xsdNamespace : String := "http://www.w3.org/2001/XMLSchema"

/-- The namespace of the attributes that speak about an instance. -/
def instanceNamespace : String := "http://www.w3.org/2001/XMLSchema-instance"

/-- The namespace to which the prefix `xml` is bound everywhere. -/
def xmlNamespace : String := "http://www.w3.org/XML/1998/namespace"

/-- A name of the schema language. -/
def xsd (localName : String) : QName := ⟨some xsdNamespace, localName⟩

def isXsd (q : QName) : Bool := q.ns == some xsdNamespace

/-- The Clark form: the namespace in braces, then the local name. -/
def clark (q : QName) : String :=
  match q.ns with
  | some uri => "\x7b" ++ uri ++ "\x7d" ++ q.localName
  | none => q.localName

/-- Read a Clark form. Empty braces stand for the absent namespace. -/
def ofClark (s : String) : Except NameFault QName :=
  match s.toList with
  | '\x7b' :: rest =>
    match Text.cutList '\x7d' rest with
    | some (uri, localName) =>
      .ok ⟨if uri.isEmpty then none else some (String.ofList uri), String.ofList localName⟩
    | none => .error (.unterminatedNamespace s)
  | _ => .ok ⟨none, s⟩

end QName

instance : ToString QName := ⟨QName.clark⟩

/-- The name under which messages speak of a namespace. -/
def Namespace.label (ns : Namespace) : String := ns.getD "##local"

/-- Put a namespace into its place in an ordered list, unless it is there. -/
def Namespace.insertSorted (ns : Namespace) : List Namespace → List Namespace
  | [] => [ns]
  | m :: ms =>
    match compare ns m with
    | .lt => ns :: m :: ms
    | .eq => m :: ms
    | .gt => m :: Namespace.insertSorted ns ms

theorem Namespace.mem_insertSorted {ns m : Namespace} {ms : List Namespace} :
    m ∈ Namespace.insertSorted ns ms ↔ m = ns ∨ m ∈ ms := by
  induction ms with
  | nil => simp [Namespace.insertSorted]
  | cons a ms ih =>
    unfold Namespace.insertSorted
    split
    · simp
    · rename_i h
      have : ns = a := Std.LawfulEqCmp.eq_of_compare h
      simp [this]
    · simp [ih, or_left_comm]

theorem Namespace.mem_foldl_insertSorted {ns : Namespace} (added present : List Namespace) :
    ns ∈ added.foldl (fun ms n => Namespace.insertSorted n ms) present ↔
      ns ∈ added ∨ ns ∈ present := by
  induction added generalizing present with
  | nil => simp
  | cons n added ih =>
    rw [List.foldl_cons, ih, Namespace.mem_insertSorted, List.mem_cons, or_left_comm, or_assoc]

end Xsd
