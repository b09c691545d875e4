import Mathlib
import Xsd.QName

/-!
# Reading Clark forms back

A Clark form is written without escapes, and its namespace is read up to the first closing brace. So a
name is read back unless its form can be taken for that of another one: a local name must not look
like a namespace in braces, and a namespace must neither end early nor be that of the empty braces,
which stand for none.
-/

namespace Xsd.QName

variable {q : QName} {text uri localName : String} {rest : List Char}

/-! ## What is read -/

/-- A text that does not begin with a brace is a local name. -/
theorem ofClark_of_head? (head : text.toList.head? ≠ some '\x7b') :
    ofClark text = .ok ⟨none, text⟩ := by
  unfold ofClark
  split
  · rename_i rest begins
    rw [begins] at head
    exact absurd rfl head
  · rfl

/-- Behind an opening brace the namespace goes up to the first closing one. -/
theorem ofClark_of_cons (begins : text.toList = '\x7b' :: rest) :
    ofClark text = match Text.cutList '\x7d' rest with
      | some (before, after) =>
        .ok ⟨if before.isEmpty then none else some (String.ofList before), String.ofList after⟩
      | none => .error (.unterminatedNamespace text) := by
  unfold ofClark
  rw [begins]
  rfl

/-- What is read is all there is, or what follows braces. A namespace has been between them, and they
do not hold a closing one. -/
theorem ofClark_eq_ok (h : ofClark text = .ok q) :
    text.toList.head? ≠ some '\x7b' ∧ q = ⟨none, text⟩ ∨
      ∃ before, text.toList = '\x7b' :: (before ++ '\x7d' :: q.localName.toList) ∧
        '\x7d' ∉ before ∧ q.ns = if before.isEmpty then none else some (String.ofList before) := by
  by_cases head : text.toList.head? = some '\x7b'
  · obtain ⟨rest, begins⟩ := List.head?_eq_some_iff.mp head
    rw [ofClark_of_cons begins] at h
    cases cut : Text.cutList '\x7d' rest with
    | none =>
      rw [cut] at h
      cases h
    | some parts =>
      rw [cut] at h
      cases h
      obtain ⟨rfl, free⟩ := Text.eq_append_of_cutList cut
      exact Or.inr ⟨parts.1, by rw [begins, String.toList_ofList], free, rfl⟩
  · rw [ofClark_of_head? head] at h
    exact Or.inl ⟨head, (Except.ok.inj h).symm⟩

theorem toList_clark_some (uri localName : String) :
    (clark ⟨some uri, localName⟩).toList =
      '\x7b' :: (uri.toList ++ '\x7d' :: localName.toList) := by
  have opening : "\x7b".toList = ['\x7b'] := rfl
  have closing : "\x7d".toList = ['\x7d'] := rfl
  simp only [clark, String.toList_append, opening, closing, List.append_assoc, List.cons_append,
    List.nil_append]

/-! ## What is read back -/

/-- A local name that begins with a brace is cut short. -/
theorem ofClark_clark_none_iff :
    ofClark (clark ⟨none, localName⟩) = .ok ⟨none, localName⟩ ↔
      localName.toList.head? ≠ some '\x7b' := by
  refine ⟨fun h => ?_, ofClark_of_head?⟩
  rcases ofClark_eq_ok h with ⟨head, -⟩ | ⟨before, braces, -⟩
  · exact head
  · have length := congrArg List.length braces
    simp only [clark, List.length_cons, List.length_append] at length
    omega

/-- A namespace ends at its first closing brace, and empty braces are no namespace. -/
theorem ofClark_clark_some_iff :
    ofClark (clark ⟨some uri, localName⟩) = .ok ⟨some uri, localName⟩ ↔
      uri ≠ "" ∧ '\x7d' ∉ uri.toList := by
  constructor
  · intro h
    rcases ofClark_eq_ok h with ⟨-, other⟩ | ⟨before, -, free, same⟩
    · cases other
    · cases before with
      | nil => cases same
      | cons c cs =>
        obtain rfl := Option.some.inj same
        refine ⟨?_, by rwa [String.toList_ofList]⟩
        rw [ne_eq, ← String.toList_eq_nil_iff, String.toList_ofList]
        exact List.cons_ne_nil c cs
  · rintro ⟨nonempty, free⟩
    have some : uri.toList.isEmpty = false := by
      rw [List.isEmpty_eq_false_iff, ne_eq, String.toList_eq_nil_iff]
      exact nonempty
    rw [ofClark_of_cons (toList_clark_some uri localName), Text.cutList_append free]
    simp only [some, Bool.false_eq_true, if_false, String.ofList_toList]

/-- The form of the name can be read back. -/
def IsReadable (q : QName) : Prop :=
  (q.ns = none ∧ q.localName.toList.head? ≠ some '\x7b') ∨
    ∃ uri, q.ns = some uri ∧ uri ≠ "" ∧ '\x7d' ∉ uri.toList

/-- The names that are read back from their forms are those in no namespace that do not begin with an
opening brace, and those in a namespace that is not empty and holds no closing one. Two of them do not
have the same form. -/
theorem ofClark_clark_iff :
    (∀ q : QName, ofClark q.clark = .ok q ↔ q.IsReadable) ∧
      Set.InjOn clark {q | q.IsReadable} := by
  have readable : ∀ q : QName, ofClark q.clark = .ok q ↔ q.IsReadable := by
    rintro ⟨ns, localName⟩
    cases ns with
    | none => simp only [ofClark_clark_none_iff, IsReadable, true_and, reduceCtorEq, false_and,
        exists_false, or_false]
    | some uri => simp only [ofClark_clark_some_iff, IsReadable, reduceCtorEq, false_and, false_or,
        Option.some.injEq, exists_eq_left']
  refine ⟨readable, fun p hp q hq same => ?_⟩
  have forth : ofClark q.clark = .ok p := same ▸ (readable p).mpr hp
  exact Except.ok.inj (forth.symm.trans ((readable q).mpr hq))

/-- Where a brace stands in the wrong part, two names have the same form, which is read as the one that
is readable. -/
theorem ofClark_clark_misplaced :
    clark ⟨some "a\x7db", "c"⟩ = clark ⟨some "a", "b\x7dc"⟩ ∧
      ofClark (clark ⟨some "a", "b\x7dc"⟩) = .ok ⟨some "a", "b\x7dc"⟩ ∧
      ofClark (clark ⟨some "a\x7db", "c"⟩) ≠ .ok ⟨some "a\x7db", "c"⟩ ∧
      ofClark (clark ⟨none, "\x7b\x7da"⟩) ≠ .ok ⟨none, "\x7b\x7da"⟩ ∧
      ∀ q, clark q = clark ⟨some "a", "b\x7dc"⟩ → q.IsReadable → q = ⟨some "a", "b\x7dc"⟩ := by
  obtain ⟨readable, injective⟩ := ofClark_clark_iff
  have good : IsReadable ⟨some "a", "b\x7dc"⟩ := Or.inr ⟨"a", rfl, by decide, by decide⟩
  refine ⟨by decide, (readable _).mpr good, fun h => ?_, fun h => ?_, fun q same hq =>
    injective hq good same⟩
  · rcases (readable _).mp h with ⟨none, -⟩ | ⟨uri, same, -, free⟩
    · cases none
    · cases same
      exact free (by decide)
  · rcases (readable _).mp h with ⟨-, head⟩ | ⟨uri, none, -⟩
    · exact head (by decide)
    · cases none

end Xsd.QName
