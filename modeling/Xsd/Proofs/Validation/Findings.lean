import Xsd.Proofs.Facet.Admission
import Xsd.Validation

/-!
# What a violation says

Whatever is wrong with a literal is an invalid value, and a literal does not know where it stands.
No check of a literal says that a type has no compiled content model: the text of a violation tells,
since it ends in another way.
-/

namespace Xsd

/-- Whatever is wrong is an invalid value, and it is not said where. -/
def Refuses {α : Type} (x : Except Violation α) : Prop :=
  ∀ v, x = .error v → v.kind = .invalidValue ∧ v.path = none

namespace Refuses

variable {α β : Type}

theorem ok (a : α) : Refuses (.ok a) := by
  intro v h
  cases h

theorem error {v : Violation} (h : v.kind = .invalidValue ∧ v.path = none) :
    Refuses (.error v : Except Violation α) := by
  intro w hw
  cases hw
  exact h

theorem bind {x : Except Violation α} {f : α → Except Violation β} (hx : Refuses x)
    (hf : ∀ a, Refuses (f a)) : Refuses (x >>= f) := by
  cases x with
  | error v => exact .error (hx v rfl)
  | ok a => exact hf a

theorem ite {p : Prop} [Decidable p] {x y : Except Violation α} (hx : Refuses x)
    (hy : Refuses y) : Refuses (if p then x else y) := by
  split
  · exact hx
  · exact hy

theorem forM {xs : List α} {f : α → Except Violation Unit} (hf : ∀ x, Refuses (f x)) :
    Refuses (xs.forM f) := by
  induction xs with
  | nil => exact .ok ()
  | cons x xs ih => exact .bind (hf x) fun _ => ih

end Refuses

namespace FacetSet

variable {fs : FacetSet} {value : String} {space : ValueSpace}

theorem refuses_refuse (message reason : String) : Refuses (refuse message reason) :=
  .error ⟨rfl, rfl⟩

/-- A facet that refuses the literal keeps the rest from being looked at. -/
theorem refuses_refuse_or {p : Prop} [Decidable p] {message reason : String}
    {rest : Unit → Except Violation Unit} (h : Refuses (rest ())) :
    Refuses (if p then refuse message reason >>= rest else rest ()) :=
  .ite (.bind (refuses_refuse _ _) fun _ => h) h

theorem refuses_checkLength (n : Nat) : Refuses (fs.checkLength n) := by
  unfold checkLength
  extract_lets last middle
  have atMost : Refuses (last ()) := by
    unfold last
    split
    · exact .ite (refuses_refuse _ _) (.ok ())
    · exact .ok ()
  have atLeast : Refuses (middle ()) := by
    unfold middle
    split
    · exact refuses_refuse_or atMost
    · exact atMost
  split
  · exact refuses_refuse_or atLeast
  · exact atLeast

theorem refuses_checkDigits : Refuses (fs.checkDigits value) := by
  unfold checkDigits
  split
  · exact .ok ()
  · extract_lets d last
    have total : Refuses (last ()) := by
      unfold last
      split
      · exact .ite (refuses_refuse _ _) (.ok ())
      · exact .ok ()
    split
    · exact refuses_refuse_or total
    · exact total

theorem refuses_checkPatterns (patterns : List Pattern) :
    Refuses (checkPatterns patterns value) := by
  unfold checkPatterns
  split
  · exact refuses_refuse _ _
  · exact .ok ()

theorem refuses_checkEnumeration : Refuses (fs.checkEnumeration value space) := by
  unfold checkEnumeration
  split
  · exact .ite (.ok ()) (refuses_refuse _ _)
  · exact .ok ()

theorem refuses_checkSide (v : OrderedValue) (side : Ordering) (strict : Bool) (sign : String)
    (bound : Option (Bound OrderedValue)) : Refuses (checkSide v value side strict sign bound) := by
  unfold checkSide
  split
  · exact .ok ()
  · split
    · exact refuses_refuse _ _
    · exact .ite (.ok ()) (refuses_refuse _ _)

theorem refuses_checkRange : Refuses (fs.checkRange value space) := by
  unfold checkRange
  split
  · exact .ok ()
  · exact .bind (refuses_checkSide _ _ _ _ _) fun _ => .bind (refuses_checkSide _ _ _ _ _) fun _ =>
      .bind (refuses_checkSide _ _ _ _ _) fun _ => refuses_checkSide _ _ _ _ _

theorem refuses_check (measure : Option Nat) : Refuses (fs.check value measure space) := by
  have digits : Refuses (if space = .decimal then fs.checkDigits value else pure ()) :=
    .ite refuses_checkDigits (.ok ())
  have ofValue : Refuses (if space.isOrdered = true then do
      fs.checkRange value space
      if space = .decimal then fs.checkDigits value
    else if space = .decimal then fs.checkDigits value else pure ()) :=
    .ite (.bind refuses_checkRange fun _ => digits) digits
  unfold check
  cases measure with
  | none =>
    exact .bind (.ok ()) fun _ => .bind (refuses_checkPatterns _) fun _ =>
      .bind refuses_checkEnumeration fun _ => ofValue
  | some n =>
    exact .bind (refuses_checkLength n) fun _ => .bind (refuses_checkPatterns _) fun _ =>
      .bind refuses_checkEnumeration fun _ => ofValue

end FacetSet

namespace ValueType

theorem refuses_checkAtomic (facets : FacetSet) (builtin : Option Builtin) (literal : String) :
    Refuses (checkAtomic facets builtin literal) := by
  unfold checkAtomic
  split
  · exact FacetSet.refuses_check _
  · exact .ite (FacetSet.refuses_check _) (.error ⟨rfl, rfl⟩)

/-- What is wrong with an item is wrong with a list. Of a union only its own refusal is told. -/
theorem refuses_check : ∀ (t : ValueType) (text : String), Refuses (t.check text)
  | .atomic facets builtin, text => by
    rw [check]
    exact .bind (refuses_checkAtomic _ _ _) fun _ => .ok _
  | .list facets itemId item, text => by
    rw [check]
    refine .bind (.forM fun word => ?_) fun _ =>
      .bind (FacetSet.refuses_check _) fun _ => .ok _
    exact .bind (refuses_check item word) fun _ => .ok _
  | .union facets memberIds members, text => by
    rw [check]
    split
    · exact .error ⟨rfl, rfl⟩
    · exact .bind (FacetSet.refuses_check _) fun _ => .ok _

end ValueType

namespace Validation

variable {m : Model} {v : Violation}

/-- The violation says that a type has no compiled content model only if the type of an element has
none. -/
def Justified (m : Model) (v : Violation) : Prop :=
  v.kind = .unknownComponent → ∀ id, v.message = (notCompiled m id).message →
    ∃ e, (m.arena.element? e).isSome ∧ m.contentModel? (m.elementType e) = none

/-- A text ends as its last part does. -/
theorem getLast?_append {t : String} {c : Char} (s : String) (h : t.toList.getLast? = some c) :
    (s ++ t).toList.getLast? = some c := by
  rw [String.toList_append, List.getLast?_append, h]
  rfl

theorem getLast?_notCompiled (m : Model) (id : TypeId) :
    (notCompiled m id).message.toList.getLast? = some 'l' :=
  getLast?_append _ rfl

namespace Justified

/-- Violations of the other kinds say nothing about types. -/
theorem of_kind (h : v.kind ≠ .unknownComponent) : Justified m v := fun same => absurd same h

/-- Neither do texts that end in another way. -/
theorem of_message {c : Char} (h : v.message.toList.getLast? = some c) (other : c ≠ 'l') :
    Justified m v := by
  intro _ id same
  rw [same, getLast?_notCompiled] at h
  exact absurd (Option.some.inj h).symm other

theorem notCompiled {e : ElementId} (known : (m.arena.element? e).isSome)
    (h : m.contentModel? (m.elementType e) = none) (id : TypeId) :
    Justified m (notCompiled m id) :=
  fun _ _ _ => ⟨e, known, h⟩

theorem of_checkValue {type : TypeId} {text : String}
    (h : m.derived.checkValue type text = .error v) : Justified m v := by
  unfold DerivedTypes.checkValue at h
  split at h
  · refine .of_kind ?_
    rw [(ValueType.refuses_check _ _ v h).1]
    decide
  · cases h
    exact .of_message (getLast?_append _ rfl) (by decide)

end Justified

end Validation

end Xsd
