import Xsd.Proofs.Compilation

/-!
# Default and fixed values

In a compiled model the default and fixed values of attributes are values of their types, as far as a
complex type has them. A declaration that no complex type uses is not looked at, and neither is its
own value where each use has another one or is prohibited.
-/

namespace Xsd

open Validation

/-- What is wrong with a value is that the type does not accept it. -/
theorem ValueConstraint.typeError?_eq_none_iff {c : ValueConstraint} {d : DerivedTypes}
    {component : String} {type : TypeId} :
    c.typeError? d component type = none ↔ ∃ literal, d.checkValue type c.value = .ok literal := by
  unfold typeError?
  split <;> rename_i h <;> simp [h]

/-- A complex type uses the attribute, with the value of the declaration if that has one. -/
def Arena.Applies (a : Arena) (id : AttributeId) : Prop :=
  ∃ type definition u, a.type? type = some (.complex definition) ∧
    a.Uses definition.attributes u ∧ u.use ≠ .prohibited ∧ u.constraint = none ∧
      u.source.target = some id

/-- Only types of the arena are derived. -/
theorem Derivation.type?_of_get? {a : Arena} {id : TypeId} {info : TypeInfo}
    (entry : (deriveAll a).1.get? id = some info) : (a.type? id).isSome := by
  have known : Claim.IsInductive (fun _ id _ => (a.type? id).isSome) a :=
    ⟨fun _ h => h, fun hd _ _ _ => Option.isSome_of_eq_some hd⟩
  exact deriveAll_holds known entry

namespace Model

variable {supply : Schema.Supply} {documents : List Document} {m : Model}

/-- The types of a compiled model have been derived, and nothing is wrong with their values. -/
theorem derived_of_compile (compiled : compile supply documents = .ok m) :
    m.derived = (Derivation.deriveAll m.arena).1 ∧ m.arena.Grounded ∧
      (∀ id, (m.arena.type? id).isSome → (m.derived.get? id).isSome) ∧
      m.arena.constraintErrors m.derived = [] := by
  obtain ⟨report, a, isAssembled, faultless, rfl⟩ := compile_eq_ok_iff.mp compiled
  have whole := isWhole_of_assembled isAssembled
  exact ⟨rfl, (grounded_of_compile compiled).1,
    fun id known => Derivation.deriveAll_complete whole faultless.types known, faultless.values⟩

/-- The value that a complex type has for an attribute is one of its type. So the literal with which
an instance is compared is never the text as it stands in the schema. -/
theorem values_of_complexType (compiled : compile supply documents = .ok m) {id : TypeId}
    {t : ComplexType} (complex : m.derived.complex? id = some t) {x : EffectiveAttribute}
    (mem : x ∈ t.attributes.values) {c : ValueConstraint} (hc : x.constraint = some c) :
    m.derived.checkValue x.type c.value = .ok (expectedLiteral m x.type c.value) := by
  obtain ⟨derived, -, -, clean⟩ := derived_of_compile compiled
  obtain ⟨base, method, entry⟩ := DerivedTypes.get?_of_complex? complex
  have listed : id ∈ m.arena.typeIds :=
    Arena.mem_typeIds_iff.mpr (Derivation.type?_of_get? (derived ▸ entry))
  have none := List.flatMap_eq_nil_iff.mp (List.append_eq_nil_iff.mp clean).2 id listed
  rw [Arena.attributeConstraintErrors, complex] at none
  have own := List.filterMap_eq_nil_iff.mp none x mem
  rw [hc, Option.bind_some, ValueConstraint.typeError?_eq_none_iff] at own
  obtain ⟨literal, accepted⟩ := own
  rw [expectedLiteral, accepted]

/-! ## Attributes of drawings -/

theorem IsDrawings.attribute? (h : IsDrawings m) :
    (∃ d, m.arena.attribute? ⟨0⟩ = some d ∧ d.valueTypeId = Builtin.byte.typeId ∧
        d.constraint = some ⟨false, "1"⟩) ∧
      ∃ d, m.arena.attribute? ⟨1⟩ = some d ∧ d.valueTypeId = Builtin.byte.typeId ∧
        d.constraint = some ⟨true, "many"⟩ := by
  have found : ∀ i : Nat, (m.arena.attribute? ⟨i⟩).map (fun d => (d.valueTypeId, d.constraint)) =
      (#[(Builtin.byte.typeId, some ⟨false, "1"⟩), (Builtin.byte.typeId, some ⟨true, "many"⟩)] :
        Array (TypeId × Option ValueConstraint))[i]? := by
    intro i
    rw [← h.attributes, Array.getElem?_map, Arena.attribute?]
  obtain ⟨d, declared, same⟩ := Option.map_eq_some_iff.mp (found 0)
  obtain ⟨d', declared', same'⟩ := Option.map_eq_some_iff.mp (found 1)
  exact ⟨⟨d, declared, Prod.mk.inj same⟩, d', declared', Prod.mk.inj same'⟩

/-- Circles use the radius, by way of the group that they refer to. -/
theorem IsDrawings.applies (h : IsDrawings m) : m.arena.Applies ⟨0⟩ := by
  obtain ⟨type, circle, uses⟩ := Option.bind_eq_some_iff.mp h.circle
  cases type with
  | simple => cases uses
  | complex definition =>
    obtain ⟨g, marks, own⟩ := Option.map_eq_some_iff.mp h.marks
    refine ⟨⟨47⟩, definition, ⟨.own ⟨0⟩, .optional, none⟩, circle, ?_, by decide, rfl, rfl⟩
    rw [Option.some.inj uses]
    exact .group List.mem_cons_self rfl marks (.own (by rw [own]; exact List.mem_cons_self))

/-! ## Values of declarations -/

/-- The value that a declaration gives an attribute is one of its type, if a complex type uses the
attribute with that value. -/
theorem values_of_attribute (compiled : compile supply documents = .ok m) {id : AttributeId}
    {d : AttributeDecl} {c : ValueConstraint} (declared : m.arena.attribute? id = some d)
    (hc : d.constraint = some c) (applies : m.arena.Applies id) :
    m.derived.checkValue d.valueTypeId c.value = .ok (expectedLiteral m d.valueTypeId c.value) := by
  obtain ⟨type, definition, u, complex, uses, used, plain, target⟩ := applies
  obtain ⟨derived, grounded, entries, -⟩ := derived_of_compile compiled
  obtain ⟨info, entry⟩ := Option.isSome_iff_exists.mp (entries type (complex ▸ rfl))
  obtain ⟨t, effective, realizes⟩ :=
    Derivation.deriveAll_realizes grounded (derived ▸ entry) complex
  obtain ⟨x, isUse, hx⟩ := realizes.uses u uses used
  obtain ⟨d', declared', hasType, constraint⟩ := isUse.declared
  cases target.symm.trans isUse.target
  cases declared.symm.trans declared'
  rw [plain, hc] at constraint
  have found := DerivedTypes.complex?_of_get? entry effective
  rw [← hasType]
  exact values_of_complexType compiled found (Table.mem_values_of_get? hx) constraint

theorem radius_value : ∃ m, compile ⟨none, .standard⟩ [drawings] = .ok m ∧
    m.arena.Applies ⟨0⟩ ∧ ∃ d, m.arena.attribute? ⟨0⟩ = some d ∧
      d.constraint = some ⟨false, "1"⟩ ∧
      m.derived.checkValue d.valueTypeId "1" = .ok (expectedLiteral m d.valueTypeId "1") := by
  obtain ⟨m, compiled, isDrawings, -⟩ := exists_drawings
  obtain ⟨⟨d, declared, -, hc⟩, -⟩ := isDrawings.attribute?
  exact ⟨m, compiled, isDrawings.applies, d, declared, hc,
    values_of_attribute compiled declared hc isDrawings.applies⟩

/-- No type uses the size, so its value is not looked at. -/
theorem not_values_of_attribute : ¬ ∀ (supply : Schema.Supply) (documents : List Document)
    (m : Model) (id : AttributeId) (d : AttributeDecl) (c : ValueConstraint),
    compile supply documents = .ok m → m.arena.attribute? id = some d → d.constraint = some c →
      m.derived.checkValue d.valueTypeId c.value =
        .ok (expectedLiteral m d.valueTypeId c.value) := by
  intro always
  obtain ⟨m, compiled, isDrawings, -⟩ := exists_drawings
  obtain ⟨-, d, declared, byte, hc⟩ := isDrawings.attribute?
  have accepted := always _ _ m _ d _ compiled declared hc
  have values := isDrawings.values
  rw [byte] at accepted
  simp [accepted, Except.isOk, Except.toBool] at values

end Model

end Xsd
