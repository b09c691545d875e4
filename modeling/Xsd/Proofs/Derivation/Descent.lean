import Mathlib
import Xsd.Proofs.Schema.Success

/-!
# Descent of types

A value that a type of a compiled model accepts is taken as it is by all types from which that one
descends.
-/

namespace Xsd

namespace DerivedTypes

/-- The second type is the first, its base, the base of that one, and so on. -/
def Descends (d : DerivedTypes) : TypeId → TypeId → Prop :=
  Relation.ReflTransGen fun id base => d.base? id = some base

variable {d : DerivedTypes} {id base : TypeId}

theorem descends_of_mem_bases {fuel : Nat} {seen : List TypeId}
    (h : base ∈ d.bases fuel seen id) : d.Descends id base := by
  induction fuel generalizing seen id with
  | zero => cases h
  | succ fuel ih =>
    unfold bases at h
    split at h
    · cases h
    · rename_i next hn
      split at h
      · cases h
      · rcases List.mem_cons.mp h with rfl | h
        · exact .single hn
        · exact .head hn (ih h)

theorem descends_of_isDerivedFrom (h : d.isDerivedFrom id base = true) : d.Descends id base := by
  rcases List.mem_cons.mp (List.contains_iff_mem.mp h) with rfl | h
  · exact .refl
  · exact descends_of_mem_bases h

theorem index_lt_of_base? (h : d.base? id = some base) : id.index < d.types.size := by
  obtain ⟨info, entry, -⟩ := Option.bind_eq_some_iff.mp h
  exact index_lt_of_isSome (Option.isSome_iff_exists.mpr ⟨info, entry⟩)

/-- The bases that are found go on until a type has no base, or one that has been seen. By induction
on the number of bases still to be found: a type that has a base is an entry of the table, so that
there are no more of them than entries. -/
theorem mem_bases_of_base? {fuel : Nat} {seen : List TypeId} {x y : TypeId}
    (nodup : (id :: seen).Nodup) (entered : ∀ other ∈ seen, other.index < d.types.size)
    (enough : d.types.size < (id :: seen).length + fuel)
    (hx : x ∈ id :: d.bases fuel (id :: seen) id) (hy : d.base? x = some y) :
    y ∈ id :: seen ∨ y ∈ d.bases fuel (id :: seen) id := by
  induction fuel generalizing id seen with
  | zero =>
    cases List.mem_singleton.mp hx
    have := length_le_of_index_lt TypeId.index_injective nodup
      (List.forall_mem_cons.mpr ⟨index_lt_of_base? hy, entered⟩)
    omega
  | succ fuel ih =>
    cases hn : d.base? id with
    | none =>
      rw [bases, hn] at hx
      cases List.mem_singleton.mp hx
      cases hn.symm.trans hy
    | some next =>
      by_cases known : next ∈ id :: seen
      · rw [bases, hn] at hx
        simp only [List.contains_iff_mem.mpr known, if_true] at hx
        cases List.mem_singleton.mp hx
        cases hn.symm.trans hy
        exact Or.inl known
      · have step : d.bases (fuel + 1) (id :: seen) id =
            next :: d.bases fuel (next :: id :: seen) next := by
          rw [bases, hn]
          exact if_neg fun mem => known (List.contains_iff_mem.mp mem)
        rw [step] at hx ⊢
        rcases List.mem_cons.mp hx with rfl | hx
        · cases hn.symm.trans hy
          exact Or.inr List.mem_cons_self
        · have found := ih (List.nodup_cons.mpr ⟨known, nodup⟩)
            (List.forall_mem_cons.mpr ⟨index_lt_of_base? hn, entered⟩)
            (by rw [List.length_cons]; omega) hx
          rcases found with mem | mem
          · rcases List.mem_cons.mp mem with rfl | mem
            · exact Or.inr List.mem_cons_self
            · exact Or.inl mem
          · exact Or.inr (List.mem_cons_of_mem _ mem)

theorem mem_chain_of_descends (h : d.Descends id base) : base ∈ d.chain id := by
  induction h with
  | refl => exact List.mem_cons_self
  | tail _ step ih =>
    have unseen : ∀ other ∈ ([] : List TypeId), other.index < d.types.size := nofun
    have closed := mem_bases_of_base? (List.nodup_singleton id) unseen
      (by rw [List.length_singleton]; omega) ih step
    rcases closed with mem | mem
    · exact List.mem_cons.mpr (Or.inl (List.mem_singleton.mp mem))
    · exact List.mem_cons_of_mem _ mem

theorem isDerivedFrom_iff_descends : d.isDerivedFrom id base = true ↔ d.Descends id base :=
  ⟨descends_of_isDerivedFrom, fun h => List.contains_iff_mem.mpr (mem_chain_of_descends h)⟩

/-- A type without a base descends from itself only. -/
theorem Descends.eq_of_base? (h : d.Descends id base) (none : d.base? id = none) : base = id := by
  cases h.cases_head with
  | inl same => exact same.symm
  | inr step =>
    obtain ⟨next, hn, -⟩ := step
    rw [none] at hn
    cases hn

theorem base?_eq_none (h : d.get? id = none) : d.base? id = none := by
  rw [base?, h, Option.bind_none]

theorem valueType?_eq_none (h : d.get? id = none) : d.valueType? id = none := by
  rw [valueType?_eq, h, Option.bind_none]

end DerivedTypes

namespace Derivation

variable {a : Arena} {d : DerivedTypes} {id base : TypeId}

/-- The literals of a base from which some type with literals descends: the base has them unless it
is one of the two most general types, and nothing with literals lies beyond the most general of
all. -/
theorem refines_base (restricts : ∀ {id info}, d.get? id = some info → Restricts a d id info)
    {t w : ValueType} {next : TypeId} (ht : d.valueType? id = some t)
    (step : d.base? id = some next) (rest : d.Descends next base)
    (hw : d.valueType? base = some w) : ∃ u, d.valueType? next = some u ∧ t.Refines u := by
  obtain ⟨info, entry, hbase⟩ := Option.bind_eq_some_iff.mp step
  rw [DerivedTypes.valueType?_of_get? entry] at ht
  have valueless : d.base? next = none → d.valueType? next ≠ none := by
    intro last none
    cases rest.eq_of_base? last
    rw [none] at hw
    cases hw
  rcases (restricts entry).base ht hbase with found | rfl | rfl
  · exact found
  · cases hi : d.get? .anySimpleType with
    | none =>
      exact absurd (DerivedTypes.valueType?_eq_none hi) (valueless (DerivedTypes.base?_eq_none hi))
    | some info =>
      refine ⟨.any, ?_, ValueType.refines_any⟩
      rw [DerivedTypes.valueType?_of_get? hi, (restricts hi).anySimpleType rfl]
      rfl
  · cases hi : d.get? .anyType with
    | none =>
      exact absurd (DerivedTypes.valueType?_eq_none hi) (valueless (DerivedTypes.base?_eq_none hi))
    | some info =>
      have general := (restricts hi).anyType rfl
      refine absurd ?_ (valueless ?_)
      · rw [DerivedTypes.valueType?_of_get? hi, general]
        rfl
      · rw [DerivedTypes.base?, hi, Option.bind_some, general]
        rfl

/-- By induction along the way to the base. -/
theorem refines_of_descends
    (restricts : ∀ {id info}, d.get? id = some info → Restricts a d id info)
    (h : d.Descends id base) {t w : ValueType} (ht : d.valueType? id = some t)
    (hw : d.valueType? base = some w) : t.Refines w := by
  induction h using Relation.ReflTransGen.head_induction_on generalizing t with
  | refl =>
    cases ht.symm.trans hw
    exact .refl
  | head step rest ih =>
    obtain ⟨u, hu, refines⟩ := refines_base restricts ht step rest hw
    exact refines.trans (ih hu)

end Derivation

namespace Model

variable {supply : Schema.Supply} {documents : List Document} {m : Model}

theorem restricts_of_compile (compiled : compile supply documents = .ok m) {id : TypeId}
    {info : TypeInfo} (h : m.derived.get? id = some info) :
    Derivation.Restricts m.arena m.derived id info := by
  obtain ⟨grounded, derived⟩ := grounded_of_compile compiled
  rw [derived] at h ⊢
  exact Derivation.deriveAll_holds (Derivation.restricts_isInductive grounded) h

/-- What a type accepts, in its normalized form, each type from which it is derived accepts
unchanged. -/
theorem checkValue_of_isDerivedFrom (compiled : compile supply documents = .ok m)
    {t base : TypeId} (derived : m.derived.isDerivedFrom t base = true)
    (valued : (m.derived.valueType? base).isSome = true) {text n : String}
    (accepted : m.derived.checkValue t text = .ok n) : m.derived.checkValue base n = .ok n := by
  obtain ⟨w, hw⟩ := Option.isSome_iff_exists.mp valued
  unfold DerivedTypes.checkValue at accepted ⊢
  split at accepted
  · rename_i v hv
    have refines := Derivation.refines_of_descends (restricts_of_compile compiled)
      (DerivedTypes.descends_of_isDerivedFrom derived) hv hw
    simp only [hw]
    exact refines.admits accepted
  · cases accepted

/-- The type `decimal` of a schema that declares nothing. -/
def decimalType : ValueType :=
  .atomic { whiteSpace := some ⟨.collapse, true⟩ } (some .decimal)

/-- The type `byte` of a schema that declares nothing. -/
def byteType : ValueType :=
  .atomic
    { whiteSpace := some ⟨.collapse, true⟩
      minInclusive := some ⟨.decimal ⟨true, 128, 0⟩, false⟩
      maxInclusive := some ⟨.decimal ⟨false, 127, 0⟩, false⟩
      fractionDigits := some ⟨0, true⟩ }
    (some .byte)

/-- The type is atomic with the facets, and there are no patterns. -/
def isAtomicWith (facets : FacetSet) (builtin : Option Builtin) : Option ValueType → Bool
  | some (.atomic own b) =>
    own.length == facets.length && own.minLength == facets.minLength &&
      own.maxLength == facets.maxLength && own.whiteSpace == facets.whiteSpace &&
      own.minInclusive == facets.minInclusive && own.maxInclusive == facets.maxInclusive &&
      own.minExclusive == facets.minExclusive && own.maxExclusive == facets.maxExclusive &&
      own.totalDigits == facets.totalDigits && own.fractionDigits == facets.fractionDigits &&
      own.enumeration == facets.enumeration && own.patterns.isEmpty && facets.patterns.isEmpty &&
      b == builtin
  | _ => false

theorem eq_of_isAtomicWith {facets : FacetSet} {builtin : Option Builtin} {t : Option ValueType}
    (h : isAtomicWith facets builtin t = true) : t = some (.atomic facets builtin) := by
  unfold isAtomicWith at h
  split at h
  · rename_i own b
    cases own
    cases facets
    simp_all
  · cases h

/-- What can be computed of the schema that declares nothing. -/
private theorem plain_computed :
    (assembled ⟨none, .standard⟩ []).isOk = true ∧ IsSound (readAll []).2.arena [] ∧
      (made (readAll []).2 (readAll []).1 .standard).derived.isDerivedFrom Builtin.byte.typeId
        Builtin.decimal.typeId = true ∧
      isAtomicWith byteType.facets (some .byte)
        ((made (readAll []).2 (readAll []).1 .standard).derived.valueType?
          Builtin.byte.typeId) = true ∧
      isAtomicWith decimalType.facets (some .decimal)
        ((made (readAll []).2 (readAll []).1 .standard).derived.valueType?
          Builtin.decimal.typeId) = true := by
  decide +kernel

theorem exists_plain : ∃ m, compile ⟨none, .standard⟩ [] = .ok m ∧
    m.derived.isDerivedFrom Builtin.byte.typeId Builtin.decimal.typeId = true ∧
    m.derived.valueType? Builtin.byte.typeId = some byteType ∧
    m.derived.valueType? Builtin.decimal.typeId = some decimalType := by
  obtain ⟨isOk, sound, derived, byte, decimal⟩ := plain_computed
  exact ⟨_, compile_of_isSound isOk sound (by simp), derived, eq_of_isAtomicWith byte,
    eq_of_isAtomicWith decimal⟩

theorem decimal_takes_byte : ∃ m, compile ⟨none, .standard⟩ [] = .ok m ∧
    m.derived.checkValue Builtin.byte.typeId "\t+12\n" = .ok "+12" ∧
    m.derived.checkValue Builtin.decimal.typeId "+12" = .ok "+12" := by
  obtain ⟨m, compiled, derived, byte, decimal⟩ := exists_plain
  have accepted : m.derived.checkValue Builtin.byte.typeId "\t+12\n" = .ok "+12" := by
    rw [DerivedTypes.checkValue, byte]
    cbv
  have valued : (m.derived.valueType? Builtin.decimal.typeId).isSome = true := by rw [decimal]; rfl
  exact ⟨m, compiled, accepted, checkValue_of_isDerivedFrom compiled derived valued accepted⟩

end Model

end Xsd
