import Mathlib
import Xsd.Proofs.Derivation.Chain
import Xsd.Proofs.Derivation.Descent
import Xsd.Proofs.Value.Exact

/-!
# Numbers of types that descend from `decimal`

What such a type accepts has the form of a decimal number, but the bounds in force are looked at
for the number as it is read, with bounded precision. They hold of the number that is meant as long
as its digits are ASCII and fit; a longer literal is not looked at, or looked at when rounded.
-/

namespace Xsd

theorem Builtin.isLiteral_decimal {b : Builtin} {value : String} (numeric : b.valueSpace = .decimal)
    (literal : b.isLiteral value = true) : Form.decimal value.toList = true := by
  cases b <;> first
    | exact literal
    | exact Form.decimal_of_integer literal
    | cases numeric

theorem Text.trimList_of_clean {cs : List Char} (clean : ∀ c ∈ cs, isBlank c = false) :
    trimList cs = cs := by
  have trimmed : trimList ([] ++ (cs ++ [])) = cs := trimList_eq blanks_nil blanks_nil clean
  simpa using trimmed

namespace Model

variable {supply : Schema.Supply} {documents : List Document} {m : Model} {t : TypeId}

/-- The literal means a number of which the facets hold. -/
def MeetsFacets (fs : FacetSet) (literal : String) : Prop :=
  ∃ d, Decimal.ofLiteral? literal.toList = some d ∧ fs.HoldsOf d.value

/-- A type that descends from `decimal` reads its values as numbers. -/
theorem space_of_descends (compiled : compile supply documents = .ok m)
    (descends : m.derived.isDerivedFrom t Builtin.decimal.typeId = true) {w : ValueType}
    (hw : m.derived.valueType? t = some w) : w.space = .decimal := by
  obtain ⟨grounded, same⟩ := grounded_of_compile compiled
  have rooted : m.derived.IsRooted := by
    rw [same]
    exact Derivation.deriveAll_isRooted grounded.initial
  have derived : (m.derived.get? t).isSome = true := by
    obtain ⟨info, entry, -⟩ := Option.bind_eq_some_iff.mp
      ((DerivedTypes.valueType?_eq m.derived t).symm.trans hw)
    rw [entry]
    rfl
  obtain ⟨info, entry⟩ := Option.isSome_iff_exists.mp
    (rooted.derived_of_mem_chain derived (List.contains_iff_mem.mp descends))
  obtain ⟨facets, effective⟩ := (restricts_of_compile compiled entry).builtin
    (grounded.type?_typeId .decimal) rfl
  have hbase : m.derived.valueType? Builtin.decimal.typeId =
      some (.atomic facets (some .decimal)) := by
    rw [DerivedTypes.valueType?_of_get? entry, effective]
    rfl
  have refines := Derivation.refines_of_descends (restricts_of_compile compiled)
    (DerivedTypes.descends_of_isDerivedFrom descends) hw hbase
  exact refines.space fun unordered => by cases unordered

/-- What a type that descends from `decimal` accepts, in ASCII digits that are sure to fit, means a
number of which all facets of the type hold that bound numbers. -/
theorem meetsFacets_of_checkValue (compiled : compile supply documents = .ok m)
    (descends : m.derived.isDerivedFrom t Builtin.decimal.typeId = true) {text n : String}
    (accepted : m.derived.checkValue t text = .ok n) (ascii : ∀ c ∈ n.toList, c.toNat < 128)
    (short : Decimal.literalDigits n.toList ≤ Decimal.safeDigits) :
    ∃ w, m.derived.valueType? t = some w ∧ MeetsFacets w.facets n := by
  unfold DerivedTypes.checkValue at accepted
  split at accepted
  · rename_i w hw
    have decimal := space_of_descends compiled descends hw
    obtain ⟨facets, b, rfl, numeric⟩ :=
      ValueType.eq_atomic_of_ordered (t := w) (by rw [decimal]; decide)
    have numeric : b.valueSpace = .decimal := numeric.symm.trans decimal
    obtain ⟨-, form, admitted⟩ := ValueType.check_eq_ok_iff.mp accepted
    obtain ⟨d, meant⟩ :=
      Decimal.ofLiteral?_isSome (Builtin.isLiteral_decimal numeric (form b rfl)) ascii
    have read : Decimal.parse (Text.trimList n.toList) = some d := by
      rw [Text.trimList_of_clean (Decimal.isBlank_of_ofLiteral? meant)]
      exact Decimal.parse_of_ofLiteral? meant short
    have inSpace : (ValueType.atomic facets (some b)).space.parse n = some (.decimal d) := by
      rw [decimal, ValueSpace.parse]
      simp only [read, Option.map_some]
    exact ⟨_, hw, d, meant, FacetSet.holdsOf_of_fits (admitted.range _ inSpace)
      (admitted.digits decimal d read)⟩
  · cases accepted

theorem byte_meetsFacets : ∃ m, compile ⟨none, .standard⟩ [] = .ok m ∧
    m.derived.isDerivedFrom Builtin.byte.typeId Builtin.decimal.typeId = true ∧
    m.derived.checkValue Builtin.byte.typeId " -007 " = .ok "-007" ∧
    ∃ w, m.derived.valueType? Builtin.byte.typeId = some w ∧ MeetsFacets w.facets "-007" := by
  obtain ⟨m, compiled, descends, byte, -⟩ := exists_plain
  have accepted : m.derived.checkValue Builtin.byte.typeId " -007 " = .ok "-007" := by
    rw [DerivedTypes.checkValue, byte]
    cbv
  have ascii : ∀ c ∈ "-007".toList, c.toNat < 128 := by simp
  have short : Decimal.literalDigits "-007".toList ≤ Decimal.safeDigits := by
    simp [Decimal.literalDigits, Decimal.safeDigits, Text.isDigit]
  exact ⟨m, compiled, descends, accepted,
    meetsFacets_of_checkValue compiled descends accepted ascii short⟩

/-- A number that exceeds the precision has no value, so that no bound is looked at. -/
theorem not_meetsFacets_of_checkValue : ¬ ∀ (supply : Schema.Supply) (documents : List Document)
    (m : Model), compile supply documents = .ok m → ∀ (t : TypeId) (w : ValueType)
    (text n : String), m.derived.isDerivedFrom t Builtin.decimal.typeId = true →
      m.derived.valueType? t = some w → m.derived.checkValue t text = .ok n →
      MeetsFacets w.facets n := by
  intro always
  obtain ⟨m, compiled, descends, byte, -⟩ := exists_plain
  have accepted : m.derived.checkValue Builtin.byte.typeId "99999999999999999999999999999999999999"
      = .ok "99999999999999999999999999999999999999" := by
    rw [DerivedTypes.checkValue, byte]
    cbv
  obtain ⟨d, meant, holds⟩ := always _ _ m compiled _ _ _ _ descends byte accepted
  have large : d = ⟨false, 99999999999999999999999999999999999999, 0⟩ := by
    have read : Decimal.ofLiteral? "99999999999999999999999999999999999999".toList =
        some ⟨false, 99999999999999999999999999999999999999, 0⟩ := by
      cbv
    exact Option.some.inj (meant.symm.trans read)
  obtain ⟨e, bound, le⟩ := holds.maxInclusive _ rfl
  cases bound
  rw [large] at le
  norm_num [Decimal.value] at le

end Model

end Xsd
