import Mathlib
import Xsd.Proofs.Derivation.Refinement

/-!
# Links between derived types

A derived type leads to its base and, through its literals, to the types of their items or members.
It is entered only when all of these are, so no way along the links comes back to where it began.
Lists and unions are the exception: their base is the most general simple type, derived or not. But
from there the links lead to the most general type only, and from that one nowhere.
-/

namespace Xsd

/-- The types of which the literals of a type are made up. -/
def ValueType.links : ValueType → List TypeId
  | .atomic _ _ => []
  | .list _ itemId _ => [itemId]
  | .union _ memberIds _ => memberIds

/-- The types to which a derived type leads. -/
def TypeInfo.links (info : TypeInfo) : List TypeId :=
  info.base.toList ++ (info.effective.valueType?.map (·.links)).getD []

theorem TypeInfo.mem_links_iff {info : TypeInfo} {other : TypeId} :
    other ∈ info.links ↔ info.base = some other ∨
      ∃ t, info.effective.valueType? = some t ∧ other ∈ t.links := by
  rw [links, List.mem_append, Option.mem_toList]
  cases info.effective.valueType? <;> simp

namespace DerivedTypes

variable {d e : DerivedTypes} {id other : TypeId} {t : ValueType}

/-- The first type has been derived, and leads to the second. -/
def Links (d : DerivedTypes) (id other : TypeId) : Prop :=
  ∃ info, d.get? id = some info ∧ other ∈ info.links

/-- All links from here on, and from the types to which they lead, end at one of the two most
general types. -/
inductive Settled (d : DerivedTypes) : TypeId → Prop
  | general {id : TypeId} : id = .anyType ∨ id = .anySimpleType → Settled d id
  | entry {id : TypeId} {info : TypeInfo} : d.get? id = some info →
    (∀ other ∈ info.links, Settled d other) → Settled d id

theorem Settled.mono (below : d.Below e) (h : d.Settled id) : e.Settled id := by
  induction h with
  | general general => exact .general general
  | entry entry _ ih => exact .entry (below entry) ih

/-- The value types that a type carries of its items or members are those that have been derived
under their numbers. -/
def Carries (d : DerivedTypes) : ValueType → Prop
  | .atomic _ _ => True
  | .list _ itemId item => d.simple? itemId = some item
  | .union _ memberIds members => List.Forall₂ (fun id t => d.simple? id = some t) memberIds members

theorem Below.simple? (below : d.Below e) (h : d.simple? id = some t) : e.simple? id = some t := by
  obtain ⟨info, entry, effective⟩ := get?_of_simple? h
  unfold DerivedTypes.simple?
  rw [below entry]
  cases info
  cases effective
  rfl

theorem Carries.mono (below : d.Below e) (h : d.Carries t) : e.Carries t := by
  cases t with
  | atomic facets builtin => trivial
  | list facets itemId item => exact below.simple? h
  | union facets memberIds members => exact List.Forall₂.imp (fun _ _ => below.simple?) h

theorem valueType?_of_simple? (h : d.simple? id = some t) : d.valueType? id = some t := by
  obtain ⟨info, entry, effective⟩ := get?_of_simple? h
  rw [valueType?_of_get? entry, effective]
  rfl

end DerivedTypes

namespace ValueType

variable {t base : ValueType}

theorem links_withFacets (facets : FacetSet) : (t.withFacets facets).links = t.links := by
  cases t <;> rfl

theorem carries_withFacets {d : DerivedTypes} (facets : FacetSet) :
    d.Carries (t.withFacets facets) ↔ d.Carries t := by
  cases t <;> rfl

end ValueType

namespace Derivation

open DerivedTypes

/-- Where a derived type leads, and what the types are that are there from the start. -/
structure Linked (d : DerivedTypes) (id : TypeId) (info : TypeInfo) : Prop where
  settled : ∀ other ∈ info.links, d.Settled other
  carries : ∀ {t}, info.effective.valueType? = some t → d.Carries t
  based : info.base = none → id = .anyType
  anyType : id = .anyType → info = Derivation.anyType
  anySimpleType : id = .anySimpleType → info = ⟨some .anyType, .restriction, .simple .any⟩

theorem Linked.mono {d e : DerivedTypes} {id : TypeId} {info : TypeInfo} (below : d.Below e)
    (h : Linked d id info) : Linked e id info :=
  ⟨fun other mem => (h.settled other mem).mono below, fun ht => (h.carries ht).mono below, h.based,
    h.anyType, h.anySimpleType⟩

variable {a : Arena} {need : Need} {owner : String} {s t : DerivationState} {id : TypeId}

theorem settled_of_get? (sound : Sound Linked s) {info : TypeInfo}
    (h : s.derived.get? id = some info) : s.derived.Settled id :=
  .entry h (sound.holds h).settled

theorem settled_of_simple? (sound : Sound Linked s) {w : ValueType}
    (h : s.derived.simple? id = some w) : s.derived.Settled id := by
  obtain ⟨info, entry, -⟩ := get?_of_simple? h
  exact settled_of_get? sound entry

/-! ## Simple types -/

/-- The members of a union have been derived one after the other, and remain derived. -/
theorem yields_operands {claim : Claim} (hneed : need.IsSound claim) {action : String}
    {uses : List TypeUse} {members : List (TypeId × ValueType)} (sound : Sound claim s)
    (h : Yields (uses.mapM (operand a need owner action)) s members t) :
    Advances claim s t ∧ ∀ m ∈ members, t.derived.simple? m.1 = some m.2 := by
  induction uses generalizing s members with
  | nil =>
    obtain ⟨rfl, rfl⟩ := yields_pure_iff.mp h
    exact ⟨⟨sound, .refl s⟩, fun m mem => by cases mem⟩
  | cons use uses ih =>
    rw [List.mapM_cons] at h
    obtain ⟨⟨memberId, member⟩, u, first, h⟩ := yields_bind_iff.mp h
    obtain ⟨rest, u', others, h⟩ := yields_bind_iff.mp h
    obtain ⟨rfl, rfl⟩ := yields_pure_iff.mp h
    have before : Advances claim s u :=
      (upholds_operand (hneed s) action use).of_yields first ⟨sound, .refl s⟩
    obtain ⟨after, derived⟩ := ih before.sound others
    refine ⟨⟨after.sound, before.extended.trans after.extended⟩, fun m mem => ?_⟩
    rcases List.mem_cons.mp mem with rfl | mem
    · exact Below.simple? after.extended.derived (yields_operand first).2
    · exact derived m mem

theorem yields_union {claim : Claim} (hneed : need.IsSound claim) (sound : Sound claim s)
    {definition : SimpleTypeDef} {uses : List TypeUse} {info : TypeInfo}
    (other : id ≠ .anySimpleType) (variety : definition.variety = .union uses)
    (h : Yields (deriveSimple a need id definition) s info t) :
    ∃ members : List (TypeId × ValueType),
      info.effective = .simple (.union .empty (members.map (·.1)) (members.map (·.2))) ∧
        ∀ m ∈ members, t.derived.simple? m.1 = some m.2 := by
  unfold deriveSimple at h
  rw [if_neg other, variety] at h
  obtain ⟨members, u, hm, h⟩ := yields_bind_iff.mp h
  obtain ⟨rfl, rfl⟩ := yields_pure_iff.mp h
  exact ⟨members, rfl, (yields_operands hneed sound hm).2⟩

/-- A specialized restriction leads where its base leads, or nowhere. -/
theorem links_of_specializes {base own w : ValueType} {declared : List FacetDecl}
    {builtin : Option Builtin} {d : DerivedTypes} (restricted : base.restrict declared = .ok own)
    (special : Specializes own builtin w) (carries : d.Carries base) :
    w.links ⊆ base.links ∧ d.Carries w := by
  obtain ⟨facets, rfl⟩ := ValueType.eq_withFacets_of_restrict restricted
  cases special with
  | none =>
    rw [ValueType.links_withFacets]
    exact ⟨List.Subset.refl _, (ValueType.carries_withFacets facets).mpr carries⟩
  | some _ => exact ⟨List.nil_subset _, trivial⟩

theorem linked_simple (hneed : need.IsSound Linked) (before : Sound Linked s)
    {definition : SimpleTypeDef} {info : TypeInfo} (notAny : id ≠ .anyType)
    (other : id ≠ .anySimpleType) (h : Yields (deriveSimple a need id definition) s info t) :
    Linked t.derived id info := by
  have sound : Sound Linked t :=
    ((upholds_deriveSimple (hneed s) id definition).of_yields h ⟨before, .refl s⟩).sound
  have general : t.derived.Settled .anySimpleType := .general (Or.inr rfl)
  suffices links : (∀ p, info.base = some p → t.derived.Settled p) ∧ info.base ≠ none ∧
      ∀ w, info.effective.valueType? = some w →
        (∀ other ∈ w.links, t.derived.Settled other) ∧ t.derived.Carries w by
    obtain ⟨base, based, literals⟩ := links
    refine ⟨fun other mem => ?_, fun ht => (literals _ ht).2, fun none => absurd none based,
      fun same => absurd same notAny, fun same => absurd same other⟩
    rcases TypeInfo.mem_links_iff.mp mem with isBase | ⟨w, hw, mem⟩
    · exact base other isBase
    · exact (literals w hw).1 other mem
  cases yields_deriveSimple other h with
  | restriction variety target simple restricted special =>
    obtain ⟨info, entry, effective⟩ := get?_of_simple? simple
    have literals : info.effective.valueType? = some _ := congrArg _ effective
    have linked : Linked t.derived _ info := sound.holds entry
    obtain ⟨sub, carries⟩ := links_of_specializes restricted special (linked.carries literals)
    refine ⟨fun p hp => ?_, by simp, fun w hw => ?_⟩
    · cases hp
      exact settled_of_get? sound entry
    · cases hw
      refine ⟨fun other mem => linked.settled other ?_, carries⟩
      exact TypeInfo.mem_links_iff.mpr (Or.inr ⟨_, literals, sub mem⟩)
  | list variety target simple restricted =>
    refine ⟨fun p hp => ?_, by simp, fun w hw => ?_⟩
    · cases hp
      exact general
    · cases hw
      refine ⟨fun other mem => ?_, simple⟩
      cases List.mem_singleton.mp mem
      exact settled_of_simple? sound simple
  | union variety =>
    obtain ⟨members, effective, derived⟩ := yields_union hneed before other variety h
    refine ⟨fun p hp => ?_, by simp, fun w hw => ?_⟩
    · cases hp
      exact general
    · have literals := congrArg EffectiveType.valueType? effective
      cases literals.symm.trans hw
      refine ⟨fun other mem => ?_, ?_⟩
      · obtain ⟨m, member, rfl⟩ := List.mem_map.mp mem
        exact settled_of_simple? sound (derived m member)
      · change List.Forall₂ _ (members.map (·.1)) (members.map (·.2))
        rw [List.forall₂_map_left_iff, List.forall₂_map_right_iff, List.forall₂_same]
        exact derived

/-! ## Complex types -/

theorem linked_complex (hneed : need.IsSound Linked) (before : Sound Linked s)
    {definition : ComplexTypeDef} {info : TypeInfo} (other : id ≠ .anyType)
    (notSimple : id ≠ .anySimpleType) (h : Yields (deriveComplex a need id definition) s info t) :
    Linked t.derived id info := by
  have sound : Sound Linked t :=
    ((upholds_deriveComplex (hneed s) id definition).of_yields h ⟨before, .refl s⟩).sound
  obtain ⟨baseId, base, c, derives⟩ := yields_deriveComplex hneed before other h
  have linked : Linked t.derived baseId base := sound.holds derives.entry
  cases derives.eq
  have literals : ∀ {v}, c.valueType = some v →
      (∀ other ∈ v.links, t.derived.Settled other) ∧ t.derived.Carries v := by
    intro v hv
    obtain ⟨w, hw, restricted⟩ := derives.literals hv
    have same : ∃ facets, v = w ∨ v = w.withFacets facets := by
      rcases restricted with rfl | ⟨declared, restricted⟩
      · exact ⟨.empty, Or.inl rfl⟩
      · obtain ⟨facets, rfl⟩ := ValueType.eq_withFacets_of_restrict restricted
        exact ⟨facets, Or.inr rfl⟩
    have led : ∀ other ∈ w.links, t.derived.Settled other := fun other mem =>
      linked.settled other (TypeInfo.mem_links_iff.mpr (Or.inr ⟨w, hw, mem⟩))
    obtain ⟨facets, rfl | rfl⟩ := same
    · exact ⟨led, linked.carries hw⟩
    · rw [ValueType.links_withFacets, ValueType.carries_withFacets]
      exact ⟨led, linked.carries hw⟩
  refine ⟨fun other mem => ?_, fun ht => (literals ht).2, (fun none => by cases none),
    fun same => absurd same other, fun same => absurd same notSimple⟩
  rcases TypeInfo.mem_links_iff.mp mem with isBase | ⟨v, hv, mem⟩
  · cases isBase
    exact settled_of_get? sound derives.entry
  · exact (literals hv).1 other mem

theorem linked_anyType (d : DerivedTypes) : Linked d .anyType Derivation.anyType where
  settled other mem := by cases mem
  carries ht := by cases ht
  based _ := rfl
  anyType _ := rfl
  anySimpleType same := absurd same (by decide)

theorem linked_anySimpleType (d : DerivedTypes) :
    Linked d .anySimpleType ⟨some .anyType, .restriction, .simple .any⟩ where
  settled other mem := .general (Or.inl (List.mem_singleton.mp mem))
  carries ht := by
    cases ht
    trivial
  based none := by cases none
  anyType same := absurd same (by decide)
  anySimpleType _ := rfl

/-- The types that are there from the start are in the arena, and are what they are. -/
abbrev Extending (a : Arena) : Prop :=
  ∀ {id t}, (Arena.initial Registry.builtinDocument).type? id = some t → a.type? id = some t

theorem linked_isInductive (extending : Extending a) :
    Claim.IsInductive Linked a where
  mono below h := h.mono below
  made {need id definition s info t} hd hneed sound h := by
    have anyType : a.type? .anyType = some (Arena.anyType Registry.builtinDocument) :=
      extending rfl
    have anySimpleType :
        a.type? .anySimpleType = some (Arena.anySimpleType Registry.builtinDocument) :=
      extending rfl
    cases definition with
    | simple definition =>
      by_cases special : id = .anySimpleType
      · subst special
        obtain ⟨rfl, rfl⟩ := yields_pure_iff.mp h
        exact linked_anySimpleType _
      · refine linked_simple hneed sound ?_ special h
        rintro rfl
        cases anyType.symm.trans hd
    | complex definition =>
      by_cases special : id = .anyType
      · subst special
        obtain ⟨rfl, rfl⟩ := yields_pure_iff.mp h
        exact linked_anyType _
      · refine linked_complex hneed sound special ?_ h
        rintro rfl
        cases anySimpleType.symm.trans hd

end Derivation

/-! ## No way back -/

namespace DerivedTypes

variable {d : DerivedTypes} {id : TypeId}

section

variable (linked : ∀ {id info}, d.get? id = some info → Derivation.Linked d id info)

include linked

theorem acc_anyType :
    Acc (fun other id => d.Links id other) .anyType := by
  refine ⟨_, fun other ⟨info, entry, mem⟩ => ?_⟩
  rw [(linked entry).anyType rfl] at mem
  cases mem

theorem acc_anySimpleType :
    Acc (fun other id => d.Links id other) .anySimpleType := by
  refine ⟨_, fun other ⟨info, entry, mem⟩ => ?_⟩
  rw [(linked entry).anySimpleType rfl] at mem
  cases List.mem_singleton.mp mem
  exact acc_anyType linked

/-- By induction on how the links from a type end. -/
theorem Settled.acc (h : d.Settled id) : Acc (fun other id => d.Links id other) id := by
  induction h with
  | general general =>
    rcases general with rfl | rfl
    · exact acc_anyType linked
    · exact acc_anySimpleType linked
  | entry entry _ ih =>
    refine ⟨_, fun other ⟨info, entry', mem⟩ => ?_⟩
    cases entry.symm.trans entry'
    exact ih other mem

theorem wellFounded_links : WellFounded fun other id => d.Links id other := by
  refine ⟨fun id => ⟨_, fun other ⟨info, entry, mem⟩ => ?_⟩⟩
  exact ((linked entry).settled other mem).acc linked

end

end DerivedTypes

end Xsd
