import Xsd.Proofs.Derivation.Descent
import Xsd.Proofs.Wildcard

/-!
# Attributes in comparison with those of the base

An extension keeps the attributes of its base. A restriction narrows some of them, takes away
optional ones, and admits no name that the base does not admit.
-/

namespace Xsd

/-- So many times are within the bounds. -/
def Occurs.Allows (o : Occurs) (n : Nat) : Prop := o.min ≤ n ∧ ∀ max ∈ o.max, n ≤ max

theorem Occurs.Allows.of_restricts {a b : Occurs} {n : Nat} (allowed : a.Allows n)
    (h : a.restricts b = true) : b.Allows n := by
  obtain ⟨low, high⟩ := a
  obtain ⟨low', high'⟩ := b
  obtain ⟨least, most⟩ := allowed
  unfold restricts at h
  split at h
  · cases h
  · rename_i notBelow
    refine ⟨(Nat.le_of_not_lt notBelow).trans least, fun max mem => ?_⟩
    cases mem
    cases high with
    | none => cases h
    | some most' =>
      have bounded := most most' rfl
      cases most' with
      | zero => omega
      | succ m => exact bounded.trans (of_decide_eq_true h)

/-! ## Attributes that stand in for others -/

/-- The first attribute may be used no more freely than the second, its type derives from that of
the second, and a value that the second fixes is fixed to the same. -/
structure EffectiveAttribute.Narrows (d : DerivedTypes) (x y : EffectiveAttribute) : Prop where
  use : ∀ {n}, x.use.occurs.Allows n → y.use.occurs.Allows n
  type : d.isDerivedFrom x.type y.type = true
  fixed : ∀ {c}, y.constraint = some c → c.fixed = true → x.constraint = some c

theorem DerivedTypes.Descends.mono {d e : DerivedTypes} (below : d.Below e) {id base : TypeId}
    (h : d.Descends id base) : e.Descends id base := by
  refine Relation.ReflTransGen.mono (fun x y step => ?_) _ _ h
  obtain ⟨info, entry, hbase⟩ := Option.bind_eq_some_iff.mp step
  exact Option.bind_eq_some_iff.mpr ⟨info, below entry, hbase⟩

namespace EffectiveAttribute.Narrows

variable {d e : DerivedTypes} {x y z : EffectiveAttribute}

theorem refl (d : DerivedTypes) (x : EffectiveAttribute) : x.Narrows d x where
  use h := h
  type := DerivedTypes.isDerivedFrom_iff_descends.mpr .refl
  fixed h _ := h

theorem trans (h : x.Narrows d y) (h' : y.Narrows d z) : x.Narrows d z where
  use allowed := h'.use (h.use allowed)
  type := DerivedTypes.isDerivedFrom_iff_descends.mpr
    ((DerivedTypes.descends_of_isDerivedFrom h.type).trans
      (DerivedTypes.descends_of_isDerivedFrom h'.type))
  fixed hc fixed := h.fixed (h'.fixed hc fixed) fixed

theorem mono (below : d.Below e) (h : x.Narrows d y) : x.Narrows e y where
  use := h.use
  type := DerivedTypes.isDerivedFrom_iff_descends.mpr
    ((DerivedTypes.descends_of_isDerivedFrom h.type).mono below)
  fixed := h.fixed

/-- What may not be left out may not be left out of what stands in for it. -/
theorem required (h : x.Narrows d y) (hy : y.use = .required) : x.use = .required := by
  have notOptional : ¬ x.use.occurs.Allows 0 := by
    intro allowed
    have := (h.use allowed).1
    rw [hy] at this
    cases this
  cases hx : x.use with
  | required => rfl
  | optional => exact absurd ⟨Nat.le_refl 0, by simp⟩ (hx ▸ notOptional)
  | prohibited => exact absurd ⟨Nat.le_refl 0, by simp⟩ (hx ▸ notOptional)

end EffectiveAttribute.Narrows

namespace Derivation

variable {a : Arena} {d e : DerivedTypes} {owner : String} {x y : EffectiveAttribute}

theorem narrows_of_restrictionFault? (h : restrictionFault? a d y x = none) : x.Narrows d y := by
  unfold restrictionFault? at h
  split at h
  · cases h
  · rename_i use
    have narrower : x.use.occurs.restricts y.use.occurs = true := by simpa using use
    split at h
    · rename_i c constraint
      split at h
      · cases h
      · rename_i keeps
        split at h
        · cases h
        · rename_i related
          refine ⟨fun allowed => allowed.of_restricts narrower, by simpa using related, ?_⟩
          intro c' hc' fixed
          cases constraint.symm.trans hc'
          simpa [fixed] using keeps
    · rename_i constraint
      split at h
      · cases h
      · rename_i related
        refine ⟨fun allowed => allowed.of_restricts narrower, by simpa using related, ?_⟩
        intro c hc
        cases constraint.symm.trans hc

/-! ## Tables of attributes -/

end Derivation

namespace AttributeTable

variable {d : DerivedTypes} {s t u : AttributeTable}

/-- None of the attributes is one that must not be used. -/
def Permitted (t : AttributeTable) : Prop := ∀ x ∈ t.values, x.use ≠ .prohibited

/-- The attributes of the second table are all there, unchanged. -/
def Extends (t u : AttributeTable) : Prop := ∀ name y, u.get? name = some y → t.get? name = some y

/-- For each attribute of the second table that must be used there is one that narrows it. -/
def Carries (d : DerivedTypes) (t u : AttributeTable) : Prop :=
  ∀ name y, u.get? name = some y → y.use = .required → ∃ x, t.get? name = some x ∧ x.Narrows d y

theorem Permitted.insert (h : t.Permitted) {name : QName} {x : EffectiveAttribute}
    (hx : x.use ≠ .prohibited) : Permitted (Table.insert t name x) := by
  intro y mem
  rcases Table.mem_values_insert mem with rfl | mem
  · exact hx
  · exact h y mem

theorem Extends.carries (h : t.Extends u) : t.Carries d u :=
  fun name y hy _ => ⟨y, h name y hy, .refl d y⟩

theorem Carries.refl (d : DerivedTypes) (t : AttributeTable) : t.Carries d t :=
  Extends.carries fun _ _ h => h

theorem Carries.trans (h : s.Carries d t) (h' : t.Carries d u) : s.Carries d u := by
  intro name z hz required
  obtain ⟨y, hy, narrows⟩ := h' name z hz required
  obtain ⟨x, hx, narrows'⟩ := h name y hy (narrows.required required)
  exact ⟨x, hx, narrows'.trans narrows⟩

end AttributeTable

namespace Derivation

variable {a : Arena} {d e : DerivedTypes} {owner : String} {x y : EffectiveAttribute}
  {table : AttributeTable} {base own merged : AttributeSet}

/-- An attribute of that name is declared, or its namespace admitted by the wildcard. -/
def AttributeSet.Admits (s : AttributeSet) (name : QName) : Prop :=
  (∃ x, s.attributes.get? name = some x) ∨ ∃ w, s.wildcard = some w ∧ w.allows name.ns = true

/-- Nothing is admitted that the base does not admit, attributes of both are narrower here, and what
the base requires is there. -/
structure AttributeSet.Restricts (d : DerivedTypes) (s base : AttributeSet) : Prop where
  admits : ∀ {name}, s.Admits name → base.Admits name
  narrows : ∀ {name x y}, s.attributes.get? name = some x → base.attributes.get? name = some y →
    x.Narrows d y
  requires : ∀ {name y}, base.attributes.get? name = some y → y.use = .required →
    ∃ x, s.attributes.get? name = some x

theorem AttributeSet.Restricts.carries {s : AttributeSet} (h : s.Restricts d base) :
    s.attributes.Carries d base.attributes := by
  intro name y hy required
  obtain ⟨x, hx⟩ := h.requires hy required
  exact ⟨x, hx, h.narrows hx hy⟩

theorem AttributeSet.Restricts.mono {s : AttributeSet} (below : d.Below e) (h : s.Restricts d base) :
    s.Restricts e base :=
  ⟨h.admits, fun hx hy => (h.narrows hx hy).mono below, h.requires⟩

/-! ## Extension -/

theorem inert_extendAttribute (extends' : table.Extends base.attributes) :
    Inert (fun _ => True)
      (fun t => t.Extends base.attributes ∧ (table.Permitted → t.Permitted))
      (extendAttribute owner table x) := by
  unfold extendAttribute
  split
  · exact .throw trivial
  · rename_i new
    split
    · exact .pure ⟨extends', fun permitted => permitted⟩
    · rename_i used
      refine .pure ⟨fun name y hy => ?_, fun permitted => permitted.insert used⟩
      have other : name ≠ x.name := by
        rintro rfl
        exact new (Option.isSome_iff_exists.mpr ⟨y, extends' _ y hy⟩)
      simpa [other] using extends' name y hy

theorem inert_extend_extends :
    Inert (fun _ => True)
      (fun s => s.attributes.Extends base.attributes ∧
        (base.attributes.Permitted → s.attributes.Permitted))
      (extend owner base own) := by
  refine .bind (G := fun t => t.Extends base.attributes ∧
    (base.attributes.Permitted → t.Permitted)) ?_ fun _ h => .pure h
  refine .foldlM (fun x _ table h => ?_) ⟨fun _ _ h => h, fun h => h⟩
  exact (inert_extendAttribute h.1).weaken (fun _ h => h) fun t ht => ⟨ht.1, fun p => ht.2 (h.2 p)⟩

/-! ## Restriction -/

theorem AttributeSet.Restricts.insert (h : Restricts d ⟨table, none⟩ base)
    (admitted : base.Admits x.name)
    (narrows : ∀ {y}, base.attributes.get? x.name = some y → x.Narrows d y) :
    Restricts d ⟨table.insert x.name x, none⟩ base where
  admits {name} hn := by
    rcases hn with ⟨z, hz⟩ | ⟨w, ⟨⟩, -⟩
    by_cases same : name = x.name
    · exact same ▸ admitted
    · refine h.admits (Or.inl ⟨z, ?_⟩)
      simpa [same] using hz
  narrows {name z y} hz hy := by
    by_cases same : name = x.name
    · subst same
      rw [Table.get?_insert, if_pos (beq_self_eq_true _)] at hz
      cases hz
      exact narrows hy
    · refine h.narrows ?_ hy
      simpa [same] using hz
  requires {name y} hy required := by
    by_cases same : name = x.name
    · exact ⟨x, by simp [same]⟩
    · simpa [same] using h.requires hy required

theorem AttributeSet.Restricts.erase (h : Restricts d ⟨table, none⟩ base) {name : QName}
    (free : ∀ {y}, base.attributes.get? name = some y → y.use ≠ .required) :
    Restricts d ⟨table.erase name, none⟩ base where
  admits {other} hn := by
    rcases hn with ⟨z, hz⟩ | ⟨w, ⟨⟩, -⟩
    rw [Table.get?_erase] at hz
    split at hz
    · cases hz
    · exact h.admits (Or.inl ⟨z, hz⟩)
  narrows {other z y} hz hy := by
    rw [Table.get?_erase] at hz
    split at hz
    · cases hz
    · exact h.narrows hz hy
  requires {other y} hy required := by
    by_cases same : other = name
    · exact absurd required (free (same ▸ hy))
    · simpa [Table.get?_erase, same] using h.requires hy required

theorem inert_restrictAttribute_restricts (h : AttributeSet.Restricts d ⟨table, none⟩ base) :
    Inert (fun _ => True)
      (fun t => AttributeSet.Restricts d ⟨t, none⟩ base ∧ (table.Permitted → t.Permitted))
      (restrictAttribute a d owner base table x) := by
  unfold restrictAttribute
  extract_lets refuse
  split
  · rename_i absent
    split
    · exact .pure ⟨h, fun permitted => permitted⟩
    · rename_i used
      split
      · rename_i allowed
        refine .pure ⟨h.insert (Or.inr ?_) fun hy => ?_, fun permitted => permitted.insert used⟩
        · cases hw : base.wildcard with
          | none =>
            rw [hw] at allowed
            cases allowed
          | some w =>
            rw [hw] at allowed
            exact ⟨w, rfl, allowed⟩
        · cases absent.symm.trans hy
      · exact .throw trivial
  · rename_i inherited there
    split
    · split
      · exact .throw trivial
      · rename_i free
        refine .pure ⟨h.erase fun hy => ?_, fun permitted y mem => ?_⟩
        · cases there.symm.trans hy
          exact free
        · exact permitted y (Table.mem_values_of_mem_erase mem)
    · rename_i used
      split
      · exact .throw trivial
      · rename_i faultless
        refine .pure ⟨h.insert (Or.inl ⟨inherited, there⟩) fun hy => ?_,
          fun permitted => permitted.insert used⟩
        cases there.symm.trans hy
        exact narrows_of_restrictionFault? faultless

theorem inert_restrictWildcard_isSubsetOf {own base : Option Wildcard} :
    Inert (fun _ => True)
      (fun w => ∀ x, w = some x → ∃ y, base = some y ∧ x.constraint.isSubsetOf y.constraint = true)
      (restrictWildcard owner own base) := by
  unfold restrictWildcard
  split
  · exact .pure fun x hx => by cases hx
  · split
    · rename_i y subset
      refine .pure fun x hx => ?_
      cases hx
      exact ⟨y, rfl, subset⟩
    · exact .throw trivial
  · exact .throw trivial

theorem AttributeSet.Restricts.refl (d : DerivedTypes) (base : AttributeSet) :
    Restricts d ⟨base.attributes, none⟩ base where
  admits hn := by
    rcases hn with there | ⟨w, ⟨⟩, -⟩
    exact Or.inl there
  narrows {name x y} hx hy := by
    cases hx.symm.trans hy
    exact .refl d x
  requires {name y} hy _ := ⟨y, hy⟩

theorem AttributeSet.Restricts.withWildcard (h : Restricts d ⟨table, none⟩ base)
    {wildcard : Option Wildcard} (narrower : ∀ w, wildcard = some w →
      ∃ v, base.wildcard = some v ∧ w.constraint.isSubsetOf v.constraint = true) :
    Restricts d ⟨table, wildcard⟩ base where
  admits {name} hn := by
    rcases hn with there | ⟨w, hw, allowed⟩
    · exact h.admits (Or.inl there)
    · obtain ⟨v, hv, subset⟩ := narrower w hw
      exact Or.inr ⟨v, hv, NamespaceConstraint.allows_of_isSubsetOf subset allowed⟩
  narrows := h.narrows
  requires := h.requires

theorem yields_restrict {s t : DerivationState} (h : Yields (restrict a owner base own) s merged t) :
    merged.Restricts s.derived base ∧ (base.attributes.Permitted → merged.attributes.Permitted) := by
  obtain ⟨_, _, hget, h⟩ := yields_bind_iff.mp h
  obtain ⟨rfl, rfl⟩ := yields_get_iff.mp hget
  extract_lets d at h
  obtain ⟨table, u, htable, h⟩ := yields_bind_iff.mp h
  obtain ⟨wildcard, u', hwildcard, h⟩ := yields_bind_iff.mp h
  obtain ⟨rfl, -⟩ := yields_pure_iff.mp h
  have folded : Inert (fun _ => True)
      (fun t => AttributeSet.Restricts d ⟨t, none⟩ base ∧
        (base.attributes.Permitted → t.Permitted))
      (own.attributes.values.foldlM (restrictAttribute a d owner base) base.attributes) := by
    refine .foldlM (fun x _ table h => ?_) ⟨.refl d base, fun h => h⟩
    exact (inert_restrictAttribute_restricts h.1).weaken (fun _ h => h)
      fun t ht => ⟨ht.1, fun p => ht.2 (h.2 p)⟩
  obtain ⟨restricts, permitted⟩ := folded.of_yields htable
  exact ⟨restricts.withWildcard (inert_restrictWildcard_isSubsetOf.of_yields hwildcard), permitted⟩

/-! ## Either of both -/

/-- What the attributes of a type owe to those of its base, by the way in which it is derived. -/
structure AttributeSet.Merges (d : DerivedTypes) (method : DerivationMethod)
    (s base : AttributeSet) : Prop where
  extends' : method = .extension → s.attributes.Extends base.attributes
  restricts : method ≠ .extension → s.Restricts d base
  permitted : base.attributes.Permitted → s.attributes.Permitted

theorem AttributeSet.Merges.mono {s : AttributeSet} {method : DerivationMethod} (below : d.Below e)
    (h : s.Merges d method base) : s.Merges e method base :=
  ⟨h.extends', fun other => (h.restricts other).mono below, h.permitted⟩

theorem AttributeSet.Merges.carries {s : AttributeSet} {method : DerivationMethod}
    (h : s.Merges d method base) : s.attributes.Carries d base.attributes := by
  by_cases extension : method = .extension
  · exact AttributeTable.Extends.carries (h.extends' extension)
  · exact (h.restricts extension).carries

theorem yields_merge {method : DerivationMethod} {s t : DerivationState}
    (h : Yields (merge a owner method base own) s merged t) :
    merged.Merges s.derived method base := by
  unfold merge at h
  split at h
  · obtain ⟨extends', permitted⟩ := inert_extend_extends.of_yields h
    exact ⟨fun _ => extends', fun other => absurd rfl other, permitted⟩
  · rename_i other
    obtain ⟨restricts, permitted⟩ := yields_restrict h
    exact ⟨fun extension => absurd extension other, fun _ => restricts, permitted⟩

end Derivation

end Xsd
