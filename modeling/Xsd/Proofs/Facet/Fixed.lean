import Xsd.Proofs.Facet.Restriction

/-!
# Fixed facets

A facet that the base fixes keeps its value at the next level. Whether it stays fixed is up to that
level: a declaration puts its own flag beside the value, so a facet keeps its value along a whole
chain of restrictions as long as no level on the way declares it again without fixing it.
-/

namespace Xsd

/-- The value of a facet, whichever it is. -/
inductive FacetValue where
  | count (n : Nat)
  | treatment (mode : WhiteSpace)
  | limit (v : OrderedValue)
deriving DecidableEq, Repr

/-- The values are the same, or equal in the order of their space. -/
def FacetValue.Same : FacetValue → FacetValue → Prop
  | .limit a, .limit b => a = b ∨ a.isEqual b = true
  | a, b => a = b

namespace FacetValue

theorem same_refl (v : FacetValue) : v.Same v := by
  cases v with
  | limit v => exact Or.inl rfl
  | _ => exact rfl

theorem Same.trans {a b c : FacetValue} (hab : a.Same b) (hbc : b.Same c) : a.Same c := by
  cases b with
  | count n =>
    have : a = .count n := by cases a <;> exact hab
    exact this ▸ hbc
  | treatment mode =>
    have : a = .treatment mode := by cases a <;> exact hab
    exact this ▸ hbc
  | limit b =>
    cases a with
    | limit a =>
      cases c with
      | limit c =>
        rcases hab with rfl | hab
        · exact hbc
        · rcases hbc with rfl | hbc
          · exact Or.inr hab
          · exact Or.inr (OrderedValue.isEqual_trans hab hbc)
      | _ => cases hbc
    | _ => cases hab

end FacetValue

/-- The same bound on a value of another form. -/
def Bound.map {α β : Type} (f : α → β) (b : Bound α) : Bound β := ⟨f b.value, b.fixed⟩

namespace FacetSet

/-- The bound that the facets set for a kind, if they set one. Lists of literals and patterns are
not bounds. -/
def bound? (fs : FacetSet) : FacetKind → Option (Bound FacetValue)
  | .length => fs.length.map (·.map .count)
  | .minLength => fs.minLength.map (·.map .count)
  | .maxLength => fs.maxLength.map (·.map .count)
  | .whiteSpace => fs.whiteSpace.map (·.map .treatment)
  | .minInclusive => fs.minInclusive.map (·.map .limit)
  | .maxInclusive => fs.maxInclusive.map (·.map .limit)
  | .minExclusive => fs.minExclusive.map (·.map .limit)
  | .maxExclusive => fs.maxExclusive.map (·.map .limit)
  | .totalDigits => fs.totalDigits.map (·.map .count)
  | .fractionDigits => fs.fractionDigits.map (·.map .count)
  | .enumeration | .pattern => none

/-- The facets with the bound of a kind set, if the value is of the form that the kind has. -/
def withBound (fs : FacetSet) (fixed : Bool) : FacetKind → FacetValue → FacetSet
  | .length, .count n => { fs with length := some ⟨n, fixed⟩ }
  | .minLength, .count n => { fs with minLength := some ⟨n, fixed⟩ }
  | .maxLength, .count n => { fs with maxLength := some ⟨n, fixed⟩ }
  | .whiteSpace, .treatment mode => { fs with whiteSpace := some ⟨mode, fixed⟩ }
  | .minInclusive, .limit v => { fs with minInclusive := some ⟨v, fixed⟩ }
  | .maxInclusive, .limit v => { fs with maxInclusive := some ⟨v, fixed⟩ }
  | .minExclusive, .limit v => { fs with minExclusive := some ⟨v, fixed⟩ }
  | .maxExclusive, .limit v => { fs with maxExclusive := some ⟨v, fixed⟩ }
  | .totalDigits, .count n => { fs with totalDigits := some ⟨n, fixed⟩ }
  | .fractionDigits, .count n => { fs with fractionDigits := some ⟨n, fixed⟩ }
  | _, _ => fs

variable {base next result : FacetSet} {space : ValueSpace} {kind : FacetKind} {fixed : Bool}

theorem bound?_withBound_of_ne (fs : FacetSet) (v : FacetValue) {other : FacetKind}
    (ne : other ≠ kind) : (fs.withBound fixed kind v).bound? other = fs.bound? other := by
  cases kind <;> cases v <;> first | rfl | (cases other <;> first | rfl | exact absurd rfl ne)

theorem keepFixed_eq_ok_iff {α : Type} {bound : Option (Bound α)} {isSame : α → Bool} :
    keepFixed bound isSame = .ok () ↔ ∀ b ∈ bound, b.fixed = true → isSame b.value = true := by
  unfold keepFixed
  cases bound with
  | none => simp
  | some b => cases hf : b.fixed <;> cases hs : isSame b.value <;> simp [hf, hs]

/-! ## One declaration -/

/-- The value keeps what the base has for the kind, if that cannot change. A length never can. -/
def KeepsFixed (base : FacetSet) (kind : FacetKind) (v : FacetValue) : Prop :=
  ∀ b ∈ base.bound? kind, b.fixed = true ∨ kind = .length → v.Same b.value

theorem keepsFixed_of_eq_ok {α : Type} {bound : Option (Bound α)} {form : α → FacetValue}
    {isSame : α → Bool} {v : α} (isBound : base.bound? kind = bound.map (·.map form))
    (same : ∀ w, isSame w = true → (form v).Same (form w)) (notLength : kind ≠ .length)
    (kept : keepFixed bound isSame = .ok ()) : base.KeepsFixed kind (form v) := by
  intro b hb
  rintro (fixed | rfl)
  · rw [isBound, Option.mem_def, Option.map_eq_some_iff] at hb
    obtain ⟨inherited, hi, rfl⟩ := hb
    exact same inherited.value (keepFixed_eq_ok_iff.mp kept inherited hi fixed)
  · exact absurd rfl notLength

/-- The bound of one kind is set, with the given flag, and no other bound. -/
structure Sets (kind : FacetKind) (fixed : Bool) (base next result : FacetSet) : Prop where
  own : ∃ v, result.bound? kind = some ⟨v, fixed⟩ ∧ base.KeepsFixed kind v
  others : ∀ other ≠ kind, result.bound? other = next.bound? other

theorem Sets.of_withBound {v : FacetValue}
    (set : (next.withBound fixed kind v).bound? kind = some ⟨v, fixed⟩)
    (kept : base.KeepsFixed kind v) : Sets kind fixed base next (next.withBound fixed kind v) where
  own := ⟨v, set, kept⟩
  others _ ne := bound?_withBound_of_ne next v ne

theorem same_of_beq {α : Type} [BEq α] [LawfulBEq α] (form : α → FacetValue) (v : α) :
    ∀ w, (w == v) = true → (form v).Same (form w) := by
  intro w hw
  rw [beq_iff_eq.mp hw]
  exact FacetValue.same_refl _

theorem applyLength_sets {n : Nat}
    (isLength : kind = .length ∨ kind = .minLength ∨ kind = .maxLength)
    (h : applyLength next base kind n fixed = .ok result) : Sets kind fixed base next result := by
  rcases isLength with rfl | rfl | rfl <;>
    simp only [applyLength, then_eq_ok_iff, require_eq_ok_iff] at h <;>
    obtain ⟨kept, required, set⟩ := h <;>
    cases set
  case inl =>
    refine .of_withBound (v := .count n) rfl fun b hb _ => ?_
    obtain ⟨inherited, hi, rfl⟩ := Option.map_eq_some_iff.mp hb
    exact same_of_beq .count n inherited.value (required inherited hi)
  all_goals
    exact .of_withBound (v := .count n) rfl
      (keepsFixed_of_eq_ok rfl (same_of_beq .count n) (by simp) kept)

theorem applyRange_sets {v : OrderedValue}
    (isRange : kind = .maxInclusive ∨ kind = .maxExclusive ∨ kind = .minInclusive ∨
      kind = .minExclusive)
    (h : applyRange next base kind v fixed = .ok result) : Sets kind fixed base next result := by
  rcases isRange with rfl | rfl | rfl | rfl <;>
    simp only [applyRange, then_eq_ok_iff] at h <;>
    obtain ⟨kept, -, -, -, -, set⟩ := h <;>
    cases set <;>
    exact .of_withBound (v := .limit v) rfl
      (keepsFixed_of_eq_ok rfl (fun _ equal => Or.inr equal) (by decide) kept)

/-- A declaration of anything but literals or patterns sets the bound of its kind. -/
theorem apply_sets {decl : FacetDecl} (h : next.apply base decl space = .ok result)
    (isBound : decl.kind ≠ .enumeration ∧ decl.kind ≠ .pattern) :
    Sets decl.kind decl.fixed base next result := by
  obtain ⟨kind, text, fixed⟩ := decl
  unfold FacetSet.apply at h
  cases kind <;> simp only at h
  case length | minLength | maxLength =>
    obtain ⟨n, -, h⟩ := bind_eq_ok_iff.mp h
    exact applyLength_sets (by simp) h
  case maxInclusive | maxExclusive | minInclusive | minExclusive =>
    split at h
    · cases h
    · split at h
      · cases h
      · exact applyRange_sets (by simp) h
  case whiteSpace =>
    split at h
    · cases h
    · rename_i mode _
      simp only [then_eq_ok_iff] at h
      obtain ⟨kept, -, set⟩ := h
      cases set
      exact .of_withBound (v := .treatment mode) rfl
        (keepsFixed_of_eq_ok rfl (same_of_beq .treatment mode) (by simp) kept)
  case totalDigits =>
    obtain ⟨n, -, h⟩ := bind_eq_ok_iff.mp h
    split at h
    · cases h
    · simp only [then_eq_ok_iff] at h
      obtain ⟨kept, -, set⟩ := h
      cases set
      exact .of_withBound (v := .count n) rfl
        (keepsFixed_of_eq_ok rfl (same_of_beq .count n) (by simp) kept)
  case fractionDigits =>
    obtain ⟨n, -, h⟩ := bind_eq_ok_iff.mp h
    simp only [then_eq_ok_iff] at h
    obtain ⟨kept, -, set⟩ := h
    cases set
    exact .of_withBound (v := .count n) rfl
      (keepsFixed_of_eq_ok rfl (same_of_beq .count n) (by simp) kept)
  case enumeration => exact absurd rfl isBound.1
  case pattern => exact absurd rfl isBound.2

/-! ## One level of declarations -/

/-- Where the bound of a kind comes from when a level of declarations has been put on a base. -/
inductive Origin (kind : FacetKind) (base : FacetSet) (decls : List FacetDecl) :
    Option (Bound FacetValue) → Prop
  | inherited : Origin kind base decls (base.bound? kind)
  | declared {decl : FacetDecl} {v : FacetValue} (mem : decl ∈ decls) (of_kind : decl.kind = kind)
      (kept : base.KeepsFixed kind v) : Origin kind base decls (some ⟨v, decl.fixed⟩)

/-- Literals and patterns are not bounds, so the bounds are those that the declarations set. -/
theorem bound?_of_restrict {decls : List FacetDecl} (h : base.restrict decls space = .ok result) :
    ∃ next, applyAll base space base [] decls = .ok next ∧
      ∀ kind, result.bound? kind = next.bound? kind := by
  obtain ⟨next, bounded⟩ := exists_bounded_of_restrict h
  obtain ⟨added, -, rfl⟩ := bounded.eq
  exact ⟨next, bounded.applied, fun kind => by cases kind <;> rfl⟩

theorem restrict_origin {decls : List FacetDecl} (h : base.restrict decls space = .ok result)
    (kind : FacetKind) : Origin kind base decls (result.bound? kind) := by
  obtain ⟨next, applied, same⟩ := bound?_of_restrict h
  rw [same]
  refine applyAll_induction (P := fun fs => Origin kind base decls (fs.bound? kind))
    applied .inherited ?_
  intro decl mem isBound _ _ set origin
  have sets := apply_sets set isBound
  by_cases hk : decl.kind = kind
  · subst hk
    obtain ⟨v, own, kept⟩ := sets.own
    exact own ▸ .declared mem rfl kept
  · exact sets.others kind (Ne.symm hk) ▸ origin

/-! ## Chains of levels -/

/-- Put levels of declarations on a base, one after the other. -/
def restrictAll (base : FacetSet) (space : ValueSpace) (levels : List (List FacetDecl)) :
    Except (FacetKind × FacetFault) FacetSet :=
  levels.foldlM (fun fs decls => fs.restrict decls space) base

/-- The facets have the bound, and nothing that is put on them can change it. -/
def Holds (kind : FacetKind) (v : FacetValue) (fs : FacetSet) : Prop :=
  ∃ b ∈ fs.bound? kind, b.value.Same v ∧ (b.fixed = true ∨ kind = .length)

/-- A level declares the facet fixed, if it declares it. -/
def LeavesFixed (kind : FacetKind) (decls : List FacetDecl) : Prop :=
  ∀ decl ∈ decls, decl.kind = kind → decl.fixed = true

instance (decls : List FacetDecl) : Decidable (LeavesFixed kind decls) :=
  inferInstanceAs (Decidable (∀ decl ∈ decls, decl.kind = kind → decl.fixed = true))

variable {v : FacetValue}

/-- What cannot change has its value at the next level. -/
theorem Holds.same {decls : List FacetDecl} (holds : Holds kind v base)
    (h : base.restrict decls space = .ok result) : ∃ b ∈ result.bound? kind, b.value.Same v := by
  obtain ⟨b, hb, same, firm⟩ := holds
  have origin := restrict_origin h kind
  generalize result.bound? kind = bound at origin
  cases origin with
  | inherited => exact ⟨b, hb, same⟩
  | declared mem of_kind kept => exact ⟨_, rfl, (kept b hb firm).trans same⟩

theorem Holds.restrict {decls : List FacetDecl} (holds : Holds kind v base)
    (leaves : kind = .length ∨ LeavesFixed kind decls)
    (h : base.restrict decls space = .ok result) : Holds kind v result := by
  obtain ⟨b, hb, same, firm⟩ := holds
  have origin := restrict_origin h kind
  unfold Holds
  generalize result.bound? kind = bound at origin
  cases origin with
  | inherited => exact ⟨b, hb, same, firm⟩
  | declared mem of_kind kept =>
    exact ⟨_, rfl, (kept b hb firm).trans same, leaves.symm.imp_left fun fixed => fixed _ mem of_kind⟩

/-- A fixed facet keeps its value along a chain of restrictions, as long as all levels before the
last one leave it fixed. -/
theorem fixed_kept {levels : List (List FacetDecl)} {b : Bound FacetValue}
    (has : base.bound? kind = some b) (fixed : b.fixed = true)
    (leaves : kind = .length ∨ ∀ decls ∈ levels.dropLast, LeavesFixed kind decls)
    (h : base.restrictAll space levels = .ok result) :
    ∃ l, result.bound? kind = some l ∧ l.value.Same b.value := by
  have holds : Holds kind b.value base := ⟨b, has, FacetValue.same_refl _, Or.inl fixed⟩
  clear has fixed
  induction levels generalizing base with
  | nil =>
    cases h
    obtain ⟨l, hl, same, -⟩ := holds
    exact ⟨l, hl, same⟩
  | cons decls rest ih =>
    obtain ⟨next, restricted, h⟩ := bind_eq_ok_iff.mp h
    cases rest with
    | nil =>
      cases h
      exact holds.same restricted
    | cons last rest =>
      rw [List.dropLast_cons_cons, List.forall_mem_cons, or_and_left] at leaves
      exact ih leaves.2 h (holds.restrict leaves.1 restricted)

/-- Ten characters at most, for good. -/
private def tenAtMost : FacetSet := { maxLength := some ⟨10, true⟩ }

/-- The last level may leave the facet open. -/
theorem fixed_kept_maxLength :
    ∃ last, tenAtMost.restrictAll .unordered
        [[⟨.maxLength, "10", true⟩], [⟨.minLength, "2", false⟩, ⟨.maxLength, "10", false⟩]] =
          .ok last ∧
      ∃ l, last.bound? .maxLength = some l ∧ l.value.Same (.count 10) := by
  have has : tenAtMost.bound? .maxLength = some ⟨.count 10, true⟩ := rfl
  obtain ⟨last, h⟩ : ∃ last, tenAtMost.restrictAll .unordered
      [[⟨.maxLength, "10", true⟩], [⟨.minLength, "2", false⟩, ⟨.maxLength, "10", false⟩]] =
        .ok last := ⟨_, rfl⟩
  exact ⟨last, h, fixed_kept has rfl (Or.inr (by decide)) h⟩

/-- A level that repeats the value of a fixed facet without fixing it lets the next one change
it. -/
theorem not_fixed_kept : ¬ ∀ (base last : FacetSet) (space : ValueSpace)
    (levels : List (List FacetDecl)) (kind : FacetKind) (b : Bound FacetValue),
      base.bound? kind = some b → b.fixed = true → base.restrictAll space levels = .ok last →
      ∃ l, last.bound? kind = some l ∧ l.value.Same b.value := by
  intro always
  have changed : ∃ last, tenAtMost.restrictAll .unordered
      [[⟨.maxLength, "10", false⟩], [⟨.maxLength, "5", false⟩]] = .ok last ∧
        last.bound? .maxLength = some ⟨.count 5, false⟩ := ⟨_, rfl, rfl⟩
  obtain ⟨last, h, five⟩ := changed
  have has : tenAtMost.bound? .maxLength = some ⟨.count 10, true⟩ := rfl
  obtain ⟨l, hl, same⟩ := always _ _ _ _ _ _ has rfl h
  cases five.symm.trans hl
  simp [FacetValue.Same] at same

end FacetSet

end Xsd
