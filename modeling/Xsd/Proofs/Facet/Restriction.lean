import Xsd.Proofs.Facet.Admission

/-!
# Restriction of facet sets

What a restriction declares narrows what it inherits, facet by facet; so a literal that the
restricted facets admit fits the inherited ones as well. Lists of literals are the exception: a
list that is declared replaces the inherited one.
-/

namespace Xsd.FacetSet

/-- An inherited bound is still there, and its new value is related to the old one. -/
def Kept {α : Type} (related : α → α → Prop) (base next : Option (Bound α)) : Prop :=
  ∀ b ∈ base, ∃ n ∈ next, related n.value b.value

theorem Kept.refl {α : Type} {related : α → α → Prop} (same : ∀ v, related v v)
    {base : Option (Bound α)} : Kept related base base := by
  intro b hb
  exact ⟨b, hb, same b.value⟩

theorem Kept.set {α : Type} {related : α → α → Prop} {base : Option (Bound α)} {v : α}
    {fixed : Bool} (h : ∀ b ∈ base, related v b.value) :
    Kept related base (some ⟨v, fixed⟩) := by
  intro b hb
  exact ⟨⟨v, fixed⟩, rfl, h b hb⟩

/-- A bound of a range stays where it is or moves inwards. Not every value is on a side of
itself. -/
def Inward (side : Ordering) (next base : OrderedValue) : Prop :=
  next = base ∨ next.OnSide side false base

theorem inward_refl {side : Ordering} (v : OrderedValue) : Inward side v v := Or.inl rfl

/-- What is on one side of a value is on that side of the values that lie further out. -/
theorem onSide_of_inward {side : Ordering} {strict : Bool} {v n b : OrderedValue}
    (h : v.OnSide side strict n) (inward : Inward side n b) : v.OnSide side strict b := by
  rcases inward with rfl | inward
  · exact h
  · exact h.trans inward

/-- No facet is looser than that of the base. -/
structure Narrows (next base : FacetSet) : Prop where
  length : Kept (· = ·) base.length next.length
  minLength : Kept (fun n b => b ≤ n) base.minLength next.minLength
  maxLength : Kept (· ≤ ·) base.maxLength next.maxLength
  whiteSpace : Kept (fun n b => compare b n ≠ .gt) base.whiteSpace next.whiteSpace
  minInclusive : Kept (Inward .gt) base.minInclusive next.minInclusive
  maxInclusive : Kept (Inward .lt) base.maxInclusive next.maxInclusive
  minExclusive : Kept (Inward .gt) base.minExclusive next.minExclusive
  maxExclusive : Kept (Inward .lt) base.maxExclusive next.maxExclusive
  totalDigits : Kept (· ≤ ·) base.totalDigits next.totalDigits
  fractionDigits : Kept (· ≤ ·) base.fractionDigits next.fractionDigits
  patterns : base.patterns ⊆ next.patterns

variable {base next result : FacetSet} {space : ValueSpace}

theorem Narrows.refl : Narrows base base where
  length := .refl fun _ => rfl
  minLength b hb := ⟨b, hb, Nat.le_refl b.value⟩
  maxLength := .refl Nat.le_refl
  whiteSpace := .refl fun mode => by cases mode <;> decide
  minInclusive := .refl inward_refl
  maxInclusive := .refl inward_refl
  minExclusive := .refl inward_refl
  maxExclusive := .refl inward_refl
  totalDigits := .refl Nat.le_refl
  fractionDigits := .refl Nat.le_refl
  patterns := List.Subset.refl _

/-! ## What narrower facets admit -/

namespace Narrows

theorem whiteSpaceMode (narrow : Narrows next base) :
    compare base.whiteSpaceMode next.whiteSpaceMode ≠ .gt := by
  unfold FacetSet.whiteSpaceMode
  cases hb : base.whiteSpace with
  | none => cases (Option.map (·.value) next.whiteSpace).getD .preserve <;> decide
  | some b =>
    obtain ⟨n, hn, h⟩ := narrow.whiteSpace b hb
    simpa [Option.mem_def.mp hn] using h

theorem fitsLength (narrow : Narrows next base) {n : Nat} (fits : next.FitsLength n) :
    base.FitsLength n := by
  constructor
  · intro b hb
    obtain ⟨b', hb', h⟩ := narrow.length b hb
    rw [fits.length b' hb', h]
  · intro b hb
    obtain ⟨b', hb', h⟩ := narrow.minLength b hb
    exact h.trans (fits.minLength b' hb')
  · intro b hb
    obtain ⟨b', hb', h⟩ := narrow.maxLength b hb
    exact (fits.maxLength b' hb').trans h

/-- A value on the right side of the new bound is on the right side of the old one. -/
theorem onSide {side : Ordering} {strict : Bool} {v : OrderedValue}
    {old new : Option (Bound OrderedValue)} (kept : Kept (Inward side) old new)
    (h : ∀ b ∈ new, v.OnSide side strict b.value) : ∀ b ∈ old, v.OnSide side strict b.value := by
  intro b hb
  obtain ⟨b', hb', inward⟩ := kept b hb
  exact onSide_of_inward (h b' hb') inward

theorem fitsRange (narrow : Narrows next base) {v : OrderedValue} (fits : next.FitsRange v) :
    base.FitsRange v where
  minInclusive := onSide narrow.minInclusive fits.minInclusive
  minExclusive := onSide narrow.minExclusive fits.minExclusive
  maxInclusive := onSide narrow.maxInclusive fits.maxInclusive
  maxExclusive := onSide narrow.maxExclusive fits.maxExclusive

theorem fitsDigits (narrow : Narrows next base) {d : Decimal} (fits : next.FitsDigits d) :
    base.FitsDigits d := by
  constructor
  · intro b hb
    obtain ⟨b', hb', h⟩ := narrow.fractionDigits b hb
    exact (fits.fractionDigits b' hb').trans h
  · intro b hb
    obtain ⟨b', hb', h⟩ := narrow.totalDigits b hb
    exact (fits.totalDigits b' hb').trans h

/-- What narrower facets admit is admitted by the base, as long as its own list has it. -/
theorem admits (narrow : Narrows next base) {value : String} {measure : Option Nat}
    (h : next.Admits value measure space)
    (listed : ∀ l ∈ base.enumeration, ∃ c ∈ l, isListed space value c = true) :
    base.Admits value measure space where
  length n hn := narrow.fitsLength (h.length n hn)
  patterns p hp := h.patterns p (narrow.patterns hp)
  enumeration := listed
  range v hv := narrow.fitsRange (h.range v hv)
  digits hs d hd := narrow.fitsDigits (h.digits hs d hd)

end Narrows

/-! ## Applying declarations -/

theorem require_eq_ok_iff {α : Type} {bound : Option (Bound α)} {holds : α → Bool}
    {fault : α → FacetFault} :
    require bound holds fault = .ok () ↔ ∀ b ∈ bound, holds b.value = true := by
  unfold require
  cases bound with
  | none => simp
  | some b => cases h : holds b.value <;> simp [h]

theorem requireSide_eq_ok_iff {v : OrderedValue} {side : Ordering} {strict : Bool}
    {bound : Option (Bound OrderedValue)} :
    requireSide v side strict bound = .ok () ↔ ∀ b ∈ bound, v.OnSide side strict b.value := by
  unfold requireSide
  cases bound with
  | none => simp
  | some b =>
    cases hc : v.compare b.value with
    | none => simp [OrderedValue.OnSide, hc]
    | some o =>
      by_cases fine : o = side ∨ o = .eq ∧ strict = false
      · simp [OrderedValue.OnSide, hc, fine]
      · simp [OrderedValue.OnSide, hc, fine]

/-! Of what is required only the inherited facet of the same kind matters for what follows. -/

theorem applyLength_spec {kind : FacetKind} {n : Nat} {fixed : Bool}
    (h : applyLength next base kind n fixed = .ok result) (narrow : Narrows next base) :
    Narrows result base ∧ result.enumeration = next.enumeration := by
  unfold applyLength at h
  split at h <;> simp only [then_eq_ok_iff, require_eq_ok_iff] at h
  · obtain ⟨-, required, set⟩ := h
    cases set
    exact ⟨{ narrow with length := .set fun b hb => (beq_iff_eq.mp (required b hb)).symm }, rfl⟩
  · obtain ⟨-, required, set⟩ := h
    cases set
    exact ⟨{ narrow with minLength := .set fun b hb => of_decide_eq_true (required b hb) }, rfl⟩
  · obtain ⟨-, required, set⟩ := h
    cases set
    exact ⟨{ narrow with maxLength := .set fun b hb => of_decide_eq_true (required b hb) }, rfl⟩

theorem applyRange_spec {kind : FacetKind} {v : OrderedValue} {fixed : Bool}
    (h : applyRange next base kind v fixed = .ok result) (narrow : Narrows next base) :
    Narrows result base ∧ result.enumeration = next.enumeration := by
  unfold applyRange at h
  split at h <;> simp only [then_eq_ok_iff, requireSide_eq_ok_iff] at h
  · obtain ⟨-, required, -, -, -, set⟩ := h
    cases set
    exact ⟨{ narrow with maxInclusive := .set fun b hb => Or.inr (required b hb) }, rfl⟩
  · obtain ⟨-, required, -, -, -, set⟩ := h
    cases set
    exact ⟨{ narrow with maxExclusive := .set fun b hb => Or.inr (required b hb) }, rfl⟩
  · obtain ⟨-, required, -, -, -, set⟩ := h
    cases set
    exact ⟨{ narrow with minInclusive := .set fun b hb => Or.inr (required b hb) }, rfl⟩
  · obtain ⟨-, required, -, -, -, set⟩ := h
    cases set
    exact ⟨{ narrow with minExclusive := .set fun b hb => Or.inr (required b hb) }, rfl⟩

theorem apply_spec {decl : FacetDecl} (h : next.apply base decl space = .ok result)
    (narrow : Narrows next base) :
    Narrows result base ∧ result.enumeration = next.enumeration := by
  unfold FacetSet.apply at h
  cases hk : decl.kind <;> simp only [hk] at h
  case length | minLength | maxLength =>
    obtain ⟨n, -, h⟩ := bind_eq_ok_iff.mp h
    exact applyLength_spec h narrow
  case maxInclusive | maxExclusive | minInclusive | minExclusive =>
    split at h
    · cases h
    · split at h
      · cases h
      · exact applyRange_spec h narrow
  case whiteSpace =>
    split at h
    · cases h
    · simp only [then_eq_ok_iff, require_eq_ok_iff, bne_iff_ne] at h
      obtain ⟨-, required, set⟩ := h
      cases set
      exact ⟨{ narrow with whiteSpace := .set required }, rfl⟩
  case totalDigits =>
    obtain ⟨n, -, h⟩ := bind_eq_ok_iff.mp h
    split at h
    · cases h
    · simp only [then_eq_ok_iff, require_eq_ok_iff, decide_eq_true_eq] at h
      obtain ⟨-, required, set⟩ := h
      cases set
      exact ⟨{ narrow with totalDigits := .set required }, rfl⟩
  case fractionDigits =>
    obtain ⟨n, -, h⟩ := bind_eq_ok_iff.mp h
    simp only [then_eq_ok_iff, require_eq_ok_iff, decide_eq_true_eq] at h
    obtain ⟨-, required, set⟩ := h
    cases set
    exact ⟨{ narrow with fractionDigits := .set required }, rfl⟩
  case enumeration | pattern =>
    cases h
    exact ⟨narrow, rfl⟩

/-- Lists of literals and patterns are passed over; any other declaration is applied, if its kind has
not been declared yet. -/
theorem applyAll_cons_iff {decl : FacetDecl} {rest : List FacetDecl} {seen : List FacetKind} :
    applyAll base space next seen (decl :: rest) = .ok result ↔
      (¬ (decl.kind ≠ .enumeration ∧ decl.kind ≠ .pattern) ∧
          applyAll base space next seen rest = .ok result) ∨
        (decl.kind ≠ .enumeration ∧ decl.kind ≠ .pattern) ∧ decl.kind ∉ seen ∧
          ∃ sofar, next.apply base decl space = .ok sofar ∧
            applyAll base space sofar (decl.kind :: seen) rest = .ok result := by
  rw [applyAll]
  split
  · rename_i lists
    have passed : ¬ (decl.kind ≠ .enumeration ∧ decl.kind ≠ .pattern) := by
      simpa [or_iff_not_imp_left] using lists
    rw [and_iff_right passed, or_iff_left fun h => passed h.1]
  · rename_i isBound
    have isBound : decl.kind ≠ .enumeration ∧ decl.kind ≠ .pattern := by simpa using isBound
    rw [or_iff_right fun h => h.1 isBound, and_iff_right isBound]
    split
    · rename_i declared
      exact iff_of_false nofun fun h => h.1 (List.contains_iff_mem.mp declared)
    · rename_i new
      rw [and_iff_right fun mem => new (List.contains_iff_mem.mpr mem)]
      split
      · rename_i refused
        simp [refused]
      · rename_i sofar applied
        simp [applied]

/-- What is kept by each declaration of a facet that holds once is kept by all of them. -/
theorem applyAll_induction {P : FacetSet → Prop} {decls : List FacetDecl} {seen : List FacetKind}
    (h : applyAll base space next seen decls = .ok result) (start : P next)
    (step : ∀ decl ∈ decls, decl.kind ≠ .enumeration ∧ decl.kind ≠ .pattern →
      ∀ {next result : FacetSet}, next.apply base decl space = .ok result → P next → P result) :
    P result := by
  induction decls generalizing next seen with
  | nil =>
    cases h
    exact start
  | cons decl rest ih =>
    obtain ⟨first, others⟩ := List.forall_mem_cons.mp step
    rcases applyAll_cons_iff.mp h with ⟨-, h⟩ | ⟨isBound, -, sofar, applied, h⟩
    · exact ih h start others
    · exact ih h (first isBound applied start) others

/-- Each declaration is measured against the base, so the bounds set before it do not matter. -/
theorem applyAll_spec {decls : List FacetDecl} {seen : List FacetKind}
    (h : applyAll base space next seen decls = .ok result) (narrow : Narrows next base) :
    Narrows result base ∧ result.enumeration = next.enumeration := by
  refine applyAll_induction (P := fun fs => Narrows fs base ∧ fs.enumeration = next.enumeration) h
    ⟨narrow, rfl⟩ ?_
  intro decl _ _ sofar result applied ⟨narrow, same⟩
  obtain ⟨narrower, kept⟩ := apply_spec applied narrow
  exact ⟨narrower, kept.trans same⟩

theorem Narrows.withEnumeration (narrow : Narrows next base) (listed : Option (List String)) :
    Narrows { next with enumeration := listed } base :=
  { narrow with }

theorem Narrows.withPatterns (narrow : Narrows next base) (added : List Pattern) :
    Narrows { next with patterns := next.patterns ++ added } base :=
  { narrow with
    patterns := fun _ h => List.mem_append_left added (narrow.patterns h) }

/-- What the bounds of a level make of the base, before the lists of literals and the patterns of
the level are put there. -/
structure Bounded (base : FacetSet) (decls : List FacetDecl) (space : ValueSpace)
    (next result : FacetSet) : Prop where
  applied : applyAll base space base [] decls = .ok next
  consistent : next.checkConsistency = .ok ()
  eq : ∃ added, (valuesOf .pattern decls = [] → added = []) ∧
    result =
      { next with
        enumeration := if (valuesOf .enumeration decls).isEmpty then next.enumeration
          else some (valuesOf .enumeration decls)
        patterns := next.patterns ++ added }

theorem exists_bounded_of_restrict {decls : List FacetDecl}
    (h : base.restrict decls space = .ok result) : ∃ next, Bounded base decls space next result := by
  obtain ⟨next, applied, h⟩ := bind_eq_ok_iff.mp h
  obtain ⟨consistent, h⟩ := then_eq_ok_iff.mp h
  refine ⟨next, applied, consistent, ?_⟩
  extract_lets listed next' sources at h
  have replaced : next' = { next with
      enumeration := if listed.isEmpty then next.enumeration else some listed } := by
    unfold next'
    split <;> rfl
  split at h
  · refine ⟨[], fun _ => rfl, ?_⟩
    rw [← Except.ok.inj h, replaced, List.append_nil]
  · rename_i some
    split at h
    · cases h
    · rename_i p _
      refine ⟨[p], fun none => absurd (List.isEmpty_iff.mpr none) some, ?_⟩
      rw [← Except.ok.inj h, replaced]

/-- A restriction narrows all facets but the list of literals; that is replaced if the declarations
have any. -/
theorem restrict_spec {decls : List FacetDecl} (h : base.restrict decls space = .ok result) :
    Narrows result base ∧
      result.enumeration =
        if (valuesOf .enumeration decls).isEmpty then base.enumeration
        else some (valuesOf .enumeration decls) := by
  obtain ⟨next, bounded⟩ := exists_bounded_of_restrict h
  obtain ⟨narrow, kept⟩ := applyAll_spec bounded.applied .refl
  obtain ⟨added, -, rfl⟩ := bounded.eq
  exact ⟨(narrow.withPatterns added).withEnumeration _, by rw [kept]⟩

end Xsd.FacetSet
