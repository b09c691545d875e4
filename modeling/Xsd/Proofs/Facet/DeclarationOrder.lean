import Xsd.Proofs.Facet.Fixed

/-!
# The order of declarations

The declarations of a level are applied one after the other, but each of them is measured against the
base alone, and sets a facet that no other one sets. So their order does not count, apart from that of
the listed literals and that of the patterns among themselves.
-/

namespace Xsd.FacetSet

variable {base next result : FacetSet} {space : ValueSpace} {kind : FacetKind} {fixed : Bool}

/-! ## One declaration -/

theorem applyLength_congr {n : Nat}
    (isLength : kind = .length ∨ kind = .minLength ∨ kind = .maxLength)
    (h : applyLength next base kind n fixed = .ok result) (other : FacetSet) :
    applyLength other base kind n fixed = .ok (other.withBound fixed kind (.count n)) := by
  rcases isLength with rfl | rfl | rfl <;>
    simp only [applyLength, then_eq_ok_iff] at h ⊢ <;>
    obtain ⟨kept, required, -⟩ := h <;>
    exact ⟨kept, required, rfl⟩

theorem applyRange_congr {v : OrderedValue}
    (isRange : kind = .maxInclusive ∨ kind = .maxExclusive ∨ kind = .minInclusive ∨
      kind = .minExclusive)
    (h : applyRange next base kind v fixed = .ok result) (other : FacetSet) :
    applyRange other base kind v fixed = .ok (other.withBound fixed kind (.limit v)) := by
  rcases isRange with rfl | rfl | rfl | rfl <;>
    simp only [applyRange, then_eq_ok_iff] at h ⊢ <;>
    obtain ⟨kept, own, exclusive, opposite, opposite', -⟩ := h <;>
    exact ⟨kept, own, exclusive, opposite, opposite', rfl⟩

/-- What a declaration sets is read off the declaration and the base. Where it can be applied, it can
be applied to any facets, and does the same to them. -/
theorem exists_withBound_of_apply {decl : FacetDecl}
    (h : next.apply base decl space = .ok result) :
    ∃ v, ∀ other : FacetSet,
      other.apply base decl space = .ok (other.withBound decl.fixed decl.kind v) := by
  obtain ⟨kind, text, fixed⟩ := decl
  unfold FacetSet.apply at h ⊢
  cases kind <;> simp only at h ⊢
  case length | minLength | maxLength =>
    obtain ⟨n, read, h⟩ := bind_eq_ok_iff.mp h
    exact ⟨.count n, fun other => bind_eq_ok_iff.mpr ⟨n, read, applyLength_congr (by simp) h other⟩⟩
  case maxInclusive | maxExclusive | minInclusive | minExclusive =>
    split at h
    · cases h
    · rename_i ordered
      simp only [if_neg ordered]
      split at h
      · cases h
      · rename_i v _
        exact ⟨.limit v, applyRange_congr (by simp) h⟩
  case whiteSpace =>
    split at h
    · cases h
    · rename_i mode _
      simp only [then_eq_ok_iff] at h ⊢
      obtain ⟨kept, required, -⟩ := h
      exact ⟨.treatment mode, fun other => ⟨kept, required, rfl⟩⟩
  case totalDigits =>
    obtain ⟨n, read, h⟩ := bind_eq_ok_iff.mp h
    split at h
    · cases h
    · rename_i positive
      simp only [then_eq_ok_iff] at h
      obtain ⟨kept, required, -⟩ := h
      refine ⟨.count n, fun other => bind_eq_ok_iff.mpr ⟨n, read, ?_⟩⟩
      rw [if_neg positive]
      simp only [then_eq_ok_iff]
      exact ⟨kept, required, rfl⟩
  case fractionDigits =>
    obtain ⟨n, read, h⟩ := bind_eq_ok_iff.mp h
    simp only [then_eq_ok_iff] at h
    obtain ⟨kept, required, -⟩ := h
    refine ⟨.count n, fun other => bind_eq_ok_iff.mpr ⟨n, read, ?_⟩⟩
    simp only [then_eq_ok_iff]
    exact ⟨kept, required, rfl⟩
  case enumeration | pattern => exact ⟨.count 0, fun _ => rfl⟩

theorem withBound_comm (fs : FacetSet) {other : FacetKind} (ne : kind ≠ other) (f g : Bool)
    (v w : FacetValue) :
    (fs.withBound f kind v).withBound g other w = (fs.withBound g other w).withBound f kind v := by
  cases kind <;> cases v <;> first
    | rfl
    | cases other <;> first
      | exact absurd rfl ne
      | cases w <;> rfl

/-- Two declarations of different kinds can be applied in either order. -/
theorem exists_apply_comm {first second : FacetDecl} (ne : first.kind ≠ second.kind)
    {sofar : FacetSet} (h : next.apply base first space = .ok sofar)
    (h' : sofar.apply base second space = .ok result) :
    ∃ sofar', next.apply base second space = .ok sofar' ∧
      sofar'.apply base first space = .ok result := by
  obtain ⟨v, sets⟩ := exists_withBound_of_apply h
  obtain ⟨w, sets'⟩ := exists_withBound_of_apply h'
  cases h.symm.trans (sets next)
  refine ⟨_, sets' next, ?_⟩
  rw [sets, ← h', sets', withBound_comm next ne]

/-! ## All declarations -/

variable {decls others : List FacetDecl}

/-- Which kinds have been declared counts, not in which order. -/
theorem applyAll_congr {seen seen' : List FacetKind} (same : ∀ k, k ∈ seen ↔ k ∈ seen')
    (h : applyAll base space next seen decls = .ok result) :
    applyAll base space next seen' decls = .ok result := by
  induction decls generalizing next seen seen' with
  | nil => exact h
  | cons decl rest ih =>
    rcases applyAll_cons_iff.mp h with ⟨lists, h⟩ | ⟨isBound, new, sofar, set, h⟩
    · exact applyAll_cons_iff.mpr (Or.inl ⟨lists, ih same h⟩)
    · have further : ∀ k, k ∈ decl.kind :: seen ↔ k ∈ decl.kind :: seen' := by
        intro k
        rw [List.mem_cons, List.mem_cons, same]
      exact applyAll_cons_iff.mpr
        (Or.inr ⟨isBound, (same _).not.mp new, sofar, set, ih further h⟩)

/-- By induction on the permutation: two neighbours that both set a facet are of different kinds, so
they can change places. -/
theorem applyAll_perm (perm : decls.Perm others) {seen : List FacetKind}
    (h : applyAll base space next seen decls = .ok result) :
    applyAll base space next seen others = .ok result := by
  induction perm generalizing next seen with
  | nil => exact h
  | cons decl _ ih =>
    rcases applyAll_cons_iff.mp h with ⟨lists, h⟩ | ⟨isBound, new, sofar, set, h⟩
    · exact applyAll_cons_iff.mpr (Or.inl ⟨lists, ih h⟩)
    · exact applyAll_cons_iff.mpr (Or.inr ⟨isBound, new, sofar, set, ih h⟩)
  | swap second first rest =>
    rcases applyAll_cons_iff.mp h with ⟨lists, h⟩ | ⟨isBound, new, sofar, set, h⟩
    · rcases applyAll_cons_iff.mp h with ⟨lists', h⟩ | ⟨isBound', new', sofar', set', h⟩
      · exact applyAll_cons_iff.mpr (Or.inl ⟨lists', applyAll_cons_iff.mpr (Or.inl ⟨lists, h⟩)⟩)
      · exact applyAll_cons_iff.mpr (Or.inr ⟨isBound', new', sofar', set',
          applyAll_cons_iff.mpr (Or.inl ⟨lists, h⟩)⟩)
    · rcases applyAll_cons_iff.mp h with ⟨lists', h⟩ | ⟨isBound', new', sofar', set', h⟩
      · exact applyAll_cons_iff.mpr (Or.inl ⟨lists', applyAll_cons_iff.mpr
          (Or.inr ⟨isBound, new, sofar, set, h⟩)⟩)
      · obtain ⟨ne, unseen⟩ := not_or.mp (mt List.mem_cons.mpr new')
        obtain ⟨between, set₁, set₂⟩ := exists_apply_comm (Ne.symm ne) set set'
        refine applyAll_cons_iff.mpr (Or.inr ⟨isBound', unseen, between, set₁,
          applyAll_cons_iff.mpr (Or.inr ⟨isBound, ?_, sofar', set₂, applyAll_congr ?_ h⟩)⟩)
        · exact mt List.mem_cons.mp (not_or.mpr ⟨Ne.symm ne, new⟩)
        · exact fun k => (List.Perm.swap ..).mem_iff
  | trans _ _ ih ih' => exact ih' (ih h)

theorem restrict_of_perm (perm : decls.Perm others)
    (listed : valuesOf .enumeration decls = valuesOf .enumeration others)
    (patterns : valuesOf .pattern decls = valuesOf .pattern others)
    (h : base.restrict decls space = .ok result) : base.restrict others space = .ok result := by
  obtain ⟨next, applied, h⟩ := bind_eq_ok_iff.mp h
  rw [listed, patterns] at h
  exact bind_eq_ok_iff.mpr ⟨next, applyAll_perm perm applied, h⟩

/-- A level of declarations in another order can be put on the same facets, and makes the same of
them, as long as the literals that it lists and its patterns keep their order. -/
theorem restrict_perm (base : FacetSet) (space : ValueSpace) (perm : decls.Perm others)
    (listed : valuesOf .enumeration decls = valuesOf .enumeration others)
    (patterns : valuesOf .pattern decls = valuesOf .pattern others) :
    (base.restrict decls space).toOption = (base.restrict others space).toOption := by
  ext fs
  rw [toOption_eq_some_iff, toOption_eq_some_iff]
  exact ⟨restrict_of_perm perm listed patterns,
    restrict_of_perm perm.symm listed.symm patterns.symm⟩

/-- Dozens up to fifty, and the same facets in another order. -/
private def dozens : List FacetDecl :=
  [⟨.enumeration, "12", false⟩, ⟨.maxInclusive, "50", true⟩, ⟨.pattern, "[0-9]+", false⟩,
   ⟨.enumeration, "24", false⟩, ⟨.fractionDigits, "0", false⟩]

private def dozensAgain : List FacetDecl :=
  [⟨.fractionDigits, "0", false⟩, ⟨.enumeration, "12", false⟩, ⟨.enumeration, "24", false⟩,
   ⟨.pattern, "[0-9]+", false⟩, ⟨.maxInclusive, "50", true⟩]

theorem restrict_perm_dozens :
    dozens.Perm dozensAgain ∧ valuesOf .enumeration dozens = valuesOf .enumeration dozensAgain ∧
      valuesOf .pattern dozens = valuesOf .pattern dozensAgain ∧
      (empty.restrict dozens .decimal).isOk = true ∧
      (empty.restrict dozens .decimal).toOption = (empty.restrict dozensAgain .decimal).toOption := by
  have perm : dozens.Perm dozensAgain := by decide
  have listed : valuesOf .enumeration dozens = valuesOf .enumeration dozensAgain := by decide
  have patterns : valuesOf .pattern dozens = valuesOf .pattern dozensAgain := by decide
  exact ⟨perm, listed, patterns, by cbv, restrict_perm empty .decimal perm listed patterns⟩

end Xsd.FacetSet
