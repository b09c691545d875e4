import Xsd.Proofs.Facet.Fixed

/-!
# Chains of restrictions

Along a chain of restrictions that list no literals less and less is let through, and facets that
count agree with each other at every level. The bounds of a range are compared with those of the
levels before; of the bounds that one level declares together, only two inclusive ones are. So the
range of a chain is in order exactly if every level with an exclusive bound puts its own bounds in
order.
-/

namespace Xsd

namespace FacetSet

variable {base next result : FacetSet} {space : ValueSpace} {decls : List FacetDecl}
  {levels : List (List FacetDecl)}

/-- What every restriction of a chain keeps is kept by the chain. -/
theorem restrictAll_induction {P : FacetSet → Prop} (h : base.restrictAll space levels = .ok result)
    (start : P base)
    (step : ∀ decls ∈ levels, ∀ {base next : FacetSet}, base.restrict decls space = .ok next →
      P base → P next) : P result := by
  induction levels generalizing base with
  | nil =>
    cases h
    exact start
  | cons decls rest ih =>
    obtain ⟨next, restricted, h⟩ := bind_eq_ok_iff.mp h
    obtain ⟨first, others⟩ := List.forall_mem_cons.mp step
    exact ih h (first restricted start) others

/-- Every level of a chain restricts some facets. -/
theorem exists_restrict_of_mem (h : base.restrictAll space levels = .ok result)
    (mem : decls ∈ levels) : ∃ base next : FacetSet, base.restrict decls space = .ok next := by
  induction levels generalizing base with
  | nil => cases mem
  | cons first rest ih =>
    obtain ⟨next, restricted, h⟩ := bind_eq_ok_iff.mp h
    rcases List.mem_cons.mp mem with rfl | mem
    · exact ⟨base, next, restricted⟩
    · exact ih h mem

/-! ## What is let through -/

theorem valuesOf_eq_nil {kind : FacetKind} (none : ∀ decl ∈ decls, decl.kind ≠ kind) :
    valuesOf kind decls = [] := by
  rw [valuesOf, List.map_eq_nil_iff, List.filter_eq_nil_iff]
  intro decl mem same
  exact none decl mem (beq_iff_eq.mp same)

/-- Without new literals the list of the base stays in force, so all facets do. -/
theorem check_of_restrict (unlisted : ∀ decl ∈ decls, decl.kind ≠ .enumeration)
    (h : base.restrict decls space = .ok next) {value : String} {measure : Option Nat}
    (checked : next.check value measure space = .ok ()) :
    base.check value measure space = .ok () := by
  obtain ⟨narrow, listed⟩ := restrict_spec h
  rw [valuesOf_eq_nil unlisted, List.isEmpty_nil, if_pos rfl] at listed
  have admitted := check_eq_ok_iff.mp checked
  exact check_eq_ok_iff.mpr (narrow.admits admitted (listed ▸ admitted.enumeration))

/-- A restriction that lists no literals lets through only what the base does, and so does a chain
of them. -/
theorem check_antitone (base : FacetSet) (space : ValueSpace) :
    (∀ decls next, (∀ decl ∈ decls, decl.kind ≠ .enumeration) →
      base.restrict decls space = .ok next →
        ∀ value measure, next.check value measure space = .ok () →
          base.check value measure space = .ok ()) ∧
    ∀ levels last, (∀ decls ∈ levels, ∀ decl ∈ decls, decl.kind ≠ .enumeration) →
      base.restrictAll space levels = .ok last →
        ∀ value measure, last.check value measure space = .ok () →
          base.check value measure space = .ok () := by
  constructor
  · intro decls next unlisted h value measure checked
    exact check_of_restrict unlisted h checked
  · intro levels last unlisted h value measure
    refine restrictAll_induction
      (P := fun fs => fs.check value measure space = .ok () →
        base.check value measure space = .ok ()) h id ?_
    intro decls mem fs next restricted earlier checked
    exact earlier (check_of_restrict (unlisted decls mem) restricted checked)

/-- Numbers up to a hundred, and two levels that bound them further. -/
private def atMostHundred : FacetSet :=
  { maxInclusive := some ⟨.decimal ⟨false, 100, 0⟩, false⟩ }

private def atMostFifty : List (List FacetDecl) :=
  [[⟨.maxInclusive, "50", false⟩], [⟨.minExclusive, "0", false⟩, ⟨.fractionDigits, "1", false⟩]]

theorem check_antitone_atMostFifty :
    ∃ last, atMostHundred.restrictAll .decimal atMostFifty = .ok last ∧
      last.check "42.5" none .decimal = .ok () ∧
      atMostHundred.check "42.5" none .decimal = .ok () := by
  obtain ⟨last, h, checked⟩ : ∃ last, atMostHundred.restrictAll .decimal atMostFifty = .ok last ∧
      last.check "42.5" none .decimal = .ok () := ⟨_, rfl, by decide +kernel⟩
  exact ⟨last, h, checked, (check_antitone atMostHundred .decimal).2 _ _ (by decide) h _ _ checked⟩

/-! ## What a level declares -/

theorem bound?_of_undeclared {kind : FacetKind} (h : base.restrict decls space = .ok result)
    (undeclared : ∀ decl ∈ decls, decl.kind ≠ kind) : result.bound? kind = base.bound? kind := by
  obtain ⟨next, applied, same⟩ := bound?_of_restrict h
  rw [same]
  refine applyAll_induction (P := fun fs => fs.bound? kind = base.bound? kind) applied rfl ?_
  intro decl mem isBound _ _ set kept
  exact ((apply_sets set isBound).others kind (undeclared decl mem).symm).trans kept

/-- A facet that has been declared is not declared again. -/
theorem bound?_of_seen {seen : List FacetKind} {kind : FacetKind}
    (h : applyAll base space next seen decls = .ok result) (declared : kind ∈ seen) :
    result.bound? kind = next.bound? kind := by
  induction decls generalizing next seen with
  | nil =>
    cases h
    rfl
  | cons decl rest ih =>
    rcases applyAll_cons_iff.mp h with ⟨-, h⟩ | ⟨isBound, new, sofar, set, h⟩
    · exact ih h declared
    · have ne : kind ≠ decl.kind := by
        rintro rfl
        exact new declared
      rw [ih h (List.mem_cons_of_mem _ declared)]
      exact (apply_sets set isBound).others kind ne

/-- What a declaration has set is left as it is by those after it. -/
theorem exists_apply_of_applyAll {seen : List FacetKind} {decl : FacetDecl}
    (h : applyAll base space next seen decls = .ok result) (mem : decl ∈ decls)
    (isBound : decl.kind ≠ .enumeration ∧ decl.kind ≠ .pattern) :
    ∃ before after : FacetSet, before.apply base decl space = .ok after ∧
      result.bound? decl.kind = after.bound? decl.kind := by
  induction decls generalizing next seen with
  | nil => cases mem
  | cons first rest ih =>
    rcases applyAll_cons_iff.mp h with ⟨lists, h⟩ | ⟨-, -, sofar, set, h⟩
    · rcases List.mem_cons.mp mem with rfl | mem
      · exact absurd isBound lists
      · exact ih h mem
    · rcases List.mem_cons.mp mem with rfl | mem
      · exact ⟨next, sofar, set, bound?_of_seen h List.mem_cons_self⟩
      · exact ih h mem

/-! ## The ends of a range -/

/-- A range has a lower and an upper end. -/
inductive RangeEnd where
  | lower
  | upper
deriving DecidableEq, Repr

namespace RangeEnd

def opposite : RangeEnd → RangeEnd
  | .lower => .upper
  | .upper => .lower

/-- The side of the bounds of the opposite end on which the bounds of this end lie. -/
def side : RangeEnd → Ordering
  | .lower => .lt
  | .upper => .gt

/-- The facet that bounds a range at an end, exclusive or not. -/
def kind : RangeEnd → Bool → FacetKind
  | .lower, false => .minInclusive
  | .lower, true => .minExclusive
  | .upper, false => .maxInclusive
  | .upper, true => .maxExclusive

theorem kind_isBound (e : RangeEnd) (x : Bool) :
    e.kind x ≠ .enumeration ∧ e.kind x ≠ .pattern := by
  cases e <;> cases x <;> decide

end RangeEnd

/-- The bound that is in force at an end of the range, exclusive or not. -/
def limit (fs : FacetSet) : RangeEnd → Bool → Option (Bound OrderedValue)
  | .lower, false => fs.minInclusive
  | .lower, true => fs.minExclusive
  | .upper, false => fs.maxInclusive
  | .upper, true => fs.maxExclusive

variable {e : RangeEnd} {x y : Bool}

theorem limit_eq_of_bound?_eq {fs other : FacetSet}
    (same : fs.bound? (e.kind x) = other.bound? (e.kind x)) : fs.limit e x = other.limit e x := by
  have inj : Function.Injective (Option.map (Bound.map FacetValue.limit)) := by
    refine Option.map_injective fun a b h => ?_
    cases a
    cases b
    simpa [Bound.map] using h
  cases e <;> cases x <;> exact inj same

/-- A bound of a range lies within the inherited one of the opposite end, properly so if one of the
two is exclusive. -/
theorem limit_of_applyRange {v : OrderedValue} {fixed : Bool}
    (h : applyRange next base (e.kind x) v fixed = .ok result) :
    result.limit e x = some ⟨v, fixed⟩ ∧
      ∀ y, ∀ b ∈ base.limit e.opposite y, v.OnSide e.side (x || y) b.value := by
  cases e <;> cases x <;>
    simp only [RangeEnd.kind, applyRange, then_eq_ok_iff, requireSide_eq_ok_iff] at h <;>
    obtain ⟨-, -, -, inclusive, exclusive, set⟩ := h <;>
    cases set <;>
    exact ⟨rfl, Bool.rec inclusive exclusive⟩

/-- The values by which a level bounds the range at an end. -/
def declaredLimits (space : ValueSpace) (decls : List FacetDecl) (e : RangeEnd) (x : Bool) :
    List OrderedValue :=
  (valuesOf (e.kind x) decls).filterMap fun text => space.parse (Text.trim text)

theorem mem_declaredLimits {v : OrderedValue} : v ∈ declaredLimits space decls e x ↔
    ∃ decl ∈ decls, decl.kind = e.kind x ∧ space.parse (Text.trim decl.value) = some v := by
  simp [declaredLimits, valuesOf, and_assoc]

/-- A bound of a range is declared by a literal that has a value. -/
theorem applyRange_of_apply {text : String} {fixed : Bool}
    (h : next.apply base ⟨e.kind x, text, fixed⟩ space = .ok result) :
    ∃ v, space.parse (Text.trim text) = some v ∧
      applyRange next base (e.kind x) v fixed = .ok result := by
  unfold FacetSet.apply at h
  cases e <;> cases x <;> simp only [RangeEnd.kind] at h ⊢
  all_goals
    split at h
    · cases h
    · split at h
      · cases h
      · exact ⟨_, ‹_›, h⟩

/-- A level sets the bounds that it declares, within the range of the base. -/
theorem limit_of_declared {decl : FacetDecl} (h : base.restrict decls space = .ok result)
    (mem : decl ∈ decls) (of_kind : decl.kind = e.kind x) :
    ∃ v, space.parse (Text.trim decl.value) = some v ∧
      result.limit e x = some ⟨v, decl.fixed⟩ ∧
      ∀ y, ∀ b ∈ base.limit e.opposite y, v.OnSide e.side (x || y) b.value := by
  obtain ⟨next, applied, same⟩ := bound?_of_restrict h
  obtain ⟨before, after, set, last⟩ :=
    exists_apply_of_applyAll applied mem (of_kind ▸ e.kind_isBound x)
  rw [← same, of_kind] at last
  obtain ⟨kind, text, fixed⟩ := decl
  cases of_kind
  obtain ⟨v, parsed, ranged⟩ := applyRange_of_apply set
  obtain ⟨own, within⟩ := limit_of_applyRange ranged
  exact ⟨v, parsed, (limit_eq_of_bound?_eq last).trans own, within⟩

/-- A bound that is in force comes from the base, or the level declares it. -/
theorem limit_cases (h : base.restrict decls space = .ok result) {b : Bound OrderedValue}
    (hb : b ∈ result.limit e x) :
    b ∈ base.limit e x ∨ b.value ∈ declaredLimits space decls e x ∧
      ∀ y, ∀ o ∈ base.limit e.opposite y, b.value.OnSide e.side (x || y) o.value := by
  by_cases undeclared : ∀ decl ∈ decls, decl.kind ≠ e.kind x
  · exact Or.inl (limit_eq_of_bound?_eq (bound?_of_undeclared h undeclared) ▸ hb)
  · push Not at undeclared
    obtain ⟨decl, mem, of_kind⟩ := undeclared
    obtain ⟨v, parsed, own, within⟩ := limit_of_declared h mem of_kind
    cases own.symm.trans hb
    exact Or.inr ⟨mem_declaredLimits.mpr ⟨decl, mem, of_kind, parsed⟩, within⟩

/-- All values that a level declares for a bound are the one that it sets. -/
theorem limit_of_mem_declaredLimits (h : base.restrict decls space = .ok result)
    {v : OrderedValue} (hv : v ∈ declaredLimits space decls e x) :
    ∃ b ∈ result.limit e x, b.value = v := by
  obtain ⟨decl, mem, of_kind, parsed⟩ := mem_declaredLimits.mp hv
  obtain ⟨w, parsed', own, -⟩ := limit_of_declared h mem of_kind
  cases parsed.symm.trans parsed'
  exact ⟨_, own, rfl⟩

theorem limit_narrows (h : base.restrict decls space = .ok result) :
    Kept (Inward e.opposite.side) (base.limit e x) (result.limit e x) := by
  obtain ⟨narrow, -⟩ := restrict_spec h
  cases e <;> cases x
  · exact narrow.minInclusive
  · exact narrow.minExclusive
  · exact narrow.maxInclusive
  · exact narrow.maxExclusive

/-! ## The order of the two ends -/

/-- The bounds of the given forms at the two ends are in order: nothing lies between equal bounds of
which just one is exclusive. -/
def EndsInOrder (fs : FacetSet) (x y : Bool) : Prop :=
  ∀ l ∈ fs.limit .lower x, ∀ u ∈ fs.limit .upper y, l.value.OnSide .lt (x != y) u.value

/-- The bounds of the given forms that a level declares at the two ends are in order. -/
def OrdersEnds (space : ValueSpace) (decls : List FacetDecl) (x y : Bool) : Prop :=
  ∀ l ∈ declaredLimits space decls .lower x, ∀ u ∈ declaredLimits space decls .upper y,
    l.OnSide .lt (x != y) u

instance : Decidable (OrdersEnds space decls x y) :=
  inferInstanceAs (Decidable (∀ l ∈ declaredLimits space decls .lower x,
    ∀ u ∈ declaredLimits space decls .upper y, l.OnSide .lt (x != y) u))

/-- Narrower ends that are in order keep apart the ends that they come from. -/
theorem onSide_of_inward_both {strict : Bool} {l n u m : OrderedValue}
    (h : n.OnSide .lt strict m) (lower : Inward .gt n l) (upper : Inward .lt m u) :
    l.OnSide .lt strict u :=
  onSide_of_inward (onSide_of_inward h.swap lower).swap upper

/-- One level: its bounds are in order with those of the base, so the two ends are in order as far
as those of the base are and those that it declares. -/
theorem endsInOrder_restrict_iff (h : base.restrict decls space = .ok result) :
    result.EndsInOrder x y ↔ base.EndsInOrder x y ∧ OrdersEnds space decls x y := by
  have lax : (x != y) = true → (x || y) = true := by cases x <;> cases y <;> simp
  constructor
  · intro ordered
    constructor
    · intro l hl u hu
      obtain ⟨n, hn, lower⟩ := limit_narrows h l hl
      obtain ⟨m, hm, upper⟩ := limit_narrows h u hu
      exact onSide_of_inward_both (ordered n hn m hm) lower upper
    · intro l hl u hu
      obtain ⟨b, hb, rfl⟩ := limit_of_mem_declaredLimits h hl
      obtain ⟨c, hc, rfl⟩ := limit_of_mem_declaredLimits h hu
      exact ordered b hb c hc
  · rintro ⟨inherited, declared⟩ l hl u hu
    -- a new bound has been compared with the old ones of the other end, but not with new ones
    rcases limit_cases h hl with oldLower | ⟨newLower, belowUpper⟩
    · rcases limit_cases h hu with oldUpper | ⟨-, aboveLower⟩
      · exact inherited l oldLower u oldUpper
      · exact (aboveLower x l oldLower).swap.weaken (by rwa [Bool.or_comm])
    · rcases limit_cases h hu with oldUpper | ⟨newUpper, -⟩
      · exact (belowUpper y u oldUpper).weaken lax
      · exact declared l.value newLower u.value newUpper

/-- A chain of levels. -/
theorem endsInOrder_restrictAll_iff (h : base.restrictAll space levels = .ok result) :
    result.EndsInOrder x y ↔
      base.EndsInOrder x y ∧ ∀ decls ∈ levels, OrdersEnds space decls x y := by
  induction levels generalizing base with
  | nil =>
    cases h
    simp
  | cons decls rest ih =>
    obtain ⟨next, restricted, h⟩ := bind_eq_ok_iff.mp h
    rw [ih h, endsInOrder_restrict_iff restricted, List.forall_mem_cons, and_assoc]

/-! ## Facets that are consistent -/

/-- The facets that count leave something between them. -/
@[mk_iff]
structure CountsAgree (fs : FacetSet) : Prop where
  minLength_le_maxLength : ∀ m ∈ fs.minLength, ∀ n ∈ fs.maxLength, m.value ≤ n.value
  minLength_le_length : ∀ m ∈ fs.minLength, ∀ n ∈ fs.length, m.value ≤ n.value
  length_le_maxLength : ∀ n ∈ fs.length, ∀ m ∈ fs.maxLength, n.value ≤ m.value
  fractionDigits_le_totalDigits : ∀ n ∈ fs.totalDigits, ∀ m ∈ fs.fractionDigits, m.value ≤ n.value

/-- The bounds of the range are in order, whichever of them are exclusive. -/
structure RangeInOrder (fs : FacetSet) : Prop where
  minInclusive_le_maxInclusive :
    ∀ l ∈ fs.minInclusive, ∀ u ∈ fs.maxInclusive, l.value.OnSide .lt false u.value
  minInclusive_lt_maxExclusive :
    ∀ l ∈ fs.minInclusive, ∀ u ∈ fs.maxExclusive, l.value.OnSide .lt true u.value
  minExclusive_lt_maxInclusive :
    ∀ l ∈ fs.minExclusive, ∀ u ∈ fs.maxInclusive, l.value.OnSide .lt true u.value
  minExclusive_le_maxExclusive :
    ∀ l ∈ fs.minExclusive, ∀ u ∈ fs.maxExclusive, l.value.OnSide .lt false u.value

/-- All facets that limit a value leave something between them. -/
structure Consistent (fs : FacetSet) : Prop extends CountsAgree fs, RangeInOrder fs

/-- The level puts the bounds that it declares for the two ends in order, if one of them is
exclusive. -/
def OrdersRange (space : ValueSpace) (decls : List FacetDecl) : Prop :=
  ∀ x y, (x || y) = true → OrdersEnds space decls x y

instance : Decidable (OrdersRange space decls) :=
  inferInstanceAs (Decidable (∀ x y, (x || y) = true → OrdersEnds space decls x y))

theorem rangeInOrder_iff {fs : FacetSet} : fs.RangeInOrder ↔ ∀ x y, fs.EndsInOrder x y := by
  constructor
  · intro ordered x y
    cases x <;> cases y
    · exact ordered.minInclusive_le_maxInclusive
    · exact ordered.minInclusive_lt_maxExclusive
    · exact ordered.minExclusive_lt_maxInclusive
    · exact ordered.minExclusive_le_maxExclusive
  · intro ordered
    exact ⟨ordered false false, ordered false true, ordered true false, ordered true true⟩

theorem consistent_eq_true_iff {α : Type} {a b : Option (Bound α)} {conflict : α → α → Bool} :
    consistent a b conflict = true ↔ ∀ m ∈ a, ∀ n ∈ b, conflict m.value n.value = false := by
  cases a <;> cases b <;> simp [consistent]

theorem error_or_eq_ok_iff {ε β : Type} {faulty : Prop} [Decidable faulty] {fault : ε}
    {rest : Except ε β} {b : β} :
    (if faulty then .error fault else rest) = .ok b ↔ ¬ faulty ∧ rest = .ok b := by
  by_cases h : faulty <;> simp [h]

theorem error_then {ε α β : Type} {fault : ε} {rest : α → Except ε β} :
    (.error fault >>= rest) = .error fault := rfl

/-- Of the bounds of the range only the inclusive ones are looked at. -/
theorem checkConsistency_eq_ok_iff {fs : FacetSet} : fs.checkConsistency = .ok () ↔
    fs.CountsAgree ∧
      ∀ l ∈ fs.minInclusive, ∀ u ∈ fs.maxInclusive, l.value.compare u.value ≠ some .gt := by
  rw [countsAgree_iff, checkConsistency]
  cases fs.minLength <;> cases fs.maxLength <;> cases fs.minInclusive <;> cases fs.maxInclusive <;>
    simp only [error_then, then_eq_ok_iff, error_or_eq_ok_iff, pure_eq_ok_iff, Bool.not_eq_true',
      Bool.not_eq_false, Bool.and_eq_true, consistent_eq_true_iff, decide_eq_false_iff_not,
      beq_iff_eq, Nat.not_lt, Option.mem_def, reduceCtorEq, Option.some.injEq, forall_eq',
      false_imp_iff, implies_true, true_and, and_true, and_assoc, ne_eq]

/-- Each level leaves counts that agree. -/
theorem countsAgree_of_restrict (h : base.restrict decls space = .ok result) :
    result.CountsAgree := by
  obtain ⟨next, bounded⟩ := exists_bounded_of_restrict h
  obtain ⟨counts, -⟩ := checkConsistency_eq_ok_iff.mp bounded.consistent
  obtain ⟨added, -, rfl⟩ := bounded.eq
  exact { counts with }

/-- The values of all spaces but that of binary numbers compare with each other. -/
theorem compare_of_parse (total : space ≠ .float) {s t : String} {a b : OrderedValue}
    (ha : space.parse s = some a) (hb : space.parse t = some b) : ∃ o, a.compare b = some o := by
  cases space with
  | float => exact absurd rfl total
  | unordered => cases ha
  | dateTime =>
    simp only [ValueSpace.parse, Option.bind_eq_some_iff, Option.map_eq_some_iff] at ha hb
    obtain ⟨-, -, a, -, rfl⟩ := ha
    obtain ⟨-, -, b, -, rfl⟩ := hb
    exact ⟨_, rfl⟩
  | _ =>
    simp only [ValueSpace.parse, Option.map_eq_some_iff] at ha hb
    obtain ⟨a, -, rfl⟩ := ha
    obtain ⟨b, -, rfl⟩ := hb
    exact ⟨_, rfl⟩

/-- Two inclusive bounds of one level are compared at its end. -/
theorem ordersEnds_inclusive (total : space ≠ .float)
    (h : base.restrict decls space = .ok result) : OrdersEnds space decls false false := by
  intro l hl u hu
  obtain ⟨next, bounded⟩ := exists_bounded_of_restrict h
  obtain ⟨-, notAbove⟩ := checkConsistency_eq_ok_iff.mp bounded.consistent
  obtain ⟨d, -, -, lower⟩ := mem_declaredLimits.mp hl
  obtain ⟨e, -, -, upper⟩ := mem_declaredLimits.mp hu
  obtain ⟨o, compared⟩ := compare_of_parse total lower upper
  obtain ⟨b, hb, rfl⟩ := limit_of_mem_declaredLimits h hl
  obtain ⟨c, hc, rfl⟩ := limit_of_mem_declaredLimits h hu
  obtain ⟨added, -, rfl⟩ := bounded.eq
  refine ⟨o, compared, ?_⟩
  cases o with
  | lt => exact Or.inl rfl
  | eq => exact Or.inr ⟨rfl, rfl⟩
  | gt => exact absurd compared (notAbove b hb c hc)

/-- Where values compare, the facets that a chain of restrictions makes of no facets agree in what
they count, and two inclusive bounds are in order; all of them are consistent exactly if every level
orders the bounds that it declares together. -/
theorem consistent_of_restrictAll (total : space ≠ .float) {fs : FacetSet}
    (h : empty.restrictAll space levels = .ok fs) :
    fs.CountsAgree ∧
      (∀ l ∈ fs.minInclusive, ∀ u ∈ fs.maxInclusive, l.value.OnSide .lt false u.value) ∧
      (fs.Consistent ↔ ∀ decls ∈ levels, OrdersRange space decls) := by
  have counts : fs.CountsAgree := by
    refine restrictAll_induction h ?_ fun decls _ {_ _} restricted _ =>
      countsAgree_of_restrict restricted
    constructor <;> simp [empty]
  have noEnds : ∀ x y, empty.EndsInOrder x y := by
    intro x y l hl
    cases x <;> cases hl
  have ends : ∀ x y, fs.EndsInOrder x y ↔ ∀ decls ∈ levels, OrdersEnds space decls x y := by
    intro x y
    rw [endsInOrder_restrictAll_iff h, and_iff_right (noEnds x y)]
  have inclusive : ∀ decls ∈ levels, OrdersEnds space decls false false := by
    intro decls mem
    obtain ⟨base, next, restricted⟩ := exists_restrict_of_mem h mem
    exact ordersEnds_inclusive total restricted
  refine ⟨counts, (ends false false).mpr inclusive, ?_⟩
  constructor
  · intro consistent decls mem x y _
    exact (ends x y).mp (rangeInOrder_iff.mp consistent.toRangeInOrder x y) decls mem
  · intro ordered
    refine ⟨counts, rangeInOrder_iff.mpr fun x y => (ends x y).mpr fun decls mem => ?_⟩
    by_cases exclusive : (x || y) = true
    · exact ordered decls mem x y exclusive
    · obtain ⟨rfl, rfl⟩ : x = false ∧ y = false := by simpa using exclusive
      exact inclusive decls mem

/-- A level with an exclusive bound, and one that declares within it what makes the range closed. -/
private def belowFifty : List (List FacetDecl) :=
  [[⟨.minInclusive, "0", false⟩, ⟨.maxExclusive, "50", false⟩],
   [⟨.minInclusive, "5", false⟩, ⟨.maxInclusive, "20", false⟩]]

theorem consistent_belowFifty :
    ∃ fs, empty.restrictAll .decimal belowFifty = .ok fs ∧ fs.Consistent := by
  obtain ⟨fs, h⟩ : ∃ fs, empty.restrictAll .decimal belowFifty = .ok fs := ⟨_, rfl⟩
  have ordered : ∀ decls ∈ belowFifty, OrdersRange .decimal decls := by decide +kernel
  exact ⟨fs, h, (consistent_of_restrictAll (by decide) h).2.2.mpr ordered⟩

/-- Exclusive bounds that one level declares together are not compared: nothing is above ten and
below five. -/
theorem not_consistent_of_restrictAll : ¬ ∀ (space : ValueSpace) (levels : List (List FacetDecl))
    (fs : FacetSet), space = .decimal ∨ space = .dateTime ∨ space = .date ∨ space = .time →
      empty.restrictAll space levels = .ok fs → fs.Consistent := by
  intro always
  obtain ⟨fs, h, lower, upper⟩ : ∃ fs, empty.restrictAll .decimal
      [[⟨.minExclusive, "10", false⟩, ⟨.maxExclusive, "5", false⟩]] = .ok fs ∧
        fs.minExclusive = some ⟨.decimal ⟨false, 10, 0⟩, false⟩ ∧
        fs.maxExclusive = some ⟨.decimal ⟨false, 5, 0⟩, false⟩ := ⟨_, rfl, rfl, rfl⟩
  have ordered := (always _ _ _ (Or.inl rfl) h).minExclusive_le_maxExclusive _ lower _ upper
  exact absurd ordered (by decide +kernel)

end FacetSet

end Xsd
