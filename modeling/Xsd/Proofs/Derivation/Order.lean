import Xsd.Proofs.Derivation.Chain
import Xsd.Proofs.Derivation.Circles
import Xsd.Proofs.Derivation.Rounds

/-!
# The order of derivation

Whatever order types are demanded in, they are derived as in the rounds that begin when the two most
general types have been looked at. A type in progress comes in a later round than those for which it
waits, if it comes at all. So where a type is demanded that is in progress already, it never comes,
and none of the types that wait for it does.
-/

namespace Xsd.Derivation

/-- The types in the table come with their entries, and types that have failed never come. -/
structure Faithful (a : Arena) (s₀ s : DerivationState) : Prop where
  comes : ∀ {id info}, s.derived.get? id = some info → Comes a s₀ id info
  failed : ∀ {id info}, s.status[id.index]? = some .failed → ¬ Comes a s₀ id info
  based : ∀ {id info}, s.derived.get? id = some info → Based s.derived id info
  below : s₀.derived.Below s.derived
  status : ∀ {i : Nat} {status}, s₀.status[i]? = some status → status ≠ .notStarted →
    s.status[i]? = some status

/-- A demand for a type, before the types in progress. -/
structure IsAwaited (a : Arena) (s₀ : DerivationState) (id : TypeId) (s : DerivationState) :
    Prop where
  faithful : Faithful a s₀ s
  before : ∀ p ∈ s.stack, ∀ n, ((rounds a s₀ n).get? p).isSome →
    ∃ m < n, ((rounds a s₀ m).get? id).isSome

/-- A type is found if it comes. -/
structure IsFound (a : Arena) (s₀ : DerivationState) (id : TypeId) (found : Bool)
    (s : DerivationState) : Prop where
  faithful : Faithful a s₀ s
  entry : found = true → (s.derived.get? id).isSome
  missing : found = false → ∀ info, ¬ Comes a s₀ id info

variable {a : Arena} {s₀ s t u : DerivationState} {id other : TypeId} {info : TypeInfo}
  {definition : TypeDefinition} {fuel n : Nat}

/-- If types that have been looked at keep their status, one that has not been has never been. -/
theorem Orderly.fresh_of_kept (before : Orderly a s) (orderly : Orderly a t)
    (kept : ∀ {i : Nat} {status}, s.status[i]? = some status → status ≠ .notStarted →
      t.status[i]? = some status)
    (fresh : t.status[id.index]? = some .notStarted) : s.status[id.index]? = some .notStarted := by
  cases hs : s.status[id.index]? with
  | none =>
    cases (orderly.status_eq_none_iff.mpr (before.status_eq_none_iff.mp hs)).symm.trans fresh
  | some status =>
    by_contra looked
    have looked : status ≠ .notStarted := fun same => looked (congrArg some same)
    exact looked (Option.some.inj ((kept hs looked).symm.trans fresh))

theorem IsReady.faithful (ready : IsReady a s₀) : Faithful a s₀ s₀ where
  comes entry := ⟨0, entry⟩
  failed {id info} failed came := by
    rw [ready.comes_iff (by rw [failed]; decide),
      ready.orderly.get?_eq_none (by rw [failed]; decide)] at came
    cases came
  based := ready.based
  below entry := entry
  status h _ := h

namespace Faithful

/-- A type that had been looked at keeps what it has. -/
theorem get?_eq (h : Faithful a s₀ s) (before : Orderly a s₀) (orderly : Orderly a s)
    (looked : s₀.status[id.index]? ≠ some .notStarted) :
    s.derived.get? id = s₀.derived.get? id := by
  cases entry : s₀.derived.get? id with
  | some info => exact h.below entry
  | none =>
    refine orderly.get?_eq_none fun done => ?_
    cases hs : s₀.status[id.index]? with
    | none =>
      cases (orderly.status_eq_none_iff.mpr (before.status_eq_none_iff.mp hs)).symm.trans done
    | some status =>
      have same := h.status hs fun fresh => looked (fresh ▸ hs)
      have there := before.done.mpr (hs.trans (same.symm.trans done))
      rw [entry] at there
      cases there

theorem consistent (h : Faithful a s₀ s) (ready : IsReady a s₀) (orderly : Orderly a s) (n : Nat) :
    Consistent (rounds a s₀ n) s.derived where
  size := (ready.size_rounds n).trans orderly.entries.symm
  same hn hs := ready.comes_unique ⟨n, hn⟩ (h.comes hs)
  anyType := (ready.get?_rounds ready.anyType n).trans
    (h.get?_eq ready.orderly orderly ready.anyType).symm
  anySimpleType := (ready.get?_rounds ready.anySimpleType n).trans
    (h.get?_eq ready.orderly orderly ready.anySimpleType).symm
  left := ready.based_rounds
  right := h.based

theorem of_eq (h : Faithful a s₀ s) (derived : t.derived = s.derived) (status : t.status = s.status) :
    Faithful a s₀ t := by
  constructor
  case comes => exact derived ▸ h.comes
  case failed => exact status ▸ h.failed
  case based => exact derived ▸ h.based
  case below => exact derived ▸ h.below
  case status => exact status ▸ h.status

/-- The status of a type that had not been looked at changes. -/
theorem setStatus (h : Faithful a s₀ s) (fresh : s₀.status[id.index]? = some .notStarted)
    {status : DerivationStatus} (never : status = .failed → ∀ info, ¬ Comes a s₀ id info) :
    Faithful a s₀ { s with status := s.status.setIfInBounds id.index status } where
  comes := h.comes
  failed {other info} hs := by
    dsimp only at hs
    rw [Array.getElem?_setIfInBounds] at hs
    split at hs
    · rename_i same
      split at hs
      · exact TypeId.index_injective same ▸ never (Option.some.inj hs) info
      · cases hs
    · exact h.failed hs
  based := h.based
  below := h.below
  status {i status'} hs looked := by
    have ne : id.index ≠ i := by
      rintro rfl
      exact looked (Option.some.inj (hs.symm.trans fresh))
    exact (Array.getElem?_setIfInBounds_ne ne).trans (h.status hs looked)

theorem enter (h : Faithful a s₀ s) (new : s.derived.get? id = none) (came : Comes a s₀ id info)
    (based : Based s.derived id info) :
    Faithful a s₀ { s with derived := s.derived.enter id info } := by
  have below : s.derived.Below (s.derived.enter id info) := DerivedTypes.below_enter new
  have entries : ∀ {other info'}, (s.derived.enter id info).get? other = some info' →
      (other = id ∧ info' = info) ∨ s.derived.get? other = some info' := by
    intro other info' entry
    by_cases same : other = id
    · subst same
      exact Or.inl ⟨rfl, DerivedTypes.eq_of_get?_enter entry⟩
    · exact Or.inr ((DerivedTypes.get?_enter_of_ne same).symm.trans entry)
  constructor
  case comes =>
    intro other info' entry
    rcases entries entry with ⟨rfl, rfl⟩ | old
    · exact came
    · exact h.comes old
  case failed => exact h.failed
  case based =>
    intro other info' entry
    rcases entries entry with ⟨rfl, rfl⟩ | old
    · exact based.mono below
    · exact (h.based old).mono below
  case below => exact fun entry => below (h.below entry)
  case status => exact h.status

/-- A type that is started now had not been looked at before. -/
theorem fresh (h : Faithful a s₀ s) (before : Orderly a s₀) (orderly : Orderly a s)
    (fresh : s.status[id.index]? = some .notStarted) : s₀.status[id.index]? = some .notStarted :=
  before.fresh_of_kept orderly h.status fresh

end Faithful

/-! ## One derivation -/

/-- What the type in progress waits for, the types below it on the stack wait for. -/
theorem IsAwaited.next (h : IsAwaited a s₀ id s) (faithful : Faithful a s₀ t)
    (onward : Onward (started id s) t)
    (before : ∀ n, ((rounds a s₀ n).get? id).isSome → ∃ m < n, ((rounds a s₀ m).get? other).isSome) :
    IsAwaited a s₀ other t where
  faithful := faithful
  before p mem n there := by
    rw [onward.stack] at mem
    rcases List.mem_append.mp mem with below | last
    · obtain ⟨m, lt, came⟩ := h.before p below n there
      obtain ⟨k, lt', came'⟩ := before m came
      exact ⟨k, lt'.trans lt, came'⟩
    · cases List.mem_singleton.mp last
      exact before n there

/-- For a type that never comes, whatever it needs may be demanded. -/
theorem IsAwaited.next_of_never (h : IsAwaited a s₀ id s) (faithful : Faithful a s₀ t)
    (onward : Onward (started id s) t) (never : ∀ info, ¬ Comes a s₀ id info) :
    IsAwaited a s₀ other t := by
  refine h.next faithful onward fun n there => ?_
  obtain ⟨info, entry⟩ := Option.isSome_iff_exists.mp there
  exact absurd ⟨n, entry⟩ (never info)

/-- A type that waits for itself never comes: it would come before the round in which it comes
first. -/
theorem IsAwaited.never_of_mem (h : IsAwaited a s₀ id s) (mem : id ∈ s.stack) :
    ¬ Comes a s₀ id info := by
  rintro ⟨n, entry⟩
  induction n using Nat.strongRecOn generalizing info with
  | _ n ih =>
    obtain ⟨m, lt, there⟩ := h.before id mem n (Option.isSome_iff_exists.mpr ⟨info, entry⟩)
    obtain ⟨info', entry'⟩ := Option.isSome_iff_exists.mp there
    exact ih m lt entry'

/-- A round, beside a state in the derivation of a type. -/
def Beside (a : Arena) (s₀ s₁ : DerivationState) (n : Nat) (v w : DerivationState) : Prop :=
  v = stateOf (rounds a s₀ n) ∧ Proceeds a s₁ w ∧ Faithful a s₀ w

section Definition

variable (ready : IsReady a s₀) (awaited : IsAwaited a s₀ id s) {need : Need}
  (meets : Meets a (IsAwaited a s₀) (IsFound a s₀) (started id s) need)

include awaited meets

section

include ready

/-- What is there in a round before that in which the type comes is found when it is demanded. -/
theorem agree_present (before : ∀ k, ((rounds a s₀ k).get? id).isSome → n < k) :
    Need.Agree (Beside a s₀ (started id s) n) (fun _ _ => True) (fun _ => True) Need.present
      need := by
  rintro K other _ v w ⟨⟨rfl, proceeds, faithful⟩, shares⟩
  cases there : (rounds a s₀ n).get? other with
  | none => exact Or.inr ⟨none, stateOf (rounds a s₀ n), fails_present there, trivial⟩
  | some x =>
    have next : IsAwaited a s₀ other w := awaited.next faithful proceeds.onward fun k hk =>
      ⟨n, before k hk, Option.isSome_iff_exists.mpr ⟨x, there⟩⟩
    rcases meets other w proceeds next with ⟨w', yields, onward, found⟩ | ⟨w', -, -, found⟩
    · refine Or.inl ⟨(), stateOf (rounds a s₀ n), w', yields_present there, yields, ⟨rfl,
        ⟨onward.orderly, proceeds.onward.trans onward.onward⟩, found.faithful⟩, ?_⟩
      rintro y (rfl | mem)
      · obtain ⟨x', entry⟩ := Option.isSome_iff_exists.mp (found.entry rfl)
        cases ready.comes_unique ⟨n, there⟩ (found.faithful.comes entry)
        exact ⟨x, there, entry⟩
      · obtain ⟨x', entry, entry'⟩ := shares y mem
        exact ⟨x', entry, onward.onward.derived entry'⟩
    · exact absurd ⟨n, there⟩ (found.missing rfl x)

end

/-- What is found when it is demanded on behalf of a type that never comes is there in the last
round. -/
theorem agree_last (never : ∀ info, ¬ Comes a s₀ id info)
    (final : ∀ {id info}, Comes a s₀ id info → (rounds a s₀ n).get? id = some info) :
    Need.Agree (fun v w => Beside a s₀ (started id s) n w v) (fun _ _ => True) (fun _ => True) need
      Need.present := by
  rintro K other _ v w ⟨⟨rfl, proceeds, faithful⟩, shares⟩
  have next : IsAwaited a s₀ other v := awaited.next_of_never faithful proceeds.onward never
  rcases meets other v proceeds next with ⟨v', yields, onward, found⟩ | ⟨v', fails, -, -⟩
  · obtain ⟨x, entry⟩ := Option.isSome_iff_exists.mp (found.entry rfl)
    have there := final (found.faithful.comes entry)
    refine Or.inl ⟨(), v', stateOf (rounds a s₀ n), yields, yields_present there, ⟨rfl,
      ⟨onward.orderly, proceeds.onward.trans onward.onward⟩, found.faithful⟩, ?_⟩
    rintro y (rfl | mem)
    · exact ⟨x, entry, there⟩
    · obtain ⟨x', old, old'⟩ := shares y mem
      exact ⟨x', onward.onward.derived old, old'⟩
  · exact Or.inr ⟨none, v', fails, trivial⟩

/-- Where a type never comes, the table stays faithful whatever the derivation demands. -/
theorem faithful_of_never (never : ∀ info, ¬ Comes a s₀ id info) (definition : TypeDefinition) :
    Upholds (fun t => Proceeds a (started id s) t ∧ Faithful a s₀ t)
      (deriveDefinition a need id definition) := by
  refine upholds_deriveDefinition (fun other => ?_) id definition
  rintro u ⟨proceeds, faithful⟩
  have next : IsAwaited a s₀ other u := awaited.next_of_never faithful proceeds.onward never
  rcases meets other u proceeds next with ⟨v, hv, proceeds', found⟩ | ⟨v, hv, proceeds', found⟩
  · rw [hv]
    exact ⟨⟨proceeds'.orderly, proceeds.onward.trans proceeds'.onward⟩, found.faithful⟩
  · rw [hv]
    exact ⟨⟨proceeds'.orderly, proceeds.onward.trans proceeds'.onward⟩, found.faithful⟩

section

variable (hd : a.type? id = some definition) (fresh : s₀.status[id.index]? = some .notStarted)
  (begun : Proceeds a (started id s) (started id s) ∧ Faithful a s₀ (started id s))

include ready hd fresh begun

/-- A type that comes is derived with the result of the round in which it comes first. -/
theorem yields_of_comes (came : Comes a s₀ id info) :
    ∃ u, Yields (deriveDefinition a need id definition) (started id s) info u ∧
      Proceeds a (started id s) u ∧ Faithful a s₀ u := by
  obtain ⟨first, there, least⟩ : ∃ n, ((rounds a s₀ n).get? id).isSome ∧
      ∀ m, ((rounds a s₀ m).get? id).isSome → n ≤ m := by
    classical
    obtain ⟨n, entry⟩ := came
    have some : ∃ n, ((rounds a s₀ n).get? id).isSome :=
      ⟨n, Option.isSome_iff_exists.mpr ⟨info, entry⟩⟩
    exact ⟨Nat.find some, Nat.find_spec some, fun m hm => Nat.find_min' some hm⟩
  obtain ⟨info', entry⟩ := Option.isSome_iff_exists.mp there
  cases ready.comes_unique came ⟨first, entry⟩
  cases first with
  | zero => cases (ready.get?_rounds_zero fresh).symm.trans entry
  | succ m =>
    rw [ready.get?_rounds_succ fresh] at entry
    obtain ⟨definition', hd', yields⟩ := outcome_eq_some_iff.mp entry
    cases hd.symm.trans hd'
    rcases agrees_deriveDefinition (R := Beside a s₀ (started id s) m)
      (fun h => h.1 ▸ h.2.2.consistent ready h.2.1.orderly m) (agree_present ready awaited meets least)
      hd _ _ ⟨rfl, begun⟩ with
        ⟨info', v, w, hy, hy', -, proceeds, faithful⟩ | ⟨e, v, hf, -⟩
    · cases yields.symm.trans hy
      exact ⟨w, hy', proceeds, faithful⟩
    · exact absurd hf yields.not_fails

/-- A type that is derived comes. -/
theorem comes_of_yields
    (yields : Yields (deriveDefinition a need id definition) (started id s) info u) :
    Comes a s₀ id info := by
  by_contra never
  have never : ∀ x, ¬ Comes a s₀ id x := by
    intro x came
    obtain ⟨v, yields', -⟩ := yields_of_comes ready awaited meets hd fresh begun came
    cases yields.symm.trans yields'
    exact never came
  obtain ⟨last, final⟩ := ready.exists_last
  rcases agrees_deriveDefinition (R := fun v w => Beside a s₀ (started id s) last w v)
    (fun h => h.1 ▸ (h.2.2.consistent ready h.2.1.orderly last).symm)
    (agree_last awaited meets never final) hd _ _ ⟨rfl, begun⟩ with
      ⟨info', v, w, hy, hy', rfl, -⟩ | ⟨e, v, hf, -⟩
  · cases yields.symm.trans hy
    refine never info ⟨last + 1, ?_⟩
    rw [ready.get?_rounds_succ fresh]
    exact outcome_eq_some_iff.mpr ⟨definition, hd, hy'⟩
  · exact absurd hf yields.not_fails

end

end Definition

/-! ## One call -/

/-- A type that comes is found, and a type that is found comes. -/
theorem Finished.found {r : Except (Option Error) TypeInfo}
    (finished : Finished id t r u) (fresh : s₀.status[id.index]? = some .notStarted)
    (proceeds : Proceeds a (started id s) t) (faithful : Faithful a s₀ t)
    (entry : ∀ info, r = .ok info → Comes a s₀ id info ∧ Based t.derived id info)
    (missing : r.isOk = false → ∀ info, ¬ Comes a s₀ id info) : IsFound a s₀ id r.isOk u := by
  have new : t.derived.get? id = none :=
    proceeds.orderly.get?_eq_none (by rw [proceeds.pending]; decide)
  have bound : id.index < t.derived.types.size :=
    proceeds.orderly.entries ▸ proceeds.orderly.index_lt proceeds.pending
  cases finished with
  | @entry info =>
    obtain ⟨came, based⟩ := entry info rfl
    refine ⟨((faithful.enter new came based).setStatus fresh fun no => (by cases no)).of_eq rfl rfl,
      fun _ => ?_, fun no => (by cases no)⟩
    exact Option.isSome_iff_exists.mpr ⟨info, DerivedTypes.get?_enter_self bound⟩
  | @failure e v reported =>
    obtain ⟨derived, status, -, -⟩ := reported.kept
    have faithful' : Faithful a s₀ v := faithful.of_eq derived status
    exact ⟨faithful'.setStatus fresh fun _ => missing rfl, fun no => (by cases no), missing⟩

/-- A type is derived now: if it comes, as in its round, and otherwise it fails. -/
theorem Finished.found_of_run (ready : IsReady a s₀) (orderly : Orderly a s)
    (awaited : IsAwaited a s₀ id s)
    (meets : Meets a (IsAwaited a s₀) (IsFound a s₀) (started id s) (needOf (derive a fuel)))
    (hd : a.type? id = some definition) (fresh : s.status[id.index]? = some .notStarted)
    {r : Except (Option Error) TypeInfo}
    (hr : (deriveDefinition a (needOf (derive a fuel)) id definition).run.run (started id s) = (r, t))
    (finished : Finished id t r u) : IsFound a s₀ id r.isOk u := by
  have fresh' := awaited.faithful.fresh ready.orderly orderly fresh
  have begun : Proceeds a (started id s) (started id s) ∧ Faithful a s₀ (started id s) :=
    ⟨⟨orderly.start fresh, .refl _⟩,
      (awaited.faithful.setStatus fresh' fun no => (by cases no)).of_eq rfl rfl⟩
  have proceeds : Proceeds a (started id s) t :=
    proceeds_definition (fun other => upholds_needOf (keeps_proceeds _ fuel other)) orderly fresh hr
  have based : ∀ info, r = .ok info → Based t.derived id info := by
    rintro info rfl
    have sound : Sound Based (started id s) :=
      ⟨fun entry => begun.1.orderly.done.mp (Option.isSome_iff_exists.mpr ⟨_, entry⟩),
        begun.2.based⟩
    exact (based_isInductive a).made hd
      (need_isSound fun s₁ => keeps_derive (based_isInductive a) s₁ fuel) sound hr
  by_cases came : ∃ info, Comes a s₀ id info
  · obtain ⟨info, came⟩ := came
    obtain ⟨v, yields, -, faithful⟩ := yields_of_comes ready awaited meets hd fresh' begun came
    cases hr.symm.trans yields
    refine finished.found fresh' proceeds faithful (fun info' ok => ?_) fun no => by cases no
    cases ok
    exact ⟨came, based info rfl⟩
  · have never : ∀ info, ¬ Comes a s₀ id info := fun info came' => came ⟨info, came'⟩
    have faithful := faithful_of_never awaited meets never definition _ begun
    rw [hr] at faithful
    refine finished.found fresh' proceeds faithful.2 (fun info ok => ?_) fun _ => never
    subst ok
    exact absurd (comes_of_yields ready awaited meets hd fresh' begun hr) (never info)

/-- Each call finds what comes if those inside it do. -/
theorem found_of_called (ready : IsReady a s₀) {found : Bool} (orderly : Orderly a s)
    (awaited : IsAwaited a s₀ id s)
    (meets : Meets a (IsAwaited a s₀) (IsFound a s₀) (started id s) (needOf (derive a fuel)))
    (called : Called a fuel id s found t) : IsFound a s₀ id found t := by
  have faithful := awaited.faithful
  have outside : a.type? id = none → ∀ info, ¬ Comes a s₀ id info := by
    intro absent info came
    have bound := Array.getElem?_eq_getElem (ready.index_lt came)
    cases absent.symm.trans bound
  cases called with
  | absent absent => exact ⟨faithful, fun no => (by cases no), fun _ => outside absent⟩
  | unknown unknown =>
    exact ⟨faithful, fun no => (by cases no), fun _ => outside (orderly.status_eq_none_iff.mp unknown)⟩
  | done _ status => exact ⟨faithful, fun _ => orderly.done.mpr status, fun no => (by cases no)⟩
  | failed _ status =>
    exact ⟨faithful, fun no => (by cases no), fun _ info => faithful.failed status⟩
  | circle _ status reported =>
    obtain ⟨derived, sameStatus, -, -⟩ := reported.kept
    exact ⟨faithful.of_eq derived sameStatus, fun no => (by cases no),
      fun _ _ => awaited.never_of_mem (orderly.pending.mpr status)⟩
  | derived hd fresh hr finished => exact finished.found_of_run ready orderly awaited meets hd fresh hr

/-! ## All types -/

/-- No type is in progress, and the types in the table are those that come. -/
structure IsSettled (a : Arena) (s₀ s : DerivationState) : Prop where
  orderly : Orderly a s
  idle : s.stack = []
  faithful : Faithful a s₀ s

/-- To demand a type is to have it if it comes. -/
theorem IsSettled.found (ready : IsReady a s₀) (h : IsSettled a s₀ s) (id : TypeId) :
    IsSettled a s₀ ((deriveType a id).run s).2 ∧
      IsFound a s₀ id ((deriveType a id).run s).1 ((deriveType a id).run s).2 := by
  have found : IsFound a s₀ id ((deriveType a id).run s).1 ((deriveType a id).run s).2 :=
    derive_meets (found_of_called ready) (by omega) h.orderly
      ⟨h.faithful, fun p mem => by rw [h.idle] at mem; cases mem⟩
  have proceeds := proceeds_derive (a.types.size + 1) id h.orderly
  exact ⟨⟨proceeds.orderly, proceeds.onward.stack.trans h.idle, found.faithful⟩, found⟩

/-- By induction over the demands: each type that comes is there afterwards, and stays. -/
theorem IsSettled.entered (ready : IsReady a s₀) (ids : List TypeId) (h : IsSettled a s₀ s) :
    IsSettled a s₀ ((ids.forM fun id => discard (deriveType a id)).run s).2 ∧
      ∀ id ∈ ids, ∀ info, Comes a s₀ id info →
        ((ids.forM fun id => discard (deriveType a id)).run s).2.derived.get? id = some info := by
  induction ids generalizing s with
  | nil => exact ⟨h, fun id mem => by cases mem⟩
  | cons id ids ih =>
    obtain ⟨settled, found⟩ := h.found ready id
    obtain ⟨settled', rest⟩ := ih settled
    refine ⟨settled', fun other mem info came => ?_⟩
    rcases List.mem_cons.mp mem with rfl | mem
    · have later : Proceeds a ((deriveType a other).run s).2
          ((ids.forM fun id => discard (deriveType a id)).run ((deriveType a other).run s).2).2 :=
        Keeps.forM (fun id => .discard (keeps_proceeds _ (a.types.size + 1) id)) _
          ⟨settled.orderly, .refl _⟩
      cases answer : ((deriveType a other).run s).1 with
      | false => exact absurd came (found.missing answer info)
      | true =>
        obtain ⟨info', entry⟩ := Option.isSome_iff_exists.mp (found.entry answer)
        cases ready.comes_unique came (found.faithful.comes entry)
        exact later.onward.derived entry
    · exact rest other mem info came

/-- A type that has been demanded has been looked at. -/
theorem Called.looked {b : Bool} (h : Called a fuel id s b t) (orderly : Orderly a s) :
    t.status[id.index]? ≠ some .notStarted := by
  cases h with
  | absent absent =>
    rw [orderly.status_eq_none_iff.mpr absent]
    decide
  | unknown unknown =>
    rw [unknown]
    decide
  | done _ status =>
    rw [status]
    decide
  | failed _ status =>
    rw [status]
    decide
  | circle _ status reported =>
    rw [reported.kept.2.1, status]
    decide
  | derived _ _ _ finished =>
    cases finished with
    | entry =>
      rw [Array.getElem?_setIfInBounds, if_pos rfl]
      split <;> decide
    | failure _ =>
      rw [Array.getElem?_setIfInBounds, if_pos rfl]
      split <;> decide

/-- The state when the two most general types have been demanded. -/
def begun (a : Arena) : DerivationState :=
  ((deriveType a .anySimpleType).run ((deriveType a .anyType).run (Derive.initial a)).2).2

theorem isReady_begun (a : Arena) : IsReady a (begun a) := by
  have first := proceeds_derive (a.types.size + 1) .anyType (orderly_initial a)
  have looked : ((deriveType a .anyType).run (Derive.initial a)).2.status[
      TypeId.anyType.index]? ≠ some .notStarted :=
    (called_derive a a.types.size .anyType (Derive.initial a)).looked (orderly_initial a)
  change Proceeds a _ ((deriveType a .anyType).run (Derive.initial a)).2 at first
  have advance := keeps_derive (based_isInductive a) (Derive.initial a) (a.types.size + 1) .anyType _
    ⟨sound_initial a, .refl _⟩
  change Advances Based _ ((deriveType a .anyType).run (Derive.initial a)).2 at advance
  unfold begun
  generalize ((deriveType a .anyType).run (Derive.initial a)).2 = s at first looked advance ⊢
  have second := proceeds_derive (a.types.size + 1) .anySimpleType first.orderly
  have advance' := keeps_derive (based_isInductive a) _ (a.types.size + 1) .anySimpleType s
    ⟨advance.sound, .refl _⟩
  refine ⟨second.orderly, second.onward.stack.trans first.onward.stack, advance'.sound.holds,
    fun fresh => ?_, ?_⟩
  · exact looked (first.orderly.fresh_of_kept second.orderly second.onward.status fresh)
  · exact (called_derive a a.types.size .anySimpleType s).looked first.orderly

/-- The table after types have been demanded one after the other. -/
def deriveInOrder (a : Arena) (ids : List TypeId) : DerivedTypes :=
  ((ids.forM fun id => discard (deriveType a id)).run (Derive.initial a)).2.derived

/-- All types of the arena, each of them once and the two most general ones first. -/
structure IsOrder (a : Arena) (ids : List TypeId) : Prop where
  perm : ids.Perm a.typeIds
  general : [.anyType, .anySimpleType] <+: ids

namespace IsOrder

variable {ids ids' : List TypeId}

/-- In every order the types that come are derived, and no others. -/
theorem derived (order : IsOrder a ids) :
    ∃ s, ((ids.forM fun id => discard (deriveType a id)).run (Derive.initial a)).2 = s ∧
      IsSettled a (begun a) s ∧
        ∀ {id info}, Comes a (begun a) id info → s.derived.get? id = some info := by
  have ready := isReady_begun a
  obtain ⟨rest, rfl⟩ := order.general
  obtain ⟨settled, entered⟩ :=
    IsSettled.entered ready rest ⟨ready.orderly, ready.idle, ready.faithful⟩
  refine ⟨_, rfl, settled, fun {id info} came => ?_⟩
  have known : (a.type? id).isSome :=
    Option.isSome_of_eq_some (Array.getElem?_eq_getElem (ready.index_lt came))
  have listed : id ∈ [.anyType, .anySimpleType] ++ rest :=
    order.perm.mem_iff.mpr (Arena.mem_typeIds_iff.mpr known)
  rcases List.mem_append.mp listed with general | mem
  · refine settled.faithful.below ((ready.comes_iff ?_).mp came)
    rcases List.mem_pair.mp general with rfl | rfl
    · exact ready.anyType
    · exact ready.anySimpleType
  · exact entered id mem info came

theorem get?_deriveInOrder (order : IsOrder a ids) :
    (deriveInOrder a ids).get? id = some info ↔ Comes a (begun a) id info := by
  obtain ⟨s, same, settled, entered⟩ := order.derived
  rw [deriveInOrder, same]
  exact ⟨settled.faithful.comes, entered⟩

end IsOrder

/-- What types amount to does not depend on the order in which they are demanded, if the two most
general ones come first: each has the same result in both orders, or has none in either. -/
theorem deriveInOrder_eq {ids ids' : List TypeId} (order : IsOrder a ids) (order' : IsOrder a ids')
    (id : TypeId) : (deriveInOrder a ids).get? id = (deriveInOrder a ids').get? id :=
  Option.ext fun _ => order.get?_deriveInOrder.trans order'.get?_deriveInOrder.symm

/-- Types in the order of their numbers, but for the first two from the last one back. -/
def backwards (a : Arena) : List TypeId :=
  .anyType :: .anySimpleType :: (a.typeIds.drop 2).reverse

theorem isOrder_typeIds (two : 1 < a.types.size) : IsOrder a a.typeIds where
  perm := .refl _
  general := by
    obtain ⟨rest, ids⟩ := exists_typeIds_eq two
    exact ⟨rest, ids.symm⟩

theorem isOrder_backwards (two : 1 < a.types.size) : IsOrder a (backwards a) where
  perm := by
    obtain ⟨rest, ids⟩ := exists_typeIds_eq two
    rw [backwards, ids]
    exact ((List.reverse_perm rest).cons _).cons _
  general := ⟨_, rfl⟩

theorem deriveInOrder_backwards :
    IsOrder withSelfish (backwards withSelfish) ∧ IsOrder withSelfish withSelfish.typeIds ∧
      ∀ id, (deriveInOrder withSelfish (backwards withSelfish)).get? id =
        (deriveInOrder withSelfish withSelfish.typeIds).get? id := by
  have two : 1 < withSelfish.types.size := by decide
  exact ⟨isOrder_backwards two, isOrder_typeIds two,
    deriveInOrder_eq (isOrder_backwards two) (isOrder_typeIds two)⟩

/-! ## The table of all types -/

/-- No type is in progress, and nothing is taken out of the table. -/
structure Stays (a : Arena) (s₀ s t : DerivationState) : Prop where
  settled : IsSettled a s₀ t
  below : s.derived.Below t.derived

theorem keeps_reportFailure_stays {α : Type} (r : Except (Option Error) α) :
    Keeps (Stays a s₀ s) (reportFailure r) := by
  refine keeps_reportFailure_of_reported fun e _ t u h reported => ?_
  obtain ⟨derived, status, stack, -⟩ := reported.kept
  exact ⟨⟨reported.orderly h.settled.orderly, stack.trans h.settled.idle,
    h.settled.faithful.of_eq derived status⟩, fun entry => derived ▸ h.below entry⟩

theorem keeps_checkAttributeGroup_stays (ready : IsReady a s₀) (id : AttributeGroupId) :
    Keeps (Stays a s₀ s) (checkAttributeGroup a id) := by
  have demanded : ∀ other, Upholds (Stays a s₀ s) (needOf (deriveType a) other) := by
    refine fun other => upholds_needOf fun t h => ⟨(h.settled.found ready other).1, fun entry => ?_⟩
    exact (proceeds_derive (a.types.size + 1) other h.settled.orderly).onward.derived (h.below entry)
  unfold checkAttributeGroup
  split
  · exact .pure ()
  · exact .bind (upholds_declared demanded _ _) fun r => keeps_reportFailure_stays r

/-- The derived types are those that come in any order. -/
theorem deriveAll_eq_deriveInOrder {ids : List TypeId} (order : IsOrder a ids) (id : TypeId) :
    (deriveAll a).1.get? id = (deriveInOrder a ids).get? id := by
  have ready := isReady_begun a
  have two : 1 < a.types.size := by
    have := order.general.length_le
    rw [order.perm.length_eq, Arena.typeIds, List.length_map, List.length_range] at this
    exact this
  obtain ⟨s, same, settled, entered⟩ := (isOrder_typeIds two).derived
  have later : Keeps (Stays a (begun a) s) (do
      a.groupIds.forM (checkGroup a)
      a.attributeGroupIds.forM (checkAttributeGroup a)) :=
    .bind (.forM fun _ => keeps_reportFailure_stays _) fun _ =>
      .forM fun id => keeps_checkAttributeGroup_stays ready id
  have after := later s ⟨settled, fun entry => entry⟩
  subst same
  refine Option.ext fun info => Iff.trans ?_ order.get?_deriveInOrder.symm
  exact ⟨after.settled.faithful.comes, fun came => after.below (entered came)⟩

end Xsd.Derivation
