import Xsd.Proofs.Agreement
import Xsd.Proofs.Derivation.Progress

/-!
# Calls of the derivation

A type that is demanded has been derived or has failed before, is in progress, or is derived now. What
is known of the state when a type is demanded is put against what is known when there is an answer; a
derivation that is in progress relies on it for the types that it demands in turn.
-/

namespace Xsd.Derivation

/-! ## Statuses and the stack -/

/-- Types with an entry are done, and those on the stack, each of them once, are in progress. -/
structure Orderly (a : Arena) (s : DerivationState) : Prop where
  entries : s.derived.types.size = a.types.size
  statuses : s.status.size = a.types.size
  done : ∀ {id}, (s.derived.get? id).isSome ↔ s.status[id.index]? = some .done
  pending : ∀ {id}, id ∈ s.stack ↔ s.status[id.index]? = some .inProgress
  nodup : s.stack.Nodup

/-- The second state comes after the first, with the same types in progress. What has been said of a
type stays so. -/
structure Onward (s t : DerivationState) : Prop where
  derived : s.derived.Below t.derived
  stack : t.stack = s.stack
  status : ∀ {i : Nat} {status}, s.status[i]? = some status → status ≠ .notStarted →
    t.status[i]? = some status
  errors : s.errors <+: t.errors

theorem Onward.refl (s : DerivationState) : Onward s s :=
  ⟨fun h => h, rfl, fun h _ => h, List.prefix_rfl⟩

theorem Onward.trans {s t u : DerivationState} (h : Onward s t) (h' : Onward t u) : Onward s u where
  derived hi := h'.derived (h.derived hi)
  stack := h'.stack.trans h.stack
  status hi started := h'.status (h.status hi started) started
  errors := h.errors.trans h'.errors

theorem Onward.isSome {s t : DerivationState} (h : Onward s t) {id : TypeId}
    (entry : (s.derived.get? id).isSome) : (t.derived.get? id).isSome := by
  obtain ⟨info, hi⟩ := Option.isSome_iff_exists.mp entry
  rw [h.derived hi]
  rfl

namespace Orderly

variable {a : Arena} {s t : DerivationState} {id : TypeId}

theorem index_lt (h : Orderly a s) {status : DerivationStatus}
    (hs : s.status[id.index]? = some status) : id.index < a.types.size :=
  h.statuses ▸ (Array.getElem?_eq_some_iff.mp hs).1

theorem length_le (h : Orderly a s) : s.stack.length ≤ a.types.size :=
  length_le_of_index_lt TypeId.index_injective h.nodup fun _ mem => h.index_lt (h.pending.mp mem)

theorem status_eq_none_iff (h : Orderly a s) :
    s.status[id.index]? = none ↔ a.type? id = none := by
  rw [Array.getElem?_eq_none_iff, h.statuses]
  exact Array.getElem?_eq_none_iff.symm

theorem get?_eq_none (h : Orderly a s) (unfinished : s.status[id.index]? ≠ some .done) :
    s.derived.get? id = none := by
  rw [← Option.not_isSome_iff_eq_none, h.done]
  exact unfinished

end Orderly

theorem orderly_initial (a : Arena) : Orderly a (Derive.initial a) where
  entries := Array.size_replicate
  statuses := Array.size_replicate
  done {id} := by
    change ((Array.replicate a.types.size none)[id.index]?.join).isSome ↔
      (Array.replicate a.types.size DerivationStatus.notStarted)[id.index]? = some .done
    rw [Array.getElem?_replicate, Array.getElem?_replicate]
    split <;> simp
  pending {id} := by
    change id ∈ [] ↔
      (Array.replicate a.types.size DerivationStatus.notStarted)[id.index]? = some .inProgress
    rw [Array.getElem?_replicate]
    split <;> simp
  nodup := List.nodup_nil

/-- What comes of a report, if there is anything to report: the error is added to the others, unless
it speaks of a ring of groups and one with the same names has been reported. -/
inductive Reported (s : DerivationState) : Option Error → DerivationState → Prop
  | nothing : Reported s none s
  | added {e : Error} {cycles : List (List String)} :
    (∀ names ∈ cycles, names ∈ s.cycles ∨ ∃ category, e = .circularGroupReference category names) →
      Reported s (some e) { s with errors := s.errors ++ [e], cycles := cycles }
  | known {category : Category} {names known : List String} : known ∈ s.cycles →
    Derive.isSameSet names known → Reported s (some (.circularGroupReference category names)) s

theorem reported_report (s : DerivationState) (e : Error) :
    Reported s (some e) ((Derive.report e).run s).2 := by
  unfold Derive.report
  rw [StateT.run_modify]
  dsimp only [pure]
  split
  · split
    · rename_i seen
      obtain ⟨known, mem, same⟩ := List.any_eq_true.mp seen
      exact .known mem same
    · refine .added fun names mem => ?_
      rcases List.mem_cons.mp mem with rfl | old
      · exact Or.inr ⟨_, rfl⟩
      · exact Or.inl old
  · exact .added fun names old => Or.inl old

theorem keeps_reportFailure_of_reported {α : Type} {P : DerivationState → Prop}
    {r : Except (Option Error) α}
    (h : ∀ e, r = .error (some e) → ∀ s t, P s → Reported s (some e) t → P t) :
    Keeps P (reportFailure r) := by
  unfold reportFailure
  split
  · rename_i e
    exact fun s hs => h e rfl s _ hs (reported_report s e)
  · exact .pure ()

section Steps

variable {a : Arena} {s t : DerivationState} {id : TypeId}

/-- A report is about the errors only. -/
theorem Reported.kept {e : Option Error} (h : Reported s e t) :
    t.derived = s.derived ∧ t.status = s.status ∧ t.stack = s.stack ∧ s.errors <+: t.errors := by
  cases h with
  | nothing => exact ⟨rfl, rfl, rfl, List.prefix_rfl⟩
  | added _ => exact ⟨rfl, rfl, rfl, List.prefix_append ..⟩
  | known _ _ => exact ⟨rfl, rfl, rfl, List.prefix_rfl⟩

theorem Reported.onward {e : Option Error} (h : Reported s e t) : Onward s t := by
  obtain ⟨derived, status, stack, errors⟩ := h.kept
  exact ⟨fun hi => derived ▸ hi, stack, fun hi _ => status ▸ hi, errors⟩

theorem Reported.orderly {e : Option Error} (h : Reported s e t) (orderly : Orderly a s) :
    Orderly a t := by
  obtain ⟨derived, status, stack, -⟩ := h.kept
  constructor
  case entries => exact derived ▸ orderly.entries
  case statuses => exact status ▸ orderly.statuses
  case done => exact derived ▸ status ▸ orderly.done
  case pending => exact stack ▸ status ▸ orderly.pending
  case nodup => exact stack ▸ orderly.nodup

/-- The state in which the definition of a type is looked at. -/
abbrev started (id : TypeId) (s : DerivationState) : DerivationState := ((start id).run s).2

private theorem getElem?_set (statuses : Array DerivationStatus) {i : Nat} (bound : i < statuses.size)
    (status : DerivationStatus) (j : Nat) :
    (statuses.setIfInBounds i status)[j]? = if i = j then some status else statuses[j]? := by
  rw [Array.getElem?_setIfInBounds, if_pos bound]

theorem Orderly.start (h : Orderly a s) (fresh : s.status[id.index]? = some .notStarted) :
    Orderly a (started id s) := by
  have bound := (Array.getElem?_eq_some_iff.mp fresh).1
  have status : ∀ other : TypeId, (started id s).status[other.index]? =
      if id = other then some .inProgress else s.status[other.index]? := by
    intro other
    rw [show (started id s).status = s.status.setIfInBounds id.index .inProgress from rfl,
      getElem?_set _ bound]
    exact if_congr TypeId.index_injective.eq_iff rfl rfl
  constructor
  case entries => exact h.entries
  case statuses => exact Array.size_setIfInBounds.trans h.statuses
  case done =>
    intro other
    rw [status]
    split
    · rename_i same
      subst same
      have none := h.get?_eq_none (by rw [fresh]; decide)
      change (s.derived.get? id).isSome ↔ _
      rw [none]
      decide
    · exact h.done
  case pending =>
    intro other
    rw [status]
    change other ∈ s.stack ++ [id] ↔ _
    rw [List.mem_append, List.mem_singleton, h.pending]
    split
    · rename_i same
      simp [same]
    · rename_i other'
      simp [Ne.symm other']
  case nodup =>
    refine List.nodup_append.mpr ⟨h.nodup, List.nodup_singleton id, fun x hx y hy => ?_⟩
    cases List.mem_singleton.mp hy
    rintro rfl
    cases fresh.symm.trans (h.pending.mp hx)

/-- What comes of the derivation of a type: an entry, or a failure that is reported as far as there is
anything to report. -/
inductive Finished (id : TypeId) (t : DerivationState) :
    Except (Option Error) TypeInfo → DerivationState → Prop
  | entry {info : TypeInfo} : Finished id t (.ok info)
      { t with
        stack := t.stack.dropLast
        derived := t.derived.enter id info
        status := t.status.setIfInBounds id.index .done }
  | failure {e : Option Error} {u : DerivationState} :
    Reported { t with stack := t.stack.dropLast } e u →
      Finished id t (.error e) { u with status := u.status.setIfInBounds id.index .failed }

theorem finished_finish (id : TypeId) (t : DerivationState) (r : Except (Option Error) TypeInfo) :
    Finished id t r ((finish id r).run t).2 := by
  cases r with
  | ok info => exact .entry
  | error e =>
    cases e with
    | none => exact .failure .nothing
    | some e => exact .failure (reported_report _ e)

theorem answer_finish (id : TypeId) (t : DerivationState) (r : Except (Option Error) TypeInfo) :
    ((finish id r).run t).1 = r.isOk := by
  cases r with
  | ok info => rfl
  | error e => cases e <;> rfl

/-- The last type on the stack is done, or has failed. -/
theorem Orderly.leave (h : Orderly a s) (status : DerivationStatus) {stack : List TypeId}
    (last : s.stack = stack ++ [id]) (settled : status ≠ .inProgress)
    (entries : t.derived.types.size = s.derived.types.size)
    (statuses : t.status = s.status.setIfInBounds id.index status) (hstack : t.stack = stack)
    (done : ∀ other, (t.derived.get? other).isSome ↔
      if id = other then status = .done else (s.derived.get? other).isSome) :
    Orderly a t := by
  have pending : s.status[id.index]? = some .inProgress :=
    h.pending.mp (last ▸ List.mem_append_right _ (List.mem_singleton_self id))
  have bound := (Array.getElem?_eq_some_iff.mp pending).1
  have nodup := last ▸ h.nodup
  have new : id ∉ stack := fun mem =>
    (List.nodup_append.mp nodup).2.2 id mem id (List.mem_singleton_self id) rfl
  have status' : ∀ other : TypeId, t.status[other.index]? =
      if id = other then some status else s.status[other.index]? := by
    intro other
    rw [statuses, getElem?_set _ bound]
    exact if_congr TypeId.index_injective.eq_iff rfl rfl
  constructor
  case entries => exact entries.trans h.entries
  case statuses =>
    rw [statuses, Array.size_setIfInBounds]
    exact h.statuses
  case done =>
    intro other
    rw [done, status']
    split
    · rw [Option.some.injEq]
    · exact h.done
  case pending =>
    intro other
    rw [status', hstack]
    split
    · rename_i same
      subst same
      simp [new, settled]
    · rename_i ne
      rw [← h.pending, last, List.mem_append, List.mem_singleton]
      simp [Ne.symm ne]
  case nodup =>
    rw [hstack]
    exact (List.nodup_append.mp nodup).1

/-- A type that has not been started is derived while the types below it on the stack wait. -/
theorem Finished.proceeds {r : Except (Option Error) TypeInfo} {u : DerivationState}
    (h : Finished id t r u) (fresh : s.status[id.index]? = some .notStarted)
    (orderly : Orderly a t) (onward : Onward (started id s) t) : Orderly a u ∧ Onward s u := by
  have last : t.stack = s.stack ++ [id] := onward.stack
  have stack : t.stack.dropLast = s.stack := by rw [last, List.dropLast_concat]
  have pending : t.status[id.index]? = some .inProgress :=
    orderly.pending.mp (last ▸ List.mem_append_right _ (List.mem_singleton_self id))
  have bound := (Array.getElem?_eq_some_iff.mp pending).1
  have none : t.derived.get? id = none := orderly.get?_eq_none (by rw [pending]; decide)
  have others : ∀ {i : Nat} {status}, s.status[i]? = some status → status ≠ .notStarted →
      id.index ≠ i ∧ t.status[i]? = some status := by
    intro i status hi started'
    have ne : id.index ≠ i := by
      rintro rfl
      cases fresh.symm.trans hi
      exact started' rfl
    refine ⟨ne, onward.status ?_ started'⟩
    change (s.status.setIfInBounds id.index .inProgress)[i]? = some status
    rw [Array.getElem?_setIfInBounds_ne ne, hi]
  cases h with
  | @entry info =>
    refine ⟨orderly.leave .done last (by decide) ?_ rfl stack fun other => ?_,
      fun hi => ?_, stack, fun hi started' => ?_, onward.errors⟩
    · exact Array.size_setIfInBounds
    · dsimp only
      split
      · rename_i same
        subst same
        rw [DerivedTypes.get?_enter_self (orderly.entries ▸ orderly.statuses ▸ bound)]
        simp
      · rename_i ne
        rw [DerivedTypes.get?_enter_of_ne (Ne.symm ne)]
    · exact DerivedTypes.below_enter none (onward.derived hi)
    · obtain ⟨ne, ht⟩ := others hi started'
      exact (Array.getElem?_setIfInBounds_ne ne).trans ht
  | @failure e u reported =>
    obtain ⟨sameTypes, sameStatus, sameStack, errors⟩ := reported.kept
    refine ⟨orderly.leave .failed last (by decide) ?_ ?_ (sameStack.trans stack)
      fun other => ?_, fun hi => ?_, sameStack.trans stack, fun hi started' => ?_,
      onward.errors.trans errors⟩
    · rw [sameTypes]
    · rw [sameStatus]
    · dsimp only
      rw [sameTypes]
      split
      · rename_i same
        subst same
        rw [none]
        decide
      · rfl
    · dsimp only
      rw [sameTypes]
      exact onward.derived hi
    · obtain ⟨ne, ht⟩ := others hi started'
      dsimp only
      rw [sameStatus, Array.getElem?_setIfInBounds_ne ne, ht]

end Steps

/-! ## One call -/

/-- To need a type is to ask for it, and to fail if there is none. -/
def needOf (ask : TypeId → StateM DerivationState Bool) : Need := fun id => do
  if ← ask id then return () else throw none

/-- What comes of the demand for a type, with the answer. -/
inductive Called (a : Arena) (fuel : Nat) (id : TypeId) (s : DerivationState) :
    Bool → DerivationState → Prop
  | absent : a.type? id = none → Called a fuel id s false s
  | unknown : s.status[id.index]? = none → Called a fuel id s false s
  | done {definition : TypeDefinition} : a.type? id = some definition →
    s.status[id.index]? = some .done → Called a fuel id s true s
  | failed {definition : TypeDefinition} : a.type? id = some definition →
    s.status[id.index]? = some .failed → Called a fuel id s false s
  | circle {definition : TypeDefinition} {t : DerivationState} : a.type? id = some definition →
    s.status[id.index]? = some .inProgress →
    Reported s (some (.circularTypeDefinition (Derive.circle (shortName a) s.stack id))) t →
      Called a fuel id s false t
  | derived {definition : TypeDefinition} {r : Except (Option Error) TypeInfo}
    {t u : DerivationState} : a.type? id = some definition →
    s.status[id.index]? = some .notStarted →
    (deriveDefinition a (needOf (derive a fuel)) id definition).run.run (started id s) = (r, t) →
    Finished id t r u → Called a fuel id s r.isOk u

theorem called_derive (a : Arena) (fuel : Nat) (id : TypeId) (s : DerivationState) :
    Called a fuel id s ((derive a (fuel + 1) id).run s).1 ((derive a (fuel + 1) id).run s).2 := by
  unfold derive
  rw [StateT.run_bind, StateT.run_get]
  simp only [pure_bind]
  split
  · rename_i definition hd status
    exact .done hd status
  · rename_i definition hd status
    exact .circle hd status (reported_report ..)
  · rename_i definition hd status
    rcases hr : (deriveDefinition a (needOf (derive a fuel)) id definition).run.run (started id s)
      with ⟨r, t⟩
    have run : (do
        start id
        finish id (← (deriveDefinition a (needOf (derive a fuel)) id definition).run)).run s =
          (finish id r).run t := by
      change (finish id ((deriveDefinition a (needOf (derive a fuel)) id definition).run.run
        (started id s)).1).run ((deriveDefinition a (needOf (derive a fuel)) id definition).run.run
          (started id s)).2 = _
      rw [hr]
    have called : Called a fuel id s r.isOk ((finish id r).run t).2 :=
      .derived hd status hr (finished_finish id t r)
    rw [← answer_finish id t r, ← run] at called
    exact called
  · rename_i other₁ other₂ other₃
    cases hd : a.type? id with
    | none => exact .absent hd
    | some definition =>
      cases hs : s.status[id.index]? with
      | none => exact .unknown hs
      | some status =>
        cases status with
        | notStarted => exact absurd hs (other₃ definition hd)
        | inProgress => exact absurd hs (other₂ definition hd)
        | done => exact absurd hs (other₁ definition hd)
        | failed => exact .failed hd hs

/-! ## Calls inside each other -/

section Nested

variable {a : Arena} {s₀ s t : DerivationState} {id : TypeId} {fuel : Nat}

/-- The state is orderly, and comes after an earlier one. -/
structure Proceeds (a : Arena) (s₀ s : DerivationState) : Prop where
  orderly : Orderly a s
  onward : Onward s₀ s

/-- While the definition of a type is looked at, the type is in progress. -/
theorem Proceeds.pending (h : Proceeds a (started id s) t) :
    t.status[id.index]? = some .inProgress := by
  have last : t.stack = s.stack ++ [id] := h.onward.stack
  exact h.orderly.pending.mp (last ▸ List.mem_append_right _ (List.mem_singleton_self id))

theorem upholds_needOf {P : DerivationState → Prop} {ask : TypeId → StateM DerivationState Bool}
    (h : Keeps P (ask id)) : Upholds P (needOf ask id) := by
  refine .bind (.ofKeeps h) fun found => ?_
  split
  · exact .pure ()
  · exact .throw none

theorem proceeds_definition {need : Need} {definition : TypeDefinition}
    {r : Except (Option Error) TypeInfo}
    (inner : ∀ other, Upholds (Proceeds a (started id s)) (need other)) (orderly : Orderly a s)
    (fresh : s.status[id.index]? = some .notStarted)
    (hr : (deriveDefinition a need id definition).run.run (started id s) = (r, t)) :
    Proceeds a (started id s) t := by
  have looked := upholds_deriveDefinition (a := a) inner id definition (started id s)
    ⟨orderly.start fresh, .refl _⟩
  rwa [hr] at looked

theorem Called.proceeds {b : Bool} (h : Called a fuel id s b t)
    (inner : ∀ other, Upholds (Proceeds a (started id s)) (needOf (derive a fuel) other))
    (orderly : Orderly a s) : Proceeds a s t := by
  cases h with
  | absent _ => exact ⟨orderly, .refl s⟩
  | unknown _ => exact ⟨orderly, .refl s⟩
  | done _ _ => exact ⟨orderly, .refl s⟩
  | failed _ _ => exact ⟨orderly, .refl s⟩
  | circle _ _ reported => exact ⟨reported.orderly orderly, reported.onward⟩
  | @derived definition r u _ hd fresh hr finished =>
    have looked := proceeds_definition inner orderly fresh hr
    obtain ⟨orderly', onward⟩ := finished.proceeds fresh looked.orderly looked.onward
    exact ⟨orderly', onward⟩

/-- By induction on the number of types that can still be in progress. -/
theorem keeps_proceeds (s₀ : DerivationState) (fuel : Nat) (id : TypeId) :
    Keeps (Proceeds a s₀) (derive a fuel id) := by
  induction fuel generalizing id s₀ with
  | zero => exact .pure false
  | succ fuel ih =>
    intro s h
    have := (called_derive a fuel id s).proceeds (fun other => upholds_needOf (ih _ other)) h.orderly
    exact ⟨this.orderly, h.onward.trans this.onward⟩

theorem proceeds_derive (fuel : Nat) (id : TypeId) (orderly : Orderly a s) :
    Proceeds a s ((derive a fuel id).run s).2 :=
  keeps_proceeds s fuel id s ⟨orderly, .refl s⟩

/-- The answer decides whether what needs the type can go on. -/
theorem run_needOf (ask : TypeId → StateM DerivationState Bool) {b : Bool}
    (h : (ask id).run s = (b, t)) :
    (needOf ask id).run.run s = (if b then .ok () else .error none, t) := by
  have run : (needOf ask id).run.run s =
      ((if ((ask id).run s).1 then return () else throw none : Derive Unit)).run.run
        ((ask id).run s).2 := rfl
  rw [run, h]
  cases b <;> rfl

/-- Whoever needs a type after the given state, and sees to what is asked before, gets an answer of
which is true what is said afterwards. -/
def Meets (a : Arena) (pre : TypeId → DerivationState → Prop)
    (post : TypeId → Bool → DerivationState → Prop) (s₀ : DerivationState) (need : Need) : Prop :=
  ∀ id s, Proceeds a s₀ s → pre id s →
    (∃ t, Yields (need id) s () t ∧ Proceeds a s t ∧ post id true t) ∨
      ∃ t, Fails (need id) s none t ∧ Proceeds a s t ∧ post id false t

/-- What is said of an answer is true if it is true of a single call, provided that it is of those that
are made inside. By induction on the number of types that can still be in progress; all of the arena
are too many. -/
theorem derive_meets {pre : TypeId → DerivationState → Prop}
    {post : TypeId → Bool → DerivationState → Prop}
    (asked : ∀ {fuel id s b t}, Orderly a s → pre id s →
      Meets a pre post (started id s) (needOf (derive a fuel)) → Called a fuel id s b t →
        post id b t)
    (enough : a.types.size < fuel + s.stack.length) (orderly : Orderly a s) (before : pre id s) :
    post id ((derive a fuel id).run s).1 ((derive a fuel id).run s).2 := by
  induction fuel generalizing id s with
  | zero =>
    have := orderly.length_le
    omega
  | succ fuel ih =>
    refine asked orderly before (fun other u proceeds before => ?_) (called_derive a fuel id s)
    have deeper : u.stack.length = s.stack.length + 1 := by
      rw [proceeds.onward.stack]
      exact List.length_append
    have answer := ih (by omega) proceeds.orderly before
    have after := proceeds_derive fuel other proceeds.orderly
    rcases hrun : (derive a fuel other).run u with ⟨b, v⟩
    rw [hrun] at answer after
    have run := run_needOf (derive a fuel) hrun
    cases b with
    | true => exact Or.inl ⟨v, run, after, answer⟩
    | false => exact Or.inr ⟨v, run, after, answer⟩

end Nested

end Xsd.Derivation
