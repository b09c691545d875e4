import Xsd.Proofs.Derivation.Need

/-!
# Entries of the table of derived types

Types are derived on demand and noted once. A fact about an entry that the derivation establishes,
and that further entries do not disturb, holds of all entries in the end.
-/

namespace Xsd

theorem TypeId.index_injective : Function.Injective TypeId.index := by
  rintro ⟨i⟩ ⟨j⟩ rfl
  rfl

/-- The second table has all entries of the first. -/
def DerivedTypes.Below (d e : DerivedTypes) : Prop :=
  ∀ {id info}, d.get? id = some info → e.get? id = some info

theorem DerivedTypes.index_lt_of_isSome {d : DerivedTypes} {id : TypeId}
    (h : (d.get? id).isSome = true) : id.index < d.types.size := by
  obtain ⟨info, entry⟩ := Option.isSome_iff_exists.mp h
  have found : d.types[id.index]? = some (some info) := Option.join_eq_some_iff.mp entry
  exact (Array.getElem?_eq_some_iff.mp found).1

/-- The table with one more entry. -/
def DerivedTypes.enter (d : DerivedTypes) (id : TypeId) (info : TypeInfo) : DerivedTypes :=
  ⟨d.types.setIfInBounds id.index (some info)⟩

theorem DerivedTypes.get?_enter_of_ne {d : DerivedTypes} {id other : TypeId} {info : TypeInfo}
    (h : other ≠ id) : (d.enter id info).get? other = d.get? other := by
  simp [get?, enter, TypeId.index_injective.ne h.symm]

theorem DerivedTypes.get?_enter_self {d : DerivedTypes} {id : TypeId} {info : TypeInfo}
    (bound : id.index < d.types.size) : (d.enter id info).get? id = some info := by
  rw [get?, enter, Array.getElem?_setIfInBounds_self_of_lt bound]
  rfl

theorem DerivedTypes.eq_of_get?_enter {d : DerivedTypes} {id : TypeId} {info info' : TypeInfo}
    (h : (d.enter id info).get? id = some info') : info' = info := by
  rw [get?, enter, Array.getElem?_setIfInBounds, if_pos rfl] at h
  split at h
  · cases h
    rfl
  · cases h

theorem DerivedTypes.below_enter {d : DerivedTypes} {id : TypeId} {info : TypeInfo}
    (h : d.get? id = none) : d.Below (d.enter id info) := by
  intro other info' hi
  have ne : other ≠ id := by
    rintro rfl
    rw [h] at hi
    cases hi
  rw [get?_enter_of_ne ne, hi]

namespace Derivation

/-- What has been derived stays derived, and types in progress stay in progress. -/
structure Extends (s t : DerivationState) : Prop where
  derived : s.derived.Below t.derived
  inProgress : ∀ {i : Nat}, s.status[i]? = some .inProgress → t.status[i]? = some .inProgress

theorem Extends.refl (s : DerivationState) : Extends s s := ⟨fun h => h, fun h => h⟩

theorem Extends.trans {s t u : DerivationState} (h₁ : Extends s t) (h₂ : Extends t u) :
    Extends s u :=
  ⟨fun h => h₂.derived (h₁.derived h), fun h => h₂.inProgress (h₁.inProgress h)⟩

/-- What is said of the entries of a table. -/
abbrev Claim := DerivedTypes → TypeId → TypeInfo → Prop

/-- Types that have an entry are done, and what is said of the entries is true. -/
structure Sound (claim : Claim) (s : DerivationState) : Prop where
  done : ∀ {id info}, s.derived.get? id = some info → s.status[id.index]? = some .done
  holds : ∀ {id info}, s.derived.get? id = some info → claim s.derived id info

/-- The state is sound and extends an earlier one. -/
structure Advances (claim : Claim) (s₀ s : DerivationState) : Prop where
  sound : Sound claim s
  extended : Extends s₀ s

/-- To have other types derived is an advance. -/
def Need.IsSound (claim : Claim) (need : Need) : Prop :=
  ∀ s₀ id, Upholds (Advances claim s₀) (need id)

/-- What is said of an entry is true when it is made and remains so. -/
structure Claim.IsInductive (claim : Claim) (a : Arena) : Prop where
  mono : ∀ {d e id info}, d.Below e → claim d id info → claim e id info
  made : ∀ {need : Need} {id definition s info t}, a.type? id = some definition →
    need.IsSound claim → Sound claim s →
    Yields (deriveDefinition a need id definition) s info t → claim t.derived id info

variable {claim : Claim} {a : Arena} {s t : DerivationState} {id : TypeId}

theorem Sound.get?_eq_none (sound : Sound claim s) (h : s.status[id.index]? ≠ some .done) :
    s.derived.get? id = none := by
  cases hi : s.derived.get? id with
  | none => rfl
  | some info => exact absurd (sound.done hi) h

/-! ## Changes of the state -/

theorem keeps_report {P : DerivationState → Prop}
    (h : ∀ s errors cycles, P s → P { s with errors := errors, cycles := cycles }) (e : Error) :
    Keeps P (Derive.report e) := by
  refine .modify fun s hs => ?_
  split
  · split
    · exact hs
    · exact h s _ _ hs
  · exact h s _ _ hs

/-- The status of a type that is not done is changed. -/
theorem Sound.setStatus (sound : Sound claim s) {status : DerivationStatus}
    (notDone : s.status[id.index]? ≠ some .done) (ht : t.derived = s.derived)
    (hs : t.status = s.status.setIfInBounds id.index status) : Sound claim t where
  done {other info} h := by
    rw [ht] at h
    have done := sound.done h
    have ne : id.index ≠ other.index := by
      intro same
      rw [same] at notDone
      exact notDone done
    rw [hs, Array.getElem?_setIfInBounds, if_neg ne, done]
  holds h := by
    rw [ht] at h ⊢
    exact sound.holds h

/-- An entry is made for a type that is not done. -/
theorem Sound.enter (inductive' : claim.IsInductive a) (sound : Sound claim s) {info : TypeInfo}
    (pending : s.status[id.index]? = some .inProgress) (made : claim s.derived id info)
    (ht : t.derived = s.derived.enter id info)
    (hs : t.status = s.status.setIfInBounds id.index .done) : Sound claim t := by
  have below : s.derived.Below t.derived := by
    rw [ht]
    exact DerivedTypes.below_enter (sound.get?_eq_none (by simp [pending]))
  have cases' : ∀ {other info'}, t.derived.get? other = some info' →
      other = id ∧ info' = info ∨ other ≠ id ∧ s.derived.get? other = some info' := by
    intro other info' h
    rw [ht] at h
    by_cases same : other = id
    · subst same
      exact Or.inl ⟨rfl, DerivedTypes.eq_of_get?_enter h⟩
    · rw [DerivedTypes.get?_enter_of_ne same] at h
      exact Or.inr ⟨same, h⟩
  constructor
  · intro other info' h
    rw [hs, Array.getElem?_setIfInBounds]
    obtain ⟨bound, -⟩ := Array.getElem?_eq_some_iff.mp pending
    split
    · rfl
    · rename_i ne
      rcases cases' h with ⟨rfl, -⟩ | ⟨-, h⟩
      · exact absurd rfl ne
      · exact sound.done h
  · intro other info' h
    rcases cases' h with ⟨rfl, rfl⟩ | ⟨-, h⟩
    · exact inductive'.mono below made
    · exact inductive'.mono below (sound.holds h)

theorem Extends.setStatus {s₀ : DerivationState} (extended : Extends s₀ s)
    (below : s.derived.Below t.derived) {status : DerivationStatus}
    (closed : s₀.status[id.index]? ≠ some .inProgress)
    (hs : t.status = s.status.setIfInBounds id.index status) : Extends s₀ t where
  derived h := below (extended.derived h)
  inProgress {i} h := by
    have ne : id.index ≠ i := by
      rintro rfl
      exact closed h
    rw [hs, Array.getElem?_setIfInBounds, if_neg ne, extended.inProgress h]

/-- A failure is reported unless it has been. -/
theorem finish_error (id : TypeId) (e : Option Error) (s : DerivationState) :
    ((finish id (.error e)).run s).2.derived = s.derived ∧
      ((finish id (.error e)).run s).2.status = s.status.setIfInBounds id.index .failed := by
  cases e with
  | none => exact ⟨rfl, rfl⟩
  | some e =>
    have reported := keeps_report
      (P := fun t => t.derived = s.derived ∧ t.status = s.status) (fun _ _ _ h => h) e
      { s with stack := s.stack.dropLast } ⟨rfl, rfl⟩
    refine ⟨reported.1, ?_⟩
    exact congrArg (·.setIfInBounds id.index .failed) reported.2

theorem advances_errors {s₀ : DerivationState} (s : DerivationState) (errors : List Error)
    (cycles : List (List String)) (h : Advances claim s₀ s) :
    Advances claim s₀ { s with errors := errors, cycles := cycles } where
  sound := ⟨h.sound.done, h.sound.holds⟩
  extended := ⟨h.extended.derived, h.extended.inProgress⟩

/-- A type that has not been started is derived: it is in progress until its definition has been
looked at. -/
theorem advances_derive (inductive' : claim.IsInductive a) {need : Need}
    (hneed : need.IsSound claim) {definition : TypeDefinition} (hd : a.type? id = some definition)
    (fresh : s.status[id.index]? = some .notStarted) (sound : Sound claim s) {u : DerivationState}
    (hu : u = ((start id).run s).2) {r : Except (Option Error) TypeInfo}
    (hr : ((deriveDefinition a need id definition).run.run u) = (r, t)) :
    Advances claim s ((finish id r).run t).2 := by
  subst hu
  obtain ⟨bound, -⟩ := Array.getElem?_eq_some_iff.mp fresh
  have started : Sound claim ((start id).run s).2 :=
    sound.setStatus (by simp [fresh]) rfl rfl
  have advance : Advances claim ((start id).run s).2 t := by
    have := upholds_deriveDefinition (a := a) (hneed ((start id).run s).2) id definition _
      ⟨started, .refl _⟩
    rwa [hr] at this
  have pending : t.status[id.index]? = some .inProgress := by
    refine advance.extended.inProgress ?_
    change (s.status.setIfInBounds id.index .inProgress)[id.index]? = some .inProgress
    rw [Array.getElem?_setIfInBounds_self_of_lt bound]
  have closed : s.status[id.index]? ≠ some .inProgress := by simp [fresh]
  have opened : Extends s ((start id).run s).2 :=
    (Extends.refl s).setStatus (fun h => h) closed rfl
  have extended : Extends s t := opened.trans advance.extended
  cases r with
  | ok info =>
    have made := inductive'.made hd hneed started hr
    refine ⟨advance.sound.enter inductive' pending made rfl rfl, ?_⟩
    refine extended.setStatus ?_ closed rfl
    exact DerivedTypes.below_enter (advance.sound.get?_eq_none (by simp [pending]))
  | error e =>
    obtain ⟨sameTypes, status⟩ := finish_error id e t
    refine ⟨advance.sound.setStatus (by simp [pending]) sameTypes status, ?_⟩
    refine extended.setStatus ?_ closed status
    rw [sameTypes]
    exact fun h => h

theorem need_isSound {derived : TypeId → StateM DerivationState Bool}
    (h : ∀ s₀ id, Keeps (Advances claim s₀) (derived id)) :
    Need.IsSound claim (fun id => do if ← derived id then return () else throw none) := by
  intro s₀ id
  refine .bind (.ofKeeps (h s₀ id)) fun found => ?_
  split
  · exact .pure ()
  · exact .throw none

/-- By induction on the number of types that can still be in progress. -/
theorem keeps_derive (inductive' : claim.IsInductive a) (s₀ : DerivationState) (fuel : Nat)
    (id : TypeId) : Keeps (Advances claim s₀) (derive a fuel id) := by
  induction fuel generalizing id s₀ with
  | zero => exact .pure false
  | succ fuel ih =>
    unfold derive
    refine .getBind fun s hs => ?_
    split
    · exact hs
    · exact Keeps.bind (keeps_report advances_errors _) (fun _ => .pure false) s hs
    · rename_i definition hd fresh
      have advance := advances_derive inductive' (need_isSound ih) hd fresh hs.sound rfl rfl
      exact ⟨advance.sound, hs.extended.trans advance.extended⟩
    · exact hs

/-! ## All types -/

theorem sound_initial (a : Arena) : Sound claim (Derive.initial a) := by
  have none : ∀ {id}, (Derive.initial a).derived.get? id = none := by
    intro id
    change (Array.replicate a.types.size Option.none)[id.index]?.join = Option.none
    rw [Array.getElem?_replicate]
    split <;> rfl
  constructor <;> intro id info h <;> rw [none] at h <;> cases h

theorem keeps_reportFailure {α : Type} {s₀ : DerivationState}
    (result : Except (Option Error) α) : Keeps (Advances claim s₀) (reportFailure result) := by
  unfold reportFailure
  split
  · exact keeps_report advances_errors _
  · exact .pure ()

theorem keeps_checkAttributeGroup (inductive' : claim.IsInductive a) (s₀ : DerivationState)
    (id : AttributeGroupId) : Keeps (Advances claim s₀) (checkAttributeGroup a id) := by
  unfold checkAttributeGroup
  split
  · exact .pure ()
  · have need := need_isSound fun s₀ id => keeps_derive inductive' s₀ (a.types.size + 1) id
    exact .bind (upholds_declared (need s₀) _ _) fun r => keeps_reportFailure r

/-- A claim that each derivation establishes is true of all types of a finished table. -/
theorem deriveAll_holds (inductive' : claim.IsInductive a) {info : TypeInfo}
    (h : (deriveAll a).1.get? id = some info) : claim (deriveAll a).1 id info := by
  have work : Keeps (Advances claim (Derive.initial a)) (do
      a.typeIds.forM fun id => discard (deriveType a id)
      a.groupIds.forM (checkGroup a)
      a.attributeGroupIds.forM (checkAttributeGroup a)) :=
    .bind (.forM fun id => .discard (keeps_derive inductive' _ _ id)) fun _ =>
      .bind (.forM fun id => keeps_reportFailure _) fun _ =>
        .forM (keeps_checkAttributeGroup inductive' _)
  exact (work _ ⟨sound_initial a, .refl _⟩).sound.holds h

end Derivation

end Xsd
