import Mathlib
import Xsd.Proofs.Derivation.Agreement
import Xsd.Proofs.Derivation.Calls
import Xsd.Proofs.Derivation.Refinement

/-!
# Rounds of derivation

What types amount to, with no order in which they are demanded. In each round the types get an entry
of which the needed ones got theirs before; what has been entered stays as it is, and after some round
there is nothing to add. A type that needs itself never gets an entry.
-/

namespace Xsd.Derivation

open DerivedTypes

/-! ## Bases in the table -/

/-- The base of a derived type is derived, unless it is one of the two most general types. -/
def Based : Claim := fun d _ info =>
  ∀ base, info.base = some base →
    base = .anyType ∨ base = .anySimpleType ∨ (d.get? base).isSome

theorem Based.mono {d e : DerivedTypes} {id : TypeId} {info : TypeInfo} (below : d.Below e)
    (h : Based d id info) : Based e id info := by
  intro base hb
  refine (h base hb).imp_right (Or.imp_right fun entry => ?_)
  obtain ⟨info', hi⟩ := Option.isSome_iff_exists.mp entry
  exact Option.isSome_iff_exists.mpr ⟨info', below hi⟩

theorem based_isInductive (a : Arena) : Claim.IsInductive Based a where
  mono := Based.mono
  made {need id definition s info t} _ hneed sound h := by
    cases definition with
    | simple definition =>
      by_cases special : id = .anySimpleType
      · subst special
        obtain ⟨rfl, rfl⟩ := yields_pure_iff.mp h
        rintro _ ⟨⟩
        exact Or.inl rfl
      · cases yields_deriveSimple special h with
        | restriction _ _ simple _ _ =>
          rintro _ ⟨⟩
          obtain ⟨info, entry, -⟩ := get?_of_simple? simple
          exact Or.inr (Or.inr (Option.isSome_iff_exists.mpr ⟨info, entry⟩))
        | list _ _ _ _ =>
          rintro _ ⟨⟩
          exact Or.inr (Or.inl rfl)
        | union _ =>
          rintro _ ⟨⟩
          exact Or.inr (Or.inl rfl)
    | complex definition =>
      by_cases special : id = .anyType
      · subst special
        obtain ⟨rfl, rfl⟩ := yields_pure_iff.mp h
        rintro _ ⟨⟩
      · obtain ⟨baseId, base, c, derives⟩ := yields_deriveComplex hneed sound special h
        cases derives.eq
        rintro _ ⟨⟩
        exact Or.inr (Or.inr (Option.isSome_iff_exists.mpr ⟨base, derives.entry⟩))

/-- What two tables have of the same types is the same, and the bases are there. -/
structure Consistent (d e : DerivedTypes) : Prop where
  size : d.types.size = e.types.size
  same : ∀ {id info info'}, d.get? id = some info → e.get? id = some info' → info = info'
  anyType : d.get? .anyType = e.get? .anyType
  anySimpleType : d.get? .anySimpleType = e.get? .anySimpleType
  left : ∀ {id info}, d.get? id = some info → Based d id info
  right : ∀ {id info}, e.get? id = some info → Based e id info

namespace Consistent

variable {d e : DerivedTypes} {id base : TypeId}

theorem symm (h : Consistent d e) : Consistent e d where
  size := h.size.symm
  same hd he := (h.same he hd).symm
  anyType := h.anyType.symm
  anySimpleType := h.anySimpleType.symm
  left := h.right
  right := h.left

/-- From a type of which the tables have the same, its bases are the same. -/
theorem get?_base (h : Consistent d e) (shared : d.get? id = e.get? id)
    (hb : d.base? id = some base) : d.get? base = e.get? base := by
  obtain ⟨info, entry, hbase⟩ := Option.bind_eq_some_iff.mp hb
  rcases h.left entry base hbase with rfl | rfl | there
  · exact h.anyType
  · exact h.anySimpleType
  · rcases h.right (shared ▸ entry) base hbase with rfl | rfl | there'
    · exact h.anyType
    · exact h.anySimpleType
    · obtain ⟨x, hx⟩ := Option.isSome_iff_exists.mp there
      obtain ⟨y, hy⟩ := Option.isSome_iff_exists.mp there'
      rw [hx, hy, h.same hx hy]

/-- By induction on the number of bases that are still looked at. -/
theorem bases_eq (h : Consistent d e) (shared : d.get? id = e.get? id) (fuel : Nat)
    (seen : List TypeId) : d.bases fuel seen id = e.bases fuel seen id := by
  induction fuel generalizing seen id with
  | zero => rfl
  | succ fuel ih =>
    have same : e.base? id = d.base? id := by rw [base?, base?, shared]
    unfold bases
    rw [same]
    cases hb : d.base? id with
    | none => rfl
    | some base =>
      dsimp only
      rw [ih (h.get?_base shared hb)]

theorem isDerivedFrom_eq (h : Consistent d e) (shared : d.get? id = e.get? id) :
    d.isDerivedFrom id base = e.isDerivedFrom id base := by
  rw [isDerivedFrom, isDerivedFrom, chain, chain, h.size, h.bases_eq shared]

end Consistent

section

variable {a : Arena} {R : DerivationState → DerivationState → Prop} {need need' : Need}

theorem compatible_of_consistent (consistent : ∀ {s t}, R s t → Consistent s.derived t.derived) :
    Compatible a R (fun _ _ => True) False where
  chains hR shared := by
    obtain ⟨info, entry, entry'⟩ := shared
    exact (consistent hR).isDerivedFrom_eq (entry.trans entry'.symm)
  plain _ _ _ _ _ := trivial
  stops _ _ := trivial

/-- In consistent tables a type has one result, unless the first derivation fails. -/
theorem agrees_deriveDefinition (consistent : ∀ {s t}, R s t → Consistent s.derived t.derived)
    (needs : Need.Agree R (fun _ _ => True) (fun _ => True) need need') {id : TypeId}
    {definition : TypeDefinition} (hd : a.type? id = some definition) :
    Agrees R (deriveDefinition a need id definition) (deriveDefinition a need' id definition)
      (fun _ _ => True) fun _ => R := by
  cases definition with
  | simple definition =>
    exact (agrees_deriveSimple (compatible_of_consistent (a := a) consistent) needs
      (fun no => no.elim) fun _ _ _ _ => trivial).weaken (fun _ _ h => h) (fun _ _ h => h)
        fun _ _ _ h => h.1
  | complex definition =>
    exact (agrees_deriveComplex needs (fun no => no.elim) hd (fun _ _ _ _ _ => trivial)
      (fun _ => compatible_of_consistent fun h => consistent h.1) (fun _ _ => trivial)
        fun _ _ => trivial).weaken (fun _ _ h => h) (fun _ _ h => h) fun _ _ _ h => h.1

end

/-! ## What a type amounts to by a table -/

/-- Only types that have been derived may be needed. -/
def Need.present : Need := fun id => discard (derivedInfo id)

theorem yields_present {s : DerivationState} {id : TypeId} {info : TypeInfo}
    (h : s.derived.get? id = some info) : Yields (Need.present id) s () s := by
  change (discard (Derive.expect (s.derived.get? id)) : Derive Unit).run.run s = _
  rw [h]
  rfl

theorem fails_present {s : DerivationState} {id : TypeId} (h : s.derived.get? id = none) :
    Fails (Need.present id) s none s := by
  change (discard (Derive.expect (s.derived.get? id)) : Derive Unit).run.run s = _
  rw [h]
  rfl

theorem upholds_present {P : DerivationState → Prop} (id : TypeId) : Upholds P (Need.present id) :=
  .discard (.bind .get fun _ => upholds_expect _)

/-- The state in which the types of a table have been derived, and none is in progress. -/
def stateOf (d : DerivedTypes) : DerivationState :=
  ⟨d, Array.replicate d.types.size .done, [], [], []⟩

/-- The result for a type if the types of the table may be needed. -/
def outcome (a : Arena) (d : DerivedTypes) (id : TypeId) : Option TypeInfo :=
  (a.type? id).bind fun definition =>
    ((deriveDefinition a Need.present id definition).run.run (stateOf d)).1.toOption

section Outcome

variable {a : Arena} {d e : DerivedTypes} {id : TypeId} {info : TypeInfo}

theorem outcome_eq_some_iff :
    outcome a d id = some info ↔ ∃ definition, a.type? id = some definition ∧
      Yields (deriveDefinition a Need.present id definition) (stateOf d) info (stateOf d) := by
  rw [outcome, Option.bind_eq_some_iff]
  refine exists_congr fun definition => and_congr_right fun _ => ?_
  have unchanged : ((deriveDefinition a Need.present id definition).run.run (stateOf d)).2 =
      stateOf d :=
    upholds_deriveDefinition (P := (· = stateOf d)) upholds_present id definition _ rfl
  unfold Yields
  rcases hr : (deriveDefinition a Need.present id definition).run.run (stateOf d) with ⟨r, t⟩
  rw [hr] at unchanged
  change t = stateOf d at unchanged
  subst unchanged
  constructor
  · intro h
    cases r with
    | ok x =>
      cases h
      rfl
    | error e => cases h
  · rintro ⟨⟩
    rfl

theorem sound_stateOf (based : ∀ {id info}, d.get? id = some info → Based d id info) :
    Sound Based (stateOf d) where
  done {id info} h := by
    have found : d.types[id.index]? = some (some info) := Option.join_eq_some_iff.mp h
    exact Array.getElem?_replicate.trans (if_pos (Array.getElem?_eq_some_iff.mp found).1)
  holds := based

theorem based_outcome (based : ∀ {id info}, d.get? id = some info → Based d id info)
    (h : outcome a d id = some info) : Based d id info := by
  obtain ⟨definition, hd, yields⟩ := outcome_eq_some_iff.mp h
  exact (based_isInductive a).made hd (fun _ other => upholds_present other)
    (sound_stateOf based) yields

/-- With more types the result stays what it is. -/
theorem outcome_mono (consistent : Consistent d e) (below : d.Below e)
    (h : outcome a d id = some info) : outcome a e id = some info := by
  obtain ⟨definition, hd, yields⟩ := outcome_eq_some_iff.mp h
  let R : DerivationState → DerivationState → Prop := fun s t => s = stateOf d ∧ t = stateOf e
  have needs : Need.Agree R (fun _ _ => True) (fun _ => True) Need.present Need.present := by
    rintro K other _ _ _ ⟨⟨rfl, rfl⟩, shares⟩
    cases entry : d.get? other with
    | none => exact Or.inr ⟨none, stateOf d, fails_present entry, trivial⟩
    | some info =>
      refine Or.inl ⟨(), stateOf d, stateOf e, yields_present entry, yields_present (below entry),
        ⟨rfl, rfl⟩, ?_⟩
      rintro x (rfl | mem)
      · exact ⟨info, entry, below entry⟩
      · exact shares x mem
  rcases agrees_deriveDefinition (R := R) (fun hR => hR.1 ▸ hR.2 ▸ consistent) needs hd
    (stateOf d) (stateOf e) ⟨rfl, rfl⟩ with ⟨info', s, t, hy, hy', rfl, rfl⟩ | ⟨e', s, hf, -⟩
  · cases yields.symm.trans hy
    exact outcome_eq_some_iff.mpr ⟨definition, hd, hy'⟩
  · exact absurd hf yields.not_fails

end Outcome

/-! ## Rounds -/

/-- What a type amounts to by a table, except that nothing changes for types at which a state shows
that they have been looked at. -/
def nextRound (a : Arena) (s : DerivationState) (d : DerivedTypes) : DerivedTypes :=
  ⟨Array.ofFn fun i : Fin a.types.size =>
    if s.status[i.val]? = some .notStarted then outcome a d ⟨i⟩ else s.derived.get? ⟨i⟩⟩

/-- The table after some rounds that begin in a state. -/
def rounds (a : Arena) (s : DerivationState) : Nat → DerivedTypes
  | 0 => s.derived
  | n + 1 => nextRound a s (rounds a s n)

/-- The type gets the entry in some round. -/
def Comes (a : Arena) (s : DerivationState) (id : TypeId) (info : TypeInfo) : Prop :=
  ∃ n, (rounds a s n).get? id = some info

/-- No type is in progress, derived types have their bases, and the two most general types have been
looked at. -/
structure IsReady (a : Arena) (s : DerivationState) : Prop where
  orderly : Orderly a s
  idle : s.stack = []
  based : ∀ {id info}, s.derived.get? id = some info → Based s.derived id info
  anyType : s.status[TypeId.anyType.index]? ≠ some .notStarted
  anySimpleType : s.status[TypeId.anySimpleType.index]? ≠ some .notStarted

section Rounds

variable {a : Arena} {s : DerivationState} {id : TypeId} {info info' : TypeInfo} {m n : Nat}

theorem Orderly.get?_nextRound (orderly : Orderly a s) (d : DerivedTypes) (id : TypeId) :
    (nextRound a s d).get? id =
      if s.status[id.index]? = some .notStarted then outcome a d id else s.derived.get? id := by
  change ((Array.ofFn fun i : Fin a.types.size => _)[id.index]?).join = _
  rw [Array.getElem?_ofFn]
  by_cases bound : id.index < a.types.size
  · rw [dif_pos bound]
    rfl
  · have none : s.status[id.index]? = none := by
      rw [Array.getElem?_eq_none_iff, orderly.statuses]
      exact Nat.le_of_not_lt bound
    rw [dif_neg bound, none, if_neg (by decide), orderly.get?_eq_none (by rw [none]; decide)]
    rfl

namespace IsReady

theorem size_rounds (ready : IsReady a s) (n : Nat) : (rounds a s n).types.size = a.types.size := by
  cases n with
  | zero => exact ready.orderly.entries
  | succ n => exact Array.size_ofFn

theorem get?_rounds_zero (ready : IsReady a s) (fresh : s.status[id.index]? = some .notStarted) :
    (rounds a s 0).get? id = none :=
  ready.orderly.get?_eq_none (by rw [fresh]; decide)

theorem get?_rounds_succ (ready : IsReady a s) (fresh : s.status[id.index]? = some .notStarted)
    (n : Nat) : (rounds a s (n + 1)).get? id = outcome a (rounds a s n) id :=
  (ready.orderly.get?_nextRound _ id).trans (if_pos fresh)

/-- What has been looked at before stays as it is. -/
theorem get?_rounds (ready : IsReady a s) (looked : s.status[id.index]? ≠ some .notStarted)
    (n : Nat) : (rounds a s n).get? id = s.derived.get? id := by
  cases n with
  | zero => rfl
  | succ n => exact (ready.orderly.get?_nextRound _ id).trans (if_neg looked)

/-- All that could contradict each other in two rounds is what is entered in between. -/
theorem consistent_of_below (ready : IsReady a s) (below : (rounds a s m).Below (rounds a s n))
    (left : ∀ {id info}, (rounds a s m).get? id = some info → Based (rounds a s m) id info)
    (right : ∀ {id info}, (rounds a s n).get? id = some info → Based (rounds a s n) id info) :
    Consistent (rounds a s m) (rounds a s n) where
  size := (ready.size_rounds m).trans (ready.size_rounds n).symm
  same hm hn := Option.some.inj ((below hm).symm.trans hn)
  anyType := (ready.get?_rounds ready.anyType m).trans (ready.get?_rounds ready.anyType n).symm
  anySimpleType :=
    (ready.get?_rounds ready.anySimpleType m).trans (ready.get?_rounds ready.anySimpleType n).symm
  left := left
  right := right

/-- A round adds entries, and all that it has are based. -/
theorem round_spec (ready : IsReady a s) (n : Nat) :
    (∀ {id info}, (rounds a s n).get? id = some info → Based (rounds a s n) id info) ∧
      (rounds a s n).Below (rounds a s (n + 1)) := by
  induction n with
  | zero =>
    refine ⟨ready.based, fun {id info} entry => ?_⟩
    by_cases fresh : s.status[id.index]? = some .notStarted
    · cases (ready.get?_rounds_zero fresh).symm.trans entry
    · rw [ready.get?_rounds fresh]
      exact entry
  | succ n ih =>
    obtain ⟨based, below⟩ := ih
    have based' : ∀ {id info}, (rounds a s (n + 1)).get? id = some info →
        Based (rounds a s (n + 1)) id info := by
      intro id info entry
      by_cases fresh : s.status[id.index]? = some .notStarted
      · rw [ready.get?_rounds_succ fresh] at entry
        exact (based_outcome based entry).mono below
      · rw [ready.get?_rounds fresh, ← ready.get?_rounds fresh n] at entry
        exact (based entry).mono below
    refine ⟨based', fun {id info} entry => ?_⟩
    by_cases fresh : s.status[id.index]? = some .notStarted
    · rw [ready.get?_rounds_succ fresh] at entry ⊢
      exact outcome_mono (ready.consistent_of_below below based based') below entry
    · rw [ready.get?_rounds fresh] at entry ⊢
      exact entry

theorem based_rounds (ready : IsReady a s) (entry : (rounds a s n).get? id = some info) :
    Based (rounds a s n) id info :=
  (ready.round_spec n).1 entry

theorem rounds_below (ready : IsReady a s) (le : m ≤ n) :
    (rounds a s m).Below (rounds a s n) := by
  induction n, le using Nat.le_induction with
  | base => exact fun entry => entry
  | succ n _ ih => exact fun entry => (ready.round_spec n).2 (ih entry)

theorem comes_unique (ready : IsReady a s) (h : Comes a s id info) (h' : Comes a s id info') :
    info = info' := by
  obtain ⟨m, hm⟩ := h
  obtain ⟨n, hn⟩ := h'
  have left := ready.rounds_below (Nat.le_max_left m n) hm
  have right := ready.rounds_below (Nat.le_max_right m n) hn
  exact Option.some.inj (left.symm.trans right)

theorem comes_iff (ready : IsReady a s) (looked : s.status[id.index]? ≠ some .notStarted) :
    Comes a s id info ↔ s.derived.get? id = some info := by
  constructor
  · rintro ⟨n, entry⟩
    rwa [ready.get?_rounds looked] at entry
  · exact fun entry => ⟨0, entry⟩

theorem index_lt (ready : IsReady a s) (h : Comes a s id info) : id.index < a.types.size := by
  obtain ⟨n, entry⟩ := h
  rw [← ready.size_rounds n]
  exact index_lt_of_isSome (Option.isSome_iff_exists.mpr ⟨info, entry⟩)

/-- There are finitely many types, so the last of them has come after some round. -/
theorem exists_last (ready : IsReady a s) :
    ∃ last, ∀ {id info}, Comes a s id info → (rounds a s last).get? id = some info := by
  let entered : ℕ →o Set (Fin a.types.size) :=
    ⟨fun n => {i | ((rounds a s n).get? ⟨i⟩).isSome}, fun m n le i there => by
      obtain ⟨info, entry⟩ := Option.isSome_iff_exists.mp there
      exact Option.isSome_iff_exists.mpr ⟨info, ready.rounds_below le entry⟩⟩
  obtain ⟨last, stays⟩ := WellFoundedGT.monotone_chain_condition entered
  refine ⟨last, fun {id info} came => ?_⟩
  have bound := ready.index_lt came
  obtain ⟨n, entry⟩ := came
  have later := ready.rounds_below (Nat.le_max_left n last) entry
  have mem : ⟨id.index, bound⟩ ∈ entered last := by
    rw [stays (max n last) (Nat.le_max_right n last)]
    exact Option.isSome_iff_exists.mpr ⟨info, later⟩
  obtain ⟨info', entry'⟩ := Option.isSome_iff_exists.mp mem
  cases ready.comes_unique ⟨n, entry⟩ ⟨last, entry'⟩
  exact entry'

end IsReady

end Rounds

end Xsd.Derivation
