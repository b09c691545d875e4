import Mathlib
import Xsd.Proofs.Derivation.Links

/-!
# Chains of bases

The chain of a derived type goes through all its bases down to the most general type. The derived
types are ordered by their chains, and a literal is looked at after finitely many types.
-/

namespace Xsd

namespace DerivedTypes

variable {d : DerivedTypes} {id base other : TypeId} {line : List TypeId}

/-- All bases of a type, the nearest first. -/
inductive Line (d : DerivedTypes) : TypeId → List TypeId → Prop
  | last {id : TypeId} : d.base? id = none → Line d id []
  | step {id base : TypeId} {line : List TypeId} : d.base? id = some base → Line d base line →
    Line d id (base :: line)

theorem links_of_base? (h : d.base? id = some base) : d.Links id base := by
  obtain ⟨info, entry, hbase⟩ := Option.bind_eq_some_iff.mp h
  exact ⟨info, entry, TypeInfo.mem_links_iff.mpr (Or.inl hbase)⟩

theorem exists_line (wf : WellFounded fun other id => d.Links id other) (id : TypeId) :
    ∃ line, d.Line id line := by
  induction id using wf.induction with
  | _ id ih =>
    cases hb : d.base? id with
    | none => exact ⟨[], .last hb⟩
    | some base =>
      obtain ⟨line, h⟩ := ih base (links_of_base? hb)
      exact ⟨base :: line, .step hb h⟩

theorem acyclic_of_wellFounded (wf : WellFounded fun other id => d.Links id other) (id : TypeId) :
    ¬ Relation.TransGen d.Links id id := by
  intro circle
  rw [← Relation.transGen_swap] at circle
  exact wf.transGen.asymmetric _ _ circle circle

theorem Line.transGen (h : d.Line id line) (mem : other ∈ line) :
    Relation.TransGen d.Links id other := by
  induction h with
  | last _ => cases mem
  | step hb _ ih =>
    rcases List.mem_cons.mp mem with rfl | mem
    · exact .single (links_of_base? hb)
    · exact .head (links_of_base? hb) (ih mem)

theorem Line.nodup (acyclic : ∀ id, ¬ Relation.TransGen d.Links id id) (h : d.Line id line) :
    (id :: line).Nodup := by
  induction h with
  | last _ => exact List.nodup_singleton _
  | @step id base line hb rest ih =>
    refine List.nodup_cons.mpr ⟨fun mem => acyclic id ?_, ih⟩
    exact (Line.step hb rest).transGen mem

theorem Line.unique {line' : List TypeId} (h : d.Line id line) (h' : d.Line id line') :
    line = line' := by
  induction h generalizing line' with
  | last hb =>
    cases h' with
    | last _ => rfl
    | step hb' _ => cases hb.symm.trans hb'
  | step hb _ ih =>
    cases h' with
    | last hb' => cases hb.symm.trans hb'
    | step hb' rest =>
      cases hb.symm.trans hb'
      rw [ih rest]

/-- From each base on the line goes on as it does from there. -/
theorem Line.exists_suffix (h : d.Line id line) (mem : other ∈ id :: line) :
    ∃ rest, d.Line other rest ∧ other :: rest <:+ id :: line := by
  induction h with
  | last hb =>
    cases List.mem_singleton.mp mem
    exact ⟨[], .last hb, List.suffix_rfl⟩
  | @step id base line hb rest ih =>
    rcases List.mem_cons.mp mem with rfl | mem
    · exact ⟨base :: line, .step hb rest, List.suffix_rfl⟩
    · obtain ⟨rest', line', suffix'⟩ := ih mem
      exact ⟨rest', line', suffix'.trans (List.suffix_cons id _)⟩

/-- With enough fuel all bases are found, as none of them has been seen before. -/
theorem Line.bases_eq {fuel : Nat} {seen : List TypeId} (h : d.Line id line)
    (enough : line.length ≤ fuel) (unseen : ∀ other ∈ line, other ∉ seen) (nodup : line.Nodup) :
    d.bases fuel seen id = line := by
  induction h generalizing fuel seen with
  | last hb =>
    cases fuel with
    | zero => rfl
    | succ fuel =>
      unfold bases
      rw [hb]
  | @step id base line hb rest ih =>
    cases fuel with
    | zero => cases enough
    | succ fuel =>
      obtain ⟨new, nodup⟩ := List.nodup_cons.mp nodup
      have unseenBase : seen.contains base = false := by
        rw [List.contains_eq_mem, decide_eq_false_iff_not]
        exact unseen base List.mem_cons_self
      unfold bases
      simp only [hb, unseenBase, Bool.false_eq_true, if_false]
      refine congrArg _ (ih (Nat.le_of_succ_le_succ enough) (fun other mem seen' => ?_) nodup)
      rcases List.mem_cons.mp seen' with rfl | seen'
      · exact new mem
      · exact unseen other (List.mem_cons_of_mem _ mem) seen'

/-- Different derived types have different numbers, so there are no more of them than numbers. -/
theorem length_le_size {ids : List TypeId} (nodup : ids.Nodup)
    (derived : ∀ id ∈ ids, (d.get? id).isSome = true) : ids.length ≤ d.types.size :=
  length_le_of_index_lt TypeId.index_injective nodup fun id mem =>
    index_lt_of_isSome (derived id mem)

theorem Line.chain_eq (h : d.Line id line) (nodup : (id :: line).Nodup)
    (derived : ∀ other ∈ id :: line, (d.get? other).isSome = true) :
    d.chain id = id :: line := by
  have few := length_le_size nodup derived
  obtain ⟨new, nodup⟩ := List.nodup_cons.mp nodup
  refine congrArg _ (h.bases_eq (Nat.le_of_succ_le few) (fun other mem seen => ?_) nodup)
  cases List.mem_singleton.mp seen
  exact new mem

/-! ## Looking at literals through the table -/

/-- Some member of a union admits the literal; members that are not derived are left out. -/
def checkSome (check : ValueType → String → ExceptT Violation Option String) (d : DerivedTypes) :
    List TypeId → String → ExceptT (List String) Option Unit
  | [], _ => throw []
  | id :: rest, literal =>
    match d.simple? id with
    | none => checkSome check d rest literal
    | some member => ExceptT.mk do
      match ← (check member literal).run with
      | .ok _ => return .ok ()
      | .error v =>
        match ← (checkSome check d rest literal).run with
        | .ok () => return .ok ()
        | .error reasons => return .error (v.message :: reasons)

/-- Look at a literal and take the types of items and members from the table, by number. `fuel`
bounds the number of types that are looked at inside each other; nothing is said without fuel. -/
def checkThrough (d : DerivedTypes) :
    (fuel : Nat) → ValueType → String → ExceptT Violation Option String
  | 0, _, _ => ExceptT.mk none
  | _ + 1, .atomic facets builtin, text => do
    let literal := facets.whiteSpaceMode.normalize text
    liftM (ValueType.checkAtomic facets builtin literal)
    return literal
  | fuel + 1, .list facets itemId _, text => do
    let literal := facets.whiteSpaceMode.normalize text
    match d.simple? itemId with
    | none =>
      throw (.of .unknownComponent s!"{(ComponentId.type itemId).render} is not derived")
    | some item =>
      let items := Text.words literal
      items.forM fun word => discard (checkThrough d fuel item word)
      liftM (facets.check literal (some items.length) .unordered)
      return literal
  | fuel + 1, .union facets memberIds _, text => ExceptT.mk do
    let literal := facets.whiteSpaceMode.normalize text
    match ← (checkSome (checkThrough d fuel) d memberIds literal).run with
    | .error reasons => return .error (ValueType.noMember literal reasons)
    | .ok () => return (facets.check literal none .unordered).map fun _ => literal

/-- Through the table comes the same answer as from the types that the type carries. -/
def Answers (d : DerivedTypes) (fuel : Nat) (t : ValueType) : Prop :=
  ∀ text, d.checkThrough fuel t text = ExceptT.mk (some (t.check text))

variable {fuel : Nat} {facets : FacetSet}

theorem answers_atomic {builtin : Option Builtin} :
    d.Answers (fuel + 1) (.atomic facets builtin) := by
  intro text
  rw [checkThrough, ValueType.check]
  cases ValueType.checkAtomic facets builtin (facets.whiteSpaceMode.normalize text) <;> rfl

theorem forM_answers {item : ValueType} (h : d.Answers fuel item) (items : List String) :
    (items.forM fun word => discard (d.checkThrough fuel item word)) =
      ExceptT.mk (some (items.forM fun word => (discard (item.check word) : Except Violation Unit))) := by
  induction items with
  | nil => rfl
  | cons word items ih =>
    change discard (d.checkThrough fuel item word) >>= (fun _ => items.forM _) = _
    rw [ih, h word]
    change _ = ExceptT.mk (some (discard (item.check word) >>= fun _ => items.forM _))
    cases item.check word <;> rfl

theorem answers_list {itemId : TypeId} {item : ValueType} (simple : d.simple? itemId = some item)
    (h : d.Answers fuel item) : d.Answers (fuel + 1) (.list facets itemId item) := by
  intro text
  rw [checkThrough, ValueType.check]
  simp only [simple, forM_answers h]
  generalize ((Text.words (facets.whiteSpaceMode.normalize text)).forM fun word =>
    discard (item.check word) : Except Violation Unit) = looked
  generalize facets.check _ _ _ = fits
  cases looked with
  | error v => rfl
  | ok _ => cases fits <;> rfl

theorem checkSome_eq {memberIds : List TypeId} {members : List ValueType}
    (carries : List.Forall₂ (fun id t => d.simple? id = some t) memberIds members)
    (h : ∀ t ∈ members, d.Answers fuel t) (literal : String) :
    checkSome (d.checkThrough fuel) d memberIds literal =
      ExceptT.mk (some (ValueType.checkMembers members literal)) := by
  induction carries with
  | nil =>
    rw [checkSome, ValueType.checkMembers]
    rfl
  | @cons id member memberIds members simple _ ih =>
    rw [checkSome, ValueType.checkMembers]
    simp only [simple, h member List.mem_cons_self literal,
      ih fun t mem => h t (List.mem_cons_of_mem _ mem)]
    cases member.check literal with
    | ok _ => rfl
    | error v => cases ValueType.checkMembers members literal <;> rfl

theorem answers_union {memberIds : List TypeId} {members : List ValueType}
    (carries : List.Forall₂ (fun id t => d.simple? id = some t) memberIds members)
    (h : ∀ t ∈ members, d.Answers fuel t) :
    d.Answers (fuel + 1) (.union facets memberIds members) := by
  intro text
  rw [checkThrough, ValueType.check]
  simp only [checkSome_eq carries h]
  cases ValueType.checkMembers members (facets.whiteSpaceMode.normalize text) with
  | error reasons => rfl
  | ok _ =>
    simp only
    cases facets.check (facets.whiteSpaceMode.normalize text) none .unordered <;> rfl

/-- There is fuel for all members of a union if there is for each. -/
theorem exists_fuel {memberIds : List TypeId} {members : List ValueType}
    (carries : List.Forall₂ (fun id t => d.simple? id = some t) memberIds members)
    (each : ∀ id ∈ memberIds, ∀ t, d.valueType? id = some t → ∃ n, ∀ fuel ≥ n, d.Answers fuel t) :
    ∃ n, ∀ fuel ≥ n, ∀ t ∈ members, d.Answers fuel t := by
  induction carries with
  | nil => exact ⟨0, fun _ _ t mem => by cases mem⟩
  | @cons id member memberIds members simple _ ih =>
    obtain ⟨n, first⟩ := each id List.mem_cons_self member (valueType?_of_simple? simple)
    obtain ⟨k, rest⟩ := ih fun id mem => each id (List.mem_cons_of_mem _ mem)
    refine ⟨max n k, fun fuel enough t mem => ?_⟩
    rcases List.mem_cons.mp mem with rfl | mem
    · exact first fuel (le_of_max_le_left enough)
    · exact rest fuel (le_of_max_le_right enough) t mem

/-- By induction along the links: a type needs one round more than those to which it leads. -/
theorem exists_answers (wf : WellFounded fun other id => d.Links id other)
    (linked : ∀ {id info}, d.get? id = some info → Derivation.Linked d id info) (id : TypeId) :
    ∀ t, d.valueType? id = some t → ∃ n, ∀ fuel ≥ n, d.Answers fuel t := by
  induction id using wf.induction with
  | _ id ih =>
    intro t ht
    obtain ⟨info, entry, literals⟩ := Option.bind_eq_some_iff.mp (valueType?_eq d id ▸ ht)
    have leads : ∀ other ∈ t.links, d.Links id other := fun other mem =>
      ⟨info, entry, TypeInfo.mem_links_iff.mpr (Or.inr ⟨t, literals, mem⟩)⟩
    have carries := (linked entry).carries literals
    suffices rounds : ∃ n, ∀ fuel ≥ n, d.Answers (fuel + 1) t by
      obtain ⟨n, h⟩ := rounds
      refine ⟨n + 1, fun fuel enough => ?_⟩
      obtain ⟨k, rfl⟩ := Nat.exists_eq_add_of_le' enough
      exact h (k + n) (Nat.le_add_left n k)
    cases t with
    | atomic facets builtin => exact ⟨0, fun _ _ => answers_atomic⟩
    | list facets itemId item =>
      obtain ⟨n, h⟩ := ih itemId (leads itemId (List.mem_singleton_self itemId)) item
        (valueType?_of_simple? carries)
      exact ⟨n, fun fuel enough => answers_list carries (h fuel enough)⟩
    | union facets memberIds members =>
      obtain ⟨n, h⟩ := exists_fuel carries fun other mem => ih other (leads other mem)
      exact ⟨n, fun fuel enough => answers_union carries (h fuel enough)⟩

/-! ## The order of the derived types -/

/-- The derived types are ordered by their chains, which all end at the most general type, and
nothing that leads from type to type leads back. -/
structure IsHierarchy (d : DerivedTypes) : Prop where
  nodup : ∀ {id}, (d.get? id).isSome = true → (d.chain id).Nodup
  derived : ∀ {id other}, (d.get? id).isSome = true → other ∈ d.chain id →
    (d.get? other).isSome = true
  last : ∀ {id}, (d.get? id).isSome = true → (d.chain id).getLast? = some .anyType
  suffix : ∀ {id other}, (d.get? id).isSome = true → other ∈ d.chain id →
    d.chain other <:+ d.chain id
  refl : ∀ {id}, (d.get? id).isSome = true → d.isDerivedFrom id id = true
  antisymm : ∀ {id other}, (d.get? id).isSome = true → (d.get? other).isSome = true →
    d.isDerivedFrom id other = true → d.isDerivedFrom other id = true → id = other
  trans : ∀ {id other base}, (d.get? id).isSome = true → (d.get? other).isSome = true →
    d.isDerivedFrom id other = true → d.isDerivedFrom other base = true →
    d.isDerivedFrom id base = true
  acyclic : ∀ id, ¬ Relation.TransGen d.Links id id
  terminates : ∀ {id t}, d.valueType? id = some t → ∃ n, ∀ fuel ≥ n, d.Answers fuel t

/-- What makes a hierarchy of a table: the two most general types are there, and all others lead to
types that are. -/
structure IsRooted (d : DerivedTypes) : Prop where
  linked : ∀ {id info}, d.get? id = some info → Derivation.Linked d id info
  anyType : (d.get? .anyType).isSome = true
  anySimpleType : (d.get? .anySimpleType).isSome = true

namespace IsRooted

theorem derived_of_base? (rooted : d.IsRooted) (h : d.base? id = some base) :
    (d.get? base).isSome = true := by
  obtain ⟨info, entry, mem⟩ := links_of_base? h
  cases (rooted.linked entry).settled base mem with
  | general general =>
    rcases general with rfl | rfl
    · exact rooted.anyType
    · exact rooted.anySimpleType
  | entry entry _ => rw [entry, Option.isSome_some]

theorem derived_of_line (rooted : d.IsRooted) (h : d.Line id line)
    (derived : (d.get? id).isSome = true) : ∀ other ∈ id :: line, (d.get? other).isSome = true := by
  induction h with
  | last _ =>
    intro other mem
    cases List.mem_singleton.mp mem
    exact derived
  | step hb _ ih =>
    intro other mem
    rcases List.mem_cons.mp mem with rfl | mem
    · exact derived
    · exact ih (rooted.derived_of_base? hb) other mem

/-- Only the most general type has no base. -/
theorem getLast?_of_line (rooted : d.IsRooted) (h : d.Line id line)
    (derived : (d.get? id).isSome = true) : (id :: line).getLast? = some .anyType := by
  induction h with
  | @last id hb =>
    obtain ⟨info, entry⟩ := Option.isSome_iff_exists.mp derived
    rw [base?, entry, Option.bind_some] at hb
    rw [(rooted.linked entry).based hb]
    rfl
  | step hb _ ih =>
    rw [List.getLast?_cons_cons]
    exact ih (rooted.derived_of_base? hb)

/-- The chain of a derived type is the line of its bases. -/
theorem exists_chain_eq (rooted : d.IsRooted) (derived : (d.get? id).isSome = true) :
    ∃ line, d.Line id line ∧ d.chain id = id :: line := by
  have wf := wellFounded_links rooted.linked
  obtain ⟨line, h⟩ := exists_line wf id
  have nodup := h.nodup (acyclic_of_wellFounded wf)
  exact ⟨line, h, h.chain_eq nodup (rooted.derived_of_line h derived)⟩

theorem derived_of_mem_chain (rooted : d.IsRooted) (derived : (d.get? id).isSome = true)
    (mem : other ∈ d.chain id) : (d.get? other).isSome = true := by
  obtain ⟨line, h, same⟩ := rooted.exists_chain_eq derived
  exact rooted.derived_of_line h derived other (same ▸ mem)

theorem chain_suffix (rooted : d.IsRooted) (derived : (d.get? id).isSome = true)
    (mem : other ∈ d.chain id) : d.chain other <:+ d.chain id := by
  obtain ⟨line, h, same⟩ := rooted.exists_chain_eq derived
  obtain ⟨line', h', same'⟩ :=
    rooted.exists_chain_eq (rooted.derived_of_mem_chain derived mem)
  obtain ⟨rest, hrest, suffix'⟩ := h.exists_suffix (same ▸ mem)
  rw [same, same', Line.unique h' hrest]
  exact suffix'

theorem isHierarchy (rooted : d.IsRooted) : d.IsHierarchy where
  nodup {id} derived := by
    obtain ⟨line, h, same⟩ := rooted.exists_chain_eq derived
    rw [same]
    exact h.nodup (acyclic_of_wellFounded (wellFounded_links rooted.linked))
  derived derived mem := rooted.derived_of_mem_chain derived mem
  last {id} derived := by
    obtain ⟨line, h, same⟩ := rooted.exists_chain_eq derived
    rw [same]
    exact rooted.getLast?_of_line h derived
  suffix derived mem := rooted.chain_suffix derived mem
  refl _ := List.contains_iff_mem.mpr List.mem_cons_self
  antisymm {id other} derived derived' h h' := by
    have suffix' := rooted.chain_suffix derived (List.contains_iff_mem.mp h)
    have suffix := rooted.chain_suffix derived' (List.contains_iff_mem.mp h')
    have same : d.chain id = d.chain other :=
      suffix.eq_of_length_le suffix'.length_le
    exact (List.cons.inj same).1
  trans {id other base} derived _ h h' := by
    have suffix := rooted.chain_suffix derived (List.contains_iff_mem.mp h)
    exact List.contains_iff_mem.mpr (suffix.subset (List.contains_iff_mem.mp h'))
  acyclic := acyclic_of_wellFounded (wellFounded_links rooted.linked)
  terminates ht := exists_answers (wellFounded_links rooted.linked) rooted.linked _ _ ht

end IsRooted

end DerivedTypes

/-! ## The table of all types -/

namespace Derivation

variable {a : Arena} {s : DerivationState} {id : TypeId}

/-- A type that needs nothing is entered at once, and no other type is touched. -/
theorem deriveType_of_pure {definition : TypeDefinition} {info : TypeInfo}
    (hd : a.type? id = some definition) (fresh : s.status[id.index]? = some .notStarted)
    (bound : id.index < s.derived.types.size)
    (known : ∀ need, deriveDefinition a need id definition = pure info) :
    let t := ((deriveType a id).run s).2
    t.derived.get? id = some info ∧ t.derived.types.size = s.derived.types.size ∧
      ∀ i ≠ id.index, t.status[i]? = s.status[i]? := by
  have run : ((deriveType a id).run s).2 =
      { s with
        derived := s.derived.enter id info
        status := (s.status.setIfInBounds id.index .inProgress).setIfInBounds id.index .done
        stack := (s.stack ++ [id]).dropLast } := by
    unfold deriveType derive
    rw [StateT.run_bind, StateT.run_get]
    simp only [pure_bind, hd, fresh, known]
    rfl
  rw [run]
  refine ⟨DerivedTypes.get?_enter_self bound, by simp [DerivedTypes.enter], fun i ne => ?_⟩
  simp only
  rw [Array.getElem?_setIfInBounds_ne ne.symm, Array.getElem?_setIfInBounds_ne ne.symm]

/-- The two most general types come first. -/
theorem exists_typeIds_eq (two : 1 < a.types.size) :
    ∃ rest, a.typeIds = .anyType :: .anySimpleType :: rest := by
  obtain ⟨n, hn⟩ := Nat.exists_eq_add_of_le' two
  rw [Arena.typeIds, hn, List.range_succ_eq_map, List.range_succ_eq_map]
  exact ⟨_, rfl⟩

/-- The two most general types need nothing, so they are always derived. -/
theorem deriveAll_general (extending : Extending a) :
    ((deriveAll a).1.get? .anyType).isSome = true ∧
      ((deriveAll a).1.get? .anySimpleType).isSome = true := by
  have anyType : a.type? .anyType = some (Arena.anyType Registry.builtinDocument) := extending rfl
  have anySimpleType :
      a.type? .anySimpleType = some (Arena.anySimpleType Registry.builtinDocument) := extending rfl
  have two : 1 < a.types.size := (Array.getElem?_eq_some_iff.mp anySimpleType).1
  obtain ⟨rest, ids⟩ := exists_typeIds_eq two
  have inductive' := linked_isInductive extending
  have fresh : ∀ i < a.types.size, (Derive.initial a).status[i]? = some .notStarted := by
    intro i bound
    exact Array.getElem?_replicate.trans (if_pos bound)
  have size : (Derive.initial a).derived.types.size = a.types.size := Array.size_replicate
  obtain ⟨first, size', untouched⟩ := deriveType_of_pure (s := Derive.initial a) anyType
    (fresh 0 (by omega)) (size ▸ show 0 < a.types.size by omega) fun need => rfl
  have advance := keeps_derive inductive' (Derive.initial a) (a.types.size + 1) .anyType _
    ⟨sound_initial a, .refl _⟩
  change Advances Linked _ ((deriveType a .anyType).run (Derive.initial a)).2 at advance
  generalize hs : ((deriveType a .anyType).run (Derive.initial a)).2 = s at *
  obtain ⟨second, -, -⟩ := deriveType_of_pure anySimpleType
    ((untouched 1 (by decide)).trans (fresh 1 two)) (size' ▸ size ▸ two) fun need => rfl
  have advance' := keeps_derive inductive' s (a.types.size + 1) .anySimpleType _
    ⟨advance.sound, .refl _⟩
  change Advances Linked _ ((deriveType a .anySimpleType).run s).2 at advance'
  have later : Keeps (Advances Linked ((deriveType a .anySimpleType).run s).2) (do
      rest.forM fun id => discard (deriveType a id)
      a.groupIds.forM (checkGroup a)
      a.attributeGroupIds.forM (checkAttributeGroup a)) :=
    .bind (.forM fun id => .discard (keeps_derive inductive' _ _ id)) fun _ =>
      .bind (.forM fun id => keeps_reportFailure _) fun _ =>
        .forM (keeps_checkAttributeGroup inductive' _)
  have finally' := (later _ ⟨advance'.sound, .refl _⟩).extended
  unfold deriveAll
  rw [ids]
  subst hs
  exact ⟨Option.isSome_iff_exists.mpr ⟨_, finally'.derived (advance'.extended.derived first)⟩,
    Option.isSome_iff_exists.mpr ⟨_, finally'.derived second⟩⟩

theorem deriveAll_isRooted (extending : Extending a) : (deriveAll a).1.IsRooted := by
  obtain ⟨anyType, anySimpleType⟩ := deriveAll_general extending
  exact ⟨deriveAll_holds (linked_isInductive extending), anyType, anySimpleType⟩

/-- In every arena that has the types that are there from the start, derived types form a
hierarchy. -/
theorem deriveAll_isHierarchy (extending : Extending a) : (deriveAll a).1.IsHierarchy :=
  (deriveAll_isRooted extending).isHierarchy

/-- A union of the builtin types `byte` and `NMTOKENS`. -/
def sizes : TypeDefinition :=
  .simple ⟨⟨none, false, ⟨1⟩, .resolved, none⟩,
    .union [.known "byte" Builtin.byte.typeId, .known "NMTOKENS" Builtin.nmtokens.typeId], none⟩

theorem sizes_isHierarchy :
    Extending ((Arena.initial Registry.builtinDocument).addType sizes).2 ∧
      (deriveAll ((Arena.initial Registry.builtinDocument).addType sizes).2).1.IsHierarchy := by
  have extending : Extending ((Arena.initial Registry.builtinDocument).addType sizes).2 :=
    fun h => (Arena.grounded_initial.addType rfl).initial h
  exact ⟨extending, deriveAll_isHierarchy extending⟩

end Derivation

end Xsd
