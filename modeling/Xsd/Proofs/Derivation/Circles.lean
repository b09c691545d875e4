import Xsd.Proofs.Derivation.Agreement
import Xsd.Proofs.Derivation.Calls
import Xsd.Proofs.Derivation.Refinement
import Xsd.Proofs.Schema.Coherent

/-!
# Circles of types

A type that is in progress waits for the last one on the stack along the demands in between. Simple
types demand simple types only, and a complex type demands no complex type but its base, so a circle
consists of links; and a type that has failed has been reported, or a type is missing below it.
-/

namespace Xsd

namespace Arena

variable {a : Arena} {id other : TypeId}

def IsSimple (a : Arena) (id : TypeId) : Prop := ∃ t, a.type? id = some t ∧ t.isSimple

/-- What may be asked of the second type while the first is derived: its derivation, as that of its
base, of a type of which it consists, or of the type of an attribute. -/
inductive Demands (a : Arena) (id other : TypeId) : Prop
  | base : ¬ a.IsSimple id → a.LeadsTo id other → Demands a id other
  | operand : a.LeadsTo id other → a.IsSimple other → Demands a id other
  | attributeType : ¬ a.IsSimple id → a.IsSimple other → Demands a id other

theorem Demands.of_isSimple (h : a.Demands id other) (simple : a.IsSimple id) :
    a.LeadsTo id other ∧ a.IsSimple other := by
  cases h with
  | base complex _ => exact absurd simple complex
  | operand leads simple' => exact ⟨leads, simple'⟩
  | attributeType complex _ => exact absurd simple complex

theorem Demands.of_not_isSimple (h : a.Demands id other) (complex : ¬ a.IsSimple other) :
    a.LeadsTo id other ∧ ¬ a.IsSimple id := by
  cases h with
  | base complex' leads => exact ⟨leads, complex'⟩
  | operand _ simple => exact absurd simple complex
  | attributeType _ simple => exact absurd simple complex

/-- Demands that come back to where they began are links: all the types are simple, or none is. -/
theorem isChain_leadsTo {id : TypeId} {line : List TypeId}
    (h : (id :: (line ++ [id])).IsChain a.Demands) : (id :: (line ++ [id])).IsChain a.LeadsTo := by
  by_cases simple : a.IsSimple id
  · have from' : ∀ (line : List TypeId) (x : TypeId), a.IsSimple x →
        (x :: (line ++ [id])).IsChain a.Demands → (x :: (line ++ [id])).IsChain a.LeadsTo := by
      intro line
      induction line with
      | nil =>
        intro x hx h
        exact List.isChain_pair.mpr ((List.isChain_pair.mp h).of_isSimple hx).1
      | cons y line ih =>
        intro x hx h
        obtain ⟨demand, rest⟩ := List.isChain_cons_cons.mp h
        obtain ⟨leads, hy⟩ := demand.of_isSimple hx
        exact List.isChain_cons_cons.mpr ⟨leads, ih y hy rest⟩
    exact from' line id simple h
  · have upTo : ∀ (line : List TypeId) (x : TypeId), (x :: (line ++ [id])).IsChain a.Demands →
        ¬ a.IsSimple x ∧ (x :: (line ++ [id])).IsChain a.LeadsTo := by
      intro line
      induction line with
      | nil =>
        intro x h
        obtain ⟨leads, hx⟩ := (List.isChain_pair.mp h).of_not_isSimple simple
        exact ⟨hx, List.isChain_pair.mpr leads⟩
      | cons y line ih =>
        intro x h
        obtain ⟨demand, rest⟩ := List.isChain_cons_cons.mp h
        obtain ⟨hy, chain⟩ := ih y rest
        obtain ⟨leads, hx⟩ := demand.of_not_isSimple hy
        exact ⟨hx, List.isChain_cons_cons.mpr ⟨leads, chain⟩⟩
    exact (upTo line id h).2

/-- The names of types each of which leads to the next, and the last to the first. -/
def IsCircle (a : Arena) (names : List String) : Prop :=
  ∃ id line, names = (id :: (line ++ [id])).map (Derivation.shortName a) ∧
    (id :: (line ++ [id])).IsChain a.LeadsTo

/-- The types on the stack from the one on that the last demands again. -/
theorem isCircle_circle {stack : List TypeId} (chain : stack.IsChain a.Demands) (mem : id ∈ stack)
    (last : ∀ p ∈ stack.getLast?, a.Demands p id) :
    a.IsCircle (Derive.circle (Derivation.shortName a) stack id) := by
  obtain ⟨first, line, names, chain⟩ := isRing_circle chain mem last
  exact ⟨first, line, names, isChain_leadsTo chain⟩

theorem IsCircle.transGen {names : List String} (h : a.IsCircle names) :
    ∃ id, Relation.TransGen a.LeadsTo id id :=
  IsRing.transGen h

/-- Following the links from the type comes to an end. -/
def Ends (a : Arena) (id : TypeId) : Prop := Acc (fun other id => a.LeadsTo id other) id

theorem Ends.not_transGen (h : a.Ends id) (reaches : Relation.ReflTransGen a.LeadsTo id other) :
    ¬ Relation.TransGen a.LeadsTo other other :=
  not_transGen_of_acc h reaches

/-- A complex type leads to its base only. -/
theorem leadsTo_complex {definition : ComplexTypeDef} (hd : a.type? id = some (.complex definition))
    (leads : a.LeadsTo id other) : definition.base.bind (·.target) = some other ∧ id ≠ .anyType := by
  obtain ⟨t, ht, use, hu, target⟩ := leads
  cases hd.symm.trans ht
  rw [TypeDefinition.uses] at hu
  split at hu
  · cases hu
  · rename_i special
    rw [Option.mem_toList] at hu
    rw [hu]
    exact ⟨target, special⟩

theorem IsBound.has_of_leadsTo (h : a.IsBound) (leads : a.LeadsTo id other) :
    a.Has (.type other) := by
  obtain ⟨t, ht, use, hu, target⟩ := leads
  have mem : use.mention ∈ a.mentions (.type id) := by
    rw [mentions, ht]
    change use.mention ∈ t.mentions
    cases t with
    | simple t =>
      rw [TypeDefinition.uses] at hu
      split at hu
      · cases hu
      · rw [TypeDefinition.mentions, t.variety.mentions_eq]
        exact List.mem_map_of_mem hu
    | complex t =>
      rw [TypeDefinition.uses] at hu
      split at hu
      · cases hu
      · exact List.mem_append_left _ (List.mem_append_left _ (List.mem_map_of_mem hu))
  obtain ⟨id', target', has⟩ := (h (.type id) _ mem).type
  cases target.symm.trans target'
  exact has

end Arena

namespace Derivation

variable {a : Arena} {s t : DerivationState} {id : TypeId}

/-- The failure of a type has been reported, or goes back to something that the arena lacks. -/
def Excused (a : Arena) (s : DerivationState) (id : TypeId) : Prop :=
  s.errors ≠ [] ∨ ¬ a.IsWhole ∧ ¬ a.IsSimple id ∧ a.Ends id

theorem Excused.mono (h : Excused a s id) (errors : s.errors <+: t.errors) : Excused a t id :=
  h.imp_left fun wrong none => wrong (List.prefix_nil.mp (none ▸ errors))

/-- Types in progress demand each other; those that have failed are excused; from those that have an
entry the links come to an end; simple types have simple results; and the circles of types and the
rings of groups that have been reported are such. -/
structure Sincere (a : Arena) (s : DerivationState) : Prop where
  stack : s.stack.IsChain a.Demands
  cycles : ∀ names ∈ s.cycles, ∃ category, .circularGroupReference category names ∈ s.errors
  failed : ∀ {id}, s.status[id.index]? = some .failed → Excused a s id
  ends : ∀ {id}, (s.derived.get? id).isSome → a.Ends id
  plain : ∀ {id}, a.IsSimple id → (s.derived.get? id).isSome → s.derived.simple? id ≠ none
  circles : ∀ {names}, .circularTypeDefinition names ∈ s.errors → a.IsCircle names
  rings : ∀ {category names}, .circularGroupReference category names ∈ s.errors →
    a.IsGroupRing category names

theorem Sincere.reported (h : Sincere a s) {e : Option Error} (reported : Reported s e t)
    (circle : ∀ names, e = some (.circularTypeDefinition names) → a.IsCircle names)
    (ring : ∀ category names, e = some (.circularGroupReference category names) →
      a.IsGroupRing category names) :
    Sincere a t ∧ (e ≠ none → t.errors ≠ []) := by
  cases reported with
  | nothing => exact ⟨h, fun some => absurd rfl some⟩
  | known seen _ =>
    obtain ⟨category, mem⟩ := h.cycles _ seen
    exact ⟨h, fun _ => List.ne_nil_of_mem mem⟩
  | @added e cycles kept =>
    refine ⟨⟨h.stack, fun names mem => ?_, fun hs => (h.failed hs).mono (List.prefix_append ..),
      h.ends, h.plain, fun {names} hn => ?_, fun {category names} hn => ?_⟩, fun _ => by simp⟩
    · rcases kept names mem with old | ⟨category, rfl⟩
      · obtain ⟨category, mem⟩ := h.cycles names old
        exact ⟨category, List.mem_append_left _ mem⟩
      · exact ⟨category, List.mem_append_right _ (List.mem_singleton_self _)⟩
    · rcases List.mem_append.mp hn with old | new
      · exact h.circles old
      · exact circle _ (congrArg some (List.mem_singleton.mp new).symm)
    · rcases List.mem_append.mp hn with old | new
      · exact h.rings old
      · exact ring _ _ (congrArg some (List.mem_singleton.mp new).symm)

/-- What stops a step by itself may be reported. -/
theorem Sincere.reported_of_stops (h : Sincere a s) {e : Option Error} (reported : Reported s e t)
    (stops : Stops a False e) : Sincere a t ∧ (e ≠ none → t.errors ≠ []) := by
  refine h.reported reported (fun names same => ?_) fun category names same => ?_
  · exact absurd (same ▸ stops) Stops.noted
  · exact (same ▸ stops).isGroupRing

theorem sincere_initial (a : Arena) : Sincere a (Derive.initial a) := by
  have none : ∀ id, (Derive.initial a).derived.get? id = none := fun id =>
    (orderly_initial a).get?_eq_none (by
      change (Array.replicate a.types.size DerivationStatus.notStarted)[id.index]? ≠ _
      rw [Array.getElem?_replicate]
      split <;> simp)
  constructor
  case stack => exact List.isChain_nil
  case cycles =>
    intro names mem
    cases mem
  case failed =>
    intro id hs
    change (Array.replicate a.types.size DerivationStatus.notStarted)[id.index]? = _ at hs
    rw [Array.getElem?_replicate] at hs
    split at hs <;> cases hs
  case ends =>
    intro id entry
    rw [none] at entry
    cases entry
  case plain =>
    intro id _ entry
    rw [none] at entry
    cases entry
  case circles =>
    intro names mem
    cases mem
  case rings =>
    intro category names mem
    cases mem

/-- The type is demanded by the last one in progress, if there is any. -/
structure IsDemanded (a : Arena) (id : TypeId) (s : DerivationState) : Prop where
  sincere : Sincere a s
  known : (a.type? id).isSome
  last : ∀ p ∈ s.stack.getLast?, a.Demands p id

/-- A type that is there now has an entry, another one is excused. -/
structure IsAnswered (a : Arena) (id : TypeId) (found : Bool) (s : DerivationState) : Prop where
  sincere : Sincere a s
  entry : found = true → (s.derived.get? id).isSome
  failure : found = false → Excused a s id

theorem IsDemanded.started (h : IsDemanded a id s) (fresh : s.status[id.index]? = some .notStarted) :
    Sincere a (started id s) where
  stack := by
    refine List.isChain_append.mpr ⟨h.sincere.stack, List.isChain_singleton id, ?_⟩
    intro p hp other ho
    cases ho
    exact h.last p hp
  cycles := h.sincere.cycles
  failed {other} hs := by
    change (s.status.setIfInBounds id.index .inProgress)[other.index]? = _ at hs
    have bound := (Array.getElem?_eq_some_iff.mp fresh).1
    rw [Array.getElem?_setIfInBounds, if_pos bound] at hs
    split at hs
    · cases hs
    · exact h.sincere.failed hs
  ends := h.sincere.ends
  plain := h.sincere.plain
  circles := h.sincere.circles
  rings := h.sincere.rings

/-! ## One derivation -/

section Definition

variable {definition : TypeDefinition} {need : Need}

/-- A state in the derivation of a type, against itself. -/
def Within (a : Arena) (s₀ s t : DerivationState) : Prop :=
  s = t ∧ Proceeds a s₀ s ∧ Sincere a s

/-- How the derivation of a type may fail. -/
structure Halts (a : Arena) (id : TypeId) (e : Option Error) (s : DerivationState) : Prop where
  sincere : Sincere a s
  silent : e = none → Excused a s id
  stops : Stops a False e

theorem agree_of_meets (bound : a.IsBound) {s₀ : DerivationState}
    (last : s₀.stack.getLast? = some id) (hd : a.type? id = some definition)
    (meets : Meets a (IsDemanded a) (IsAnswered a) s₀ need) :
    Need.Agree (Within a s₀) (Halts a id) (a.Demands id) need need := by
  rintro K other demand s _ ⟨⟨rfl, proceeds, sincere⟩, shares⟩
  have known : (a.type? other).isSome := by
    cases demand with
    | base _ leads => exact Option.isSome_iff_exists.mpr (Arena.exists_type? (bound.has_of_leadsTo leads))
    | operand leads _ => exact Option.isSome_iff_exists.mpr (Arena.exists_type? (bound.has_of_leadsTo leads))
    | attributeType _ simple =>
      obtain ⟨t, ht, -⟩ := simple
      exact Option.isSome_iff_exists.mpr ⟨t, ht⟩
  have before : IsDemanded a other s := by
    refine ⟨sincere, known, fun p hp => ?_⟩
    rw [proceeds.onward.stack, last] at hp
    cases hp
    exact demand
  rcases meets other s proceeds before with ⟨t, hy, proceeds', answered⟩ | ⟨t, hf, _, answered⟩
  · refine Or.inl ⟨(), t, t, hy, hy, ⟨rfl, ⟨proceeds'.orderly, proceeds.onward.trans proceeds'.onward⟩,
      answered.sincere⟩, ?_⟩
    rintro x (rfl | mem)
    · obtain ⟨info, entry⟩ := Option.isSome_iff_exists.mp (answered.entry rfl)
      exact ⟨info, entry, entry⟩
    · obtain ⟨info, entry, -⟩ := shares x mem
      exact ⟨info, proceeds'.onward.derived entry, proceeds'.onward.derived entry⟩
  · refine Or.inr ⟨none, t, hf, answered.sincere, fun _ => ?_, .missing not_false⟩
    rcases answered.failure rfl with wrong | ⟨missing, complex, ends⟩
    · exact Or.inl wrong
    · obtain ⟨leads, complex'⟩ := demand.of_not_isSimple complex
      refine Or.inr ⟨missing, complex', ⟨_, fun next leads' => ?_⟩⟩
      cases definition with
      | simple t => exact absurd ⟨_, hd, rfl⟩ complex'
      | complex t =>
        have same := (Arena.leadsTo_complex hd leads).1.symm.trans (Arena.leadsTo_complex hd leads').1
        cases same
        exact ends

theorem sharing_leadsTo (hd : a.type? id = some definition)
    {R : DerivationState → DerivationState → Prop}
    (h : Sharing R {other | ∃ use ∈ definition.uses id, use.target = some other} s t) :
    Sharing R {other | a.LeadsTo id other} s t := by
  refine h.mono ?_
  rintro other ⟨t, ht, leads⟩
  cases hd.symm.trans ht
  exact leads

theorem Within.isDerivedFrom_eq {s₀ : DerivationState} {other base : TypeId}
    (h : Within a s₀ s t) : s.derived.isDerivedFrom other base = t.derived.isDerivedFrom other base := by
  rw [h.1]

theorem Within.simple?_ne_none {s₀ : DerivationState} {other : TypeId} {definition' : TypeDefinition}
    (h : Within a s₀ s t) (hd' : a.type? other = some definition') (simple : definition'.isSimple)
    (entry : (s.derived.get? other).isSome) : s.derived.simple? other ≠ none :=
  h.2.2.plain ⟨_, hd', simple⟩ entry

theorem Sincere.halts (h : Sincere a s) {e : Error} (stops : Stops a False (some e)) :
    Halts a id (some e) s :=
  ⟨h, fun no => (by cases no), stops⟩

theorem agrees_simple (bound : a.IsBound) {s₀ : DerivationState}
    (last : s₀.stack.getLast? = some id) {definition : SimpleTypeDef}
    (hd : a.type? id = some (.simple definition))
    (meets : Meets a (IsDemanded a) (IsAnswered a) s₀ need) :
    Agrees (Within a s₀) (deriveSimple a need id definition) (deriveSimple a need id definition)
      (Halts a id) fun _ => Sharing (Within a s₀) {other | a.LeadsTo id other} := by
  have compatible : Compatible a (Within a s₀) (Halts a id) a.IsBound := by
    refine ⟨fun h _ => h.isDerivedFrom_eq, fun h ht simple entry none => ?_, fun {e s t} h stop => ?_⟩
    · exact absurd none (h.simple?_ne_none ht simple entry)
    · cases stop with
      | missing unbound => exact absurd bound unbound
      | refused plain => exact h.2.2.halts (.refused plain)
      | ring ring => exact h.2.2.halts (.ring ring)
  refine (agrees_deriveSimple compatible (agree_of_meets bound last hd meets) (fun _ m hm => ?_)
    fun hu target ht simple => ?_).weaken
      (fun _ _ h => h) (fun _ _ h => h) fun _ _ _ h => sharing_leadsTo hd h
  · refine bound (.type id) m ?_
    rw [Arena.mentions, hd]
    exact hm
  · exact .operand ⟨_, hd, _, hu, target⟩ ⟨_, ht, simple⟩

/-- A complex type has a base if nothing is missing in the arena. -/
theorem exists_base (whole : a.IsWhole) {definition : ComplexTypeDef}
    (hd : a.type? id = some (.complex definition)) (special : id ≠ .anyType) :
    definition.base.bind (·.target) ≠ none := by
  obtain ⟨use, hu⟩ := Option.isSome_iff_exists.mp (whole.based hd special)
  have mem : use.mention ∈ a.mentions (.type id) := by
    rw [Arena.mentions, hd]
    refine List.mem_append_left _ (List.mem_append_left _ (List.mem_map_of_mem ?_))
    rw [hu]
    exact List.mem_singleton_self use
  obtain ⟨other, target, -⟩ := (whole.bound (.type id) _ mem).type
  rw [hu, Option.bind_some, target]
  exact Option.some_ne_none other

theorem agrees_complex (bound : a.IsBound) {s₀ : DerivationState}
    (last : s₀.stack.getLast? = some id) {definition : ComplexTypeDef}
    (hd : a.type? id = some (.complex definition))
    (meets : Meets a (IsDemanded a) (IsAnswered a) s₀ need) :
    Agrees (Within a s₀) (deriveComplex a need id definition) (deriveComplex a need id definition)
      (Halts a id) fun _ => Sharing (Within a s₀) {other | a.LeadsTo id other} := by
  have complex : ¬ a.IsSimple id := by
    rintro ⟨t, ht, simple⟩
    cases hd.symm.trans ht
    cases simple
  refine (agrees_deriveComplex (agree_of_meets bound last hd meets) (fun w => w) hd ?_ ?_ ?_ ?_).weaken
    (fun _ _ h => h) (fun _ _ h => h) fun _ _ _ h => sharing_leadsTo hd h
  · rintro special none s _ ⟨rfl, -, sincere⟩
    refine ⟨sincere, fun _ => Or.inr ⟨fun whole => exists_base whole hd special none, complex,
      ⟨_, fun other leads => ?_⟩⟩, .missing not_false⟩
    cases none.symm.trans (Arena.leadsTo_complex hd leads).1
  · intro baseId hb
    refine ⟨fun h _ => h.1.isDerivedFrom_eq, fun h ht simple entry none => ?_, ?_⟩
    · exact absurd none (h.1.simple?_ne_none ht simple entry)
    · rintro e s _ ⟨⟨rfl, -, sincere⟩, shares⟩ stop
      cases stop with
      | missing lacking =>
        refine ⟨sincere, fun _ => Or.inr ⟨lacking, complex, ⟨_, fun other leads => ?_⟩⟩,
          .missing not_false⟩
        cases hb.symm.trans (Arena.leadsTo_complex hd leads).1
        obtain ⟨info, entry, -⟩ := shares baseId rfl
        exact sincere.ends (Option.isSome_iff_exists.mpr ⟨info, entry⟩)
      | refused plain => exact sincere.halts (.refused plain)
      | ring ring => exact sincere.halts (.ring ring)
  · intro baseId hb special
    obtain ⟨use, hu, target⟩ := Option.bind_eq_some_iff.mp hb
    refine .base complex ⟨_, hd, use, ?_, target⟩
    rw [TypeDefinition.uses, if_neg special, hu]
    exact List.mem_singleton_self use
  · exact fun ht simple => .attributeType complex ⟨_, ht, simple⟩

theorem agrees_definition (bound : a.IsBound) {s₀ : DerivationState}
    (last : s₀.stack.getLast? = some id) (hd : a.type? id = some definition)
    (meets : Meets a (IsDemanded a) (IsAnswered a) s₀ need) :
    Agrees (Within a s₀) (deriveDefinition a need id definition)
      (deriveDefinition a need id definition) (Halts a id)
      fun _ => Sharing (Within a s₀) {other | a.LeadsTo id other} := by
  cases definition with
  | simple definition => exact agrees_simple bound last hd meets
  | complex definition => exact agrees_complex bound last hd meets

end Definition

/-- Simple definitions have simple results. -/
theorem simple_of_yields {definition : SimpleTypeDef} {need : Need} {info : TypeInfo}
    (h : Yields (deriveSimple a need id definition) s info t) :
    ∃ w, info.effective = .simple w := by
  by_cases special : id = .anySimpleType
  · unfold deriveSimple at h
    rw [if_pos special] at h
    obtain ⟨rfl, -⟩ := yields_pure_iff.mp h
    exact ⟨_, rfl⟩
  · cases yields_deriveSimple special h with
    | restriction _ _ _ _ _ => exact ⟨_, rfl⟩
    | list _ _ _ _ => exact ⟨_, rfl⟩
    | union _ => exact ⟨_, rfl⟩

theorem Finished.answered {definition : TypeDefinition} {need : Need}
    {r : Except (Option Error) TypeInfo} {u : DerivationState} (finished : Finished id t r u)
    (hd : a.type? id = some definition) (proceeds : Proceeds a (started id s) t)
    (hr : (deriveDefinition a need id definition).run.run (started id s) = (r, t))
    (success : r.isOk → Sincere a t ∧ a.Ends id) (failure : ∀ e, r = .error e → Halts a id e t) :
    IsAnswered a id r.isOk u := by
  have bound := (Array.getElem?_eq_some_iff.mp proceeds.pending).1
  cases finished with
  | @entry info =>
    obtain ⟨sincere, ends⟩ := success rfl
    have entry : (t.derived.enter id info).get? id = some info :=
      DerivedTypes.get?_enter_self (proceeds.orderly.entries ▸ proceeds.orderly.statuses ▸ bound)
    have others : ∀ {other}, ((t.derived.enter id info).get? other).isSome →
        other = id ∨ (t.derived.get? other).isSome := by
      intro other h
      by_cases same : other = id
      · exact Or.inl same
      · rw [DerivedTypes.get?_enter_of_ne same] at h
        exact Or.inr h
    refine ⟨⟨sincere.stack.dropLast, sincere.cycles, fun {other} hs => ?_, fun {other} h => ?_,
      fun {other} simple h => ?_, sincere.circles, sincere.rings⟩, fun _ => ?_,
      fun no => (by cases no)⟩
    · dsimp only at hs
      rw [Array.getElem?_setIfInBounds, if_pos bound] at hs
      split at hs
      · cases hs
      · exact sincere.failed hs
    · rcases others h with rfl | old
      · exact ends
      · exact sincere.ends old
    · dsimp only at h ⊢
      by_cases same : other = id
      · subst same
        obtain ⟨_, hd', simple⟩ := simple
        cases hd.symm.trans hd'
        cases definition with
        | complex definition => cases simple
        | simple definition =>
          obtain ⟨w, effective⟩ := simple_of_yields hr
          obtain ⟨base, derivation, result⟩ := info
          cases effective
          rw [DerivedTypes.simple?, entry]
          exact Option.some_ne_none w
      · rw [DerivedTypes.get?_enter_of_ne same] at h
        have := sincere.plain simple h
        rwa [DerivedTypes.simple?, DerivedTypes.get?_enter_of_ne same]
    · exact Option.isSome_iff_exists.mpr ⟨info, entry⟩
  | @failure e v reported =>
    have halts := failure e rfl
    have dropped : Sincere a { t with stack := t.stack.dropLast } :=
      ⟨halts.sincere.stack.dropLast, halts.sincere.cycles, halts.sincere.failed, halts.sincere.ends,
        halts.sincere.plain, halts.sincere.circles, halts.sincere.rings⟩
    obtain ⟨sincere, wrong⟩ := dropped.reported_of_stops reported halts.stops
    have excused : Excused a v id := by
      cases e with
      | none => exact (halts.silent rfl).mono reported.kept.2.2.2
      | some e => exact Or.inl (wrong (by simp))
    refine ⟨⟨sincere.stack, sincere.cycles, fun {other} hs => ?_, sincere.ends, sincere.plain,
      sincere.circles, sincere.rings⟩, fun no => (by cases no), fun _ => excused⟩
    dsimp only at hs
    rw [Array.getElem?_setIfInBounds] at hs
    split at hs
    · rename_i same
      exact TypeId.index_injective same ▸ excused
    · exact sincere.failed hs

/-- Each call is answered truly if those inside it are. -/
theorem answered_of_called (bound : a.IsBound) {fuel : Nat} {found : Bool} (orderly : Orderly a s)
    (before : IsDemanded a id s)
    (meets : Meets a (IsDemanded a) (IsAnswered a) (started id s) (needOf (derive a fuel)))
    (called : Called a fuel id s found t) : IsAnswered a id found t := by
  obtain ⟨definition, known⟩ := Option.isSome_iff_exists.mp before.known
  cases called with
  | absent absent =>
    rw [absent] at known
    cases known
  | unknown unknown =>
    rw [orderly.status_eq_none_iff.mp unknown] at known
    cases known
  | done _ status => exact ⟨before.sincere, fun _ => orderly.done.mpr status, fun no => (by cases no)⟩
  | failed _ status => exact ⟨before.sincere, fun no => (by cases no), fun _ => before.sincere.failed status⟩
  | circle _ status reported =>
    obtain ⟨sincere, wrong⟩ := before.sincere.reported reported
      (fun names h => by
        cases h
        exact Arena.isCircle_circle before.sincere.stack (orderly.pending.mpr status) before.last)
      fun category names h => by cases h
    exact ⟨sincere, fun no => (by cases no), fun _ => Or.inl (wrong (by simp))⟩
  | @derived definition r u _ hd fresh hr finished =>
    have last : (started id s).stack.getLast? = some id := List.getLast?_concat
    have begun : Within a (started id s) (started id s) (started id s) :=
      ⟨rfl, ⟨orderly.start fresh, .refl _⟩, before.started fresh⟩
    have proceeds : Proceeds a (started id s) u :=
      proceeds_definition (fun other => upholds_needOf (keeps_proceeds _ fuel other)) orderly fresh hr
    refine finished.answered hd proceeds hr (fun ok => ?_) fun e he => ?_
    · rcases agrees_definition bound last hd meets _ _ begun with
        ⟨info, v, w, hy, hy', shared⟩ | ⟨e, v, hf, -⟩
      · cases hr.symm.trans hy
        obtain ⟨⟨rfl, -, sincere⟩, shared⟩ := shared
        refine ⟨sincere, ⟨_, fun other leads => ?_⟩⟩
        obtain ⟨info', entry, -⟩ := shared other leads
        exact sincere.ends (Option.isSome_iff_exists.mpr ⟨info', entry⟩)
      · cases hr.symm.trans hf
        cases ok
    · subst he
      rcases agrees_definition bound last hd meets _ _ begun with
        ⟨info, v, w, hy, -⟩ | ⟨e', v, hf, halts⟩
      · cases hr.symm.trans hy
      · cases hr.symm.trans hf
        exact halts

/-! ## All types -/

/-- No type is in progress, and what has been noted is true. -/
structure IsIdle (a : Arena) (s₀ s : DerivationState) : Prop where
  proceeds : Proceeds a s₀ s
  sincere : Sincere a s
  idle : s.stack = []

theorem IsIdle.answered (bound : a.IsBound) {s₀ : DerivationState} (h : IsIdle a s₀ s)
    (known : (a.type? id).isSome) :
    IsIdle a s₀ ((deriveType a id).run s).2 ∧
      IsAnswered a id ((deriveType a id).run s).1 ((deriveType a id).run s).2 := by
  have answered : IsAnswered a id ((deriveType a id).run s).1 ((deriveType a id).run s).2 :=
    derive_meets (answered_of_called bound) (by omega) h.proceeds.orderly
      ⟨h.sincere, known, by simp [h.idle]⟩
  have proceeds := proceeds_derive (a.types.size + 1) id h.proceeds.orderly
  exact ⟨⟨⟨proceeds.orderly, h.proceeds.onward.trans proceeds.onward⟩, answered.sincere,
    proceeds.onward.stack.trans h.idle⟩, answered⟩

theorem keeps_reportFailure_idle {α : Type} {s₀ : DerivationState} {r : Except (Option Error) α}
    (stops : ∀ e, r = .error e → Stops a False e) : Keeps (IsIdle a s₀) (reportFailure r) := by
  refine keeps_reportFailure_of_reported fun e failed s t h reported => ?_
  exact ⟨⟨reported.orderly h.proceeds.orderly, h.proceeds.onward.trans reported.onward⟩,
    (h.sincere.reported_of_stops reported (stops _ failed)).1, reported.kept.2.2.1.trans h.idle⟩

theorem keeps_checkGroup_idle (s₀ : DerivationState) (id : GroupId) :
    Keeps (IsIdle a s₀) (checkGroup a id) :=
  keeps_reportFailure_idle fun _ h =>
    (stops_expandGroup (fun no : False => no.elim) (fun no => no.elim) h).stops

/-- Types are asked for on behalf of an attribute group as they are on behalf of none. -/
theorem keeps_checkAttributeGroup_idle (bound : a.IsBound) (s₀ : DerivationState)
    (id : AttributeGroupId) : Keeps (IsIdle a s₀) (checkAttributeGroup a id) := by
  unfold checkAttributeGroup
  split
  · exact .pure ()
  · rename_i g hg
    let R : DerivationState → DerivationState → Prop := fun s t => s = t ∧ IsIdle a s₀ s
    let E : Option Error → DerivationState → Prop := fun e s =>
      IsIdle a s₀ s ∧ Stops a False e
    have compatible : Compatible a R E False := by
      refine ⟨?_, ?_, ?_⟩
      · rintro s _ id base ⟨rfl, -⟩ -
        rfl
      · rintro s _ id definition ⟨rfl, idle⟩ ht simple entry none
        exact absurd none (idle.sincere.plain ⟨_, ht, simple⟩ entry)
      · rintro e s _ ⟨rfl, idle⟩ stop
        exact ⟨idle, stop⟩
    have needs : Need.Agree R E (fun id => (a.type? id).isSome) (needOf (deriveType a))
        (needOf (deriveType a)) := by
      rintro K other known s _ ⟨⟨rfl, idle⟩, shares⟩
      obtain ⟨after, answered⟩ := idle.answered bound known
      have onward := (proceeds_derive (a.types.size + 1) other idle.proceeds.orderly).onward
      change Onward s ((deriveType a other).run s).2 at onward
      rcases hrun : (deriveType a other).run s with ⟨b, t⟩
      rw [hrun] at after answered onward
      have run := run_needOf (deriveType a) hrun
      cases b with
      | false => exact Or.inr ⟨none, t, run, after, .missing not_false⟩
      | true =>
        refine Or.inl ⟨(), t, t, run, run, ⟨rfl, after⟩, ?_⟩
        rintro x (rfl | mem)
        · obtain ⟨info, entry⟩ := Option.isSome_iff_exists.mp (answered.entry rfl)
          exact ⟨info, entry, entry⟩
        · obtain ⟨info, entry, -⟩ := shares x mem
          exact ⟨info, onward.derived entry, onward.derived entry⟩
    intro s idle
    have flat : Agrees (Sharing R ∅)
        (declared a (needOf (deriveType a)) (g.info.describe .attributeGroup) [id] g.attributes)
        (declared a (needOf (deriveType a)) (g.info.describe .attributeGroup) [id] g.attributes) E
        fun set => Sharing R (∅ ∪ attributeTypes set.attributes) :=
      agrees_declared compatible needs (fun no => no.elim)
        (fun ht _ => Option.isSome_iff_exists.mpr ⟨_, ht⟩) (.singleton fun no => no.elim)
        (leads_of_getLast? rfl hg) fun no => no.elim
    change IsIdle a s₀ ((reportFailure ((declared a (needOf (deriveType a))
      (g.info.describe .attributeGroup) [id] g.attributes).run.run s).1).run ((declared a
        (needOf (deriveType a)) (g.info.describe .attributeGroup) [id] g.attributes).run.run s).2).2
    rcases flat s s ⟨⟨rfl, idle⟩, fun _ mem => mem.elim⟩ with
      ⟨set, t, u, hy, -, ⟨⟨-, idle'⟩, -⟩⟩ | ⟨e, t, hf, idle', stops⟩
    · rw [hy]
      exact idle'
    · rw [hf]
      exact keeps_reportFailure_idle (fun _ h => Except.error.inj h ▸ stops) t idle'

theorem IsIdle.answered_all (bound : a.IsBound) {s₀ : DerivationState} {ids : List TypeId}
    (h : IsIdle a s₀ s) (known : ∀ id ∈ ids, (a.type? id).isSome) :
    IsIdle a s₀ ((ids.forM fun id => discard (deriveType a id)).run s).2 ∧
      Onward s ((ids.forM fun id => discard (deriveType a id)).run s).2 ∧
        ∀ id ∈ ids,
          (((ids.forM fun id => discard (deriveType a id)).run s).2.derived.get? id).isSome ∨
            Excused a ((ids.forM fun id => discard (deriveType a id)).run s).2 id := by
  induction ids generalizing s with
  | nil => exact ⟨h, .refl s, fun id mem => by cases mem⟩
  | cons id ids ih =>
    obtain ⟨idle, answered⟩ := h.answered bound (known id List.mem_cons_self)
    have first := (proceeds_derive (a.types.size + 1) id h.proceeds.orderly).onward
    obtain ⟨idle', onward, rest⟩ := ih idle fun other mem => known other (List.mem_cons_of_mem _ mem)
    refine ⟨idle', first.trans onward, fun other mem => ?_⟩
    rcases List.mem_cons.mp mem with rfl | mem
    · rcases hb : ((deriveType a other).run s).1 with _ | _
      · exact Or.inr ((answered.failure hb).mono onward.errors)
      · exact Or.inl (onward.isSome (answered.entry hb))
    · exact rest other mem

/-- The state when all types have been demanded. -/
def typesDerived (a : Arena) : DerivationState :=
  ((a.typeIds.forM fun id => discard (deriveType a id)).run (Derive.initial a)).2

/-- The state when all model groups have been looked at, too. -/
def groupsChecked (a : Arena) : DerivationState :=
  ((a.groupIds.forM (checkGroup a)).run (typesDerived a)).2

/-- The state in the end. -/
def allChecked (a : Arena) : DerivationState :=
  ((a.attributeGroupIds.forM (checkAttributeGroup a)).run (groupsChecked a)).2

theorem deriveAll_eq (a : Arena) :
    deriveAll a = ((allChecked a).derived, (allChecked a).errors) := rfl

theorem isIdle_typesDerived (bound : a.IsBound) :
    IsIdle a (typesDerived a) (typesDerived a) ∧
      ∀ id, (a.type? id).isSome →
        ((typesDerived a).derived.get? id).isSome ∨ Excused a (typesDerived a) id := by
  have begun : IsIdle a (Derive.initial a) (Derive.initial a) :=
    ⟨⟨orderly_initial a, .refl _⟩, sincere_initial a, rfl⟩
  obtain ⟨idle, -, answers⟩ := begun.answered_all bound fun id => Arena.mem_typeIds_iff.mp
  exact ⟨⟨⟨idle.proceeds.orderly, .refl _⟩, idle.sincere, idle.idle⟩,
    fun id known => answers id (Arena.mem_typeIds_iff.mpr known)⟩

theorem isIdle_groupsChecked (bound : a.IsBound) : IsIdle a (typesDerived a) (groupsChecked a) :=
  Keeps.forM (keeps_checkGroup_idle (typesDerived a)) _ (isIdle_typesDerived bound).1

theorem isIdle_allChecked (bound : a.IsBound) : IsIdle a (typesDerived a) (allChecked a) :=
  Keeps.forM (keeps_checkAttributeGroup_idle bound (typesDerived a)) _ (isIdle_groupsChecked bound)

/-- In the end each type has an entry or is excused. -/
theorem deriveAll_answered (bound : a.IsBound) :
    ∃ s, deriveAll a = (s.derived, s.errors) ∧ Sincere a s ∧
      ∀ id, (a.type? id).isSome → (s.derived.get? id).isSome ∨ Excused a s id := by
  have after := isIdle_allChecked bound
  refine ⟨allChecked a, deriveAll_eq a, after.sincere, fun id hid => ?_⟩
  exact ((isIdle_typesDerived bound).2 id hid).imp after.proceeds.onward.isSome
    fun excused => excused.mono after.proceeds.onward.errors

/-- If all references are bound, a type whose links come back to it has no result, nor has any type
from which it is reached, and that is an error; and what is reported as a circle is one of links. -/
theorem deriveAll_circles (bound : a.IsBound) :
    (∀ id, Relation.TransGen a.LeadsTo id id →
      (∀ other, Relation.ReflTransGen a.LeadsTo other id → (deriveAll a).1.get? other = none) ∧
        (deriveAll a).2 ≠ []) ∧
    (∀ names, .circularTypeDefinition names ∈ (deriveAll a).2 →
      ∃ id line, names = (id :: (line ++ [id])).map (shortName a) ∧
        (id :: (line ++ [id])).IsChain a.LeadsTo) ∧
    ((∀ id, ¬ Relation.TransGen a.LeadsTo id id) →
      ∀ names, .circularTypeDefinition names ∉ (deriveAll a).2) := by
  obtain ⟨s, derived, sincere, answers⟩ := deriveAll_answered bound
  rw [derived]
  refine ⟨fun id circle => ⟨fun other reaches => ?_, ?_⟩, fun names mem => sincere.circles mem,
    fun none names mem => ?_⟩
  · by_contra entry
    exact (sincere.ends (Option.isSome_iff_ne_none.mpr entry)).not_transGen reaches circle
  · obtain ⟨next, leads, -⟩ := Relation.TransGen.head'_iff.mp circle
    obtain ⟨t, ht, -⟩ := leads
    rcases answers id (Option.isSome_iff_exists.mpr ⟨t, ht⟩) with entry | wrong | ⟨-, -, ends⟩
    · exact absurd circle ((sincere.ends entry).not_transGen .refl)
    · exact wrong
    · exact absurd circle (ends.not_transGen .refl)
  · obtain ⟨id, circle⟩ := (sincere.circles mem).transGen
    exact none id circle

/-- The number of the first type that is not there from the start. -/
def ownId : TypeId := ((Arena.initial Registry.builtinDocument).addType default).1

/-- A type that restricts itself. -/
def selfish : TypeDefinition :=
  .simple ⟨⟨none, false, ⟨1⟩, .resolved, none⟩, .restriction (.own ownId) [], none⟩

/-- The types that are there from the start, and one that restricts itself. -/
def withSelfish : Arena := ((Arena.initial Registry.builtinDocument).addType selfish).2

theorem type?_ownId : withSelfish.type? ownId = some selfish := by
  change (Array.push _ selfish)[_]? = _
  exact Array.getElem?_push_size

theorem isBound_withSelfish : withSelfish.IsBound := by
  have adds := Arena.adds_addType (Arena.initial Registry.builtinDocument) selfish
  intro id m hm
  change m ∈ ((Arena.initial Registry.builtinDocument).addType selfish).2.mentions id at hm
  rw [adds.mentions] at hm
  split at hm
  · cases List.mem_singleton.mp hm
    exact ⟨_, rfl, adds.has.mpr (Or.inl rfl)⟩
  · obtain ⟨i, target, known⟩ := Arena.initial_mentions hm
    exact ⟨_, target, adds.has.mpr (Or.inr (Arena.has_initial known))⟩

theorem selfish_circles :
    withSelfish.IsBound ∧ (deriveAll withSelfish).1.get? ownId = none ∧
      (deriveAll withSelfish).2 ≠ [] := by
  have leads : withSelfish.LeadsTo ownId ownId := by
    refine ⟨selfish, type?_ownId, .own ownId, ?_, rfl⟩
    rw [selfish, TypeDefinition.uses, if_neg (by decide)]
    exact List.mem_singleton_self _
  obtain ⟨circles, -⟩ := deriveAll_circles isBound_withSelfish
  obtain ⟨missing, wrong⟩ := circles ownId (.single leads)
  exact ⟨isBound_withSelfish, missing ownId .refl, wrong⟩

/-- Each type of an arena in which nothing is missing has a result, unless there is an error. -/
theorem deriveAll_complete (whole : a.IsWhole) (none : (deriveAll a).2 = []) {id : TypeId}
    (known : (a.type? id).isSome) : ((deriveAll a).1.get? id).isSome := by
  obtain ⟨s, derived, -, answers⟩ := deriveAll_answered whole.bound
  rw [derived] at none ⊢
  rcases answers id known with entry | wrong | ⟨missing, -⟩
  · exact entry
  · exact absurd none wrong
  · exact absurd whole missing

end Derivation

end Xsd
