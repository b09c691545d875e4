import Xsd.Proofs.Schema.Broken

/-!
# What a resolution without imports reports

Where nothing can be fetched, a reference gets bound in the first pass or not at all. The errors are
those of the references that cannot be bound, and of the namespaces that might have helped.
-/

namespace Xsd.Resolution

/-! ## Imports that cannot be made -/

section Import

variable {limits : Limits} {failed : List Namespace} {loaded : Nat} {ns : Namespace} {a : Assembly}

/-- A namespace is tried once. -/
theorem run_tryImport_of_known (known : ns ∈ failed ∨ a.registry.isLoaded ns = true) :
    (tryImport ⟨none, limits⟩ ⟨failed, loaded⟩ ns).run a = (⟨failed, loaded⟩, a) := by
  have known : (failed.contains ns || a.registry.isLoaded ns) = true := by
    rwa [Bool.or_eq_true, List.contains_iff_mem]
  change (if failed.contains ns || a.registry.isLoaded ns then _ else _ :
    StateM Assembly Imports).run a = _
  rw [if_pos known]
  rfl

/-- It cannot be fetched, so it is reported and not tried again. -/
theorem run_tryImport_of_unknown (untried : ns ∉ failed) (unloaded : a.registry.isLoaded ns = false) :
    (tryImport ⟨none, limits⟩ ⟨failed, loaded⟩ ns).run a =
      (⟨ns :: failed, loaded⟩,
        { a with errors := a.errors ++ [.importUnavailable ns .noRetriever] }) := by
  have unknown : ¬ (failed.contains ns || a.registry.isLoaded ns) = true := by
    rw [Bool.or_eq_true, List.contains_iff_mem, unloaded]
    simp [untried]
  change (if failed.contains ns || a.registry.isLoaded ns then _ else _ :
    StateM Assembly Imports).run a = _
  rw [if_neg unknown]
  rfl

end Import

/-- Without a retriever each namespace that is not loaded is tried once, which is an error. -/
theorem imports_unavailable (limits : Limits) (namespaces failed : List Namespace) (loaded : Nat)
    (a : Assembly) :
    ∃ tried : List Namespace, tried.Nodup ∧
      (∀ ns, ns ∈ tried ↔ ns ∈ namespaces ∧ ns ∉ failed ∧ a.registry.isLoaded ns = false) ∧
      (namespaces.foldlM (tryImport ⟨none, limits⟩) ⟨failed, loaded⟩).run a =
        (⟨tried.reverse ++ failed, loaded⟩,
          { a with errors := a.errors ++ tried.map (.importUnavailable · .noRetriever) }) := by
  induction namespaces generalizing failed a with
  | nil =>
    refine ⟨[], List.nodup_nil, by simp, ?_⟩
    rw [List.map_nil, List.append_nil]
    rfl
  | cons ns rest ih =>
    rw [List.foldlM_cons, StateT.run_bind]
    by_cases known : ns ∈ failed ∨ a.registry.isLoaded ns = true
    · obtain ⟨tried, distinct, mem, run⟩ := ih failed a
      refine ⟨tried, distinct, fun m => ?_, ?_⟩
      · rw [mem, List.mem_cons]
        refine ⟨And.imp_left Or.inr, ?_⟩
        rintro ⟨rfl | listed, untried, unloaded⟩
        · exact absurd known (by simp [untried, unloaded])
        · exact ⟨listed, untried, unloaded⟩
      · rw [run_tryImport_of_known known]
        exact run
    · obtain ⟨untried, unloaded⟩ := not_or.mp known
      rw [Bool.not_eq_true] at unloaded
      obtain ⟨tried, distinct, mem, run⟩ := ih (ns :: failed)
        { a with errors := a.errors ++ [.importUnavailable ns .noRetriever] }
      refine ⟨ns :: tried, List.nodup_cons.mpr ⟨fun again => ?_, distinct⟩, fun m => ?_, ?_⟩
      · exact ((mem ns).mp again).2.1 List.mem_cons_self
      · rw [List.mem_cons, mem, List.mem_cons, List.mem_cons, not_or]
        constructor
        · rintro (rfl | ⟨listed, ⟨-, other⟩, unloaded⟩)
          · exact ⟨Or.inl rfl, untried, unloaded⟩
          · exact ⟨Or.inr listed, other, unloaded⟩
        · rintro ⟨rfl | listed, other, unloaded⟩
          · exact Or.inl rfl
          · by_cases same : m = ns
            · exact Or.inl same
            · exact Or.inr ⟨listed, ⟨same, other⟩, unloaded⟩
      · rw [run_tryImport_of_unknown untried unloaded]
        refine run.trans ?_
        simp

/-! ## Giving up -/

/-- What is reported of a component depends on its name and document, not on its state. -/
theorem unresolved_congr {a b : Assembly} {failed : List Namespace} {id : ComponentId}
    (registry : b.registry = a.registry)
    (info : ∃ f : ComponentInfo → ResolutionState,
      b.arena.info? id = (a.arena.info? id).map fun info => { info with state := f info })
    (references : b.arena.references id = a.arena.references id) :
    unresolved b failed id = unresolved a failed id := by
  obtain ⟨f, same⟩ := info
  rw [unresolved, unresolved, same, registry, references]
  cases a.arena.info? id <;> rfl

/-- Each of the components is given up, and what it refers to in vain is reported in turn. -/
theorem forM_giveUp (failed : List Namespace) {todo : List ComponentId} (distinct : todo.Nodup)
    {a : Assembly} (open' : ∀ id ∈ todo, IsOpen a.arena id) :
    ((todo.forM (giveUp failed)).run a).2.errors = a.errors ++ todo.flatMap (unresolved a failed) ∧
      ∀ id, ((todo.forM (giveUp failed)).run a).2.arena.info? id = (a.arena.info? id).map fun info =>
        { info with state := if id ∈ todo then .failed else info.state } := by
  induction todo generalizing a with
  | nil =>
    refine ⟨(List.append_nil _).symm, fun id => ?_⟩
    simp only [List.not_mem_nil, if_false]
    exact (Option.map_id' ..).symm
  | cons first rest ih =>
    obtain ⟨fresh, distinct⟩ := List.nodup_cons.mp distinct
    have given := givenUp_giveUp a failed first
    change ((rest.forM (giveUp failed)).run ((giveUp failed first).run a).2).2.errors = _ ∧
      ∀ id, ((rest.forM (giveUp failed)).run ((giveUp failed first).run a).2).2.arena.info? id = _
    generalize ((giveUp failed first).run a).2 = b at given
    cases given with
    | idle closed => exact absurd (open' first List.mem_cons_self) closed
    | fail _ =>
      have states : ∀ id, (a.arena.setState .failed first).info? id = (a.arena.info? id).map fun info =>
          { info with state := if id = first then .failed else info.state } := by
        intro id
        rw [Arena.info?_setState]
        split
        · rename_i same
          rw [same]
        · exact (Option.map_id' ..).symm
      obtain ⟨errors, info⟩ := ih distinct (a := { a with
          arena := a.arena.setState .failed first
          errors := a.errors ++ unresolved a failed first }) fun id hid => by
        obtain ⟨found, hf, opened⟩ := open' id (List.mem_cons_of_mem _ hid)
        have ne : id ≠ first := fun same => fresh (same ▸ hid)
        refine ⟨found, ?_, opened⟩
        simp only [states, hf, if_neg ne, Option.map_some]
      refine ⟨?_, fun id => ?_⟩
      · rw [errors, List.flatMap_cons, List.append_assoc]
        congr 2
        refine List.flatMap_congr fun id _ => ?_
        exact unresolved_congr rfl ⟨_, states id⟩ (Arena.references_setState ..)
      · rw [info]
        change ((a.arena.setState .failed first).info? id).map _ = _
        rw [states, Option.map_map]
        congr 1
        funext found
        by_cases same : id = first
        · simp [same]
        · simp [same]

/-! ## The outcome -/

/-- Why a reference that cannot be bound stands for nothing. -/
def reason (registry : Registry) (document : DocumentId) (r : AnyReference) :
    Option ReferenceFault :=
  if !registry.isVisible document r.name.ns then some (.notImported r.name.ns)
  else if registry.isLoaded r.name.ns then none
  else some .importFailed

/-- The errors of the references of a component that cannot be bound. -/
def reports (a : Assembly) (id : ComponentId) : List Error :=
  ((a.arena.info? id).map fun info =>
    let location := ((a.registry.document? info.document).map (·.location.render)).getD ""
    (broken a.registry a.arena id).map fun r =>
      .unresolvableReference r.name r.category s!"{info.describe id.category} in {location}"
        (reason a.registry info.document r)).getD []

/-- The namespace might help: a reference that cannot be bound sees it, and it is not loaded. -/
def IsWanted (a : Assembly) (ns : Namespace) : Prop :=
  ∃ id info, a.arena.info? id = some info ∧ ∃ r ∈ broken a.registry a.arena id,
    r.name.ns = ns ∧ a.registry.isVisible info.document ns = true ∧
      a.registry.isLoaded ns = false

/-- The outcome of resolving an assembly without a retriever. -/
structure Diagnoses (a : Assembly) (report : ResolutionReport) (after : Assembly) : Prop where
  errors : ∃ namespaces : List Namespace, namespaces.Nodup ∧
    (∀ ns, ns ∈ namespaces ↔ IsWanted a ns) ∧
    after.errors = namespaces.map (.importUnavailable · .noRetriever) ++
      a.arena.componentIds.flatMap (reports a)
  states : ∀ id, after.arena.info? id = (a.arena.info? id).map fun info =>
    { info with state := if broken a.registry a.arena id = [] then .resolved else .failed }
  passes : report.passes ≤ 2
  once : (∀ id, broken a.registry a.arena id = []) → (∃ id, IsOpen a.arena id) → report.passes = 1

section Outcome

variable {a : Assembly} {arena : Arena} {id : ComponentId}

/-- Some of what can be bound is bound. -/
structure Partly (a : Assembly) (arena : Arena) : Prop where
  ids : arena.componentIds = a.arena.componentIds
  info : ∀ id, ∃ state, arena.info? id = (a.arena.info? id).map (fun info =>
    { info with state := state }) ∧ (state = .unresolved ∨
      state = .resolved ∧ ∀ r ∈ arena.references id, r.isBound)
  broken : ∀ id, broken a.registry arena id = broken a.registry a.arena id

/-- All that can be bound is bound. -/
structure Wholly (a : Assembly) (arena : Arena) : Prop where
  ids : arena.componentIds = a.arena.componentIds
  info : ∀ id, arena.info? id = (a.arena.info? id).map fun info =>
    { info with
      state := if Resolution.broken a.registry a.arena id = [] then .resolved else .unresolved }
  broken : ∀ id, broken a.registry arena id = broken a.registry a.arena id
  unbound : ∀ id, (arena.references id).filter (fun r => !r.isBound) =
    Resolution.broken a.registry a.arena id

theorem broken_eq_nil (registry : Registry) (h : ∀ r ∈ arena.references id, r.isBound) :
    broken registry arena id = [] := by
  cases hi : arena.info? id with
  | none => rw [broken, hi]; rfl
  | some info =>
    rw [broken_of_info? hi, List.filter_eq_nil_iff]
    intro r hr
    rw [isBroken, h r hr]
    exact Bool.false_ne_true

theorem isSome_info?_of_broken {registry : Registry} (h : broken registry arena id ≠ []) :
    ∃ info, arena.info? id = some info := by
  cases hi : arena.info? id with
  | none =>
    rw [broken, hi] at h
    exact absurd rfl h
  | some info => exact ⟨info, rfl⟩

/-- At the start what is resolved is bound. -/
theorem partly_refl (coherent : a.Coherent) (unfailed : Unfailed a.arena) : Partly a a.arena where
  ids := rfl
  info id := by
    cases hi : a.arena.info? id with
    | none => exact ⟨.unresolved, rfl, Or.inl rfl⟩
    | some info =>
      refine ⟨info.state, rfl, ?_⟩
      have settled := coherent.settled hi
      have kept := unfailed hi
      cases state : info.state with
      | unresolved => exact Or.inl rfl
      | resolving => exact absurd state settled
      | resolved =>
        refine Or.inr ⟨rfl, fun r hr => ?_⟩
        rw [Arena.references_eq] at hr
        exact Mention.isBound_of_isSome_target (coherent.resolved hi state) hr
      | failed => exact absurd state kept
  broken _ := rfl

theorem Wholly.partly (h : Wholly a arena) : Partly a arena where
  ids := h.ids
  info id := by
    refine ⟨_, h.info id, ?_⟩
    split
    · rename_i none
      refine Or.inr ⟨rfl, fun r hr => ?_⟩
      have := h.unbound id
      rw [none, List.filter_eq_nil_iff] at this
      simpa using this r hr
    · exact Or.inl rfl
  broken := h.broken

/-- A component with a reference that cannot be bound stays open. -/
theorem Partly.isOpen (h : Partly a arena) (any : Resolution.broken a.registry a.arena id ≠ []) :
    IsOpen arena id := by
  obtain ⟨info, hi⟩ := isSome_info?_of_broken any
  obtain ⟨state, same, unresolved | ⟨-, bound⟩⟩ := h.info id
  · rw [hi] at same
    exact ⟨_, same, unresolved⟩
  · rw [← h.broken, broken_eq_nil _ bound] at any
    exact absurd rfl any

theorem nodup_pending (arena : Arena) : (pending arena).Nodup :=
  arena.nodup_componentIds.filter _

/-- Components that are not open have nothing left to bind. -/
theorem Partly.isBound_of_not_open (h : Partly a arena) (closed : ¬ IsOpen arena id) :
    ∀ r ∈ arena.references id, r.isBound := by
  intro r hr
  have listed := hr
  rw [Arena.references_eq] at listed
  obtain ⟨m, hm, -⟩ := List.mem_filterMap.mp listed
  obtain ⟨info, hi⟩ := Arena.has_iff.mp (Arena.has_of_mem_mentions hm)
  obtain ⟨state, same, states⟩ := h.info id
  obtain ⟨before, -, rfl⟩ := Option.map_eq_some_iff.mp (same.symm.trans hi)
  rcases states with rfl | ⟨-, bound⟩
  · exact absurd ⟨_, hi, rfl⟩ closed
  · exact bound r hr

/-- A pass binds all that can be bound. -/
theorem Partly.wholly (h : Partly a arena) (classifies : a.registry.Classifies) :
    Wholly a (pass a.registry arena (pending arena)).arena := by
  have examined := examined_pass (a := arena) classifies (nodup_pending arena)
  have here : ∀ id, (pass a.registry arena (pending arena)).arena.info? id =
        (a.arena.info? id).map (fun info => { info with
          state := if Resolution.broken a.registry a.arena id = [] then .resolved
            else .unresolved }) ∧
      Resolution.broken a.registry (pass a.registry arena (pending arena)).arena id =
        Resolution.broken a.registry a.arena id ∧
      ((pass a.registry arena (pending arena)).arena.references id).filter (fun r => !r.isBound) =
        Resolution.broken a.registry a.arena id := by
    intro id
    obtain ⟨state, same, states⟩ := h.info id
    rw [← h.broken id]
    by_cases open' : IsOpen arena id
    · obtain ⟨found, hf, opened⟩ := open'
      have listed := mem_pending_iff.mpr ⟨found, hf, opened⟩
      have info := examined.info listed hf opened
      have references := examined.references listed hf opened
      refine ⟨?_, ?_, ?_⟩
      · rw [info]
        obtain ⟨before, hb, rfl⟩ := Option.map_eq_some_iff.mp (same.symm.trans hf)
        rw [hb]
        rfl
      · rw [broken_of_info? info, broken_of_info? hf, references, broken_bindWith classifies]
      · rw [references, unbound_bindWith classifies, broken_of_info? hf]
    · obtain ⟨sameInfo, sameReferences⟩ := examined.others fun ⟨_, opened⟩ => open' opened
      have bound := h.isBound_of_not_open open'
      have none := broken_eq_nil a.registry bound
      refine ⟨?_, ?_, ?_⟩
      · rw [sameInfo, none, if_pos rfl, same]
        rcases states with rfl | ⟨rfl, -⟩
        · cases hi : a.arena.info? id with
          | none => rfl
          | some info =>
            rw [hi] at same
            exact absurd ⟨_, same, rfl⟩ open'
        · rfl
      · rw [none]
        refine broken_eq_nil _ ?_
        rw [sameReferences]
        exact bound
      · rw [none, sameReferences, List.filter_eq_nil_iff]
        intro r hr
        rw [bound r hr]
        decide
  exact ⟨examined.ids.trans h.ids, fun id => (here id).1, fun id => (here id).2.1,
    fun id => (here id).2.2⟩

/-- The components that are open then are those with references that cannot be bound. -/
theorem Wholly.mem_pending (h : Wholly a arena) :
    id ∈ pending arena ↔ Resolution.broken a.registry a.arena id ≠ [] := by
  rw [mem_pending_iff]
  refine ⟨?_, h.partly.isOpen⟩
  rintro ⟨found, hf, opened⟩ none
  obtain ⟨before, -, rfl⟩ := Option.map_eq_some_iff.mp ((h.info id).symm.trans hf)
  rw [if_pos none] at opened
  cases opened

/-- A pass that resolves nothing leaves the same components open. -/
theorem Examined.pending_eq {registry : Registry} {todo : List ComponentId} {p : Pass}
    (h : Examined registry arena todo p) (all : ∀ id, IsOpen arena id → id ∈ todo)
    (zero : p.resolved = 0) : pending p.arena = pending arena := by
  unfold pending
  rw [h.ids]
  refine List.filter_congr fun id _ => ?_
  by_cases open' : IsOpen arena id
  · have any := h.resolved.mp zero id (all id open') open'
    obtain ⟨info, hi, opened⟩ := open'
    rw [h.info (all id ⟨info, hi, opened⟩) hi opened, if_neg any, hi, Option.map_some,
      Option.map_some, opened]
  · rw [(h.others fun ⟨_, opened⟩ => open' opened).1]

/-- The namespaces that are needed after a pass are those that might help. -/
theorem Partly.mem_needed (h : Partly a arena) (classifies : a.registry.Classifies)
    (ns : Namespace) :
    ns ∈ (pass a.registry arena (pending arena)).needed ↔ IsWanted a ns := by
  have examined := examined_pass (a := arena) classifies (nodup_pending arena)
  have isBroken_of_mem : ∀ {id info r}, a.arena.info? id = some info →
      r ∈ Resolution.broken a.registry a.arena id →
        isBroken a.registry info.document r = true := by
    intro id info r hi hr
    rw [broken_of_info? hi] at hr
    exact (List.mem_filter.mp hr).2
  rw [examined.needed]
  constructor
  · rintro ⟨id, -, found, hf, -, r, hr, wanted⟩
    obtain ⟨state, same, -⟩ := h.info id
    obtain ⟨info, hi, rfl⟩ := Option.map_eq_some_iff.mp (same.symm.trans hf)
    rw [h.broken] at hr
    exact ⟨id, info, hi, r, hr, (missing?_eq_some_iff (isBroken_of_mem hi hr)).mp wanted⟩
  · rintro ⟨id, info, hi, r, hr, wanted⟩
    obtain ⟨found, hf, opened⟩ := h.isOpen (List.ne_nil_of_mem hr)
    obtain ⟨state, same, -⟩ := h.info id
    obtain ⟨info', hi', rfl⟩ := Option.map_eq_some_iff.mp (same.symm.trans hf)
    cases hi.symm.trans hi'
    refine ⟨id, mem_pending_iff.mpr ⟨_, hf, opened⟩, _, hf, opened, r, h.broken id ▸ hr, ?_⟩
    exact (missing?_eq_some_iff (isBroken_of_mem hi hr)).mpr wanted

/-- What is not bound has been broken from the start, and is reported for the reason that there was
from the start. -/
theorem Wholly.unresolved_eq (h : Wholly a arena) {failed : List Namespace}
    (wanted : ∀ ns, ns ∈ failed ↔ IsWanted a ns) (errors : List Error) (id : ComponentId) :
    unresolved { a with arena := arena, errors := errors } failed id = reports a id := by
  rw [unresolved, reports, h.info id]
  cases hi : a.arena.info? id with
  | none => rfl
  | some info =>
    dsimp only [Option.map_some, Option.getD_some]
    rw [h.unbound id]
    refine List.map_congr_left fun r hr => ?_
    have sameFault : fault? a.registry failed info.document r = reason a.registry info.document r := by
      rw [fault?, reason]
      cases visible : a.registry.isVisible info.document r.name.ns with
      | false => rfl
      | true =>
        cases loaded : a.registry.isLoaded r.name.ns with
        | true =>
          have untried : r.name.ns ∉ failed := fun tried => by
            obtain ⟨_, _, _, _, _, _, _, unloaded⟩ := (wanted _).mp tried
            rw [loaded] at unloaded
            cases unloaded
          simp [untried]
        | false =>
          have tried : r.name.ns ∈ failed :=
            (wanted _).mpr ⟨id, info, hi, r, hr, rfl, visible, loaded⟩
          simp [tried]
    exact congrArg (Error.unresolvableReference r.name r.category _) sameFault

theorem reports_eq_nil (none : Resolution.broken a.registry a.arena id = []) : reports a id = [] := by
  rw [reports, none]
  cases a.arena.info? id <;> rfl

/-- What comes to nothing can be left out. -/
theorem flatMap_filter_of_nil {α β : Type} {p : α → Bool} {f : α → List β}
    (none : ∀ x, p x = false → f x = []) (xs : List α) :
    (xs.filter p).flatMap f = xs.flatMap f := by
  induction xs with
  | nil => rfl
  | cons x xs ih =>
    rw [List.filter_cons, List.flatMap_cons, ← ih]
    split
    · rw [List.flatMap_cons]
    · rename_i out
      rw [none x (Bool.eq_false_iff.mpr out), List.nil_append]

/-- Only components that stay open have something to report. -/
theorem Wholly.flatMap_reports (h : Wholly a arena) :
    (pending arena).flatMap (reports a) = a.arena.componentIds.flatMap (reports a) := by
  rw [pending, h.ids]
  refine flatMap_filter_of_nil (fun id closed => reports_eq_nil ?_) _
  by_contra any
  obtain ⟨info, hi, opened⟩ := h.partly.isOpen any
  rw [hi, Option.map_some, opened] at closed
  cases closed

/-- Where all is bound that can be, what is left is given up. -/
theorem Wholly.diagnoses (h : Wholly a arena) {namespaces : List Namespace}
    (distinct : namespaces.Nodup) (wanted : ∀ ns, ns ∈ namespaces ↔ IsWanted a ns)
    (report : ResolutionReport) (passes : report.passes ≤ 2)
    (once : (∀ id, Resolution.broken a.registry a.arena id = []) → (∃ id, IsOpen a.arena id) →
      report.passes = 1) :
    Diagnoses a report (((pending arena).forM (giveUp namespaces.reverse)).run
      { a with arena := arena, errors := namespaces.map (.importUnavailable · .noRetriever) }).2 := by
  have failed : ∀ ns, ns ∈ namespaces.reverse ↔ IsWanted a ns :=
    fun ns => List.mem_reverse.trans (wanted ns)
  obtain ⟨errors, states⟩ := forM_giveUp namespaces.reverse (nodup_pending arena)
    (a := { a with
      arena := arena, errors := namespaces.map (.importUnavailable · .noRetriever) })
    fun id hid => mem_pending_iff.mp hid
  refine ⟨⟨namespaces, distinct, wanted, ?_⟩, fun id => ?_, passes, once⟩
  · rw [errors, List.flatMap_congr fun id _ => h.unresolved_eq failed _ id, h.flatMap_reports]
  · rw [states]
    change (arena.info? id).map _ = _
    rw [h.info id, Option.map_map]
    congr 1
    funext info
    by_cases none : Resolution.broken a.registry a.arena id = []
    · have closed : id ∉ pending arena := fun listed => h.mem_pending.mp listed none
      simp [none, closed]
    · simp [none, h.mem_pending.mpr none]

theorem IsWanted.unloaded {ns : Namespace} (h : IsWanted a ns) : a.registry.isLoaded ns = false := by
  obtain ⟨_, _, _, _, _, _, _, unloaded⟩ := h
  exact unloaded

/-- Once all is bound that can be and the namespaces have been tried, one more pass is the last. -/
theorem diagnoses_last {tried : List Namespace} (bound : Wholly a arena)
    (classifies : a.registry.Classifies) (distinct : tried.Nodup)
    (wanted : ∀ ns, ns ∈ tried ↔ IsWanted a ns) {report : ResolutionReport}
    (once : report.passes = 1) (limits : Limits) (fuel : Nat) {b : Assembly}
    (hb : b = { a with
      arena := arena, errors := tried.map (.importUnavailable · .noRetriever) }) :
    Diagnoses a ((passes ⟨none, limits⟩ (fuel + 1) tried.reverse report).run b).1
      ((passes ⟨none, limits⟩ (fuel + 1) tried.reverse report).run b).2 := by
  by_cases any : pending arena = []
  · rw [passes_idle _ _ _ _ (hb ▸ any), hb]
    have := bound.diagnoses distinct wanted report (by omega) fun _ _ => once
    rw [any] at this
    exact this
  have again := bound.partly.wholly classifies
  have needed := bound.partly.mem_needed classifies
  have examined := examined_pass (a := arena) classifies (nodup_pending arena)
  have zero : (pass a.registry arena (pending arena)).resolved = 0 :=
    examined.resolved.mpr fun id hid _ => bound.broken id ▸ bound.mem_pending.mp hid
  have same := examined.pending_eq (fun id => mem_pending_iff.mpr) zero
  have next : nextPass b = pass a.registry arena (pending arena) := by rw [hb, nextPass]
  obtain ⟨imports, c, report', twice, hrun, step⟩ :=
    passes_step (a := b) ⟨none, limits⟩ tried.reverse report (hb ▸ any)
  have last := step fuel
  rw [next] at hrun last
  obtain ⟨more, -, mem, run⟩ := imports_unavailable limits
    (pass a.registry arena (pending arena)).needed tried.reverse 0
    { b with arena := (pass a.registry arena (pending arena)).arena }
  have none : more = [] := by
    refine List.eq_nil_iff_forall_not_mem.mpr fun ns hns => ?_
    obtain ⟨listed, untried, -⟩ := (mem ns).mp hns
    exact untried (List.mem_reverse.mpr ((wanted ns).mpr ((needed ns).mp listed)))
  cases run.symm.trans hrun
  dsimp only at last
  rw [if_pos ⟨zero, rfl⟩, none, List.reverse_nil, List.nil_append, List.map_nil,
    List.append_nil] at last
  rw [last]
  have := again.diagnoses distinct wanted report' (by omega) fun all => by
    obtain ⟨id, hid⟩ := List.exists_mem_of_ne_nil _ any
    exact absurd (all id) (bound.mem_pending.mp hid)
  rw [same] at this
  subst hb
  exact this

/-- One pass binds all that can be bound. If it resolves a component and leaves one open, another one
follows, after which what is open is given up. -/
theorem diagnoses_passes (start : Partly a a.arena) (classifies : a.registry.Classifies)
    (clean : a.errors = []) (limits : Limits) (fuel : Nat) :
    Diagnoses a ((passes ⟨none, limits⟩ (fuel + 2) [] ⟨0, 0, 0⟩).run a).1
      ((passes ⟨none, limits⟩ (fuel + 2) [] ⟨0, 0, 0⟩).run a).2 := by
  have bound := start.wholly classifies
  have needed := start.mem_needed classifies
  have examined := examined_pass (a := a.arena) classifies (nodup_pending a.arena)
  by_cases any : pending a.arena = []
  · rw [any] at bound needed
    have := bound.diagnoses List.nodup_nil needed ⟨0, 0, 0⟩ (Nat.zero_le 2)
      fun _ ⟨id, open'⟩ => absurd (any ▸ mem_pending_iff.mpr open') List.not_mem_nil
    rw [passes_idle _ _ _ _ any]
    change pending (pass a.registry a.arena []).arena = [] at any
    rw [any] at this
    obtain ⟨arena, registry, errors⟩ := a
    subst clean
    exact this
  obtain ⟨imports, b, report, once, hrun, step⟩ :=
    passes_step ⟨none, limits⟩ [] ⟨0, 0, 0⟩ any
  have last := step (fuel + 1)
  obtain ⟨tried, distinct, mem, run⟩ := imports_unavailable limits (nextPass a).needed [] 0
    { a with arena := (nextPass a).arena }
  have wanted : ∀ ns, ns ∈ tried ↔ IsWanted a ns := by
    intro ns
    rw [mem, nextPass, needed]
    exact ⟨fun h => h.1, fun h => ⟨h, List.not_mem_nil, h.unloaded⟩⟩
  cases run.symm.trans hrun
  dsimp only at last
  rw [List.append_nil, clean, List.nil_append] at last
  by_cases zero : (nextPass a).resolved = 0
  · rw [if_pos ⟨zero, rfl⟩] at last
    rw [last]
    have same := examined.pending_eq (fun id => mem_pending_iff.mpr) zero
    have := bound.diagnoses distinct wanted report (once.le.trans (by decide))
      fun _ _ => once
    rw [same] at this
    exact this
  · rw [if_neg fun both => zero both.1] at last
    rw [last]
    exact diagnoses_last bound classifies distinct wanted once limits fuel rfl

end Outcome

/-- Without a retriever exactly those references are reported that cannot be bound, and exactly
those namespaces that might have helped. -/
theorem resolve_diagnoses (limits : Limits) (supply : Schema.Supply) (documents : List Document) :
    Diagnoses (Model.readInto supply documents)
      ((resolve ⟨none, limits⟩).run (Model.readInto supply documents)).1
      ((resolve ⟨none, limits⟩).run (Model.readInto supply documents)).2 := by
  have start := partly_refl (Model.coherent_readInto supply documents)
    (Model.unfailed_readInto supply documents)
  have classifies := Model.classifies_readInto supply documents
  have clean : (Model.readInto supply documents).errors = [] := rfl
  generalize Model.readInto supply documents = a at start classifies clean
  obtain ⟨fuel, run⟩ : ∃ fuel, (resolve ⟨none, limits⟩).run a =
      (passes ⟨none, limits⟩ (fuel + 2) [] ⟨0, 0, 0⟩).run a := by
    refine ⟨0 + 2 * (limits.schemaComponents + a.arena.size) + 1, ?_⟩
    rfl
  rw [run]
  exact diagnoses_passes start classifies clean limits fuel

end Xsd.Resolution
