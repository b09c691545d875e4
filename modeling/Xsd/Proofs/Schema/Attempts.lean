import Xsd.FileTree
import Xsd.Proofs.Derivation.Uses
import Xsd.Proofs.Schema.Bindings

/-!
# Attempts at imports

The passes of a resolution are counted by the imports that are made in it, of which notes are taken
while it runs. A namespace is imported once at most, since it is then either loaded or known to fail.
Where nothing is imported, the names stay what they are, so the components that are left are stuck:
one more pass shows that, and is the last one.
-/

namespace Xsd

/-- The source has a document that declares the namespace. -/
def Schema.Supply.Declares (supply : Supply) (ns : Namespace) : Prop :=
  ∃ retriever ∈ supply.retriever, ∃ request document, retriever.fetch request = .ok document ∧
    declaredNamespace document = ns

namespace Resolution

/-! ## One import -/

/-- No import of the namespace is attempted, since one has failed before or the namespace is
loaded. -/
def IsSettled (failed : List Namespace) (registry : Registry) (ns : Namespace) : Prop :=
  ns ∈ failed ∨ registry.isLoaded ns = true

instance (failed : List Namespace) (registry : Registry) (ns : Namespace) :
    Decidable (IsSettled failed registry ns) :=
  inferInstanceAs (Decidable (_ ∨ _))

theorem isSettled_iff {failed : List Namespace} {registry : Registry} {ns : Namespace} :
    (failed.contains ns || registry.isLoaded ns) = true ↔ IsSettled failed registry ns := by
  rw [Bool.or_eq_true, List.contains_iff_mem, IsSettled]

variable {supply : Schema.Supply} {ns : Namespace} {a b : Assembly} {failed : List Namespace}

/-- An import fails without effect where no document declares the namespace. -/
theorem importNamespace_of_not_declares (undeclared : ¬ supply.Declares ns) (a : Assembly) :
    ∃ e, (importNamespace supply ns).run.run a = (.error e, a) := by
  unfold importNamespace
  split
  · exact ⟨_, rfl⟩
  · rename_i retriever hretriever
    have get_bind (f : Assembly → Assemble Unit) : (get >>= f).run.run a = (f a).run.run a := rfl
    rw [get_bind]
    extract_lets request
    split
    · exact ⟨_, rfl⟩
    · rename_i document fetched
      have other : Schema.declaredNamespace document ≠ ns := fun same =>
        undeclared ⟨retriever, hretriever, request, document, fetched, same⟩
      have refused : Schema.buildImported supply ns document =
          throw (.importUnavailable ns
            (.otherNamespace document.location (Schema.declaredNamespace document))) := if_neg other
      rw [refused]
      exact ⟨_, rfl⟩

/-- What comes of trying to import a namespace. -/
inductive Tried (supply : Schema.Supply) (imports : Imports) (ns : Namespace) (a : Assembly) :
    Imports → Assembly → Prop
  | settled : IsSettled imports.failed a.registry ns → Tried supply imports ns a imports a
  | loaded {b : Assembly} : ¬ IsSettled imports.failed a.registry ns → supply.Declares ns →
    a.Grows b → b.registry.isLoaded ns = true →
      Tried supply imports ns a { imports with loaded := imports.loaded + 1 } b
  | failed {b : Assembly} : ¬ IsSettled imports.failed a.registry ns → a.Grows b →
    (¬ supply.Declares ns → b.arena = a.arena ∧ b.registry = a.registry) →
      Tried supply imports ns a { imports with failed := ns :: imports.failed } b

theorem Tried.grows {imports imports' : Imports} (h : Tried supply imports ns a imports' b) :
    a.Grows b := by
  cases h with
  | settled => exact .refl a
  | loaded _ _ grows => exact grows
  | failed _ grows => exact grows

theorem tried_tryImport (supply : Schema.Supply) (imports : Imports) (ns : Namespace)
    (general : a.arena.Has (.type .anyType)) :
    Tried supply imports ns a ((tryImport supply imports ns).run a).1
      ((tryImport supply imports ns).run a).2 := by
  change Tried supply imports ns a ((if imports.failed.contains ns || a.registry.isLoaded ns
    then _ else _ : StateM Assembly Imports).run a).1 ((if _ then _ else _ :
      StateM Assembly Imports).run a).2
  split
  · rename_i known
    exact .settled (isSettled_iff.mp known)
  · rename_i unknown
    have untried := unknown ∘ isSettled_iff.mpr
    have import' :=
      builds_importNamespace (stable_follows a) general (.refl a) supply ns (.refl a)
    have idle := fun undeclared : ¬ supply.Declares ns =>
      importNamespace_of_not_declares undeclared a
    rw [StateT.run_bind]
    generalize ((importNamespace supply ns).run).run a = outcome at import' idle
    obtain ⟨r, b⟩ := outcome
    obtain ⟨-, grows, result⟩ := import'
    cases r with
    | ok v =>
      refine .loaded untried ?_ grows (result v rfl).1
      by_contra undeclared
      obtain ⟨e, same⟩ := idle undeclared
      cases same
    | error e =>
      refine .failed untried (grows.trans (.note b e)) fun undeclared => ?_
      obtain ⟨e, same⟩ := idle undeclared
      cases same
      exact ⟨rfl, rfl⟩

/-! ## Notes -/

/-- Work on an assembly by which notes of namespaces are taken. -/
abbrev Noting (α : Type) : Type := StateT (List Namespace) (StateM Assembly) α

/-- Note a namespace, and import it. -/
def noting (supply : Schema.Supply) (ns : Namespace) : Noting (Except Error Unit) := do
  modify (· ++ [ns])
  (importNamespace supply ns).run

/-- The notes that are taken from the start of some work. -/
def notes {α : Type} (work : Noting α) (a : Assembly) : List Namespace :=
  ((work.run []).run a).1.2

/-- The work does what it does without notes, and what is noted is added to the notes before. -/
def Tracks {α : Type} (work : Noting α) (plain : StateM Assembly α) : Prop :=
  ∀ log a, (work.run log).run a = (((plain.run a).1, log ++ notes work a), (plain.run a).2)

namespace Tracks

variable {α β : Type} {work : Noting α} {plain : StateM Assembly α} {next : α → Noting β}
  {plainNext : α → StateM Assembly β}

theorem of_eq (what : Assembly → List Namespace)
    (h : ∀ log a, (work.run log).run a = (((plain.run a).1, log ++ what a), (plain.run a).2)) :
    Tracks work plain := by
  intro log a
  rw [h, notes, h, List.nil_append]

theorem pure (v : α) : Tracks (Pure.pure v) (Pure.pure v) :=
  of_eq (fun _ => []) fun log a => by rw [List.append_nil]; rfl

theorem lift (plain : StateM Assembly α) : Tracks (liftM plain) plain :=
  of_eq (fun _ => []) fun log a => by rw [List.append_nil]; rfl

theorem run_bind (h : Tracks work plain) (log : List Namespace) (a : Assembly) :
    ((work >>= next).run log).run a =
      ((next (plain.run a).1).run (log ++ notes work a)).run (plain.run a).2 := by
  rw [StateT.run_bind, StateT.run_bind, h]
  rfl

/-- The notes of one part, and then those of the other. -/
theorem notes_bind (h : Tracks work plain) {a : Assembly} {rest : StateM Assembly β}
    (then' : Tracks (next (plain.run a).1) rest) :
    notes (work >>= next) a = notes work a ++ notes (next (plain.run a).1) (plain.run a).2 := by
  rw [notes, h.run_bind, then', List.nil_append]

theorem bind (h : Tracks work plain) (then' : ∀ v, Tracks (next v) (plainNext v)) :
    Tracks (work >>= next) (plain >>= plainNext) := by
  intro log a
  rw [h.notes_bind (then' _), h.run_bind, then', List.append_assoc]
  rfl

theorem ite {c : Prop} [Decidable c] {work' : Noting α} {plain' : StateM Assembly α}
    (h : Tracks work plain) (h' : Tracks work' plain') :
    Tracks (if c then work else work') (if c then plain else plain') := by
  split
  · exact h
  · exact h'

end Tracks

theorem notes_get_bind {α : Type} (next : Assembly → Noting α) (a : Assembly) :
    notes (liftM (get : StateM Assembly Assembly) >>= next) a = notes (next a) a :=
  rfl

theorem notes_set_bind {α : Type} (b : Assembly) (next : PUnit → Noting α) (a : Assembly) :
    notes (liftM (set b : StateM Assembly PUnit) >>= next) a = notes (next ⟨⟩) b :=
  rfl

/-- What has not been settled is imported, and noted. -/
theorem run_noted (supply : Schema.Supply) (imports : Imports) (ns : Namespace)
    (log : List Namespace) (a : Assembly) :
    ((tryImportWith (noting supply) imports ns).run log).run a =
      ((((tryImport supply imports ns).run a).1,
        log ++ if IsSettled imports.failed a.registry ns then [] else [ns]),
        ((tryImport supply imports ns).run a).2) := by
  change ((if imports.failed.contains ns || a.registry.isLoaded ns then _ else _ :
      Noting Imports).run log).run a =
    ((((if imports.failed.contains ns || a.registry.isLoaded ns then _ else _ :
      StateM Assembly Imports).run a).1, _), ((if _ then _ else _ : StateM Assembly Imports).run a).2)
  by_cases settled : IsSettled imports.failed a.registry ns
  · have known := isSettled_iff.mpr settled
    rw [if_pos known, if_pos known, if_pos settled, List.append_nil]
    rfl
  · have unknown := settled ∘ isSettled_iff.mp
    rw [if_neg unknown, if_neg unknown, if_neg settled]
    have loaded : ((noting supply ns).run log).run a =
        ((((importNamespace supply ns).run.run a).1, log ++ [ns]),
          ((importNamespace supply ns).run.run a).2) := rfl
    rw [StateT.run_bind, StateT.run_bind, loaded, StateT.run_bind]
    generalize (importNamespace supply ns).run.run a = outcome
    obtain ⟨_ | _, b⟩ := outcome <;> rfl

theorem tracks_tryImport (supply : Schema.Supply) (imports : Imports) (ns : Namespace) :
    Tracks (tryImportWith (noting supply) imports ns) (tryImport supply imports ns) :=
  .of_eq _ (run_noted supply imports ns)

theorem notes_tryImport (supply : Schema.Supply) (imports : Imports) (ns : Namespace)
    (a : Assembly) : notes (tryImportWith (noting supply) imports ns) a =
      if IsSettled imports.failed a.registry ns then [] else [ns] := by
  rw [notes, run_noted, List.nil_append]

theorem tracks_foldlM (supply : Schema.Supply) (namespaces : List Namespace) (imports : Imports) :
    Tracks (namespaces.foldlM (tryImportWith (noting supply)) imports)
      (namespaces.foldlM (tryImport supply) imports) := by
  induction namespaces generalizing imports with
  | nil => exact .pure imports
  | cons ns rest ih => exact .bind (tracks_tryImport supply imports ns) ih

/-- The run with notes is the run. -/
theorem tracks_passes (supply : Schema.Supply) (fuel : Nat) (failed : List Namespace)
    (report : ResolutionReport) :
    Tracks (passesWith (noting supply) fuel failed report) (passes supply fuel failed report) := by
  induction fuel generalizing failed report with
  | zero => exact .pure report
  | succ fuel ih =>
    rw [passes_succ, passesWith]
    exact .bind (.lift get) fun a => .ite (.pure report) (.bind (.lift _) fun _ =>
      .bind (tracks_foldlM supply _ _) fun imports =>
        .ite (.bind (.lift _) fun _ => .pure _) (ih _ _))

/-! ## The imports after a pass -/

/-- The namespaces of a list that are imported when it is tried for each of them. -/
def tried (supply : Schema.Supply) (namespaces : List Namespace) (imports : Imports) :
    Assembly → List Namespace :=
  notes (namespaces.foldlM (tryImportWith (noting supply)) imports)

theorem tried_cons (supply : Schema.Supply) (ns : Namespace) (rest : List Namespace)
    (imports : Imports) (a : Assembly) :
    tried supply (ns :: rest) imports a =
      (if IsSettled imports.failed a.registry ns then [] else [ns]) ++
        tried supply rest ((tryImport supply imports ns).run a).1
          ((tryImport supply imports ns).run a).2 := by
  rw [tried, List.foldlM_cons,
    (tracks_tryImport supply imports ns).notes_bind (tracks_foldlM supply rest _), notes_tryImport,
    tried]

theorem IsSettled.mono {failed' : List Namespace} {registry registry' : Registry}
    (h : IsSettled failed registry ns) (more : ∀ ns ∈ failed, ns ∈ failed')
    (extends' : registry.Extends registry') : IsSettled failed' registry' ns :=
  h.imp (more ns) extends'.isLoaded

/-- What the imports come to that are attempted among some namespaces. -/
structure Swept (supply : Schema.Supply) (namespaces : List Namespace) (imports : Imports)
    (a : Assembly) (attempts : List Namespace) (imports' : Imports) (b : Assembly) : Prop where
  grows : a.Grows b
  failed : ∀ ns ∈ imports.failed, ns ∈ imports'.failed
  distinct : attempts.Nodup
  among : ∀ ns ∈ attempts, ns ∈ namespaces
  untried : ∀ ns ∈ attempts, ¬ IsSettled imports.failed a.registry ns
  settled : ∀ ns ∈ namespaces, IsSettled imports'.failed b.registry ns
  idle : (∀ ns ∈ attempts, ¬ supply.Declares ns) →
    imports'.loaded = imports.loaded ∧ b.arena = a.arena ∧ b.registry = a.registry

theorem Swept.nil (supply : Schema.Supply) (imports : Imports) (a : Assembly) :
    Swept supply [] imports a [] imports a where
  grows := .refl a
  failed _ mem := mem
  distinct := List.nodup_nil
  among := List.forall_mem_nil _
  untried := List.forall_mem_nil _
  settled := List.forall_mem_nil _
  idle _ := ⟨rfl, rfl, rfl⟩

theorem Swept.isSettled {namespaces attempts : List Namespace} {imports imports' : Imports}
    (h : Swept supply namespaces imports a attempts imports' b)
    (settled : IsSettled imports.failed a.registry ns) : IsSettled imports'.failed b.registry ns :=
  settled.mono h.failed h.grows.registry

/-- One attempt, and then those at the other namespaces. -/
theorem Tried.cons {c : Assembly} {rest attempts : List Namespace} {imports imports' last : Imports}
    (first : Tried supply imports ns a imports' b) (h : Swept supply rest imports' b attempts last c) :
    Swept supply (ns :: rest) imports a
      ((if IsSettled imports.failed a.registry ns then [] else [ns]) ++ attempts) last c := by
  cases first with
  | settled settled =>
    rw [if_pos settled, List.nil_append]
    exact
      { h with
        among := fun m hm => List.mem_cons_of_mem _ (h.among m hm)
        settled := List.forall_mem_cons.mpr ⟨h.isSettled settled, h.settled⟩ }
  | loaded untried declares grows loaded =>
    rw [if_neg untried, List.singleton_append]
    have done : IsSettled imports.failed b.registry ns := Or.inr loaded
    exact
      { grows := grows.trans h.grows
        failed := h.failed
        distinct := List.nodup_cons.mpr ⟨fun again => h.untried ns again done, h.distinct⟩
        among := List.forall_mem_cons.mpr
          ⟨List.mem_cons_self, fun m hm => List.mem_cons_of_mem _ (h.among m hm)⟩
        untried := List.forall_mem_cons.mpr ⟨untried, fun m hm settled =>
          h.untried m hm (settled.mono (fun _ mem => mem) grows.registry)⟩
        settled := List.forall_mem_cons.mpr ⟨h.isSettled done, h.settled⟩
        idle := fun none => absurd declares (none ns List.mem_cons_self) }
  | failed untried grows idle =>
    rw [if_neg untried, List.singleton_append]
    have more : ∀ m ∈ imports.failed, m ∈ ns :: imports.failed := fun _ =>
      List.mem_cons_of_mem _
    have done : IsSettled (ns :: imports.failed) b.registry ns := Or.inl List.mem_cons_self
    exact
      { grows := grows.trans h.grows
        failed := fun m hm => h.failed m (more m hm)
        distinct := List.nodup_cons.mpr ⟨fun again => h.untried ns again done, h.distinct⟩
        among := List.forall_mem_cons.mpr
          ⟨List.mem_cons_self, fun m hm => List.mem_cons_of_mem _ (h.among m hm)⟩
        untried := List.forall_mem_cons.mpr ⟨untried, fun m hm settled =>
          h.untried m hm (settled.mono more grows.registry)⟩
        settled := List.forall_mem_cons.mpr ⟨h.isSettled done, h.settled⟩
        idle := fun none => by
          obtain ⟨undeclared, none⟩ := List.forall_mem_cons.mp none
          obtain ⟨sameArena, sameRegistry⟩ := idle undeclared
          obtain ⟨count, arena, registry⟩ := h.idle none
          exact ⟨count, arena.trans sameArena, registry.trans sameRegistry⟩ }

theorem swept_foldlM (supply : Schema.Supply) (namespaces : List Namespace) (imports : Imports)
    (general : a.arena.Has (.type .anyType)) :
    Swept supply namespaces imports a (tried supply namespaces imports a)
      ((namespaces.foldlM (tryImport supply) imports).run a).1
      ((namespaces.foldlM (tryImport supply) imports).run a).2 := by
  induction namespaces generalizing imports a with
  | nil => exact .nil supply imports a
  | cons ns rest ih =>
    have first := tried_tryImport supply imports ns general
    rw [List.foldlM_cons, StateT.run_bind, tried_cons]
    exact first.cons (ih _ (first.grows.arena.has general))

/-! ## The run -/

/-- The namespaces that are imported in the passes of a run, in their order. -/
def attempts (supply : Schema.Supply) (fuel : Nat) (failed : List Namespace) :
    Assembly → List Namespace :=
  notes (passesWith (noting supply) fuel failed ⟨0, 0, 0⟩)

theorem notes_idle (supply : Schema.Supply) (fuel : Nat) (failed : List Namespace)
    (report : ResolutionReport) (none : pending a.arena = []) :
    notes (passesWith (noting supply) fuel failed report) a = [] := by
  cases fuel with
  | zero => rfl
  | succ fuel =>
    change notes (if (pending a.arena).isEmpty then _ else _ : Noting ResolutionReport) a = []
    rw [if_pos (by simp [none])]
    rfl

/-- The notes of a pass, and then those of the passes that follow, if any do. -/
theorem notes_passes_succ (supply : Schema.Supply) (fuel : Nat) (failed : List Namespace)
    (report : ResolutionReport) (any : pending a.arena ≠ []) {imports : Imports} {b : Assembly}
    (hrun : ((nextPass a).needed.foldlM (tryImport supply) ⟨failed, 0⟩).run
      { a with arena := (nextPass a).arena } = (imports, b)) :
    ∃ report', notes (passesWith (noting supply) (fuel + 1) failed report) a =
      tried supply (nextPass a).needed ⟨failed, 0⟩ { a with arena := (nextPass a).arena } ++
        if (nextPass a).resolved = 0 ∧ imports.loaded = 0 then []
        else notes (passesWith (noting supply) fuel imports.failed report') b := by
  refine ⟨⟨report.passes + 1, report.resolved + (nextPass a).resolved,
    report.importsLoaded + imports.loaded⟩, ?_⟩
  have some : ¬ (pending a.arena).isEmpty := by simpa using any
  rw [passesWith, notes_get_bind]
  dsimp only
  rw [if_neg some, notes_set_bind, ← nextPass,
    (tracks_foldlM supply _ _).notes_bind
      (.ite (.bind (.lift _) fun _ => .pure _) (tracks_passes supply fuel _ _)), hrun, tried]
  by_cases last : (nextPass a).resolved = 0 ∧ imports.loaded = 0
  · rw [if_pos last, if_pos (by simpa using last)]
    rfl
  · rw [if_neg last, if_neg (by simpa using last)]

/-- The notes do not depend on what has been reported. -/
theorem notes_passes (supply : Schema.Supply) (fuel : Nat) (failed : List Namespace)
    (report : ResolutionReport) (a : Assembly) :
    notes (passesWith (noting supply) fuel failed report) a = attempts supply fuel failed a := by
  rw [attempts]
  generalize (⟨0, 0, 0⟩ : ResolutionReport) = other
  induction fuel generalizing failed report other a with
  | zero => rfl
  | succ fuel ih =>
    by_cases any : pending a.arena = []
    · rw [notes_idle supply _ failed report any, notes_idle supply _ failed other any]
    · obtain ⟨report', same⟩ := notes_passes_succ supply fuel failed report any rfl
      obtain ⟨other', same'⟩ := notes_passes_succ supply fuel failed other any rfl
      rw [same, same', ih _ report' _ other']

theorem attempts_idle (supply : Schema.Supply) (fuel : Nat) (failed : List Namespace)
    (none : pending a.arena = []) : attempts supply fuel failed a = [] :=
  notes_idle supply fuel failed ⟨0, 0, 0⟩ none

/-- A run goes by passes, each followed by imports. -/
theorem exists_round (supply : Schema.Supply) (coherent : a.Coherent) (any : pending a.arena ≠ [])
    (failed : List Namespace) (report : ResolutionReport) :
    ∃ imports b now report', report'.passes = report.passes + 1 ∧ b.Coherent ∧
      Swept supply (nextPass a).needed ⟨failed, 0⟩ { a with arena := (nextPass a).arena } now
        imports b ∧
      ∀ fuel, if (nextPass a).resolved = 0 ∧ imports.loaded = 0 then
        attempts supply (fuel + 1) failed a = now ∧
        (passes supply (fuel + 1) failed report).run a =
          (report', (((pending a.arena).forM (giveUp imports.failed)).run b).2)
      else
        attempts supply (fuel + 1) failed a = now ++ attempts supply fuel imports.failed b ∧
        (passes supply (fuel + 1) failed report).run a =
          (passes supply fuel imports.failed report').run b := by
  obtain ⟨imports, b, report', count, hrun, step⟩ := passes_step supply failed report any
  have swept := swept_foldlM supply (nextPass a).needed ⟨failed, 0⟩ (coherent_nextPass coherent).general
  have after := coherent_imports supply (coherent_nextPass coherent) ⟨failed, 0⟩ (nextPass a).needed
  rw [hrun] at swept after
  refine ⟨imports, b, _, report', count, after, swept, fun fuel => ?_⟩
  have run := step fuel
  obtain ⟨next, noted⟩ := notes_passes_succ supply fuel failed ⟨0, 0, 0⟩ any hrun
  rw [attempts, noted, notes_passes]
  split
  · rename_i last
    rw [if_pos last] at run
    exact ⟨List.append_nil _, run⟩
  · rename_i more
    rw [if_neg more] at run
    exact ⟨rfl, run⟩

/-- In a run no namespace is tried twice, and none that has been tried before. -/
theorem distinct_attempts (supply : Schema.Supply) (coherent : a.Coherent) (fuel : Nat)
    (failed : List Namespace) :
    (attempts supply fuel failed a).Nodup ∧
      ∀ ns ∈ attempts supply fuel failed a, ¬ IsSettled failed a.registry ns := by
  induction fuel generalizing a failed with
  | zero => exact ⟨List.nodup_nil, List.forall_mem_nil _⟩
  | succ fuel ih =>
    by_cases any : pending a.arena = []
    · rw [attempts_idle supply _ failed any]
      exact ⟨List.nodup_nil, List.forall_mem_nil _⟩
    · obtain ⟨imports, b, now, _, -, after, swept, step⟩ :=
        exists_round supply coherent any failed ⟨0, 0, 0⟩
      have run := step fuel
      split at run
      · rw [run.1]
        exact ⟨swept.distinct, swept.untried⟩
      · obtain ⟨distinct, untried⟩ := ih after imports.failed
        rw [run.1]
        refine ⟨List.nodup_append.mpr ⟨swept.distinct, distinct, ?_⟩, ?_⟩
        · rintro ns now _ later rfl
          exact untried ns later (swept.settled ns (swept.among ns now))
        · intro ns mem settled
          rcases List.mem_append.mp mem with now | later
          · exact swept.untried ns now settled
          · exact untried ns later (swept.isSettled settled)

/-- Nothing can be done about the components that are open: no more of them can be bound, and the
namespaces that might help have failed. -/
def IsIdle (failed : List Namespace) (a : Assembly) : Prop :=
  ∀ id ∈ pending a.arena, ∃ info, IsStuck a.registry failed a.arena id info

/-- Then one pass is made at most. -/
theorem passes_of_isIdle (supply : Schema.Supply) (coherent : a.Coherent) {failed : List Namespace}
    (idle : IsIdle failed a) (fuel : Nat) (report : ResolutionReport) :
    ((passes supply fuel failed report).run a).1.passes ≤ report.passes + 1 := by
  cases fuel with
  | zero => exact Nat.le_succ _
  | succ fuel =>
    by_cases any : pending a.arena = []
    · rw [passes_idle supply fuel failed report any]
      exact Nat.le_succ _
    · obtain ⟨imports, b, now, report', count, -, swept, step⟩ :=
        exists_round supply coherent any failed report
      obtain ⟨zero, among⟩ := pass_of_isStuck idle
      have none : ∀ ns, ns ∉ now := fun ns mem =>
        swept.untried ns mem (Or.inl (among ns (swept.among ns mem)))
      have loaded := (swept.idle fun ns mem => absurd mem (none ns)).1
      have run := step fuel
      rw [if_pos ⟨zero, loaded⟩] at run
      rw [run.2]
      exact count.le

/-- After a pass by which no document is read nothing can be done any more. -/
theorem isIdle_of_swept {now : List Namespace} {imports : Imports}
    (swept : Swept supply (nextPass a).needed ⟨failed, 0⟩ { a with arena := (nextPass a).arena } now
      imports b) (none : ∀ ns ∈ now, ¬ supply.Declares ns) : IsIdle imports.failed b := by
  obtain ⟨-, sameArena, sameRegistry⟩ := swept.idle none
  intro id mem
  rw [sameArena] at mem ⊢
  rw [sameRegistry]
  have passed := passed_nextPass a
  have before : IsOpen a.arena id := passed.settles.isOpen (mem_pending_iff.mp mem)
  rcases passed.outcome id (mem_pending_iff.mpr before) before with closed | ⟨info, stuck⟩
  · exact absurd (mem_pending_iff.mp mem) closed
  · refine ⟨info, { stuck with needs := fun r hr ns wanted => ?_ }⟩
    rcases swept.settled ns (stuck.needs r hr wanted) with failed | loaded
    · exact failed
    · rw [sameRegistry] at loaded
      exact absurd loaded (Bool.eq_false_iff.mp (unloaded_of_missing? wanted))

/-- Each pass but the last two is followed by an attempt at a namespace that some document declares;
`counts` tells such namespaces. By induction on the number of passes that are granted. -/
theorem passes_le (supply : Schema.Supply) (counts : Namespace → Bool)
    (all : ∀ ns, supply.Declares ns → counts ns = true) (coherent : a.Coherent) (fuel : Nat)
    (failed : List Namespace) (report : ResolutionReport) :
    ((passes supply fuel failed report).run a).1.passes ≤
      report.passes + (attempts supply fuel failed a).countP counts + 2 := by
  induction fuel generalizing a failed report with
  | zero => exact Nat.le_add_right_of_le (Nat.le_add_right ..)
  | succ fuel ih =>
    by_cases any : pending a.arena = []
    · rw [passes_idle supply fuel failed report any]
      exact Nat.le_add_right_of_le (Nat.le_add_right ..)
    · obtain ⟨imports, b, now, report', count, after, swept, step⟩ :=
        exists_round supply coherent any failed report
      have run := step fuel
      split at run
      · rw [run.2]
        dsimp only
        omega
      · rw [run.1, run.2, List.countP_append]
        by_cases none : ∀ ns ∈ now, ¬ supply.Declares ns
        · have := passes_of_isIdle supply after (isIdle_of_swept swept none) fuel report'
          omega
        · push Not at none
          obtain ⟨ns, mem, declares⟩ := none
          have some : 0 < now.countP counts := List.countP_pos_iff.mpr ⟨ns, mem, all ns declares⟩
          have := ih after imports.failed report'
          omega

/-- A run that has not used up the passes that are granted is over. -/
theorem passes_stable (supply : Schema.Supply) (coherent : a.Coherent) (fuel : Nat)
    (failed : List Namespace) (report : ResolutionReport) :
    ((passes supply fuel failed report).run a).1.passes = report.passes + fuel ∨
      ∀ more,
        (passes supply (fuel + more) failed report).run a = (passes supply fuel failed report).run a ∧
        attempts supply (fuel + more) failed a = attempts supply fuel failed a := by
  induction fuel generalizing a failed report with
  | zero => exact Or.inl rfl
  | succ fuel ih =>
    by_cases any : pending a.arena = []
    · refine Or.inr fun more => ?_
      rw [Nat.add_right_comm, passes_idle supply _ failed report any,
        passes_idle supply fuel failed report any, attempts_idle supply _ failed any,
        attempts_idle supply _ failed any]
      exact ⟨rfl, rfl⟩
    · obtain ⟨imports, b, now, report', count, after, swept, step⟩ :=
        exists_round supply coherent any failed report
      have run := step fuel
      by_cases last : (nextPass a).resolved = 0 ∧ imports.loaded = 0
      · refine Or.inr fun more => ?_
        have again := step (fuel + more)
        rw [if_pos last] at run again
        rw [Nat.add_right_comm, again.1, again.2, run.1, run.2]
        exact ⟨rfl, rfl⟩
      · rw [if_neg last] at run
        rcases ih after imports.failed report' with used | stable
        · left
          rw [run.2]
          omega
        · refine Or.inr fun more => ?_
          have again := step (fuel + more)
          rw [if_neg last] at again
          obtain ⟨sameRun, sameAttempts⟩ := stable more
          rw [Nat.add_right_comm, again.1, again.2, run.1, run.2, sameRun, sameAttempts]
          exact ⟨rfl, rfl⟩

end Resolution

/-! ## Sources that are counted -/

/-- The documents of the source declare no more namespaces than it has texts. -/
def Schema.Supply.IsCounted (supply : Supply) : Prop :=
  ∀ namespaces : List Namespace, namespaces.Nodup → (∀ ns ∈ namespaces, supply.Declares ns) →
    namespaces.length ≤ (supply.retriever.map (·.size)).getD 0

/-- What a document declares is said in its text. -/
def declaredIn (text : String) : Option Namespace :=
  (Document.ofText (.memory "") text).toOption.map Schema.declaredNamespace

theorem declaredIn_of_ofText {location : Location} {text : String} {document : Document}
    (h : Document.ofText location text = .ok document) :
    declaredIn text = some (Schema.declaredNamespace document) := by
  unfold declaredIn Document.ofText Document.parse at *
  cases parsed : Markup.parse .standard text.toUTF8 with
  | error e =>
    rw [parsed] at h
    cases h
  | ok root =>
    rw [parsed] at h
    cases h
    rfl

/-- A source whose documents are made from so many texts at most is counted. -/
theorem Schema.Supply.isCounted_of_texts {retriever : Retriever} (limits : Limits)
    (texts : List String) (size : texts.length ≤ retriever.size)
    (made : ∀ {request document}, retriever.fetch request = .ok document →
      ∃ location, ∃ text ∈ texts, Document.ofText location text = .ok document) :
    Supply.IsCounted ⟨some retriever, limits⟩ := by
  intro namespaces distinct declared
  have among : namespaces ⊆ texts.filterMap declaredIn := by
    intro ns mem
    obtain ⟨_, ⟨⟩, request, document, fetched, rfl⟩ := declared ns mem
    obtain ⟨location, text, ht, parsed⟩ := made fetched
    exact List.mem_filterMap.mpr ⟨text, ht, declaredIn_of_ofText parsed⟩
  calc namespaces.length ≤ (texts.filterMap declaredIn).length :=
        (List.subperm_of_subset distinct among).length_le
    _ ≤ texts.length := List.length_filterMap_le ..
    _ ≤ retriever.size := size

theorem ofText_of_readText {location : Location} {result : Except SourceFault String}
    {document : Document} (h : readText location result = .ok document) :
    ∃ text, result = .ok text ∧ Document.ofText location text = .ok document := by
  unfold readText at h
  split at h
  · cases h
  · split at h
    · cases h
    · rename_i parsed
      cases h
      exact ⟨_, rfl, parsed⟩

/-- Documents in memory are counted. -/
theorem MemoryStore.isCounted (store : MemoryStore) (limits : Limits) :
    Schema.Supply.IsCounted ⟨some store.retriever, limits⟩ := by
  refine Schema.Supply.isCounted_of_texts limits
    (store.byLocation.values ++ store.byNamespace.values) ?_ fun {request document} h => ?_
  · simp [MemoryStore.retriever, Table.values, Table.size]
  · unfold MemoryStore.retriever MemoryStore.fetch at h
    cases request with
    | document location =>
      obtain ⟨text, found, parsed⟩ := ofText_of_readText h
      refine ⟨location, text, List.mem_append_left _ ?_, parsed⟩
      split at found
      · rename_i hit
        cases found
        exact Table.mem_values_of_get? hit
      · cases found
    | declaring ns =>
      obtain ⟨text, found, parsed⟩ := ofText_of_readText h
      refine ⟨_, text, List.mem_append_right _ ?_, parsed⟩
      split at found
      · rename_i hit
        cases found
        exact Table.mem_values_of_get? hit
      · cases found

theorem FileTree.mem_values_of_read {t : FileTree} {path text : String}
    (h : t.read path = .ok text) : text ∈ t.files.values := by
  unfold FileTree.read at h
  split at h
  · cases h
  · obtain ⟨place, -, h⟩ := bind_eq_ok_iff.mp h
    split at h
    · rename_i hit
      cases h
      exact Table.mem_values_of_get? hit
    · cases h

/-- So are documents in the files of a tree. -/
theorem FileTree.isCounted (t : FileTree) (known : Table Namespace Location) (limits : Limits) :
    Schema.Supply.IsCounted ⟨some (t.toFiles.retriever known), limits⟩ := by
  have loaded : ∀ {location document}, t.toFiles.loadDocument location = .ok document →
      ∃ location, ∃ text ∈ t.files.values, Document.ofText location text = .ok document := by
    intro location document h
    obtain ⟨text, found, parsed⟩ := ofText_of_readText h
    refine ⟨location, text, ?_, parsed⟩
    unfold Files.load at found
    split at found
    · split at found
      · rename_i hit
        cases found
        exact mem_values_of_read hit
      · cases found
    · cases found
    · cases found
  refine Schema.Supply.isCounted_of_texts limits t.files.values ?_
    fun {request document} h => ?_
  · simp [Files.retriever, FileTree.toFiles, Table.values, Table.size]
  · unfold Files.retriever Files.fetch at h
    cases request with
    | document location => exact loaded h
    | declaring ns =>
      dsimp only at h
      split at h
      · exact loaded h
      · cases h

/-! ## The end of a run -/

namespace Resolution

variable {supply : Schema.Supply} {a : Assembly}

/-- The namespaces that are requested in a run, however many passes it is granted. -/
def requested (supply : Schema.Supply) (a : Assembly) : Set Namespace :=
  {ns | ∃ fuel, ns ∈ attempts supply fuel [] a}

theorem length_attempts_le (supply : Schema.Supply) (coherent : a.Coherent)
    (finite : (requested supply a).Finite) (fuel : Nat) :
    (attempts supply fuel [] a).length ≤ finite.toFinset.card := by
  rw [← List.toFinset_card_of_nodup (distinct_attempts supply coherent fuel []).1]
  refine Finset.card_le_card fun ns mem => ?_
  exact finite.mem_toFinset.mpr ⟨fuel, List.mem_toFinset.mp mem⟩

/-- Where documents are counted, so are the attempts that can succeed. -/
theorem passes_le_of_isCounted (counted : supply.IsCounted) (coherent : a.Coherent) (fuel : Nat) :
    ((passes supply fuel [] ⟨0, 0, 0⟩).run a).1.passes ≤
      (supply.retriever.map (·.size)).getD 0 + 2 := by
  classical
  have bound := passes_le supply (fun ns => decide (supply.Declares ns))
    (fun ns declares => by simpa using declares) coherent fuel [] ⟨0, 0, 0⟩
  rw [List.countP_eq_length_filter] at bound
  have few := counted ((attempts supply fuel [] a).filter fun ns => decide (supply.Declares ns))
    ((distinct_attempts supply coherent fuel []).1.filter _) fun ns mem => by
      simpa using (List.mem_filter.mp mem).2
  dsimp only at bound
  omega

/-- A counted source is asked for finitely many namespaces. -/
theorem finite_requested (counted : supply.IsCounted) (coherent : a.Coherent) :
    (requested supply a).Finite := by
  set enough := (supply.retriever.map (·.size)).getD 0 + 3 with henough
  have stable := (passes_stable supply coherent enough [] ⟨0, 0, 0⟩).resolve_left fun used => by
    have := passes_le_of_isCounted counted coherent enough
    dsimp only at used
    omega
  have among : requested supply a ⊆
      ⋃ fuel ∈ Finset.range (enough + 1), {ns | ns ∈ attempts supply fuel [] a} := by
    rintro ns ⟨fuel, mem⟩
    rcases Nat.lt_or_ge fuel enough with less | more
    · exact Set.mem_biUnion (Finset.mem_range.mpr (Nat.lt_succ_of_lt less)) mem
    · obtain ⟨further, rfl⟩ := Nat.exists_eq_add_of_le more
      rw [(stable further).2] at mem
      exact Set.mem_biUnion (Finset.mem_range.mpr (Nat.lt_succ_self _)) mem
  exact (Set.Finite.biUnion (Finset.finite_toSet _) fun fuel _ => List.finite_toSet _).subset among

/-- A resolution ends if it asks for finitely many namespaces: from some number on it does not matter
how many passes are granted, and where the texts of the source are counted as many are granted as are
needed. As the notes of it tell, it imports each namespace once at most, and makes at most two passes
more than it makes attempts. -/
theorem resolve_ends (supply supply' : Schema.Supply) (documents : List Document)
    (h : a = Model.readInto supply' documents) (finite : (requested supply a).Finite) :
    (∀ fuel,
      Tracks (passesWith (noting supply) fuel [] ⟨0, 0, 0⟩) (passes supply fuel [] ⟨0, 0, 0⟩) ∧
      (attempts supply fuel [] a).Nodup ∧
      ((passes supply fuel [] ⟨0, 0, 0⟩).run a).1.passes ≤
        (attempts supply fuel [] a).length + 2) ∧
    ∃ enough,
      (∀ fuel, enough ≤ fuel →
        (passes supply fuel [] ⟨0, 0, 0⟩).run a = (passes supply enough [] ⟨0, 0, 0⟩).run a ∧
        attempts supply fuel [] a = attempts supply enough [] a) ∧
      (supply.IsCounted →
        (resolve supply).run a = (passes supply enough [] ⟨0, 0, 0⟩).run a) := by
  have coherent : a.Coherent := h ▸ Model.coherent_readInto supply' documents
  have bound (fuel : Nat) : ((passes supply fuel [] ⟨0, 0, 0⟩).run a).1.passes ≤
      (attempts supply fuel [] a).length + 2 := by
    simpa using passes_le supply (fun _ => true) (fun _ _ => rfl) coherent fuel [] ⟨0, 0, 0⟩
  set enough := finite.toFinset.card + 3 with henough
  have stable := (passes_stable supply coherent enough [] ⟨0, 0, 0⟩).resolve_left fun used => by
    have := bound enough
    have := length_attempts_le supply coherent finite enough
    dsimp only at used
    omega
  refine ⟨fun fuel => ⟨tracks_passes supply fuel [] ⟨0, 0, 0⟩,
    (distinct_attempts supply coherent fuel []).1, bound fuel⟩, enough, fun fuel le => ?_,
    fun counted => ?_⟩
  · obtain ⟨more, rfl⟩ := Nat.exists_eq_add_of_le le
    exact stable more
  · set granted := (supply.retriever.map (·.size)).getD 0 +
      2 * (supply.limits.schemaComponents + a.arena.size) + 3 with hgranted
    have run : (resolve supply).run a = (passes supply granted [] ⟨0, 0, 0⟩).run a := by
      rw [resolve, StateT.run_bind]
      rfl
    have ended :=
      (passes_stable supply coherent granted [] ⟨0, 0, 0⟩).resolve_left fun used => by
        have := passes_le_of_isCounted counted coherent granted
        dsimp only at used
        omega
    rw [run, ← (ended enough).1, ← (stable granted).1, Nat.add_comm]

theorem isCounted_chainSupply (limits : Limits) : (chainSupply limits).IsCounted := by
  have urns : Schema.declaredNamespace (link "b" (some "c")) = some "urn:b" ∧
      Schema.declaredNamespace (link "c" none) = some "urn:c" := by
    decide +kernel
  intro namespaces distinct declared
  have among : namespaces ⊆ [some "urn:b", some "urn:c"] := by
    intro ns mem
    obtain ⟨_, ⟨⟩, request, document, fetched, rfl⟩ := declared ns mem
    dsimp only at fetched
    split at fetched
    · rw [← Except.ok.inj fetched, urns.1]
      exact List.mem_cons_self
    · split at fetched
      · rw [← Except.ok.inj fetched, urns.2]
        exact List.mem_cons_of_mem _ List.mem_cons_self
      · cases fetched
  exact (List.subperm_of_subset distinct among).length_le

theorem resolve_ends_chained :
    (requested (chainSupply .standard) (chained .standard)).Finite ∧
      (∀ fuel,
        Tracks (passesWith (noting (chainSupply .standard)) fuel [] ⟨0, 0, 0⟩)
          (passes (chainSupply .standard) fuel [] ⟨0, 0, 0⟩) ∧
        (attempts (chainSupply .standard) fuel [] (chained .standard)).Nodup ∧
        ((passes (chainSupply .standard) fuel [] ⟨0, 0, 0⟩).run (chained .standard)).1.passes ≤
          (attempts (chainSupply .standard) fuel [] (chained .standard)).length + 2) ∧
      ∃ enough,
        (∀ fuel, enough ≤ fuel →
          (passes (chainSupply .standard) fuel [] ⟨0, 0, 0⟩).run (chained .standard) =
            (passes (chainSupply .standard) enough [] ⟨0, 0, 0⟩).run (chained .standard) ∧
          attempts (chainSupply .standard) fuel [] (chained .standard) =
            attempts (chainSupply .standard) enough [] (chained .standard)) ∧
        ((chainSupply .standard).IsCounted →
          (resolve (chainSupply .standard)).run (chained .standard) =
            (passes (chainSupply .standard) enough [] ⟨0, 0, 0⟩).run (chained .standard)) := by
  have finite := finite_requested (isCounted_chainSupply .standard)
    (Model.coherent_readInto (chainSupply .standard) [link "a" (some "b")])
  exact ⟨finite, resolve_ends _ _ _ rfl finite⟩

/-- Both namespaces are imported, one after the other, and a third pass resolves what is left. -/
example : attempts (chainSupply .standard) 9 [] (chained .standard) = [some "urn:b", some "urn:c"] ∧
    ((passes (chainSupply .standard) 9 [] ⟨0, 0, 0⟩).run (chained .standard)).1 = ⟨3, 5, 2⟩ := by
  decide +kernel

end Resolution

end Xsd
