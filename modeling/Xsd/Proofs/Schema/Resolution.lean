import Xsd.Model
import Xsd.Proofs.Schema.Grounded

/-!
# What resolution keeps

Resolution binds references, marks components and reads documents for namespaces that are imported.
The arena of a compiled model still has the builtin types that it started with.
-/

namespace Xsd

theorem ResolutionState.step_eq_some_iff {before after state result : ResolutionState} :
    step before after state = some result ↔ state = before ∧ after = result := by
  rw [step, Option.ite_none_right_eq_some, Option.some.injEq]

namespace Resolution

variable {P : Assembly → Prop}

/-- What comes of looking at a component once: nothing if it is not up for resolving; else its
references are bound as far as that can be done, and it is resolved if that is all of them. -/
inductive Attempt (registry : Registry) (p : Pass) (id : ComponentId) : Pass → Prop
  | idle : (∀ {info}, p.arena.info? id = some info → info.state ≠ .unresolved) →
    Attempt registry p id p
  | complete {info : ComponentInfo} {arena : Arena} :
    p.arena.info? id = some info → info.state = .unresolved →
      arena = p.arena.bindWith (binder registry info.document) id →
      (∀ r ∈ arena.references id, r.isBound) →
      Attempt registry p id ⟨arena.setState .resolved id, p.resolved + 1, p.needed⟩
  | release {info : ComponentInfo} {arena : Arena} :
    p.arena.info? id = some info → info.state = .unresolved →
      arena = p.arena.bindWith (binder registry info.document) id →
      (∃ r ∈ arena.references id, ¬ r.isBound) →
      Attempt registry p id
        ⟨arena.setState .unresolved id, p.resolved,
          ((arena.references id).filterMap (missing? registry info.document)).foldl
            (fun ns n => Namespace.insertSorted n ns) p.needed⟩

theorem attempt_resolveComponent (registry : Registry) (p : Pass) (id : ComponentId) :
    Attempt registry p id (resolveComponent registry p id) := by
  unfold resolveComponent
  split
  · rename_i missing
    refine .idle fun hi => ?_
    rw [missing] at hi
    cases hi
  · rename_i info hi
    split
    · rename_i unclaimed
      refine .idle fun {info'} hi' unresolved => ?_
      cases hi.symm.trans hi'
      rw [unresolved] at unclaimed
      cases unclaimed
    · rename_i claimed hc
      obtain ⟨unresolved, rfl⟩ := ResolutionState.step_eq_some_iff.mp hc
      extract_lets arena references needed
      split
      · rename_i bound
        exact .complete hi unresolved rfl (List.all_eq_true.mp bound)
      · rename_i unbound
        refine .release hi unresolved rfl ?_
        simpa [references] using unbound

theorem keeps_pass
    (attempt : ∀ {a : Assembly} {resolved needed id q},
      Attempt a.registry ⟨a.arena, resolved, needed⟩ id q → P a → P { a with arena := q.arena })
    {a : Assembly} (todo : List ComponentId) (ha : P a) :
    P { a with arena := (pass a.registry a.arena todo).arena } := by
  have folded : ∀ p : Pass, P { a with arena := p.arena } →
      P { a with arena := (todo.foldl (resolveComponent a.registry) p).arena } := by
    induction todo with
    | nil => exact fun p hp => hp
    | cons id todo ih =>
      intro p hp
      exact ih _ (attempt (a := { a with arena := p.arena })
        (attempt_resolveComponent a.registry p id) hp)
  exact folded ⟨a.arena, 0, []⟩ ha

theorem tryImport_eq (supply : Schema.Supply) (imports : Imports) (ns : Namespace) :
    tryImport supply imports ns = (do
      let a ← get
      if imports.failed.contains ns || a.registry.isLoaded ns then return imports
      match ← (importNamespace supply ns).run with
      | .ok () => return { imports with loaded := imports.loaded + 1 }
      | .error e =>
        modify fun a => { a with errors := a.errors ++ [e] }
        return { imports with failed := ns :: imports.failed }) :=
  rfl

theorem passes_zero (supply : Schema.Supply) (failed : List Namespace) (report : ResolutionReport) :
    passes supply 0 failed report = return report :=
  rfl

/-- One pass, and then the others. -/
theorem passes_succ (supply : Schema.Supply) (fuel : Nat) (failed : List Namespace)
    (report : ResolutionReport) :
    passes supply (fuel + 1) failed report = (do
      let a ← get
      let todo := pending a.arena
      if todo.isEmpty then return report
      let p := pass a.registry a.arena todo
      set { a with arena := p.arena }
      let imports ← p.needed.foldlM (tryImport supply) ⟨failed, 0⟩
      let report : ResolutionReport :=
        ⟨report.passes + 1, report.resolved + p.resolved, report.importsLoaded + imports.loaded⟩
      if p.resolved = 0 && imports.loaded = 0 then
        todo.forM (giveUp imports.failed)
        return report
      else passes supply fuel imports.failed report) :=
  rfl

/-- Looking at a component, importing a namespace and giving a component up do not make the property
fail. -/
structure Preserving (supply : Schema.Supply) (P : Assembly → Prop) : Prop where
  attempt : ∀ {a : Assembly} {resolved needed id q},
    Attempt a.registry ⟨a.arena, resolved, needed⟩ id q → P a → P { a with arena := q.arena }
  tryImport : ∀ imports ns, Keeps P (tryImport supply imports ns)
  giveUp : ∀ failed id, Keeps P (giveUp failed id)

namespace Preserving

variable {supply : Schema.Supply}

/-- By induction on the number of passes that are left. -/
theorem passes (preserving : Preserving supply P) (fuel : Nat) (failed : List Namespace)
    (report : ResolutionReport) : Keeps P (passes supply fuel failed report) := by
  induction fuel generalizing failed report with
  | zero => exact .pure report
  | succ fuel ih =>
    intro a ha
    change P ((if (pending a.arena).isEmpty then _ else _ : StateM Assembly _).run a).2
    split
    · exact ha
    · refine Keeps.bind (.set (keeps_pass preserving.attempt _ ha)) (fun _ => ?_) a ha
      refine Keeps.bind (.foldlM preserving.tryImport) fun imports => ?_
      extract_lets report
      split
      · exact .bind (.forM (preserving.giveUp _)) fun _ => .pure _
      · exact ih _ _

theorem resolve (preserving : Preserving supply P) : Keeps P (resolve supply) :=
  .bind .get fun _ => preserving.passes _ _ _

end Preserving

/-- Neither reading nor resolving makes the property fail, and with it the most general type is
there. -/
structure Lasting (P : Assembly → Prop) : Prop where
  stable : ∀ base, Stable base P
  general : ∀ {a}, P a → a.arena.Has (.type .anyType)
  attempt : ∀ {a : Assembly} {resolved needed id q},
    Attempt a.registry ⟨a.arena, resolved, needed⟩ id q → P a → P { a with arena := q.arena }
  giveUp : ∀ failed id, Keeps P (giveUp failed id)

/-- An import that succeeds loads the namespace. -/
theorem builds_importNamespace {base a : Assembly} (stable : Stable base P)
    (general : base.arena.Has (.type .anyType)) (grown : base.Grows a) (supply : Schema.Supply)
    (ns : Namespace) :
    Builds P a (importNamespace supply ns) fun _ b =>
      b.registry.isLoaded ns ∧
        b.arena.size ≤ max supply.limits.schemaComponents a.arena.size := by
  unfold importNamespace
  split
  · exact .throw _
  · refine .getBind ?_
    extract_lets request
    split
    · exact .throw _
    · exact .discard (Schema.builds_buildImported stable general grown ns _)

theorem Lasting.preserving (lasting : Lasting P) (supply : Schema.Supply) :
    Preserving supply P where
  attempt := lasting.attempt
  giveUp := lasting.giveUp
  tryImport imports ns := by
    refine .bind .get fun a => ?_
    split
    · exact .pure imports
    · refine .bind (fun a ha => ?_) fun r => ?_
      · exact (builds_importNamespace (lasting.stable a) (lasting.general ha) (.refl a) supply ns
          ha).1
      · split
        · exact .pure _
        · exact .bind (.modify fun a => (lasting.stable a).note _) fun _ => .pure _

theorem keeps_resolve (lasting : Lasting P) (supply : Schema.Supply) :
    Keeps P (resolve supply) :=
  (lasting.preserving supply).resolve

end Resolution

namespace Arena

variable {a : Arena} {id : ComponentId}

/-- A component that is not resolved yet is not there from the start. -/
theorem Grounded.missing_of_info? (h : a.Grounded) {info : ComponentInfo}
    (hi : a.info? id = some info) (unresolved : info.state ≠ .resolved) {i : TypeId}
    (hid : id = .type i) : (Arena.initial Registry.builtinDocument).type? i = none := by
  subst hid
  cases ht : (Arena.initial Registry.builtinDocument).type? i with
  | none => rfl
  | some t =>
    rw [info?, h.initial ht] at hi
    cases hi
    exact absurd (initial_state ht) unresolved

theorem Grounded.bindWith (h : a.Grounded) (b : Binder)
    (missing : ∀ {i}, id = .type i →
      (Arena.initial Registry.builtinDocument).type? i = none) : (a.bindWith b id).Grounded := by
  cases id with
  | type i => exact h.modify (missing rfl) fun t => by cases t <;> rfl
  | _ => exact h.of_types rfl

theorem Grounded.setState (h : a.Grounded) (state : ResolutionState)
    (missing : ∀ {i}, id = .type i →
      (Arena.initial Registry.builtinDocument).type? i = none) : (a.setState state id).Grounded := by
  cases id with
  | type i => exact h.modify (missing rfl) fun t => by cases t <;> rfl
  | _ => exact h.of_types rfl

end Arena

theorem lasting_grounded : Resolution.Lasting fun a => a.arena.Grounded where
  stable := stable_grounded
  general h := h.has_anyType
  attempt attempt h := by
    cases attempt with
    | idle => exact h
    | complete hi unresolved bound =>
      have missing := fun {i} => h.missing_of_info? hi (by rw [unresolved]; decide) (i := i)
      exact bound ▸ (h.bindWith _ missing).setState _ missing
    | release hi unresolved bound =>
      have missing := fun {i} => h.missing_of_info? hi (by rw [unresolved]; decide) (i := i)
      exact bound ▸ (h.bindWith _ missing).setState _ missing
  giveUp failed id := by
    refine .modify fun a h => ?_
    split
    · exact h
    · rename_i state hs
      obtain ⟨info, hi, hf⟩ := Option.bind_eq_some_iff.mp hs
      have unresolved : info.state ≠ .resolved := by
        rw [(ResolutionState.step_eq_some_iff.mp hf).1]
        decide
      exact h.setState _ fun hid => h.missing_of_info? hi unresolved hid

namespace Model

/-- The documents are read one after the other. -/
theorem run_build_cons {supply : Schema.Supply} {a : Assembly} (start : Document)
    (starts : List Document) :
    (build supply (start :: starts)).run a =
      let first := (Schema.build supply start).run.run a
      let rest := (build supply starts).run first.2
      (first.1 :: rest.1, rest.2) := by
  unfold build
  rw [List.mapM_cons]
  rfl

theorem keeps_build {P : Assembly → Prop} (lasting : Resolution.Lasting P) (supply : Schema.Supply)
    (documents : List Document) : Keeps P (build supply documents) :=
  .mapM fun document a ha =>
    (Schema.builds_readAt (lasting.stable a) (lasting.general ha) (.refl a) 0 document ha).1

/-- The documents, and those that they import, with all references resolved, unless something is wrong
with them. -/
def assembled (supply : Schema.Supply) (documents : List Document) :
    Except (List Error) (ResolutionReport × Assembly) :=
  let (results, a) := (build supply documents).run .initial
  let errors := failures results ++ a.errors
  if !errors.isEmpty then .error errors
  else
    let (report, a) := (Resolution.resolve supply).run a
    if !a.errors.isEmpty then .error a.errors else .ok (report, a)

theorem compile_eq (supply : Schema.Supply) (documents : List Document) :
    compile supply documents =
      assembled supply documents >>= fun (report, a) => ofAssembly a report supply.limits := by
  unfold compile assembled
  generalize (build supply documents).run .initial = outcome
  obtain ⟨results, a⟩ := outcome
  dsimp only
  split
  · rfl
  · generalize (Resolution.resolve supply).run a = outcome
    obtain ⟨report, a'⟩ := outcome
    dsimp only
    split <;> rfl

/-- Nothing is wrong with the documents by themselves, and nothing is after the resolution. -/
theorem assembled_eq_ok_iff {supply : Schema.Supply} {documents : List Document}
    {report : ResolutionReport} {a : Assembly} :
    assembled supply documents = .ok (report, a) ↔
      failures ((build supply documents).run .initial).1 = [] ∧
        ((build supply documents).run .initial).2.errors = [] ∧
        (Resolution.resolve supply).run ((build supply documents).run .initial).2 = (report, a) ∧
        a.errors = [] := by
  unfold assembled
  generalize (build supply documents).run .initial = read
  obtain ⟨results, b⟩ := read
  dsimp only
  generalize (Resolution.resolve supply).run b = resolved
  obtain ⟨report', a'⟩ := resolved
  dsimp only
  constructor
  · intro h
    split at h
    · cases h
    · rename_i fine
      split at h
      · cases h
      · rename_i clean
        cases h
        simp only [Bool.not_eq_true, Bool.not_eq_false', List.isEmpty_iff,
          List.append_eq_nil_iff] at fine clean
        exact ⟨fine.1, fine.2, rfl, clean⟩
  · rintro ⟨ok, fine, same, clean⟩
    cases same
    simp [ok, fine, clean]

theorem assembled_eq_ok {supply : Schema.Supply} {documents : List Document}
    {report : ResolutionReport} {a : Assembly} (h : assembled supply documents = .ok (report, a)) :
    ∃ results b, (build supply documents).run .initial = (results, b) ∧
      (Resolution.resolve supply).run b = (report, a) ∧ a.errors = [] := by
  obtain ⟨-, -, resolved, clean⟩ := assembled_eq_ok_iff.mp h
  exact ⟨_, _, rfl, resolved, clean⟩

/-- What reading and resolving keep holds of the result. -/
theorem holds_of_assembled {P : Assembly → Prop} (lasting : Resolution.Lasting P)
    (initial : P .initial) {supply : Schema.Supply} {documents : List Document}
    {report : ResolutionReport} {a : Assembly} (h : assembled supply documents = .ok (report, a)) :
    P a := by
  obtain ⟨results, b, hb, ha, -⟩ := assembled_eq_ok h
  have built := keeps_build lasting supply documents .initial initial
  rw [hb] at built
  have resolved := Resolution.keeps_resolve lasting supply b built
  rwa [ha] at resolved

end Model

end Xsd
