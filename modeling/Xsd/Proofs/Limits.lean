import Xsd.Proofs.Automaton.Limits
import Xsd.Proofs.Schema.Limits
import Xsd.Proofs.ValueConstraint

/-!
# Compiling within limits

Limits decide whether a schema compiles, but not what it is compiled to. A schema that compiles
within limits compiles within larger ones to a model that differs in the limits alone, and no
automaton that is made on the way is larger than they admit.
-/

namespace Xsd.Model

open Schema Resolution

variable {retriever : Option Retriever} {limits limits' : Limits} {documents : List Document}
  {report : ResolutionReport} {a : Assembly} {m : Model}

theorem build_mono (le : limits ≤ limits')
    (ok : failures ((build ⟨retriever, limits⟩ documents).run a).1 = [])
    (clean : ((build ⟨retriever, limits⟩ documents).run a).2.IsFlawless) :
    (build ⟨retriever, limits'⟩ documents).run a =
      (build ⟨retriever, limits⟩ documents).run a := by
  induction documents generalizing a with
  | nil =>
    unfold build
    rw [List.mapM_nil, List.mapM_nil]
  | cons document documents ih =>
    rw [run_build_cons] at ok clean ⊢
    rw [run_build_cons]
    dsimp only at ok clean ⊢
    rcases first : (Schema.build ⟨retriever, limits⟩ document).run.run a with ⟨r, c⟩
    rw [first] at ok clean
    have between : c.IsFlawless := by
      by_contra wrong
      have keeps : Keeps Assembly.IsWrong (build ⟨retriever, limits⟩ documents) :=
        .mapM fun document => upholds_readAt 0 document
      exact keeps c wrong clean
    obtain ⟨⟨id, rfl⟩, ok⟩ := List.forall_mem_cons.mp (failures_eq_nil_iff.mp ok)
    have again : (Schema.build ⟨retriever, limits'⟩ document).run.run a = (.ok id, c) :=
      (mirrors_readAt le 0 document).same first between
    rw [again, ih (failures_eq_nil_iff.mpr ok) clean]

/-- The resolution leaves no component open. -/
theorem pending_of_assembled {supply : Supply} (h : assembled supply documents = .ok (report, a)) :
    pending a.arena = [] := by
  have resolved : a.Resolved := resolved_of_assembled h
  refine List.eq_nil_iff_forall_not_mem.mpr fun id mem => ?_
  obtain ⟨info, hi, unresolved⟩ := mem_pending_iff.mp mem
  rw [resolved hi] at unresolved
  cases unresolved

theorem assembled_mono (le : limits ≤ limits')
    (h : assembled ⟨retriever, limits⟩ documents = .ok (report, a)) :
    assembled ⟨retriever, limits'⟩ documents = .ok (report, a) := by
  have idle := pending_of_assembled h
  obtain ⟨ok, clean, ha, clean'⟩ := assembled_eq_ok_iff.mp h
  refine assembled_eq_ok_iff.mpr ?_
  rw [build_mono le ok clean]
  refine ⟨ok, clean, ?_, clean'⟩
  have same := @mirrors_resolve retriever _ _ le
    ((build ⟨retriever, limits⟩ documents).run .initial).2
  rw [ha] at same
  exact same ⟨clean', idle⟩

/-- Contents that have automata have the same ones. -/
theorem made_mono (le : limits ≤ limits') (faultless : IsFaultless a.arena limits) :
    made a report limits' = { made a report limits with limits := limits' } := by
  have contents : (a.arena.typeIds.map fun id => (contentOf a.arena limits' id).toOption) =
      a.arena.typeIds.map fun id => (contentOf a.arena limits id).toOption := by
    refine List.map_congr_left fun id mem => ?_
    cases entry : (Derivation.deriveAll a.arena).1.get? id with
    | none =>
      -- a type without a result has no content model either way
      unfold contentOf ContentModel.ofType
      rw [entry]
    | some info =>
      obtain ⟨content, made⟩ := faultless.contents id mem (entry ▸ rfl)
      rw [made, contentOf, ContentModel.ofType_mono le made]
  unfold made
  rw [contents]

theorem IsFaultless.mono (le : limits ≤ limits') {arena : Arena}
    (faultless : IsFaultless arena limits) : IsFaultless arena limits' where
  types := faultless.types
  heads := faultless.heads
  values := faultless.values
  contents id mem entry := by
    obtain ⟨content, made⟩ := faultless.contents id mem entry
    exact ⟨content, ContentModel.ofType_mono le made⟩

/-- Limits only gate: what compiles within limits compiles within larger ones, to the same arena, the
same derived types and the same content models, as to everything else but the limits. And all
automata are within the limits. -/
theorem compile_mono (retriever : Option Retriever) (limits : Limits) :
    (∀ limits', limits ≤ limits' → ∀ documents m, compile ⟨retriever, limits⟩ documents = .ok m →
      compile ⟨retriever, limits'⟩ documents = .ok { m with limits := limits' }) ∧
    (∀ documents m, compile ⟨retriever, limits⟩ documents = .ok m →
      ∀ id automaton mixed, m.contentModel? id = some (.elements automaton mixed) →
        automaton.states.size ≤ limits.automatonStates) ∧
    ∀ env : Nfa.Environment, env.limits = limits → ∀ content,
      (∀ nfa alphabet, Nfa.ofContent env content = .ok (nfa, alphabet) →
        nfa.states.size ≤ limits.automatonStates) ∧
      ∀ automaton, ContentModel.automatonOf env content = .ok automaton →
        automaton.states.size ≤ limits.automatonStates := by
  refine ⟨?_, ?_, ?_⟩
  · intro limits' le documents m compiled
    obtain ⟨report, a, isAssembled, faultless, rfl⟩ := compile_eq_ok_iff.mp compiled
    rw [← made_mono le faultless]
    exact compile_eq_ok_iff.mpr ⟨report, a, assembled_mono le isAssembled, faultless.mono le, rfl⟩
  · intro documents m compiled id automaton mixed found
    obtain ⟨report, a, -, -, rfl⟩ := compile_eq_ok_iff.mp compiled
    obtain ⟨content, h⟩ := exists_automatonOf (contentOf_of_contentModel? found)
    exact ContentModel.size_le_of_automatonOf h
  · rintro env rfl content
    exact ⟨fun nfa alphabet h => Nfa.size_le_of_ofContent h,
      fun automaton h => ContentModel.size_le_of_automatonOf h⟩

theorem compile_drawings_permissive : ∃ m, compile ⟨none, .standard⟩ [drawings] = .ok m ∧
    Limits.standard ≤ Limits.permissive ∧
    compile ⟨none, .permissive⟩ [drawings] = .ok { m with limits := .permissive } ∧
    m.contentModel? ⟨48⟩ = some (.elements drawingAutomaton false) ∧
    drawingAutomaton.states.size ≤ Limits.standard.automatonStates ∧
    ∃ env : Nfa.Environment, env.limits = .standard ∧ ∃ content nfa alphabet,
      Nfa.ofContent env content = .ok (nfa, alphabet) ∧
      nfa.states.size ≤ Limits.standard.automatonStates ∧
      ContentModel.automatonOf env content = .ok anyAutomaton ∧
      anyAutomaton.states.size ≤ Limits.standard.automatonStates := by
  obtain ⟨m, compiled, -, drawing⟩ := exists_drawings
  have larger : Limits.standard ≤ Limits.permissive := by
    constructor <;> decide
  obtain ⟨same, small, bounded⟩ := compile_mono none .standard
  let env : Nfa.Environment := ⟨m.arena, m.substitutions, .standard, ""⟩
  have any := automatonOf_any m.arena m.substitutions ""
  obtain ⟨⟨nfa, alphabet⟩, built, -⟩ := bind_eq_ok_iff.mp any
  obtain ⟨ofNfa, ofAutomaton⟩ := bounded env rfl (some (.wildcard .anyNumber .anyLax))
  exact ⟨m, compiled, larger, same _ larger _ _ compiled, drawing, small _ _ compiled _ _ _ drawing,
    env, rfl, _, nfa, alphabet, built, ofNfa _ _ built, any, ofAutomaton _ any⟩

end Xsd.Model
