import Xsd.Proofs.Derivation.Refinement
import Xsd.Proofs.Schema.Resolution

/-!
# Schemas that compile

A schema compiles if no stage finds anything wrong. What it is compiled to is then made from what has
been read and resolved, part by part.
-/

namespace Xsd

namespace Model

variable {supply : Schema.Supply} {documents : List Document} {m : Model}
  {report : ResolutionReport} {a : Assembly} {limits : Limits}

/-- The content model that a type of the arena is given, or what is wrong with its content. -/
def contentOf (a : Arena) (limits : Limits) (id : TypeId) : Except Error ContentModel :=
  ContentModel.ofType a (Derivation.deriveAll a).1 (.ofArena a) limits id

/-- The model of an assembly with which nothing is wrong. -/
def made (a : Assembly) (report : ResolutionReport) (limits : Limits) : Model where
  arena := a.arena
  registry := a.registry
  derived := (Derivation.deriveAll a.arena).1
  substitutions := .ofArena a.arena
  contentModels := (a.arena.typeIds.map fun id => (contentOf a.arena limits id).toOption).toArray
  report := report
  limits := limits

/-- Nothing is wrong with types, substitution groups, default and fixed values, and contents. -/
structure IsFaultless (a : Arena) (limits : Limits) : Prop where
  types : (Derivation.deriveAll a).2 = []
  heads : SubstitutionGroups.typeErrors a (Derivation.deriveAll a).1 = []
  values : a.constraintErrors (Derivation.deriveAll a).1 = []
  contents : ∀ id ∈ a.typeIds, ((Derivation.deriveAll a).1.get? id).isSome →
    ∃ content, contentOf a limits id = .ok content

theorem failures_eq_nil_iff {α : Type} {results : List (Except Error α)} :
    failures results = [] ↔ ∀ r ∈ results, ∃ x, r = .ok x := by
  rw [failures, List.filterMap_eq_nil_iff]
  refine forall₂_congr fun r _ => ?_
  cases r <;> simp

theorem ofAssembly_eq_ok_iff :
    ofAssembly a report limits = .ok m ↔ IsFaultless a.arena limits ∧ m = made a report limits := by
  have contents : failures ((contentModelsOf a.arena (Derivation.deriveAll a.arena).1
      (.ofArena a.arena) limits).filterMap fun r => r) = [] ↔
        ∀ id ∈ a.arena.typeIds, ((Derivation.deriveAll a.arena).1.get? id).isSome →
          ∃ content, contentOf a.arena limits id = .ok content := by
    rw [failures_eq_nil_iff]
    simp only [contentModelsOf, contentOf, List.filterMap_map, List.mem_filterMap,
      Function.comp_apply, Option.ite_none_right_eq_some, Option.some.injEq]
    constructor
    · intro all id mem entry
      exact all _ ⟨id, mem, entry, rfl⟩
    · rintro all r ⟨id, mem, entry, rfl⟩
      exact all id mem entry
  have models : ((contentModelsOf a.arena (Derivation.deriveAll a.arena).1 (.ofArena a.arena)
      limits).map fun m => m.bind (·.toOption)).toArray = (made a report limits).contentModels := by
    simp only [contentModelsOf, made, contentOf, List.map_map]
    congr 1
    refine List.map_congr_left fun id _ => ?_
    dsimp only [Function.comp_apply]
    split
    · rfl
    · rename_i underived
      rw [ContentModel.ofType, Option.not_isSome_iff_eq_none.mp underived]
      rfl
  unfold ofAssembly
  dsimp only
  split
  · rename_i none
    simp only [List.isEmpty_iff, List.append_eq_nil_iff] at none
    obtain ⟨⟨⟨types, heads⟩, values⟩, wrong⟩ := none
    rw [Except.ok.injEq, models]
    exact ⟨fun h => ⟨⟨types, heads, values, contents.mp wrong⟩, h.symm⟩, fun h => h.2.symm⟩
  · rename_i some
    constructor
    · intro h
      cases h
    · rintro ⟨faultless, -⟩
      refine absurd ?_ some
      simp only [List.isEmpty_iff, List.append_eq_nil_iff]
      exact ⟨⟨⟨faultless.types, faultless.heads⟩, faultless.values⟩,
        contents.mpr faultless.contents⟩

/-- A schema compiles if it can be read and resolved and nothing is wrong with the result. -/
theorem compile_eq_ok_iff : compile supply documents = .ok m ↔
    ∃ report a, assembled supply documents = .ok (report, a) ∧
      IsFaultless a.arena supply.limits ∧ m = made a report supply.limits := by
  rw [compile_eq, bind_eq_ok_iff, Prod.exists]
  exact exists₂_congr fun report a => and_congr_right fun _ => ofAssembly_eq_ok_iff

theorem ofAssembly_eq_ok (h : ofAssembly a report limits = .ok m) :
    m.arena = a.arena ∧ m.derived = (Derivation.deriveAll a.arena).1 := by
  obtain ⟨-, rfl⟩ := ofAssembly_eq_ok_iff.mp h
  exact ⟨rfl, rfl⟩

/-- The types of a compiled model are derived from an arena with the builtin types that were there
from the start. -/
theorem grounded_of_compile (h : compile supply documents = .ok m) :
    m.arena.Grounded ∧ m.derived = (Derivation.deriveAll m.arena).1 := by
  obtain ⟨report, a, isAssembled, -, rfl⟩ := compile_eq_ok_iff.mp h
  exact ⟨holds_of_assembled lasting_grounded Arena.grounded_initial isAssembled, rfl⟩

/-! ## Content models -/

/-- A type has the content model that it is given. -/
theorem contentModel?_made {id : TypeId} (known : id.index < a.arena.types.size) :
    (made a report limits).contentModel? id = (contentOf a.arena limits id).toOption := by
  simp [contentModel?, made, Arena.typeIds, known]

/-- There are no other content models. -/
theorem contentOf_of_contentModel? {id : TypeId} {content : ContentModel}
    (h : (made a report limits).contentModel? id = some content) :
    contentOf a.arena limits id = .ok content := by
  have known : id.index < a.arena.types.size := by
    by_contra unknown
    simp [contentModel?, made, Arena.typeIds, unknown] at h
  rw [contentModel?_made known] at h
  cases made : contentOf a.arena limits id with
  | error e =>
    rw [made] at h
    cases h
  | ok own =>
    rw [made] at h
    cases h
    rfl

/-- A content model of elements has an automaton of the content of a complex type. -/
theorem exists_automatonOf {arena : Arena} {id : TypeId} {automaton : Automaton} {mixed : Bool}
    (h : contentOf arena limits id = .ok (.elements automaton mixed)) :
    ∃ content, ContentModel.automatonOf ⟨arena, .ofArena arena, limits, arena.typeName id⟩ content =
      .ok automaton := by
  unfold contentOf ContentModel.ofType at h
  dsimp only at h
  split at h
  · cases h
  · cases h
  · rename_i base method t entry
    split at h
    · cases h
    · cases h
    · obtain ⟨own, built, same⟩ := bind_eq_ok_iff.mp h
      cases same
      exact ⟨t.content, built⟩

/-- A content of elements has an automaton. -/
theorem contentOf_eq_elements {arena : Arena} {id : TypeId} {t : ComplexType} {automaton : Automaton}
    (complex : (Derivation.deriveAll arena).1.complex? id = some t)
    (label : t.label = .elementOnly ∨ t.label = .mixed)
    (h : ContentModel.automatonOf ⟨arena, .ofArena arena, limits, arena.typeName id⟩ t.content =
      .ok automaton) : contentOf arena limits id = .ok (.elements automaton t.mixed) := by
  obtain ⟨base, method, entry⟩ := DerivedTypes.get?_of_complex? complex
  unfold contentOf ContentModel.ofType
  rw [entry]
  rcases label with label | label <;>
    simp only [label, h] <;>
    rfl

/-- The automaton of the most general type. -/
def anyAutomaton : Automaton :=
  ⟨#[.wildcard .anyLax], #[⟨true, [⟨0, 1, none⟩]⟩, ⟨true, [⟨0, 1, none⟩]⟩], 0⟩

theorem automatonOf_any (arena : Arena) (substitutions : SubstitutionGroups) (owner : String) :
    ContentModel.automatonOf ⟨arena, substitutions, .standard, owner⟩
      (some (.wildcard .anyNumber .anyLax)) = .ok anyAutomaton := by
  cbv

/-- In all schemas the most general type has the same content. -/
theorem contentOf_anyType {arena : Arena} (grounded : arena.Grounded)
    (entry : ((Derivation.deriveAll arena).1.get? .anyType).isSome) :
    contentOf arena .standard .anyType = .ok (.elements anyAutomaton true) := by
  obtain ⟨info, hi⟩ := Option.isSome_iff_exists.mp entry
  have general :=
    (Derivation.deriveAll_holds (Derivation.restricts_isInductive grounded) hi).anyType rfl
  subst general
  obtain ⟨t, same, label, content, mixed⟩ : ∃ t : ComplexType,
      Derivation.anyType = ⟨none, .none, .complex t⟩ ∧ t.label = .mixed ∧
        t.content = some (.wildcard .anyNumber .anyLax) ∧ t.mixed = true :=
    ⟨_, rfl, rfl, rfl, rfl⟩
  have complex := DerivedTypes.complex?_of_get? hi (congrArg TypeInfo.effective same)
  rw [← mixed]
  refine contentOf_eq_elements complex (Or.inr label) ?_
  rw [content]
  exact automatonOf_any ..

/-! ## Computing -/

/-- As far as that can be computed, nothing is wrong. The most general type and those that are left
out may still have contents that cannot be computed. -/
def IsSound (a : Arena) (left : List TypeId) : Prop :=
  ((Derivation.deriveAll a).1.get? .anyType).isSome = true ∧
    (Derivation.deriveAll a).2.isEmpty = true ∧
    (SubstitutionGroups.typeErrors a (Derivation.deriveAll a).1).isEmpty = true ∧
    (a.constraintErrors (Derivation.deriveAll a).1).isEmpty = true ∧
    ∀ id ∈ a.typeIds, id ≠ .anyType → id ∉ left → (contentOf a .standard id).isOk = true

instance (a : Arena) (left : List TypeId) : Decidable (IsSound a left) :=
  inferInstanceAs (Decidable (_ ∧ _ ∧ _ ∧ _ ∧ _))

theorem IsSound.isFaultless {arena : Arena} {left : List TypeId} (sound : IsSound arena left)
    (grounded : arena.Grounded)
    (contents : ∀ id ∈ left, ∃ content, contentOf arena .standard id = .ok content) :
    IsFaultless arena .standard := by
  obtain ⟨general, types, heads, values, others⟩ := sound
  refine ⟨List.isEmpty_iff.mp types, List.isEmpty_iff.mp heads, List.isEmpty_iff.mp values, ?_⟩
  intro id mem _
  by_cases any : id = .anyType
  · exact ⟨_, any ▸ contentOf_anyType grounded general⟩
  · by_cases out : id ∈ left
    · exact contents id out
    · exact isOk_iff.mp (others id mem any out)

/-- What is read and resolved, if nothing is wrong with it. -/
def readAll (documents : List Document) : ResolutionReport × Assembly :=
  (assembled ⟨none, .standard⟩ documents).toOption.getD default

/-- A schema compiles if what can be computed is right, and so is the rest. -/
theorem compile_of_isSound {left : List TypeId}
    (isOk : (assembled ⟨none, .standard⟩ documents).isOk = true)
    (sound : IsSound (readAll documents).2.arena left)
    (contents : ∀ id ∈ left,
      ∃ content, contentOf (readAll documents).2.arena .standard id = .ok content) :
    compile ⟨none, .standard⟩ documents =
      .ok (made (readAll documents).2 (readAll documents).1 .standard) := by
  obtain ⟨⟨report, a⟩, isAssembled⟩ := isOk_iff.mp isOk
  have same : readAll documents = (report, a) := by
    rw [readAll, isAssembled]
    rfl
  rw [same] at sound contents ⊢
  have grounded := holds_of_assembled lasting_grounded Arena.grounded_initial isAssembled
  exact compile_eq_ok_iff.mpr
    ⟨_, _, isAssembled, sound.isFaultless grounded contents, rfl⟩

end Model

end Xsd
