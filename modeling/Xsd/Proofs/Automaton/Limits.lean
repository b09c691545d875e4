import Xsd.Automaton.ContentModel
import Xsd.Proofs.Automaton.Draft

/-!
# Automata within limits

Both the construction and the determinization look at the limits while they work, but only to give
up. So the automaton of a content that is built within limits is built within larger ones just the
same, and it has no more states than the limits admit.

The two constructions go side by side, step by step. Their results differ where they are steps that
are yet to be taken, as the members of groups are, so results are related rather than equal.
-/

namespace Xsd

namespace Nfa

variable {α α' β β' γ γ' : Type} {limit : Nat}

/-- The same declarations, and other limits. -/
abbrev Environment.within (env : Environment) (limits : Limits) : Environment :=
  { env with limits := limits }

namespace Construct

/-! ## Steps side by side -/

/-- Where the first step comes to a result, so does the second one, with the same draft; and the
first one leaves no more states than the limit admits. -/
structure Mirrors (limit : Nat) (R : α → α' → Prop) (x : Construct α) (x' : Construct α') :
    Prop where
  same : ∀ {d v e}, x.run d = .ok (v, e) → ∃ v', x'.run d = .ok (v', e) ∧ R v v'
  bounded : ∀ {d v e}, x.run d = .ok (v, e) → d.states.size ≤ limit → e.states.size ≤ limit

namespace Mirrors

variable {R : α → α' → Prop} {S : β → β' → Prop}

/-- A step that looks at no limit, and adds no states. -/
theorem of_size {x : Construct α}
    (h : ∀ {d v e}, x.run d = .ok (v, e) → e.states.size = d.states.size) :
    Mirrors limit Eq x x where
  same run := ⟨_, run, rfl⟩
  bounded run small := by rwa [h run]

theorem pure {v : α} {v' : α'} (h : R v v') :
    Mirrors limit R (Pure.pure v) (Pure.pure v') where
  same run := by
    obtain ⟨rfl, rfl⟩ := run_pure_eq_ok_iff.mp run
    exact ⟨v', rfl, h⟩
  bounded run small := by
    obtain ⟨-, rfl⟩ := run_pure_eq_ok_iff.mp run
    exact small

theorem bind {x : Construct α} {x' : Construct α'} {f : α → Construct β} {f' : α' → Construct β'}
    (hx : Mirrors limit R x x') (hf : ∀ v v', R v v' → Mirrors limit S (f v) (f' v')) :
    Mirrors limit S (x >>= f) (x' >>= f') where
  same run := by
    obtain ⟨v, u, first, rest⟩ := run_bind_eq_ok_iff.mp run
    obtain ⟨v', first', related⟩ := hx.same first
    obtain ⟨w', rest', related'⟩ := (hf v v' related).same rest
    exact ⟨w', run_bind_eq_ok_iff.mpr ⟨v', u, first', rest'⟩, related'⟩
  bounded run small := by
    obtain ⟨v, u, first, rest⟩ := run_bind_eq_ok_iff.mp run
    obtain ⟨v', -, related⟩ := hx.same first
    exact (hf v v' related).bounded rest (hx.bounded first small)

/-- Equal results of the first steps. -/
theorem bindEq {x x' : Construct α} {f : α → Construct β} {f' : α → Construct β'}
    (hx : Mirrors limit Eq x x') (hf : ∀ v, Mirrors limit S (f v) (f' v)) :
    Mirrors limit S (x >>= f) (x' >>= f') :=
  bind hx fun v _ same => same ▸ hf v

theorem get : Mirrors limit Eq (MonadState.get : Construct Draft) MonadState.get :=
  of_size fun run => by cases run; rfl

/-- A failure has no result. -/
theorem throw_bind {e : Error} {f : α → Construct β} {x' : Construct β'} :
    Mirrors limit S ((MonadExcept.throw e : Construct α) >>= f) x' where
  same run := by
    obtain ⟨_, _, failed, -⟩ := run_bind_eq_ok_iff.mp run
    cases failed
  bounded run := by
    obtain ⟨_, _, failed, -⟩ := run_bind_eq_ok_iff.mp run
    cases failed

theorem forM {Q : γ → γ' → Prop} {f : γ → Construct Unit} {f' : γ' → Construct Unit}
    (hf : ∀ x x', Q x x' → Mirrors limit Eq (f x) (f' x')) {xs : List γ} {xs' : List γ'}
    (related : List.Forall₂ Q xs xs') : Mirrors limit Eq (xs.forM f) (xs'.forM f') := by
  induction related with
  | nil => exact pure rfl
  | cons first _ ih => exact bindEq (hf _ _ first) fun _ => ih

/-- The same list for both. -/
theorem forM_same {f f' : γ → Construct Unit} (hf : ∀ x, Mirrors limit Eq (f x) (f' x))
    (xs : List γ) : Mirrors limit Eq (xs.forM f) (xs.forM f') :=
  forM (Q := Eq) (fun x _ same => same ▸ hf x) (List.forall₂_refl xs)

theorem mapM {Q : γ → γ' → Prop} {f : γ → Construct α} {f' : γ' → Construct α'}
    (hf : ∀ x x', Q x x' → Mirrors limit R (f x) (f' x')) {xs : List γ} {xs' : List γ'}
    (related : List.Forall₂ Q xs xs') :
    Mirrors limit (List.Forall₂ R) (xs.mapM f) (xs'.mapM f') := by
  induction related with
  | nil => exact pure .nil
  | cons first _ ih =>
    rw [List.mapM_cons, List.mapM_cons]
    exact bind (hf _ _ first) fun _ _ one => bind ih fun _ _ rest => pure (.cons one rest)

theorem foldlM {f : β → γ → Construct β} (hf : ∀ b x, Mirrors limit Eq (f b x) (f b x))
    (xs : List γ) (b : β) : Mirrors limit Eq (xs.foldlM f b) (xs.foldlM f b) := by
  induction xs generalizing b with
  | nil => exact pure rfl
  | cons x xs ih =>
    rw [List.foldlM_cons]
    exact bindEq (hf b x) fun b => ih b

theorem keep {check check' : Except LimitExcess Unit} (h : check = .ok () → check' = .ok ()) :
    Mirrors limit Eq (Construct.keep check) (Construct.keep check') where
  same run := by
    obtain ⟨passed, rfl⟩ := keep_spec run
    rw [h passed]
    exact ⟨_, rfl, rfl⟩
  bounded run small := by
    obtain ⟨-, rfl⟩ := keep_spec run
    exact small

theorem addEpsilon (source target : Nat) :
    Mirrors limit Eq (Construct.addEpsilon source target) (Construct.addEpsilon source target) :=
  of_size fun run => by
    cases run
    exact Draft.size_withSilent

theorem addMove (source symbol target : Nat) :
    Mirrors limit Eq (Construct.addMove source symbol target)
      (Construct.addMove source symbol target) :=
  of_size fun run => by
    cases run
    exact Draft.size_withMove

theorem symbol (isThere : Symbol → Bool) (new : Symbol) :
    Mirrors limit Eq (Construct.symbol isThere new) (Construct.symbol isThere new) :=
  of_size fun {d v e} run => by
    replace run := Except.ok.inj run
    beta_reduce at run
    cases found : d.alphabet.findIdx? isThere with
    | some index =>
      rw [found] at run
      cases run
      rfl
    | none =>
      rw [found] at run
      cases run
      rfl

end Mirrors

/-! ## The parts of the construction -/

variable {env : Environment} {limits : Limits}

theorem newStates_run_iff {count n : Nat} {d e : Draft} :
    (newStates env count).run d = .ok (n, e) ↔
      d.states.size + count ≤ env.limits.automatonStates ∧ n = d.states.size ∧
        e = d.fresh count := by
  constructor
  · intro run
    obtain ⟨_, _, hg, rest⟩ := run_bind_eq_ok_iff.mp run
    cases hg
    obtain ⟨_, _, hk, -⟩ := run_bind_eq_ok_iff.mp rest
    obtain ⟨passed, rfl⟩ := keep_spec hk
    exact ⟨Limits.check_eq_ok_iff.mp passed, newStates_run run⟩
  · rintro ⟨fits, rfl, rfl⟩
    have passed : env.limits.checkAutomatonStates env.owner (d.states.size + count) = .ok () :=
      Limits.check_eq_ok_iff.mpr fits
    refine run_bind_eq_ok_iff.mpr ⟨d, d, rfl, run_bind_eq_ok_iff.mpr ⟨(), d, ?_, rfl⟩⟩
    rw [passed]
    rfl

namespace Mirrors

section

variable (le : env.limits ≤ limits)

include le

theorem newStates (count : Nat) :
    Mirrors env.limits.automatonStates Eq (Construct.newStates env count)
      (Construct.newStates (env.within limits) count) where
  same run := by
    obtain ⟨fits, made⟩ := newStates_run_iff.mp run
    exact ⟨_, newStates_run_iff.mpr ⟨Nat.le_trans fits le.automatonStates, made⟩, rfl⟩
  bounded run small := by
    obtain ⟨fits, -, rfl⟩ := newStates_run_iff.mp run
    rwa [Draft.size_fresh]

theorem newState :
    Mirrors env.limits.automatonStates Eq (Construct.newState env)
      (Construct.newState (env.within limits)) :=
  newStates le 1

end

variable {build build' : Construct Fragment}

theorem copies (built : Mirrors limit Eq build build') (loops : Bool) (count current : Nat) :
    Mirrors limit Eq (Construct.copies build loops count current)
      (Construct.copies build' loops count current) := by
  induction count generalizing current with
  | zero => exact pure rfl
  | succ count ih =>
    refine bindEq built fun copy => bindEq (addEpsilon _ _) fun _ => ?_
    split
    · exact bindEq (addEpsilon _ _) fun _ => ih _
    · exact ih _

theorem optionalCopies (built : Mirrors limit Eq build build') (finish count current : Nat) :
    Mirrors limit Eq (Construct.optionalCopies build finish count current)
      (Construct.optionalCopies build' finish count current) := by
  induction count generalizing current with
  | zero => exact pure rfl
  | succ count ih =>
    refine bindEq built fun copy => bindEq (addEpsilon _ _) fun _ => ?_
    exact bindEq (addEpsilon _ _) fun _ => ih _

/-- The symbols of an element do not depend on limits. -/
theorem elementSymbols (id : ElementId) :
    Mirrors limit Eq (Construct.elementSymbols env id)
      (Construct.elementSymbols (env.within limits) id) := by
  refine foldlM (fun symbols member => ?_) _ _
  unfold addElementSymbol
  split
  · exact pure rfl
  · split
    · exact bindEq (symbol _ _) fun _ => pure rfl
    · exact pure rfl

theorem wildcardSymbol (w : Wildcard) :
    Mirrors limit Eq (Construct.wildcardSymbol w) (Construct.wildcardSymbol w) :=
  symbol _ _

end Mirrors

/-- Members that are of one content and are built alike. -/
structure Member.Mirrors (limit : Nat) (m m' : Member) : Prop where
  content : m.content = m'.content
  build : Construct.Mirrors limit Eq m.build m'.build

/-- Members in their places. -/
theorem forall₂_zipIdx {Q : γ → γ' → Prop} {xs : List γ} {xs' : List γ'}
    (related : List.Forall₂ Q xs xs') (start : Nat) :
    List.Forall₂ (fun x x' => Q x.1 x'.1 ∧ x.2 = x'.2) (xs.zipIdx start) (xs'.zipIdx start) := by
  induction related generalizing start with
  | nil => exact .nil
  | cons first _ ih => exact .cons ⟨first, rfl⟩ (ih (start + 1))

theorem requiredMask_eq {members members' : List Member}
    (related : List.Forall₂ (Member.Mirrors limit) members members') :
    requiredMask members = requiredMask members' := by
  have places := forall₂_zipIdx related 0
  have required := List.rel_filter (p := fun p => 0 < p.1.content.occurs.min)
    (q := fun p => 0 < p.1.content.occurs.min) (fun m m' alike => by simp [alike.1.content]) places
  refine List.rel_foldl (P := Eq) ?_ rfl required
  rintro mask _ rfl m m' ⟨-, place⟩
  exact congrArg (fun n => mask ||| 1 <<< n) place

namespace Mirrors

variable {members members' : List Member}

theorem filter (related : List.Forall₂ (Member.Mirrors limit) members members') :
    List.Forall₂ (Member.Mirrors limit) (members.filter fun m => !m.content.isEmpty)
      (members'.filter fun m => !m.content.isEmpty) :=
  List.rel_filter (fun m m' alike => by
    change (!m.content.isEmpty) = true ↔ (!m'.content.isEmpty) = true
    rw [alike.content]) related

theorem memberSymbols? {m m' : Member} (alike : m.Mirrors limit m') :
    Mirrors limit Eq (Construct.memberSymbols? env m)
      (Construct.memberSymbols? (env.within limits) m') := by
  unfold Construct.memberSymbols?
  rw [alike.content]
  split
  · exact bindEq (elementSymbols _) fun _ => pure rfl
  · exact bindEq (wildcardSymbol _) fun _ => pure rfl
  · exact pure rfl

theorem lead {m m' : Member} (alike : m.Mirrors limit m') (symbols : Option (List Nat))
    (source target : Nat) :
    Mirrors limit Eq (Construct.lead m symbols source target)
      (Construct.lead m' symbols source target) := by
  unfold Construct.lead
  split
  · exact forM_same (fun n => addMove _ n _) _
  · exact bindEq alike.build fun copy => bindEq (addEpsilon _ _) fun _ => addEpsilon _ _

section

variable (le : env.limits ≤ limits)

include le

theorem repeated {build build' : Construct Fragment}
    (built : Mirrors env.limits.automatonStates Eq build build') (occurs : Occurs) :
    Mirrors env.limits.automatonStates Eq (Construct.repeated env occurs build)
      (Construct.repeated (env.within limits) occurs build') := by
  refine bindEq (newState le) fun start => bindEq (copies built _ _ _) fun current => ?_
  split
  · split
    · refine bindEq built fun copy => bindEq (addEpsilon _ _) fun _ => ?_
      exact bindEq (addEpsilon _ _) fun _ => pure rfl
    · exact pure rfl
  · refine bindEq (newState le) fun finish => bindEq (addEpsilon _ _) fun _ => ?_
    exact bindEq (optionalCopies built _ _ _) fun _ => pure rfl

theorem reading {symbols symbols' : Construct (List Nat)}
    (entered : Mirrors env.limits.automatonStates Eq symbols symbols') :
    Mirrors env.limits.automatonStates Eq (Construct.reading env symbols)
      (Construct.reading (env.within limits) symbols') := by
  refine bindEq (newState le) fun start => bindEq (newState le) fun finish => ?_
  refine bindEq entered fun found => bindEq (forM_same (fun n => addMove _ n _) _) fun _ => ?_
  exact pure rfl

theorem sequence
    (related : List.Forall₂ (Member.Mirrors env.limits.automatonStates) members members') :
    Mirrors env.limits.automatonStates Eq (Construct.sequence env members)
      (Construct.sequence (env.within limits) members') := by
  refine bindEq (newState le) fun start => bindEq ?_ fun finish => pure rfl
  generalize start = current
  induction related generalizing current with
  | nil => exact pure rfl
  | cons first _ ih =>
    refine bindEq ?_ fun f => bindEq (addEpsilon _ _) fun _ => ih _
    unfold Member.repeated
    rw [first.content]
    exact repeated le first.build _

theorem choice
    (related : List.Forall₂ (Member.Mirrors env.limits.automatonStates) members members') :
    Mirrors env.limits.automatonStates Eq (Construct.choice env members)
      (Construct.choice (env.within limits) members') := by
  refine bindEq (newState le) fun start => bindEq (newState le) fun finish => ?_
  refine bindEq (forM (fun m m' alike => ?_) related) fun _ => pure rfl
  unfold Member.repeated
  rw [alike.content]
  refine bindEq (repeated le alike.build _) fun f => ?_
  exact bindEq (addEpsilon _ _) fun _ => addEpsilon _ _

omit le in
theorem readers (related : List.Forall₂ (Member.Mirrors limit) members members') :
    Mirrors limit (List.Forall₂ fun r r' => r.1.Mirrors limit r'.1 ∧ r.2 = r'.2)
      (members.mapM fun m => do return (m, ← Construct.memberSymbols? env m))
      (members'.mapM fun m => do return (m, ← Construct.memberSymbols? (env.within limits) m)) :=
  mapM (fun _ _ alike => bindEq (memberSymbols? alike) fun _ => pure ⟨alike, rfl⟩) related

omit le in
/-- The ways on from one set of members, over each that is not in it. -/
theorem steps {readers readers' : List (Member × Option (List Nat))} (first mask : Nat)
    (read : List.Forall₂ (fun r r' => r.1.Mirrors limit r'.1 ∧ r.2 = r'.2) readers readers') :
    Mirrors limit Eq
      (readers.zipIdx.forM fun ((m, symbols), place) => do
        if !mask.testBit place then
          Construct.lead m symbols (first + mask) (first + (mask ||| 1 <<< place)))
      (readers'.zipIdx.forM fun ((m, symbols), place) => do
        if !mask.testBit place then
          Construct.lead m symbols (first + mask) (first + (mask ||| 1 <<< place))) := by
  refine forM ?_ (forall₂_zipIdx read 0)
  rintro ⟨⟨m, symbols⟩, place⟩ ⟨⟨m', _⟩, _⟩ ⟨⟨alike, rfl⟩, rfl⟩
  dsimp only
  split
  · exact lead alike _ _ _
  · exact pure rfl

/-- The lattices have the same sets, since there are as many members and the same ones are
required. -/
theorem all
    (related : List.Forall₂ (Member.Mirrors env.limits.automatonStates) members members') :
    Mirrors env.limits.automatonStates Eq (Construct.all env members)
      (Construct.all (env.within limits) members') := by
  rw [Construct.all, Construct.all]
  have kept := filter related
  generalize members.filter (fun m => !m.content.isEmpty) = admitted at kept ⊢
  generalize members'.filter (fun m => !m.content.isEmpty) = admitted' at kept ⊢
  -- the members count and have places only, apart from being built
  rw [requiredMask_eq kept, kept.length_eq]
  refine bindEq (keep fun passed => Limits.check_mono le.allGroupMembers passed) fun _ => ?_
  split
  · exact throw_bind
  · refine bindEq get fun d => ?_
    refine bindEq (keep fun passed => Limits.check_mono le.automatonStates passed) fun _ => ?_
    refine bind (readers kept) fun readers readers' read => ?_
    refine bindEq (newStates le _) fun first => bindEq (newState le) fun finish => ?_
    refine bindEq (forM_same (fun mask => ?_) _) fun _ => pure rfl
    split
    · exact bindEq (addEpsilon _ _) fun _ => steps first mask read
    · exact steps first mask read

end

end Mirrors

mutual

theorem once_mirrors (le : env.limits ≤ limits) (c : Content) :
    Mirrors env.limits.automatonStates Eq (once env c) (once (env.within limits) c) := by
  cases c with
  | element o id =>
    rw [once, once]
    exact .reading le (.elementSymbols id)
  | wildcard o w =>
    rw [once, once]
    exact .reading le (.bindEq (.wildcardSymbol w) fun _ => .pure rfl)
  | group o compositor members =>
    have related := membersOf_mirrors le members
    cases compositor with
    | sequence =>
      rw [once, once]
      exact .sequence le related
    | choice =>
      rw [once, once]
      exact .choice le related
    | all =>
      rw [once, once]
      exact .all le related

theorem membersOf_mirrors (le : env.limits ≤ limits) (cs : List Content) :
    List.Forall₂ (Member.Mirrors env.limits.automatonStates) (membersOf env cs)
      (membersOf (env.within limits) cs) := by
  cases cs with
  | nil => exact .nil
  | cons c cs => exact .cons ⟨rfl, once_mirrors le c⟩ (membersOf_mirrors le cs)

end

theorem content_mirrors (le : env.limits ≤ limits) (c : Option Content) :
    Mirrors env.limits.automatonStates Eq (content env c) (content (env.within limits) c) := by
  cases c with
  | none => exact .bindEq (.newState le) fun _ => .pure rfl
  | some c => exact .repeated le (once_mirrors le c) _

/-- The construction begins with a state. -/
theorem exists_newState_of_content {c : Option Content} {part : Fragment} {d e : Draft}
    (h : (content env c).run d = .ok (part, e)) :
    ∃ n u, (newState env).run d = .ok (n, u) := by
  cases c with
  | none =>
    obtain ⟨n, u, first, -⟩ := run_bind_eq_ok_iff.mp h
    exact ⟨n, u, first⟩
  | some c =>
    obtain ⟨n, u, first, -⟩ := run_bind_eq_ok_iff.mp h
    exact ⟨n, u, first⟩

end Construct

/-! ## Determinization -/

/-- The same automaton, and other limits. -/
abbrev Task.within (t : Task) (limits : Limits) : Task :=
  { t with limits := limits }

theorem Subsets.number_mono {s : Subsets} {limits limits' : Limits} {owner : String}
    {set : List Nat} {r : Nat × Subsets} (le : limits ≤ limits')
    (h : s.number limits owner set = .ok r) : s.number limits' owner set = .ok r := by
  unfold number at h ⊢
  split at h
  · exact h
  · obtain ⟨passed, rest⟩ := then_eq_ok_iff.mp h
    exact then_eq_ok_iff.mpr ⟨Limits.check_mono le.automatonStates passed, rest⟩

namespace Task

variable {t : Task} {limits : Limits} {moves : List (Nat × Nat)} {s : Subsets}

theorem transition_mono {symbol : Nat} {readers : List Nat} {r : Option Transition × Subsets}
    (le : t.limits ≤ limits) (h : t.transition moves symbol readers s = .ok r) :
    (t.within limits).transition moves symbol readers s = .ok r := by
  rw [transition] at h ⊢
  split at h
  · exact h
  · obtain ⟨found, number, rest⟩ := bind_eq_ok_iff.mp h
    exact bind_eq_ok_iff.mpr ⟨found, Subsets.number_mono le number, rest⟩

theorem transitions_mono {symbols : List (Nat × List Nat)} {r : List Transition × Subsets}
    (le : t.limits ≤ limits) (h : t.transitions moves symbols s = .ok r) :
    (t.within limits).transitions moves symbols s = .ok r := by
  induction symbols generalizing s r with
  | nil => exact h
  | cons first symbols ih =>
    obtain ⟨found, one, h⟩ := bind_eq_ok_iff.mp h
    obtain ⟨others, rest, h⟩ := bind_eq_ok_iff.mp h
    exact bind_eq_ok_iff.mpr
      ⟨found, transition_mono le one, bind_eq_ok_iff.mpr ⟨others, ih rest, h⟩⟩

theorem state_mono {set : List Nat} {r : State × Subsets} (le : t.limits ≤ limits)
    (h : t.state set s = .ok r) : (t.within limits).state set s = .ok r := by
  unfold state at h ⊢
  dsimp only at h ⊢
  split at h
  · cases h
  · split at h
    · cases h
    · rename_i found more entered
      rw [transitions_mono le entered]
      exact h

/-- With larger limits, and with more fuel, the exploration goes the same way to the same end. It
ends since the fuel is enough for all sets that the smaller limit admits, and there is a state for
each. -/
theorem explore_mono (le : t.limits ≤ limits) {fuel fuel' : Nat} {done states : Array State}
    (sound : s.Sound) (begun : done.size ≤ s.sets.size)
    (bounded : s.sets.size ≤ max 1 t.limits.automatonStates)
    (enough : max 1 t.limits.automatonStates ≤ done.size + fuel) (more : fuel ≤ fuel')
    (h : t.explore fuel s done = .ok states) :
    (t.within limits).explore fuel' s done = .ok states ∧
      states.size ≤ max 1 t.limits.automatonStates := by
  induction fuel generalizing s done fuel' with
  | zero =>
    -- without fuel there are as many states as the limit admits sets
    have none : s.sets[done.size]? = none := Array.getElem?_eq_none_iff.mpr (by omega)
    cases h
    refine ⟨?_, Nat.le_trans begun bounded⟩
    cases fuel' with
    | zero => rfl
    | succ fuel' => rw [explore, none]
  | succ fuel ih =>
    obtain ⟨fuel', rfl⟩ := Nat.exists_eq_add_of_le' (Nat.le_trans (Nat.le_add_left 1 fuel) more)
    rw [explore] at h ⊢
    cases next : s.sets[done.size]? with
    | none =>
      rw [next] at h
      cases h
      exact ⟨rfl, Nat.le_trans begun bounded⟩
    | some set =>
      rw [next] at h
      dsimp only at h ⊢
      cases made : t.state set s with
      | error e =>
        rw [made] at h
        cases h
      | ok result =>
        rw [made] at h
        obtain ⟨grows, -⟩ := state_spec sound made
        have kept := (Array.getElem?_eq_some_iff.mp (grows.keeps _ _ next)).1
        have small := grows.bounded
        rw [state_mono le made]
        refine ih grows.sound ?_ (by omega) ?_ (by omega) h
        · rw [Array.size_push]
          omega
        · rw [Array.size_push]
          omega

end Task

section

variable {nfa : Nfa} {alphabet : Array Symbol} {limits limits' : Limits} {owner : String}
  {states : Array State}

theorem determinize_mono (le : limits ≤ limits')
    (h : nfa.determinize alphabet limits owner = .ok states) :
    nfa.determinize alphabet limits' owner = .ok states ∧
      states.size ≤ max 1 limits.automatonStates := by
  have more := le.automatonStates
  refine (task nfa alphabet limits owner).explore_mono le (Subsets.sound_single _) ?_ ?_ ?_ ?_ h
  · exact Nat.zero_le _
  · simp
  · simp [task]
  · omega

end

/-! ## Automata of contents -/

section

variable {env : Environment} {limits : Limits} {content : Option Content} {nfa : Nfa}
  {alphabet : Array Symbol}

theorem ofContent_eq_ok_iff : ofContent env content = .ok (nfa, alphabet) ↔
    (Construct.content env content).run ⟨#[], #[]⟩ =
      .ok (⟨nfa.start, nfa.accept⟩, ⟨alphabet, nfa.states⟩) := by
  rw [ofContent, bind_eq_ok_iff]
  constructor
  · rintro ⟨⟨part, draft⟩, run, same⟩
    cases same
    exact run
  · intro run
    exact ⟨_, run, rfl⟩

/-- Within larger limits the same automaton is built. -/
theorem ofContent_mono (le : env.limits ≤ limits)
    (h : ofContent env content = .ok (nfa, alphabet)) :
    ofContent (env.within limits) content = .ok (nfa, alphabet) := by
  obtain ⟨_, run, rfl⟩ := (Construct.content_mirrors le content).same (ofContent_eq_ok_iff.mp h)
  exact ofContent_eq_ok_iff.mpr run

theorem size_le_of_ofContent (h : ofContent env content = .ok (nfa, alphabet)) :
    nfa.states.size ≤ env.limits.automatonStates :=
  (Construct.content_mirrors (Limits.le_refl _) content).bounded (ofContent_eq_ok_iff.mp h)
    (Nat.zero_le _)

/-- Where anything is built the limit is not zero. -/
theorem automatonStates_pos_of_ofContent (h : ofContent env content = .ok (nfa, alphabet)) :
    0 < env.limits.automatonStates := by
  obtain ⟨n, u, first⟩ := Construct.exists_newState_of_content (ofContent_eq_ok_iff.mp h)
  have fits := (Construct.newStates_run_iff.mp first).1
  exact Nat.lt_of_lt_of_le (Nat.succ_pos _) fits

end

end Nfa

namespace ContentModel

variable {env : Nfa.Environment} {limits : Limits} {content : Option Content} {a : Automaton}

theorem automatonOf_mono (le : env.limits ≤ limits) (h : automatonOf env content = .ok a) :
    automatonOf (env.within limits) content = .ok a := by
  obtain ⟨⟨nfa, alphabet⟩, built, h⟩ := bind_eq_ok_iff.mp h
  obtain ⟨states, found, h⟩ := bind_eq_ok_iff.mp h
  refine bind_eq_ok_iff.mpr ⟨_, Nfa.ofContent_mono le built, bind_eq_ok_iff.mpr ⟨states, ?_, h⟩⟩
  exact (Nfa.determinize_mono le found).1

theorem size_le_of_automatonOf (h : automatonOf env content = .ok a) :
    a.states.size ≤ env.limits.automatonStates := by
  obtain ⟨⟨nfa, alphabet⟩, built, h⟩ := bind_eq_ok_iff.mp h
  obtain ⟨states, found, h⟩ := bind_eq_ok_iff.mp h
  cases h
  have pos := Nfa.automatonStates_pos_of_ofContent built
  have small := (Nfa.determinize_mono (Limits.le_refl _) found).2
  exact Nat.le_trans small (Nat.max_le.mpr ⟨pos, Nat.le_refl _⟩)

theorem ofType_mono {arena : Arena} {d : DerivedTypes} {substitutions : SubstitutionGroups}
    {limits limits' : Limits} {id : TypeId} {model : ContentModel} (le : limits ≤ limits')
    (h : ofType arena d substitutions limits id = .ok model) :
    ofType arena d substitutions limits' id = .ok model := by
  unfold ofType at h ⊢
  dsimp only at h ⊢
  split at h
  · cases h
  · exact h
  · split at h
    · exact h
    · exact h
    · obtain ⟨a, made, h⟩ := bind_eq_ok_iff.mp h
      have larger := @automatonOf_mono ⟨arena, substitutions, limits, _⟩ limits' _ _ le made
      exact bind_eq_ok_iff.mpr ⟨a, larger, h⟩

end ContentModel

end Xsd
