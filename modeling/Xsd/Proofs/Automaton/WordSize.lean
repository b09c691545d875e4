import Xsd.Proofs.Automaton.ContentModel

/-!
# Sets of members as words

For members in any order there is a state for each set of them, and a set is a word of so many bits. As
long as they are fewer than the bits of a word, or so many that their number exceeds its limit,
the construction comes to a whole lattice or gives up at a limit. The number of members alone
decides that: that of the states is looked at when the words have been made.
-/

namespace Xsd

/-- So many members in any order fit a word, or are too many for the limit on their number. -/
def Limits.Fits (l : Limits) (members : Nat) : Prop :=
  members < Nfa.Construct.wordBits ∨ l.allGroupMembers < members

instance (l : Limits) (members : Nat) : Decidable (l.Fits members) :=
  inferInstanceAs (Decidable (_ ∨ _))

namespace Content

/-- The number of contents that may occur. -/
def countOccurring (contents : List Content) : Nat := contents.countP fun c => !c.isEmpty

mutual

/-- All groups without an order fit a word, or are too large for the limit on their members. -/
def IsNarrow (limits : Limits) : Content → Prop
  | .element _ _ => True
  | .wildcard _ _ => True
  | .group _ compositor members =>
    (compositor = .all → limits.Fits (countOccurring members)) ∧ AreNarrow limits members

def AreNarrow (limits : Limits) : List Content → Prop
  | [] => True
  | c :: cs => c.IsNarrow limits ∧ AreNarrow limits cs

end

mutual

/-- Where the limit itself is smaller than a word, all contents are narrow. -/
theorem isNarrow_of_limits {limits : Limits}
    (small : limits.allGroupMembers < Nfa.Construct.wordBits) (c : Content) : c.IsNarrow limits := by
  cases c with
  | element o id => rw [IsNarrow]; trivial
  | wildcard o w => rw [IsNarrow]; trivial
  | group o compositor members =>
    rw [IsNarrow]
    refine ⟨fun _ => ?_, areNarrow_of_limits small members⟩
    unfold Limits.Fits
    omega

theorem areNarrow_of_limits {limits : Limits}
    (small : limits.allGroupMembers < Nfa.Construct.wordBits) (cs : List Content) :
    AreNarrow limits cs := by
  cases cs with
  | nil => rw [AreNarrow]; trivial
  | cons c cs =>
    rw [AreNarrow]
    exact ⟨isNarrow_of_limits small c, areNarrow_of_limits small cs⟩

end

end Content

namespace Nfa

open Draft

variable {α β : Type} {d e : Draft} {env : Environment} {p q : Nat}

namespace Draft

theorem Grows.lt (grows : d.Grows e) (hp : p < d.states.size) : p < e.states.size :=
  Nat.lt_of_lt_of_le hp grows.size

/-- The symbols are there, and each of the names is read by one of them. -/
def HasSymbols (d : Draft) (names : Set QName) (symbols : List Nat) : Prop :=
  (∀ n ∈ symbols, n < d.alphabet.size) ∧ ∀ name ∈ names, ∃ n ∈ symbols, name ∈ d.readBy n

theorem HasSymbols.mono {names : Set QName} {symbols : List Nat} (grows : d.Grows e)
    (h : d.HasSymbols names symbols) : e.HasSymbols names symbols := by
  refine ⟨fun n hn => grows.symbol_lt (h.1 n hn), fun name hname => ?_⟩
  obtain ⟨n, hn, reads⟩ := h.2 name hname
  exact ⟨n, hn, (grows.readBy_eq (h.1 n hn)).symm ▸ reads⟩

theorem Enters.hasSymbols {names : Set QName} {symbols : List Nat}
    (entered : d.Enters [] names symbols e) : e.HasSymbols names symbols :=
  ⟨entered.range, fun name hname => (entered.reads name).mpr (Or.inr hname)⟩

/-- Both ends of the fragment are states of the draft. -/
def Holds (d : Draft) (part : Fragment) : Prop :=
  part.start < d.states.size ∧ part.finish < d.states.size

theorem Holds.mono {part : Fragment} (grows : d.Grows e) (h : d.Holds part) : e.Holds part :=
  ⟨grows.lt h.1, grows.lt h.2⟩

end Draft

namespace Construct

/-! ## Steps that settle -/

/-- The step comes to a result that is as it should be and only adds to the draft, or it gives up at a
limit. -/
def Settles (d : Draft) (x : Construct α) (post : α → Draft → Prop) : Prop :=
  d.WellFormed → (∃ excess, x.run d = .error (.limitExceeded excess)) ∨
    ∃ v e, x.run d = .ok (v, e) ∧ d.Grows e ∧ post v e

namespace Settles

variable {x : Construct α} {post post' : α → Draft → Prop}

theorem of_run {v : α} (run : x.run d = .ok (v, e)) (h : d.WellFormed → d.Grows e ∧ post v e) :
    Settles d x post :=
  fun formed => Or.inr ⟨v, e, run, h formed⟩

theorem of_formed (h : d.WellFormed → Settles d x post) : Settles d x post :=
  fun formed => h formed formed

theorem pure {v : α} (h : post v d) : Settles d (Pure.pure v) post :=
  of_run rfl fun formed => ⟨.refl formed, h⟩

theorem weaken (hx : Settles d x post) (h : ∀ v e, d.Grows e → post v e → post' v e) :
    Settles d x post' := by
  intro formed
  rcases hx formed with excess | ⟨v, e, run, grows, hv⟩
  · exact Or.inl excess
  · exact Or.inr ⟨v, e, run, grows, h v e grows hv⟩

/-- A step, and then one that settles in whatever draft the first one leaves. -/
theorem bind {f : α → Construct β} {post' : β → Draft → Prop} (hx : Settles d x post)
    (hf : ∀ v e, d.Grows e → post v e → Settles e (f v) post') : Settles d (x >>= f) post' := by
  intro formed
  rcases hx formed with ⟨excess, run⟩ | ⟨v, e, run, grows, hv⟩
  · refine Or.inl ⟨excess, ?_⟩
    rw [StateT.run_bind, run]
    rfl
  · have rest : (x >>= f).run d = (f v).run e := by
      rw [StateT.run_bind, run]
      rfl
    rw [rest]
    rcases hf v e grows hv grows.wellFormed with excess | ⟨w, u, run', grows', hw⟩
    · exact Or.inl excess
    · exact Or.inr ⟨w, u, run', grows.trans grows', hw⟩

theorem get : Settles d (MonadState.get : Construct Draft) fun s e => s = d ∧ e = d :=
  of_run rfl fun formed => ⟨.refl formed, rfl, rfl⟩

theorem keep (check : Except LimitExcess Unit) :
    Settles d (Construct.keep check) fun _ e => check = .ok () ∧ e = d := by
  cases check with
  | error excess => exact fun _ => Or.inl ⟨excess, rfl⟩
  | ok v => exact of_run rfl fun formed => ⟨.refl formed, rfl, rfl⟩

/-- The rounds of a loop, each of which leaves something behind that later ones do not take away. -/
theorem forM {γ : Type} {xs : List γ} {f : γ → Construct Unit} {P : γ → Draft → Prop}
    (mono : ∀ x ⦃d e⦄, d.Grows e → P x d → P x e)
    (round : ∀ x ∈ xs, ∀ e, d.Grows e → Settles e (f x) fun _ => P x) :
    Settles d (xs.forM f) fun _ e => ∀ x ∈ xs, P x e := by
  induction xs generalizing d with
  | nil => exact pure nofun
  | cons x xs ih =>
    refine of_formed fun formed => ?_
    refine bind (round x (by simp) d (.refl formed)) fun _ e grows first => ?_
    have others := ih fun y hy u more => round y (by simp [hy]) u (grows.trans more)
    exact others.weaken fun _ u more rest => List.forall_mem_cons.mpr ⟨mono x more first, rest⟩

theorem mapM {γ : Type} {xs : List γ} {f : γ → Construct α} {P : γ → α → Draft → Prop}
    (mono : ∀ x v ⦃d e⦄, d.Grows e → P x v d → P x v e)
    (each : ∀ x ∈ xs, ∀ e, d.Grows e → Settles e (f x) (P x)) :
    Settles d (xs.mapM f) fun vs e => List.Forall₂ (fun x v => P x v e) xs vs := by
  induction xs generalizing d with
  | nil => exact pure .nil
  | cons x xs ih =>
    rw [List.mapM_cons]
    refine of_formed fun formed => ?_
    refine bind (each x (by simp) d (.refl formed)) fun v e grows first => ?_
    have others := ih fun y hy u more => each y (by simp [hy]) u (grows.trans more)
    exact bind others fun vs u more rest => pure (.cons (mono x v more first) rest)

/-! ### States and moves -/

theorem newStates (count : Nat) :
    Settles d (Construct.newStates env count) fun n e =>
      n = d.states.size ∧ n + count = e.states.size := by
  refine bind get fun s e _ same => bind (keep _) fun _ u _ kept => ?_
  obtain ⟨rfl, rfl⟩ := same
  obtain ⟨-, rfl⟩ := kept
  exact of_run rfl fun formed => ⟨(fresh_spec formed count).1, rfl, size_fresh.symm⟩

theorem newState : Settles d (Construct.newState env) fun n e => n < e.states.size :=
  (newStates 1).weaken fun _ _ _ made => by omega

theorem addEpsilon (hp : p < d.states.size) (hq : q < d.states.size) :
    Settles d (Construct.addEpsilon p q) fun _ e => e.Silent p q := by
  have run : (Construct.addEpsilon p q).run d = .ok ((), d.withSilent p q) := rfl
  exact of_run run fun formed => ⟨(addEpsilon_spec formed hp hq run).grows,
    (silent_withSilent_iff hp).mpr (Or.inr ⟨rfl, rfl⟩)⟩

theorem addMove {n : Nat} (hp : p < d.states.size) (hn : n < d.alphabet.size)
    (hq : q < d.states.size) : Settles d (Construct.addMove p n q) fun _ e => e.Moves p n q := by
  have run : (Construct.addMove p n q).run d = .ok ((), d.withMove p n q) := rfl
  exact of_run run fun formed => ⟨(addMove_spec formed hp hn hq run).grows,
    (moves_withMove_iff hp).mpr (Or.inr ⟨rfl, rfl, rfl⟩)⟩

/-- Moves on symbols that read the names. -/
theorem addMoves {names : Set QName} {symbols : List Nat} (hp : p < d.states.size)
    (hq : q < d.states.size) (there : d.HasSymbols names symbols) :
    Settles d (symbols.forM fun n => Construct.addMove p n q) fun _ e =>
      ∀ name ∈ names, e.Reads p [name] q := by
  have moves : Settles d (symbols.forM fun n => Construct.addMove p n q) fun _ e =>
      ∀ n ∈ symbols, e.Moves p n q :=
    forM (fun n _ _ grows move => grows.moves p n q move) fun n hn e grows =>
      addMove (grows.lt hp) (grows.symbol_lt (there.1 n hn)) (grows.lt hq)
  refine moves.weaken fun _ e grows made name hname => ?_
  obtain ⟨n, hn, reads⟩ := (there.mono grows).2 name hname
  exact (made n hn).reads reads

/-! ### Symbols -/

theorem wildcardSymbol (w : Wildcard) : Settles d (Construct.wildcardSymbol w) fun n e =>
    e.HasSymbols {name | w.allows name.ns = true} [n] := by
  obtain ⟨n, e, run⟩ : ∃ n e, (Construct.wildcardSymbol w).run d = .ok (n, e) := ⟨_, _, rfl⟩
  refine of_run run fun formed => ?_
  have entered := wildcardSymbol_spec formed run
  exact ⟨entered.grows, entered.hasSymbols⟩

theorem elementSymbols (id : ElementId) : Settles d (Construct.elementSymbols env id)
    fun symbols e =>
      e.HasSymbols (Content.elementNames env.arena env.substitutions id) symbols := by
  have one : ∀ (symbols : List Nat) (member : ElementId) (d : Draft),
      ∃ more e, (addElementSymbol env symbols member).run d = .ok (more, e) := by
    intro symbols member d
    unfold addElementSymbol
    split
    · exact ⟨_, _, rfl⟩
    · split <;> exact ⟨_, _, rfl⟩
  have all : ∀ (members : List ElementId) (symbols : List Nat) (d : Draft),
      ∃ more e, (members.foldlM (addElementSymbol env) symbols).run d = .ok (more, e) := by
    intro members
    induction members with
    | nil => exact fun _ _ => ⟨_, _, rfl⟩
    | cons member members ih =>
      intro symbols d
      obtain ⟨more, e, first⟩ := one symbols member d
      obtain ⟨most, u, rest⟩ := ih more e
      rw [List.foldlM_cons]
      exact ⟨most, u, run_bind_eq_ok_iff.mpr ⟨more, e, first, rest⟩⟩
  obtain ⟨symbols, e, run⟩ := all (id :: env.substitutions.members id) [] d
  refine of_run run fun formed => ?_
  have entered := elementSymbols_spec formed run
  exact ⟨entered.grows, entered.hasSymbols⟩

/-! ### Parts of the construction -/

section

variable {build : Construct Fragment} (built : ∀ d, Settles d build fun part e => e.Holds part)

include built

theorem copies (loops : Bool) (count : Nat) {current : Nat} (hc : current < d.states.size) :
    Settles d (Construct.copies build loops count current) fun n e => n < e.states.size := by
  induction count generalizing d current with
  | zero => exact pure hc
  | succ count ih =>
    refine bind (built d) fun copy e grows holds => ?_
    refine bind (addEpsilon (grows.lt hc) holds.1) fun _ u more _ => ?_
    have held := holds.mono more
    split
    · exact bind (addEpsilon held.2 held.1) fun _ v most _ => ih (held.mono most).2
    · exact ih held.2

theorem optionalCopies (count : Nat) {finish current : Nat} (hf : finish < d.states.size)
    (hc : current < d.states.size) :
    Settles d (Construct.optionalCopies build finish count current) fun _ _ => True := by
  induction count generalizing d current with
  | zero => exact pure trivial
  | succ count ih =>
    refine bind (built d) fun copy e grows holds => ?_
    refine bind (addEpsilon (grows.lt hc) holds.1) fun _ u more _ => ?_
    have grown := grows.trans more
    refine bind (addEpsilon (holds.mono more).2 (grown.lt hf)) fun _ v most _ => ?_
    exact ih ((grown.trans most).lt hf) ((holds.mono more).mono most).2

theorem repeated (occurs : Occurs) :
    Settles d (Construct.repeated env occurs build) fun part e => e.Holds part := by
  refine bind newState fun start e _ hs => ?_
  refine bind (copies built _ _ hs) fun current u grows hc => ?_
  have hs := grows.lt hs
  split
  · split
    · refine bind (built u) fun copy v more holds => ?_
      refine bind (addEpsilon (more.lt hc) holds.1) fun _ w most _ => ?_
      have grown := more.trans most
      refine bind (addEpsilon (holds.mono most).2 (grown.lt hc)) fun _ x last _ => ?_
      exact pure ⟨(grown.trans last).lt hs, (grown.trans last).lt hc⟩
    · exact pure ⟨hs, hc⟩
  · refine bind newState fun finish v more hf => ?_
    refine bind (addEpsilon (more.lt hc) hf) fun _ w most _ => ?_
    have grown := more.trans most
    refine bind (optionalCopies built _ (most.lt hf) (grown.lt hc)) fun _ x last _ => ?_
    exact pure ⟨(grown.trans last).lt hs, (most.trans last).lt hf⟩

end

theorem reading {names : Set QName} {symbols : Construct (List Nat)}
    (found : ∀ d, Settles d symbols fun symbols e => e.HasSymbols names symbols) :
    Settles d (Construct.reading env symbols) fun part e => e.Holds part := by
  refine bind newState fun start e _ hs => bind newState fun finish u grows hf => ?_
  refine bind (found u) fun symbols v more there => ?_
  have hs := (grows.trans more).lt hs
  have hf := more.lt hf
  exact bind (addMoves hs hf there) fun _ w most _ => pure ⟨most.lt hs, most.lt hf⟩

end Settles

/-- The member is built so that both ends of it are there, or a limit is in the way. -/
def Member.IsBuilt (m : Member) : Prop := ∀ d, Settles d m.build fun part e => e.Holds part

namespace Settles

variable {members : List Member}

theorem sequence (built : ∀ m ∈ members, m.IsBuilt) :
    Settles d (Construct.sequence env members) fun part e => e.Holds part := by
  refine bind newState fun start e _ hs => ?_
  have behind : ∀ {current : Nat} {u : Draft}, current < u.states.size →
      Settles u (sequenceFrom env members current) fun n v => n < v.states.size := by
    induction members with
    | nil => exact fun hc => pure hc
    | cons m members ih =>
      intro current u hc
      refine bind (repeated (built m (by simp)) _) fun part v grows holds => ?_
      refine bind (addEpsilon (grows.lt hc) holds.1) fun _ w more _ => ?_
      exact ih (fun m hm => built m (by simp [hm])) (holds.mono more).2
  exact bind (behind hs) fun finish v more hf => pure ⟨more.lt hs, hf⟩

theorem choice (built : ∀ m ∈ members, m.IsBuilt) :
    Settles d (Construct.choice env members) fun part e => e.Holds part := by
  refine bind newState fun start e _ hs => bind newState fun finish u grows hf => ?_
  have hs := grows.lt hs
  refine bind (forM (P := fun _ _ => True) (fun _ _ _ _ _ => trivial) fun m hm v more => ?_)
    fun _ v more _ => pure ⟨more.lt hs, more.lt hf⟩
  refine bind (repeated (built m hm) _) fun part w most holds => ?_
  have grown := more.trans most
  refine bind (addEpsilon (grown.lt hs) holds.1) fun _ x last _ => ?_
  exact (addEpsilon (holds.mono last).2 ((grown.trans last).lt hf)).weaken fun _ _ _ _ => trivial

end Settles

/-! ## The lattice -/

/-- The names that an element or a wildcard reads. A group is not read at once. -/
def namesOf? (env : Environment) : Content → Option (Set QName)
  | .element _ id => some (Content.elementNames env.arena env.substitutions id)
  | .wildcard _ w => some {name | w.allows name.ns = true}
  | .group _ _ _ => none

/-- What is found for a member are symbols that read its names, or nothing for a group. -/
def Finds (env : Environment) (d : Draft) (c : Content) (found : Option (List Nat)) : Prop :=
  match namesOf? env c with
  | some names => ∃ symbols, found = some symbols ∧ d.HasSymbols names symbols
  | none => found = none

/-- The content leads from one state to another, by each of its names or over a copy of it. -/
def LeadsOver (env : Environment) (d : Draft) (c : Content) (p q : Nat) : Prop :=
  match namesOf? env c with
  | some names => ∀ name ∈ names, d.Reads p [name] q
  | none => ∃ copy, d.Holds copy ∧ d.Silent p copy.start ∧ d.Silent copy.finish q

/-- From the state of a set the way out is open if the set holds all required members, and over each
member that it does not hold the way leads to the set with that member. -/
structure LeadsOn (env : Environment) (members : List Member) (first finish mask : Nat) (d : Draft) :
    Prop where
  exit : mask &&& requiredMask members = requiredMask members → d.Silent (first + mask) finish
  step : ∀ i m, members[i]? = some m → mask.testBit i = false →
    LeadsOver env d m.content (first + mask) (first + (mask ||| 1 <<< i))

/-- A fragment is the whole lattice of the members: a state for each set of them, and behind them the
way out. -/
structure IsComplete (env : Environment) (members : List Member) (part : Fragment) (d : Draft) :
    Prop where
  finish : part.finish = part.start + 1 <<< members.length
  holds : d.Holds part
  leads : ∀ mask < 1 <<< members.length, LeadsOn env members part.start part.finish mask d

variable {c : Content} {m : Member} {members : List Member} {found : Option (List Nat)}

theorem Finds.mono (grows : d.Grows e) (h : Finds env d c found) : Finds env e c found := by
  unfold Finds at h ⊢
  split at h
  · obtain ⟨symbols, same, there⟩ := h
    exact ⟨symbols, same, there.mono grows⟩
  · exact h

theorem LeadsOver.mono (grows : d.Grows e) (h : LeadsOver env d c p q) :
    LeadsOver env e c p q := by
  unfold LeadsOver at h ⊢
  split at h
  · exact fun name hname => grows.reads (h name hname)
  · obtain ⟨copy, holds, before, behind⟩ := h
    exact ⟨copy, holds.mono grows, grows.silent _ _ before, grows.silent _ _ behind⟩

theorem LeadsOn.mono (grows : d.Grows e) {first finish mask : Nat}
    (h : LeadsOn env members first finish mask d) : LeadsOn env members first finish mask e :=
  ⟨fun whole => grows.silent _ _ (h.exit whole), fun i m at_i free => (h.step i m at_i free).mono grows⟩

namespace Settles

theorem memberSymbols? (m : Member) : Settles d (Construct.memberSymbols? env m) fun found e =>
    Finds env e m.content found := by
  unfold Construct.memberSymbols?
  cases hc : m.content with
  | element o id =>
    exact bind (elementSymbols id) fun symbols e _ there => pure ⟨symbols, rfl, there⟩
  | wildcard o w =>
    exact bind (wildcardSymbol w) fun n e _ there => pure ⟨[n], rfl, there⟩
  | group o compositor contents => exact pure rfl

theorem lead (built : m.IsBuilt) (finds : Finds env d m.content found) (hp : p < d.states.size)
    (hq : q < d.states.size) :
    Settles d (Construct.lead m found p q) fun _ e => LeadsOver env e m.content p q := by
  unfold Finds at finds
  unfold LeadsOver
  split at finds
  · obtain ⟨symbols, rfl, there⟩ := finds
    exact addMoves hp hq there
  · subst finds
    refine bind (built d) fun copy e grows holds => ?_
    refine bind (addEpsilon (grows.lt hp) holds.1) fun _ u more before => ?_
    refine (addEpsilon (holds.mono more).2 ((grows.trans more).lt hq)).weaken
      fun _ v most behind => ?_
    exact ⟨copy, (holds.mono more).mono most, most.silent _ _ before, behind⟩

theorem readers (members : List Member) :
    Settles d (members.mapM fun m => do return (m, ← Construct.memberSymbols? env m))
      fun readers e =>
        List.Forall₂ (fun m r => r.1 = m ∧ Finds env e m.content r.2) members readers :=
  mapM (fun _ _ _ _ grows h => ⟨h.1, h.2.mono grows⟩) fun m _ _ _ =>
    bind (memberSymbols? m) fun _ _ _ finds => pure ⟨rfl, finds⟩

variable {readers : List (Member × Option (List Nat))} {first mask : Nat}

/-- The ways on from one set, each over a member that is not in it. -/
theorem steps (built : ∀ m ∈ members, m.IsBuilt)
    (read : List.Forall₂ (fun m r => r.1 = m ∧ Finds env d m.content r.2) members readers)
    (room : first + 1 <<< members.length ≤ d.states.size) (hm : mask < 1 <<< members.length) :
    Settles d (readers.zipIdx.forM fun ((m, symbols), place) => do
      if !mask.testBit place then
        Construct.lead m symbols (first + mask) (first + (mask ||| 1 <<< place)))
      fun _ e => ∀ i m, members[i]? = some m → mask.testBit i = false →
        LeadsOver env e m.content (first + mask) (first + (mask ||| 1 <<< i)) := by
  refine (forM (P := fun (r : (Member × Option (List Nat)) × Nat) e => mask.testBit r.2 = false →
    LeadsOver env e r.1.1.content (first + mask) (first + (mask ||| 1 <<< r.2)))
    (fun _ _ _ grows leads free => (leads free).mono grows) ?_).weaken fun _ e _ all i m at_i => ?_
  rotate_left
  · -- by the places of the readers, which are those of the members
    have related := getElem?_of_forall₂ read i
    rw [at_i] at related
    generalize at_i' : readers[i]? = found at related
    obtain ⟨rfl, -⟩ := related
    exact all (_, i) (List.mk_mem_zipIdx_iff_getElem?.mpr at_i')
  · rintro ⟨⟨m, found⟩, i⟩ hr e grows
    have related := getElem?_of_forall₂ read i
    rw [List.mk_mem_zipIdx_iff_getElem?.mp hr] at related
    generalize at_i : members[i]? = member at related
    obtain ⟨rfl, finds⟩ := related
    have target := insert_lt hm (List.getElem?_eq_some_iff.mp at_i).1
    have size := grows.size
    dsimp only
    cases free : mask.testBit i with
    | true =>
      refine pure fun outside => ?_
      cases outside
    | false =>
      refine (lead (built _ (List.mem_of_getElem? at_i)) (finds.mono grows) ?_ ?_).weaken
        fun _ _ _ leads _ => leads
      · omega
      · omega

/-- All that leads out of one set. -/
theorem round (built : ∀ m ∈ members, m.IsBuilt)
    (read : List.Forall₂ (fun m r => r.1 = m ∧ Finds env d m.content r.2) members readers)
    {finish : Nat} (room : first + 1 <<< members.length ≤ finish) (hf : finish < d.states.size)
    (hm : mask < 1 <<< members.length) :
    Settles d (do
      if mask &&& requiredMask members = requiredMask members then
        Construct.addEpsilon (first + mask) finish
      readers.zipIdx.forM fun ((m, symbols), place) => do
        if !mask.testBit place then
          Construct.lead m symbols (first + mask) (first + (mask ||| 1 <<< place)))
      fun _ => LeadsOn env members first finish mask := by
  by_cases whole : mask &&& requiredMask members = requiredMask members
  · rw [if_pos whole]
    refine bind (addEpsilon (by omega) hf) fun _ e grows exit => ?_
    have size := grows.size
    refine (steps built (read.imp fun _ _ h => ⟨h.1, h.2.mono grows⟩) (by omega) hm).weaken
      fun _ u more step => ?_
    exact ⟨fun _ => more.silent _ _ exit, step⟩
  · rw [if_neg whole]
    exact (steps built read (by omega) hm).weaken fun _ _ _ step =>
      ⟨fun h => absurd h whole, step⟩

/-- Members in any order, if they fit a word or are too many. -/
theorem all (built : ∀ m ∈ members, m.IsBuilt)
    (fits : env.limits.Fits (members.filter fun m => !m.content.isEmpty).length) :
    Settles d (Construct.all env members) fun part e =>
      (members.filter fun m => !m.content.isEmpty).length < wordBits ∧
        IsComplete env (members.filter fun m => !m.content.isEmpty) part e := by
  rw [Construct.all]
  have admitted : ∀ m ∈ members.filter fun m => !m.content.isEmpty, m.IsBuilt := fun m hm =>
    built m (List.mem_filter.mp hm).1
  generalize members.filter (fun m => !m.content.isEmpty) = members at fits admitted ⊢
  -- so many members that they do not fit a word do not pass the first check
  refine bind (keep _) fun _ e _ kept => ?_
  obtain ⟨few, rfl⟩ := kept
  have narrow : members.length < wordBits :=
    fits.resolve_right (Nat.not_lt.mpr (Limits.check_eq_ok_iff.mp few))
  rw [if_neg (Nat.not_le.mpr narrow)]
  refine bind get fun s e _ same => bind (keep _) fun _ u _ _ => ?_
  refine bind (readers members) fun readers e₁ _ read => ?_
  refine bind (newStates _) fun first e₂ grows₂ made => ?_
  refine bind (newStates 1) fun finish e₃ grows₃ made' => ?_
  obtain ⟨rfl, size⟩ := made'
  obtain ⟨-, size₂⟩ := made
  rw [← size₂] at size ⊢
  have read := read.imp fun _ _ h => And.intro h.1 (h.2.mono (grows₂.trans grows₃))
  have zero : 0 < 1 <<< members.length := by
    rw [Nat.one_shiftLeft]
    exact Nat.two_pow_pos _
  refine bind (forM (P := LeadsOn env members first (first + 1 <<< members.length))
    (fun _ _ _ grows leads => leads.mono grows) fun mask hm e grows => ?_) fun _ e grows leads => ?_
  · have size' := grows.size
    exact round admitted (read.imp fun _ _ h => ⟨h.1, h.2.mono grows⟩) le_rfl (by omega)
      (List.mem_range.mp hm)
  · have size' := grows.size
    refine pure ⟨narrow, rfl, ⟨?_, ?_⟩, fun mask hm => leads mask (List.mem_range.mpr hm)⟩
    all_goals dsimp only; omega

end Settles

/-! ## Words -/

/-- The word with one place in it. -/
def bit (place : Nat) : BitVec wordBits := BitVec.ofNat wordBits 1 <<< place

/-- The members that are required, as a word. -/
def requiredWord (members : List Member) : BitVec wordBits :=
  (members.zipIdx.filter fun p => 0 < p.1.content.occurs.min).foldl
    (fun mask p => mask ||| bit p.2) 0

/-- Computing with words comes to what computing with numbers does: nothing is shifted by as many bits
as a word has, and the sets that a member is put into stay in the lattice. -/
structure FitsWord (members : List Member) : Prop where
  shifts : ∀ i ≤ members.length, i < wordBits ∧ (bit i).toNat = 1 <<< i
  required : (requiredWord members).toNat = requiredMask members
  sets : ∀ mask < 1 <<< members.length, ∀ i < members.length,
    mask ||| 1 <<< i < 1 <<< members.length ∧
      (BitVec.ofNat wordBits mask ||| bit i).toNat = mask ||| 1 <<< i

theorem toNat_bit {i : Nat} (hi : i < wordBits) : (bit i).toNat = 1 <<< i := by
  have small : 1 <<< i < 2 ^ wordBits := by
    rw [Nat.one_shiftLeft]
    exact Nat.pow_lt_pow_right (by decide) hi
  exact (BitVec.toNat_shiftLeft ..).trans (Nat.mod_eq_of_lt small)

theorem toNat_requiredWord (narrow : members.length < wordBits) :
    (requiredWord members).toNat = requiredMask members := by
  have places : ∀ p ∈ members.zipIdx.filter fun p => 0 < p.1.content.occurs.min,
      p.2 < wordBits := by
    intro p hp
    have := List.snd_lt_of_mem_zipIdx (List.mem_filter.mp hp).1
    omega
  unfold requiredWord requiredMask
  generalize members.zipIdx.filter (fun p => 0 < p.1.content.occurs.min) = required at places
  have folded : ∀ (word : BitVec wordBits),
      (required.foldl (fun mask p => mask ||| bit p.2) word).toNat =
        required.foldl (fun mask p => mask ||| 1 <<< p.2) word.toNat := by
    induction required with
    | nil => exact fun _ => rfl
    | cons p required ih =>
      intro word
      obtain ⟨hp, places⟩ := List.forall_mem_cons.mp places
      rw [List.foldl_cons, List.foldl_cons, ih places, BitVec.toNat_or, toNat_bit hp]
  exact folded 0

theorem fitsWord (narrow : members.length < wordBits) : FitsWord members where
  shifts i hi := ⟨by omega, toNat_bit (by omega)⟩
  required := toNat_requiredWord narrow
  sets mask hm i hi := by
    have small : mask < 2 ^ wordBits := by
      rw [Nat.one_shiftLeft] at hm
      exact hm.trans (Nat.pow_lt_pow_right (by decide) narrow)
    refine ⟨insert_lt hm hi, ?_⟩
    rw [BitVec.toNat_or, toNat_bit (by omega), BitVec.toNat_ofNat, Nat.mod_eq_of_lt small]

/-! ## Contents -/

/-- The members for contents that may occur. -/
def occurring (env : Environment) (contents : List Content) : List Member :=
  (membersOf env contents).filter fun m => !m.content.isEmpty

theorem length_occurring (contents : List Content) :
    (occurring env contents).length = Content.countOccurring contents := by
  unfold occurring Content.countOccurring
  induction contents with
  | nil => rw [membersOf]; rfl
  | cons c cs ih =>
    rw [membersOf, List.filter_cons, List.countP_cons, ← ih]
    dsimp only
    split <;> rfl

mutual

theorem once_settles (c : Content) (narrow : c.IsNarrow env.limits) (d : Draft) :
    Settles d (once env c) fun part e => e.Holds part := by
  cases c with
  | element o id =>
    rw [once]
    exact .reading fun d => .elementSymbols id
  | wildcard o w =>
    rw [once]
    exact .reading fun d => .bind (.wildcardSymbol w) fun n e _ there => .pure there
  | group o compositor contents =>
    rw [Content.IsNarrow] at narrow
    have built := isBuilt_membersOf contents narrow.2
    cases compositor with
    | sequence =>
      rw [once]
      exact .sequence built
    | choice =>
      rw [once]
      exact .choice built
    | all =>
      rw [once]
      have fits := narrow.1 rfl
      rw [← length_occurring] at fits
      exact (Settles.all built fits).weaken fun _ _ _ complete => complete.2.holds

theorem isBuilt_membersOf (contents : List Content)
    (narrow : Content.AreNarrow env.limits contents) :
    ∀ m ∈ membersOf env contents, m.IsBuilt := by
  cases contents with
  | nil =>
    rw [membersOf]
    exact nofun
  | cons c cs =>
    rw [Content.AreNarrow] at narrow
    rw [membersOf]
    exact List.forall_mem_cons.mpr ⟨once_settles c narrow.1, isBuilt_membersOf cs narrow.2⟩

end

/-- Members that neither fit a word nor are too many are what the construction fails at. -/
theorem all_of_not_fits {contents : List Content}
    (wide : ¬ env.limits.Fits (Content.countOccurring contents)) :
    (all env (membersOf env contents)).run d =
      .error (.memberSets env.owner (Content.countOccurring contents)) := by
  rw [← @length_occurring env] at wide ⊢
  unfold occurring at wide ⊢
  rw [all]
  generalize (membersOf env contents).filter (fun m => !m.content.isEmpty) = members at wide ⊢
  obtain ⟨many, few⟩ := not_or.mp wide
  have passed : env.limits.checkAllGroupMembers env.owner members.length = .ok () :=
    Limits.check_eq_ok_iff.mpr (Nat.not_lt.mp few)
  dsimp only
  rw [passed, if_pos (Nat.not_lt.mp many)]
  rfl

/-- Where the members of a group without an order fit a word or are too many, and so do those of all
such groups inside of them, the construction gives up at a limit or comes to the whole lattice. -/
theorem all_settles (env : Environment) (contents : List Content)
    (fits : env.limits.Fits (Content.countOccurring contents))
    (narrow : Content.AreNarrow env.limits contents) (d : Draft) (formed : d.WellFormed) :
    (∃ excess, (all env (membersOf env contents)).run d = .error (.limitExceeded excess)) ∨
      ∃ part e, (all env (membersOf env contents)).run d = .ok (part, e) ∧ d.Grows e ∧
        FitsWord (occurring env contents) ∧ IsComplete env (occurring env contents) part e := by
  rw [← @length_occurring env] at fits
  rcases Settles.all (isBuilt_membersOf contents narrow) fits formed with excess | ⟨part, e, run, grows, h⟩
  · exact Or.inl excess
  · exact Or.inr ⟨part, e, run, grows, fitsWord h.1, h.2⟩

/-- Where the limit on the members of groups is smaller than a word, as it is among all limits that are
offered, an automaton is built for every content, or a limit exceeded. -/
theorem ofContent_settles (small : env.limits.allGroupMembers < wordBits) (c : Option Content) :
    (∃ excess, ofContent env c = .error (.limitExceeded excess)) ∨
      ∃ nfa alphabet, ofContent env c = .ok (nfa, alphabet) := by
  have settles : Settles ⟨#[], #[]⟩ (content env c) fun part e => e.Holds part := by
    cases c with
    | none => exact .bind .newState fun n e _ hn => .pure ⟨hn, hn⟩
    | some c => exact .repeated (once_settles c (Content.isNarrow_of_limits small c)) c.occurs
  unfold ofContent
  rcases settles wellFormed_empty with ⟨excess, run⟩ | ⟨part, e, run, -⟩
  · exact Or.inl ⟨excess, by rw [run]; rfl⟩
  · exact Or.inr ⟨_, _, by rw [run]; rfl⟩

example : Limits.standard.allGroupMembers < wordBits ∧ Limits.strict.allGroupMembers < wordBits ∧
    Limits.permissive.allGroupMembers < wordBits := by decide

/-! ## One member too many -/

/-- The elements a and b, and room for as many members as a word has bits. -/
def lettered : Environment :=
  let element (name : String) : ElementDecl := .plain (.ofLocal (some ⟨none, name⟩) ⟨1⟩)
  let arena := { Arena.empty with elements := #[element "a", element "b"] }
  ⟨arena, .ofArena arena, { Limits.standard with allGroupMembers := wordBits }, "type 'T'"⟩

/-- One of the elements is required and the other one is not. -/
def bothLetters : List Content := [.element .once ⟨0⟩, .element .optional ⟨1⟩]

/-- Four states for the sets of them, and the way out. -/
theorem all_bothLetters : lettered.limits.Fits (Content.countOccurring bothLetters) ∧
    Content.AreNarrow lettered.limits bothLetters ∧
    ∃ part e, (all lettered (membersOf lettered bothLetters)).run ⟨#[], #[]⟩ = .ok (part, e) ∧
      FitsWord (occurring lettered bothLetters) ∧
      IsComplete lettered (occurring lettered bothLetters) part e := by
  have fits : lettered.limits.Fits (Content.countOccurring bothLetters) := Or.inl (by decide)
  have narrow : Content.AreNarrow lettered.limits bothLetters := by
    simp [bothLetters, Content.AreNarrow, Content.IsNarrow]
  have computed : ((all lettered (membersOf lettered bothLetters)).run ⟨#[], #[]⟩).isOk = true := by
    decide +kernel
  rcases all_settles lettered bothLetters fits narrow ⟨#[], #[]⟩ wellFormed_empty with
    ⟨excess, run⟩ | ⟨part, e, run, -, word, complete⟩
  · rw [run] at computed
    cases computed
  · exact ⟨fits, narrow, part, e, run, word, complete⟩

/-- So many members as a word has bits are within the limit, and are not refused for it. -/
theorem not_all_settles : ¬ ∀ (env : Environment) (contents : List Content) (d : Draft),
    d.WellFormed →
      (∃ excess, (all env (membersOf env contents)).run d = .error (.limitExceeded excess)) ∨
        ∃ part e, (all env (membersOf env contents)).run d = .ok (part, e) := by
  intro settles
  have wide : ¬ lettered.limits.Fits
      (Content.countOccurring (List.replicate wordBits (.element .once ⟨0⟩))) := by decide
  have fails := @all_of_not_fits ⟨#[], #[]⟩ _ _ wide
  rcases settles lettered _ ⟨#[], #[]⟩ wellFormed_empty with ⟨excess, run⟩ | ⟨part, e, run⟩
  · rw [fails] at run
    cases run
  · rw [fails] at run
    cases run

end Construct
end Nfa
end Xsd
