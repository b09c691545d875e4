import Mathlib
import Xsd.Proofs.Automaton.ContentModel
import Xsd.Proofs.Automaton.Matching

/-!
# Declarations that read

An automaton says of each name which declaration reads it. The alphabet has one declaration for a
name, that of the first term which has come to it. So the declarations are those of a match where no
other term has another declaration of that name, and need not be where one has.
-/

namespace Xsd

/-- The symbols that read names one by one. -/
def Automaton.readers (a : Automaton) (state : Nat) : List QName → Option (List Symbol)
  | [] => some []
  | name :: rest =>
    (a.step state name).bind fun next => (a.readers next.1 rest).map (next.2 :: ·)

namespace Nfa

/-! ## Symbols that are entered -/

namespace Construct

variable {α β : Type} {P : Symbol → Prop} {env : Environment}

/-- All symbols that a step enters have the property. -/
def Enlists (P : Symbol → Prop) (x : Construct α) : Prop :=
  ∀ ⦃d e : Draft⦄ ⦃r : α⦄, (∀ s ∈ d.alphabet, P s) → x.run d = .ok (r, e) → ∀ s ∈ e.alphabet, P s

namespace Enlists

theorem pure (a : α) : Enlists P (Pure.pure a : Construct α) := by
  intro d e r hd h
  obtain ⟨-, rfl⟩ := run_pure_eq_ok_iff.mp h
  exact hd

/-- Of the second step only what the first one can come to matters. -/
theorem bindOf {x : Construct α} {f : α → Construct β} (hx : Enlists P x)
    (hf : ∀ a, (∃ d e : Draft, x.run d = .ok (a, e)) → Enlists P (f a)) : Enlists P (x >>= f) := by
  intro d e r hd h
  obtain ⟨a, u, first, rest⟩ := run_bind_eq_ok_iff.mp h
  exact hf a ⟨d, u, first⟩ (hx hd first) rest

theorem bind {x : Construct α} {f : α → Construct β} (hx : Enlists P x)
    (hf : ∀ a, Enlists P (f a)) : Enlists P (x >>= f) :=
  bindOf hx fun a _ => hf a

theorem get : Enlists P (MonadState.get : Construct Draft) := by
  intro d e r hd h
  cases h
  exact hd

theorem forM {xs : List α} {f : α → Construct Unit} (hf : ∀ x ∈ xs, Enlists P (f x)) :
    Enlists P (xs.forM f) := by
  induction xs with
  | nil => exact pure ()
  | cons x xs ih =>
    exact bind (hf x List.mem_cons_self) fun _ => ih fun y hy => hf y (List.mem_cons_of_mem _ hy)

theorem mapM {xs : List α} {f : α → Construct β} (hf : ∀ x ∈ xs, Enlists P (f x)) :
    Enlists P (xs.mapM f) := by
  induction xs with
  | nil => exact pure []
  | cons x xs ih =>
    rw [List.mapM_cons]
    refine bind (hf x List.mem_cons_self) fun y => bind (ih fun y hy => ?_) fun ys => pure (y :: ys)
    exact hf y (List.mem_cons_of_mem _ hy)

theorem foldlM {xs : List α} {f : β → α → Construct β} (hf : ∀ b, ∀ x ∈ xs, Enlists P (f b x))
    {b : β} : Enlists P (xs.foldlM f b) := by
  induction xs generalizing b with
  | nil => exact pure b
  | cons x xs ih =>
    rw [List.foldlM_cons]
    exact bind (hf b x List.mem_cons_self) fun b => ih fun b y hy => hf b y (List.mem_cons_of_mem _ hy)

/-- A step that leaves the alphabet alone. -/
theorem of_alphabet {x : Construct α}
    (h : ∀ ⦃d e : Draft⦄ ⦃r : α⦄, x.run d = .ok (r, e) → e.alphabet = d.alphabet) :
    Enlists P x := by
  intro d e r hd run
  rwa [h run]

theorem keep (check : Except LimitExcess Unit) : Enlists P (Construct.keep check) :=
  of_alphabet fun d e r h => by rw [(keep_spec h).2]

theorem newState : Enlists P (Construct.newState env) :=
  of_alphabet fun d e r h => by rw [(newState_run h).2]; rfl

theorem newStates (count : Nat) : Enlists P (Construct.newStates env count) :=
  of_alphabet fun d e r h => by rw [(newStates_run h).2]; rfl

theorem addEpsilon (source target : Nat) : Enlists P (Construct.addEpsilon source target) :=
  of_alphabet fun d e r h => by cases h; rfl

theorem addMove (source symbol target : Nat) : Enlists P (Construct.addMove source symbol target) :=
  of_alphabet fun d e r h => by cases h; rfl

theorem symbol {isThere : Symbol → Bool} {new : Symbol} (hnew : P new) :
    Enlists P (Construct.symbol isThere new) := by
  intro d e r hd h
  unfold Construct.symbol at h
  replace h := Except.ok.inj h
  beta_reduce at h
  cases hf : d.alphabet.findIdx? isThere with
  | some index =>
    rw [hf] at h
    cases h
    exact hd
  | none =>
    rw [hf] at h
    cases h
    intro s hs
    rcases Array.mem_push.mp hs with hs | rfl
    · exact hd s hs
    · exact hnew

/-- The symbols of an element carry declarations that take names for it. -/
theorem elementSymbols {id : ElementId}
    (h : ∀ x ∈ Content.takes env.arena env.substitutions id, P (.element x.1 x.2)) :
    Enlists P (Construct.elementSymbols env id) := by
  refine foldlM fun symbols member mem => ?_
  unfold addElementSymbol
  cases he : env.arena.element? member with
  | none => exact pure _
  | some e =>
    cases ha : e.isAbstract with
    | true =>
      simp only [ha]
      exact pure _
    | false =>
      cases hn : e.info.name with
      | none =>
        simp only [ha, hn]
        exact pure _
      | some name =>
        simp only [ha, hn]
        exact bind (symbol (h (name, member) ⟨mem, e, he, ha, hn⟩)) fun n => pure _

theorem copies {build : Construct Fragment} (hb : Enlists P build) (loops : Bool)
    (count current : Nat) : Enlists P (Construct.copies build loops count current) := by
  induction count generalizing current with
  | zero => exact pure current
  | succ count ih =>
    refine bind hb fun copy => bind (addEpsilon _ _) fun _ => ?_
    split
    · exact bind (addEpsilon _ _) fun _ => ih _
    · exact ih _

theorem optionalCopies {build : Construct Fragment} (hb : Enlists P build)
    (finish count current : Nat) :
    Enlists P (Construct.optionalCopies build finish count current) := by
  induction count generalizing current with
  | zero => exact pure ()
  | succ count ih =>
    exact bind hb fun copy => bind (addEpsilon _ _) fun _ => bind (addEpsilon _ _) fun _ => ih _

theorem repeated {build : Construct Fragment} (hb : Enlists P build) (occurs : Occurs) :
    Enlists P (Construct.repeated env occurs build) := by
  refine bind newState fun start => bind (copies hb _ _ _) fun current => ?_
  split
  · split
    · exact bind hb fun copy => bind (addEpsilon _ _) fun _ => bind (addEpsilon _ _) fun _ => pure _
    · exact pure _
  · refine bind newState fun finish => bind (addEpsilon _ _) fun _ => ?_
    exact bind (optionalCopies hb _ _ _) fun _ => pure _

theorem reading {symbols : Construct (List Nat)} (hs : Enlists P symbols) :
    Enlists P (Construct.reading env symbols) :=
  bind newState fun _ => bind newState fun _ => bind hs fun _ =>
    bind (forM fun _ _ => addMove _ _ _) fun _ => pure _

/-- A member of a group has the symbols that it should, and so has what is built for it. -/
structure OfMember (P : Symbol → Prop) (env : Environment) (m : Member) : Prop where
  build : Enlists P m.build
  symbols : Enlists P (memberSymbols? env m)

theorem sequence {members : List Member} (hm : ∀ m ∈ members, OfMember P env m) :
    Enlists P (Construct.sequence env members) := by
  refine bind newState fun start => bind ?_ fun finish => pure _
  generalize start = current
  induction members generalizing current with
  | nil => exact pure current
  | cons m members ih =>
    refine bind (repeated (hm m List.mem_cons_self).build _) fun f => bind (addEpsilon _ _) fun _ => ?_
    exact ih (fun m' mem => hm m' (List.mem_cons_of_mem _ mem)) _

theorem choice {members : List Member} (hm : ∀ m ∈ members, OfMember P env m) :
    Enlists P (Construct.choice env members) := by
  refine bind newState fun start => bind newState fun finish => bind (forM fun m mem => ?_) fun _ =>
    pure _
  refine bind (repeated (hm m mem).build _) fun f => ?_
  exact bind (addEpsilon _ _) fun _ => addEpsilon _ _

theorem lead {m : Member} (hb : Enlists P m.build) (symbols : Option (List Nat))
    (source target : Nat) : Enlists P (Construct.lead m symbols source target) := by
  unfold Construct.lead
  cases symbols with
  | some symbols => exact forM fun _ _ => addMove _ _ _
  | none => exact bind hb fun copy => bind (addEpsilon _ _) fun _ => addEpsilon _ _

/-- Members come with their own symbols. -/
theorem mem_of_mapM {members : List Member} {readers : List (Member × Option (List Nat))}
    {d e : Draft} (h : (members.mapM fun m => do
      return (m, ← memberSymbols? env m)).run d = .ok (readers, e)) :
    ∀ r ∈ readers, r.1 ∈ members := by
  induction members generalizing d e readers with
  | nil =>
    obtain ⟨rfl, -⟩ := run_pure_eq_ok_iff.mp h
    exact fun r mem => by cases mem
  | cons m members ih =>
    rw [List.mapM_cons] at h
    obtain ⟨r, d₁, first, h⟩ := run_bind_eq_ok_iff.mp h
    obtain ⟨others, d₂, rest, h⟩ := run_bind_eq_ok_iff.mp h
    obtain ⟨rfl, -⟩ := run_pure_eq_ok_iff.mp h
    obtain ⟨symbols, d₃, -, first⟩ := run_bind_eq_ok_iff.mp first
    obtain ⟨rfl, -⟩ := run_pure_eq_ok_iff.mp first
    intro r mem
    rcases List.mem_cons.mp mem with rfl | mem
    · exact List.mem_cons_self
    · exact List.mem_cons_of_mem _ (ih rest r mem)

theorem all {members : List Member} (hm : ∀ m ∈ members, OfMember P env m) :
    Enlists P (Construct.all env members) := by
  unfold Construct.all
  extract_lets kept
  have hkept : ∀ m ∈ kept, OfMember P env m := fun m mem => hm m (List.mem_filter.mp mem).1
  refine bind (keep _) fun _ => ?_
  split
  · intro d e r _ h
    obtain ⟨_, _, failed, -⟩ := run_bind_eq_ok_iff.mp h
    cases failed
  · refine bind get fun d => bind (keep _) fun _ => ?_
    refine bindOf (mapM fun m mem => bind (hkept m mem).symbols fun _ => pure _) ?_
    rintro readers ⟨d₁, d₂, found⟩
    have known := mem_of_mapM found
    refine bind (newStates _) fun first => bind newState fun finish => bind (forM ?_) fun _ => pure _
    intro mask _
    have step : ∀ x ∈ readers.zipIdx, Enlists P (if !mask.testBit x.2 then
        Construct.lead x.1.1 x.1.2 (first + mask) (first + (mask ||| 1 <<< x.2)) else
          Pure.pure ()) := by
      rintro ⟨⟨m, symbols⟩, place⟩ mem
      split
      · refine lead (hkept m (known (m, symbols) ?_)).build _ _ _
        exact List.mem_of_getElem? (List.mk_mem_zipIdx_iff_getElem?.mp mem)
      · exact pure ()
    split
    · exact bind (addEpsilon _ _) fun _ => forM step
    · exact forM step

end Enlists

mutual

/-- What is built for a content enters the symbols of its terms only. Where the wildcards do not
matter there can be some. -/
theorem once_enlists (c : Content) (wild : c.HasNoWildcard ∨ ∀ w, P (.wildcard w))
    (h : ∀ id ∈ c.elements, ∀ x ∈ Content.takes env.arena env.substitutions id,
      P (.element x.1 x.2)) : Enlists P (once env c) := by
  cases c with
  | element o id =>
    rw [once]
    exact .reading (.elementSymbols (h id (List.mem_singleton_self id)))
  | wildcard o w =>
    rcases wild with named | any
    · exact named.elim
    · rw [once]
      exact .reading (.bind (.symbol (any w)) fun _ => .pure _)
  | group o compositor members =>
    have ofMembers := membersOf_enlists members wild h
    cases compositor with
    | sequence =>
      rw [once]
      exact .sequence ofMembers
    | choice =>
      rw [once]
      exact .choice ofMembers
    | all =>
      rw [once]
      exact .all ofMembers

theorem membersOf_enlists (cs : List Content)
    (wild : Content.HaveNoWildcard cs ∨ ∀ w, P (.wildcard w))
    (h : ∀ id ∈ Content.elementsOf cs, ∀ x ∈ Content.takes env.arena env.substitutions id,
      P (.element x.1 x.2)) : ∀ m ∈ membersOf env cs, Enlists.OfMember P env m := by
  cases cs with
  | nil => exact fun m mem => by cases mem
  | cons c cs =>
    have first : Enlists.OfMember P env ⟨c, once env c⟩ := by
      have own : ∀ id ∈ c.elements, ∀ x ∈ Content.takes env.arena env.substitutions id,
          P (.element x.1 x.2) := fun id mem => h id (List.mem_append_left _ mem)
      have ownWild := wild.imp_left And.left
      refine ⟨once_enlists c ownWild own, ?_⟩
      cases c with
      | element o id =>
        exact .bind (.elementSymbols (own id (List.mem_singleton_self id))) fun _ => .pure _
      | wildcard o w =>
        rcases ownWild with named | any
        · exact named.elim
        · exact .bind (.symbol (any w)) fun _ => .pure _
      | group o compositor members => exact .pure _
    have rest := membersOf_enlists cs (wild.imp_left And.right) fun id mem => h id (List.mem_append_right _ mem)
    intro m mem
    rcases List.mem_cons.mp mem with rfl | mem
    · exact first
    · exact rest m mem

end

end Construct

/-! ## Symbols that read -/

/-- The symbol is that of a name and of the declaration that goes with it. -/
def Declares (declaration : QName → ElementId) (s : Symbol) : Prop :=
  ∃ name, s = .element name (declaration name)

section

variable {nfa : Nfa} {alphabet : Array Symbol} {limits : Limits} {owner : String}
  {sets : Array (List Nat)} {states : Array State} {declaration : QName → ElementId}
  {n target : Nat} {name : QName}

/-- Without wildcards a symbol is followed for itself only. -/
theorem sources_eq (all : ∀ s ∈ alphabet, Declares declaration s) {i : Nat}
    (hi : i < alphabet.size) : sources alphabet i = [i] := by
  obtain ⟨own, at_i⟩ := all _ (Array.getElem_mem hi)
  unfold sources
  rw [Array.getElem?_eq_getElem hi, at_i]
  refine congrArg _ (List.filter_eq_nil_iff.mpr fun k hk => ?_)
  have hk := List.mem_range.mp hk
  obtain ⟨other, at_k⟩ := all _ (Array.getElem_mem hk)
  rw [Array.getElem?_eq_getElem hk, at_k]
  exact Bool.false_ne_true

theorem reader_of_step (all : ∀ s ∈ alphabet, Declares declaration s)
    (table : Table nfa alphabet limits owner sets states) {reader : Symbol}
    (h : (⟨alphabet, states, 0⟩ : Automaton).step n name = some (target, reader)) :
    reader = .element name (declaration name) := by
  obtain ⟨state, at_n, h⟩ := Option.bind_eq_some_iff.mp h
  obtain ⟨tr, found, h⟩ := Option.bind_eq_some_iff.mp h
  obtain ⟨symbol, hr, h⟩ := Option.bind_eq_some_iff.mp h
  cases h
  obtain ⟨set, -, desc⟩ := table.done n state at_n
  obtain ⟨readers, mem, -, -, wildcard, -⟩ := desc.leads tr (List.mem_of_find?_eq_some found)
  obtain ⟨lt, rfl⟩ := mem_readers_iff.mp mem
  have own : tr.wildcard.getD tr.symbol = tr.symbol := by
    cases hw : tr.wildcard with
    | none => rfl
    | some w =>
      obtain ⟨m, hm, rfl⟩ := wildcard w hw
      have followed := (List.mem_filter.mp hm).2
      rw [sources_eq all lt] at followed
      simpa using followed
  have at_symbol : alphabet[tr.symbol]? = some reader := by
    rw [← own]
    exact hr
  obtain ⟨other, rfl⟩ := all reader (Array.mem_of_getElem? at_symbol)
  have taken := List.find?_some found
  have at_symbol' : (⟨alphabet, states, 0⟩ : Automaton).alphabet[tr.symbol]? = _ := at_symbol
  rw [Automaton.isTaken, at_symbol'] at taken
  cases eq_of_beq taken
  rfl

/-- By induction on the names that are read. -/
theorem readers_of_run (all : ∀ s ∈ alphabet, Declares declaration s)
    (table : Table nfa alphabet limits owner sets states) {names : List QName}
    (h : (⟨alphabet, states, 0⟩ : Automaton).run n names = some target) :
    (⟨alphabet, states, 0⟩ : Automaton).readers n names =
      some (names.map fun name => .element name (declaration name)) := by
  induction names generalizing n with
  | nil => rfl
  | cons name names ih =>
    obtain ⟨⟨next, reader⟩, step, h⟩ := Option.bind_eq_some_iff.mp h
    rw [Automaton.readers, step, Option.bind_some, ih h, reader_of_step all table step]
    rfl

end

end Nfa

namespace ContentModel

/-- There is a match of the names in which each is read by the declaration that the automaton
says. -/
def ReadsAMatch (env : Nfa.Environment) (root : Content) (a : Automaton) (names : List QName) :
    Prop :=
  ∃ word ∈ root.matching env.arena env.substitutions, word.map (·.1) = names ∧
    a.readers a.start names = some (word.map fun x => .element x.1 x.2)

/-- Two terms do not take one name with different declarations. -/
def IsConsistent (env : Nfa.Environment) (root : Content) : Prop :=
  ∀ id ∈ root.elements, ∀ id' ∈ root.elements,
    ∀ x ∈ Content.takes env.arena env.substitutions id,
    ∀ y ∈ Content.takes env.arena env.substitutions id', x.1 = y.1 → x.2 = y.2

variable {env : Nfa.Environment} {root : Content} {a : Automaton}

theorem exists_declaration (consistent : IsConsistent env root) :
    ∃ declaration : QName → ElementId, ∀ id ∈ root.elements,
      ∀ x ∈ Content.takes env.arena env.substitutions id, declaration x.1 = x.2 := by
  have each : ∀ name, ∃ r, ∀ id ∈ root.elements,
      ∀ x ∈ Content.takes env.arena env.substitutions id, x.1 = name → r = x.2 := by
    intro name
    by_cases known : ∃ id ∈ root.elements, ∃ x ∈ Content.takes env.arena env.substitutions id,
        x.1 = name
    · obtain ⟨id, mem, x, hx, rfl⟩ := known
      exact ⟨x.2, fun id' mem' y hy same => consistent id mem id' mem' x hx y hy same.symm⟩
    · exact ⟨default, fun id mem x hx same => absurd ⟨id, mem, x, hx, same⟩ known⟩
  choose declaration found using each
  exact ⟨declaration, fun id mem x hx => found x.1 id mem x hx rfl⟩

/-- The alphabet of the automaton has the symbols of the terms only. -/
theorem exists_table_of_automatonOf {P : Symbol → Prop} (named : root.HasNoWildcard)
    (symbols : ∀ id ∈ root.elements, ∀ x ∈ Content.takes env.arena env.substitutions id,
      P (.element x.1 x.2)) (h : automatonOf env (some root) = .ok a) :
    (∀ s ∈ a.alphabet, P s) ∧ a.start = 0 ∧
      ∃ nfa sets, Nfa.Table nfa a.alphabet env.limits env.owner sets a.states := by
  obtain ⟨⟨nfa, alphabet⟩, built, h⟩ := bind_eq_ok_iff.mp h
  obtain ⟨states, determinized, h⟩ := bind_eq_ok_iff.mp h
  cases pure_eq_ok_iff.mp h
  obtain ⟨⟨part, d⟩, run, built⟩ := bind_eq_ok_iff.mp built
  cases pure_eq_ok_iff.mp built
  obtain ⟨sets, table⟩ := Nfa.exists_table determinized
  have enlists := Nfa.Construct.once_enlists root (Or.inl named) symbols
  exact ⟨enlists.repeated root.occurs (by simp) run, rfl, _, sets, table⟩

/-- The symbol of an element has the name of its declaration, which is not abstract. -/
theorem concrete_of_mem_alphabet {content : Option Content} (h : automatonOf env content = .ok a)
    {name : QName} {id : ElementId} (mem : .element name id ∈ a.alphabet) :
    name ∈ Content.concreteNames env.arena id := by
  obtain ⟨⟨nfa, alphabet⟩, built, h⟩ := bind_eq_ok_iff.mp h
  obtain ⟨states, -, h⟩ := bind_eq_ok_iff.mp h
  cases pure_eq_ok_iff.mp h
  obtain ⟨⟨part, d⟩, run, built⟩ := bind_eq_ok_iff.mp built
  cases pure_eq_ok_iff.mp built
  have enlists : Nfa.Construct.Enlists
      (fun s => ∀ name id, s = .element name id → name ∈ Content.concreteNames env.arena id)
      (Nfa.Construct.content env content) := by
    cases content with
    | none => exact .bind .newState fun _ => .pure _
    | some root =>
      refine .repeated (Nfa.Construct.once_enlists root (Or.inr fun w _ _ h => by cases h) ?_) _
      rintro id - x ⟨-, concrete⟩ _ _ ⟨⟩
      exact concrete
  exact enlists (by simp) run _ mem name id rfl

/-- The declarations that read the names of an accepted sequence are those of a match, if the terms
of the content do not take one name with different declarations. -/
theorem readers_of_accepts (env : Nfa.Environment) (root : Content) (proper : root.Proper)
    (named : root.HasNoWildcard) (consistent : IsConsistent env root) (a : Automaton)
    (h : automatonOf env (some root) = .ok a) (names : List QName)
    (accepted : a.accepts names = true) : ReadsAMatch env root a names := by
  obtain ⟨declaration, found⟩ := exists_declaration consistent
  have admitted : names ∈ Content.language env.arena env.substitutions (some root) := by
    rw [← language_automatonOf (by rintro _ ⟨⟩; exact proper) h]
    exact accepted
  obtain ⟨all, start, nfa, sets, table⟩ := exists_table_of_automatonOf
    (P := Nfa.Declares declaration) named
    (fun id mem x hx => ⟨x.1, by rw [found id mem x hx]⟩) h
  obtain ⟨alphabet, states, first⟩ := a
  obtain rfl : first = 0 := start
  have matched := Content.map_language_le root named found ⟨names, admitted, rfl⟩
  refine ⟨names.map fun name => (name, declaration name), matched, ?_, ?_⟩
  · rw [List.map_map]
    exact List.map_id names
  · cases ran : (⟨alphabet, states, 0⟩ : Automaton).run 0 names with
    | none =>
      rw [Automaton.accepts, ran] at accepted
      cases accepted
    | some last =>
      rw [Nfa.readers_of_run all table ran, List.map_map]
      rfl

/-- Two declarations of the name `a`, with one of the name `b` between them. -/
private def twinsArena : Arena :=
  { Arena.empty with
    elements := #[.plain (.ofGlobal ⟨none, "a"⟩ ⟨0⟩), .plain (.ofGlobal ⟨none, "b"⟩ ⟨0⟩),
      .plain (.ofGlobal ⟨none, "a"⟩ ⟨0⟩)] }

private def twins : Nfa.Environment := ⟨twinsArena, .ofArena twinsArena, .standard, ""⟩

/-- The elements of the given numbers one after the other. -/
private def inOrder (first second third : ElementId) : Content :=
  .group .once .sequence [.element .once first, .element .once second, .element .once third]

private def twinNames : List QName := [⟨none, "a"⟩, ⟨none, "b"⟩, ⟨none, "a"⟩]

private def twinReaders : List Symbol :=
  [.element ⟨none, "a"⟩ ⟨0⟩, .element ⟨none, "b"⟩ ⟨1⟩, .element ⟨none, "a"⟩ ⟨0⟩]

private theorem inOrder_proper (first second third : ElementId) :
    (inOrder first second third).Proper := by
  simp [inOrder, Content.Proper, Content.AllProper, Occurs.Proper, Occurs.once]

private theorem inOrder_hasNoWildcard (first second third : ElementId) :
    (inOrder first second third).HasNoWildcard := by
  simp [inOrder, Content.HasNoWildcard, Content.HaveNoWildcard]

/-- None stands in for another one, so a term takes the name of its own declaration. -/
private theorem eq_of_takes_twins {id : ElementId} {x : QName × ElementId}
    (h : x ∈ Content.takes twins.arena twins.substitutions id) :
    x.2 = id ∧ ∃ e, twinsArena.element? id = some e ∧ e.info.name = some x.1 := by
  have none : twins.substitutions = ⟨⟨[]⟩⟩ := by cbv
  obtain ⟨mem, e, he, -, name⟩ := h
  rw [none] at mem
  obtain rfl : x.2 = id := List.mem_singleton.mp mem
  exact ⟨rfl, e, he, name⟩

theorem readers_of_repeated_declaration :
    ∃ a, IsConsistent twins (inOrder ⟨0⟩ ⟨1⟩ ⟨0⟩) ∧
      automatonOf twins (some (inOrder ⟨0⟩ ⟨1⟩ ⟨0⟩)) = .ok a ∧ a.accepts twinNames = true ∧
      ReadsAMatch twins (inOrder ⟨0⟩ ⟨1⟩ ⟨0⟩) a twinNames := by
  have consistent : IsConsistent twins (inOrder ⟨0⟩ ⟨1⟩ ⟨0⟩) := by
    intro id mem id' mem' x hx y hy same
    obtain ⟨own, e, he, name⟩ := eq_of_takes_twins hx
    obtain ⟨own', e', he', name'⟩ := eq_of_takes_twins hy
    have one : e.info.name = e'.info.name := by rw [name, name', same]
    rw [own, own']
    simp only [inOrder, Content.elements, Content.elementsOf, List.append_nil, List.cons_append,
      List.nil_append, List.mem_cons, List.not_mem_nil, or_false] at mem mem'
    rcases mem with rfl | rfl | rfl <;> rcases mem' with rfl | rfl | rfl <;>
      first
      | rfl
      | (cases he
         cases he'
         exact absurd one (by decide))
  have read : ((automatonOf twins (some (inOrder ⟨0⟩ ⟨1⟩ ⟨0⟩))).toOption.map fun a =>
      a.accepts twinNames) = some true := by
    cbv
  cases h : automatonOf twins (some (inOrder ⟨0⟩ ⟨1⟩ ⟨0⟩)) with
  | error e =>
    rw [h] at read
    cases read
  | ok a =>
    rw [h] at read
    have accepted : a.accepts twinNames = true := Option.some.inj read
    exact ⟨a, consistent, rfl, accepted, readers_of_accepts twins _ (inOrder_proper _ _ _)
      (inOrder_hasNoWildcard _ _ _) consistent a h twinNames accepted⟩

/-- The first term has the symbol of the name, so the last one is read by a declaration that no
match has there. -/
theorem not_readers_of_accepts : ¬ ∀ (env : Nfa.Environment) (root : Content) (a : Automaton)
    (names : List QName), root.Proper → root.HasNoWildcard →
      automatonOf env (some root) = .ok a → a.accepts names = true →
      ReadsAMatch env root a names := by
  intro always
  have read : ((automatonOf twins (some (inOrder ⟨0⟩ ⟨1⟩ ⟨2⟩))).toOption.map fun a =>
      (a.accepts twinNames, a.readers a.start twinNames)) = some (true, some twinReaders) := by
    cbv
  cases h : automatonOf twins (some (inOrder ⟨0⟩ ⟨1⟩ ⟨2⟩)) with
  | error e =>
    rw [h] at read
    cases read
  | ok a =>
    rw [h] at read
    simp only [Except.toOption, Option.map_some, Option.some.injEq, Prod.mk.injEq] at read
    obtain ⟨accepted, readers⟩ := read
    obtain ⟨word, mem, -, same⟩ := always twins _ a twinNames (inOrder_proper _ _ _)
      (inOrder_hasNoWildcard _ _ _) h accepted
    have symbols : twinReaders = word.map fun x => .element x.1 x.2 :=
      Option.some.inj (readers.symm.trans same)
    rw [Content.matching, inOrder, Content.occurs, Occurs.times_once, Content.matchesOnce] at mem
    simp only [Content.matchParts, Content.occurs, Occurs.times_once, List.map_cons, List.map_nil,
      List.prod_cons, List.prod_nil, mul_one] at mem
    obtain ⟨_, ⟨x, -, rfl⟩, _, rest, rfl⟩ := Language.mem_mul.mp mem
    obtain ⟨_, ⟨y, -, rfl⟩, _, ⟨z, hz, rfl⟩, rfl⟩ := Language.mem_mul.mp rest
    obtain ⟨last, -⟩ := eq_of_takes_twins hz
    simp [twinReaders, last] at symbols

end ContentModel

end Xsd
