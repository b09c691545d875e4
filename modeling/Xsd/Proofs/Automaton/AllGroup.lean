import Mathlib
import Xsd.Proofs.Automaton.Construct

/-!
# Members in any order

Each state of the lattice stands for the members that have been read, as a word of bits. From it
those outside of the word are read in any order, as far as they have to be.
-/

namespace Xsd.Nfa

open Draft

/-! ## Words of bits -/

section Bits

variable {α : Type} {xs : List α} {x : α} {mask i : Nat}

/-- The elements of a list whose places are not in the word. -/
def outside (mask : Nat) (xs : List α) : List α :=
  (xs.zipIdx.filter fun p => !mask.testBit p.2).map (·.1)

theorem outside_zero : outside 0 xs = xs := by
  simp [outside]

theorem mem_outside_iff : x ∈ outside mask xs ↔ ∃ i, xs[i]? = some x ∧ mask.testBit i = false := by
  simp [outside, List.mem_zipIdx_iff_getElem?]

theorem testBit_insert {k : Nat} :
    (mask ||| 1 <<< i).testBit k = (mask.testBit k || decide (i = k)) := by
  rw [Nat.testBit_or, Nat.one_shiftLeft, Nat.testBit_two_pow]

/-- An element outside of a word is left when its place is put into the word. -/
theorem outside_perm (at_i : xs[i]? = some x) (free : mask.testBit i = false) :
    (x :: outside (mask ||| 1 <<< i) xs).Perm (outside mask xs) := by
  have nodup : xs.zipIdx.Nodup := .of_map _ (List.nodup_zipIdx_map_snd xs)
  have perm : ((x, i) :: xs.zipIdx.filter fun p => !(mask ||| 1 <<< i).testBit p.2).Perm
      (xs.zipIdx.filter fun p => !mask.testBit p.2) := by
    have isNew : (x, i) ∉ xs.zipIdx.filter fun p => !(mask ||| 1 <<< i).testBit p.2 := by
      simp
    refine (List.perm_ext_iff_of_nodup (List.nodup_cons.mpr ⟨isNew, nodup.filter _⟩)
      (nodup.filter _)).mpr ?_
    rintro ⟨y, k⟩
    simp only [List.mem_cons, Prod.mk.injEq, List.mem_filter, List.mk_mem_zipIdx_iff_getElem?,
      testBit_insert, Bool.not_eq_true', Bool.or_eq_false_iff, decide_eq_false_iff_not]
    constructor
    · rintro (⟨rfl, rfl⟩ | ⟨at_k, out, _⟩)
      · exact ⟨at_i, free⟩
      · exact ⟨at_k, out⟩
    · rintro ⟨at_k, out⟩
      by_cases same : i = k
      · subst same
        exact Or.inl ⟨Option.some.inj (at_k.symm.trans at_i), rfl⟩
      · exact Or.inr ⟨at_k, out, same⟩
  simpa [outside] using perm.map Prod.fst

theorem insert_lt {n : Nat} (hm : mask < 1 <<< n) (hi : i < n) : mask ||| 1 <<< i < 1 <<< n := by
  rw [Nat.one_shiftLeft] at hm ⊢
  rw [Nat.one_shiftLeft]
  exact Nat.or_lt_two_pow hm (Nat.pow_lt_pow_right (by omega) hi)

/-- A word has all bits of another one. -/
theorem and_eq_right_iff {required : Nat} :
    mask &&& required = required ↔ ∀ k, required.testBit k = true → mask.testBit k = true := by
  constructor
  · intro h k bit
    rw [← h, Nat.testBit_and, Bool.and_eq_true] at bit
    exact bit.1
  · intro h
    refine Nat.eq_of_testBit_eq fun k => ?_
    rw [Nat.testBit_and]
    cases bit : required.testBit k with
    | false => simp
    | true => simp [h k bit]

theorem testBit_foldl_insert {places : List (α × Nat)} {k : Nat} :
    (places.foldl (fun mask p => mask ||| 1 <<< p.2) mask).testBit k = true ↔
      mask.testBit k = true ∨ ∃ p ∈ places, p.2 = k := by
  induction places generalizing mask with
  | nil => simp
  | cons p places ih =>
    rw [List.foldl_cons, ih, testBit_insert]
    simp [or_assoc]

end Bits

/-! ## The lattice -/

variable {d e f : Draft} {env : Environment} {parts : List Part} {first finish : Nat}

/-- The way out of the state of a word, if all required members have been read. -/
def exitEdges (parts : List Part) (first finish mask : Nat) : Set Edge :=
  {edge | (∀ p ∈ outside mask parts, p.occurs.min = 0) ∧ edge = ⟨first + mask, 1, finish⟩}

/-- The way out of the state of a word over a member that has not been read. -/
def stepEdges (parts : List Part) (first mask i : Nat) : Set Edge :=
  {edge | ∃ p, parts[i]? = some p ∧ mask.testBit i = false ∧
    edge = ⟨first + mask, p.language, first + (mask ||| 1 <<< i)⟩}

def latticeEdges (parts : List Part) (first finish mask : Nat) : Set Edge :=
  exitEdges parts first finish mask ∪ {edge | ∃ i, edge ∈ stepEdges parts first mask i}

/-- What is there is the lattice. -/
def IsLattice (d : Draft) (parts : List Part) (first finish : Nat) (e : Draft) : Prop :=
  d.Wires {edge | ∃ mask < 1 <<< parts.length, edge ∈ latticeEdges parts first finish mask} e

theorem IsLattice.reads (lattice : IsLattice d parts first finish e) {taken left : List Part}
    (optional : ∀ p ∈ left, p.occurs.min = 0) {mask : Nat} (hm : mask < 1 <<< parts.length)
    (perm : (taken ++ left).Perm (outside mask parts)) {names : List QName}
    (mem : names ∈ (taken.map (·.language)).prod) : e.Reads (first + mask) names finish := by
  induction taken generalizing mask names with
  | nil =>
    have none : ∀ p ∈ outside mask parts, p.occurs.min = 0 := fun p hp =>
      optional p (perm.mem_iff.mpr hp)
    exact Wires.reads lattice ⟨first + mask, 1, finish⟩ ⟨mask, hm, Or.inl ⟨none, rfl⟩⟩ names mem
  | cons p taken ih =>
    rw [List.map_cons, List.prod_cons] at mem
    obtain ⟨word, hw, others, ho, rfl⟩ := Language.mem_mul.mp mem
    obtain ⟨i, at_i, free⟩ := mem_outside_iff.mp (perm.mem_iff.mp (by simp : p ∈ p :: taken ++ left))
    have hi := (List.getElem?_eq_some_iff.mp at_i).1
    have across := Wires.reads lattice ⟨first + mask, p.language, first + (mask ||| 1 <<< i)⟩
      ⟨mask, hm, Or.inr ⟨i, p, at_i, free, rfl⟩⟩ word hw
    exact across.append
      (ih (insert_lt hm hi) ((perm.trans (outside_perm at_i free).symm).cons_inv) ho)

/-- A state is labelled by what the members outside of its word read in any order. -/
theorem IsLattice.labels (lattice : IsLattice d parts first finish e)
    (may : ∀ p ∈ parts, p.occurs.max ≠ some 0) {label : Nat → Language QName}
    (labels : d.Labels label)
    (states : ∀ mask < 1 <<< parts.length,
      label (first + mask) = Part.inAnyOrder (outside mask parts) * label finish) :
    e.Labels label := by
  refine Wires.labels lattice label labels ?_
  rintro edge ⟨mask, hm, ⟨optional, rfl⟩ | ⟨i, p, at_i, free, rfl⟩⟩
  · rw [states mask hm]
    exact mul_le_mul_left (Part.one_le_inAnyOrder optional) (label finish)
  · have hi := (List.getElem?_eq_some_iff.mp at_i).1
    rw [states mask hm, states _ (insert_lt hm hi), ← mul_assoc]
    exact mul_le_mul_left (Part.mul_inAnyOrder_le (outside_perm at_i free)
      (may p (List.mem_of_getElem? at_i))) (label finish)

/-- The lattice over new states, one for each word, is a fragment for the members in any order. -/
theorem IsLattice.span (formed : d.WellFormed) (may : ∀ p ∈ parts, p.occurs.max ≠ some 0)
    (lattice : IsLattice ((d.fresh (1 <<< parts.length)).fresh 1) parts d.states.size
      (d.states.size + 1 <<< parts.length) e) :
    d.Spans ⟨d.states.size, d.states.size + 1 <<< parts.length⟩ (Part.inAnyOrder parts) e := by
  obtain ⟨grows, labelled⟩ := Construct.fresh_spec formed (1 <<< parts.length)
  obtain ⟨grows', labelled'⟩ := Construct.fresh_spec grows.wellFormed 1
  have size := Wires.size lattice
  rw [size_fresh, size_fresh] at size
  have grown := (grows.trans grows').trans (Wires.grows lattice)
  have zero : 0 < 1 <<< parts.length := by
    rw [Nat.one_shiftLeft]
    exact Nat.two_pow_pos _
  have finish : d.states.size + 1 <<< parts.length < e.states.size := by omega
  refine ⟨grown, Nat.lt_of_le_of_lt (Nat.le_add_right _ _) finish, finish, ?_, ?_⟩
  · rintro names ⟨taken, left, perm, -, optional, mem⟩
    exact lattice.reads optional zero (by rwa [outside_zero]) mem
  · intro label rest labels
    obtain ⟨more, cont, new⟩ := labelled label
      (fun mask => Part.inAnyOrder (outside mask parts) * rest) labels
    obtain ⟨most, cont', new'⟩ := labelled' more (fun _ => rest) cont.labels
    have at_finish : most (d.states.size + 1 <<< parts.length) = rest := by
      simpa using new' 0
    have states : ∀ mask < 1 <<< parts.length, most (d.states.size + mask) =
        Part.inAnyOrder (outside mask parts) * most (d.states.size + 1 <<< parts.length) := by
      intro mask hm
      rw [at_finish, ← new mask]
      exact cont'.agrees _ (by rw [size_fresh]; omega)
    have all := lattice.labels may cont'.labels states
    refine ⟨most, cont.trans grows.size ⟨all, cont'.agrees⟩, at_finish.ge, ?_⟩
    have start := states 0 zero
    rw [outside_zero, at_finish, Nat.add_zero] at start
    exact start.le

namespace Construct

/-- The member reads one name out of a set, and the construction finds its symbols. -/
structure Member.IsLetter (env : Environment) (m : Member) (p : Part) : Prop where
  occurs : m.content.occurs = p.occurs
  isEmpty : m.content.isEmpty = m.content.occurs.isEmpty
  letters : ∃ names, p.language = Content.letters names ∧
    ∀ ⦃d e : Draft⦄ ⦃found : Option (List Nat)⦄, d.WellFormed →
      (memberSymbols? env m).run d = .ok (found, e) →
      ∃ symbols, found = some symbols ∧ d.Enters [] names symbols e

/-- The symbols are there, and read what the member reads. -/
def ReadsPart (d : Draft) (found : Option (List Nat)) (p : Part) : Prop :=
  ∃ symbols, found = some symbols ∧ (∀ n ∈ symbols, n < d.alphabet.size) ∧
    p.language = Content.letters {name | ∃ n ∈ symbols, name ∈ d.readBy n}

theorem ReadsPart.mono (grows : d.Grows e) {found : Option (List Nat)} {p : Part}
    (h : ReadsPart d found p) : ReadsPart e found p := by
  obtain ⟨symbols, rfl, range, eq⟩ := h
  refine ⟨symbols, rfl, fun n hn => grows.symbol_lt (range n hn), ?_⟩
  rw [eq]
  congr 1
  ext name
  exact exists_congr fun n => and_congr_right fun hn => by rw [grows.readBy_eq (range n hn)]

theorem readers_spec {members : List Member} (letters : members.Forall₂ (Member.IsLetter env) parts)
    {readers : List (Member × Option (List Nat))} (formed : d.WellFormed)
    (h : (members.mapM fun m => do return (m, ← memberSymbols? env m)).run d = .ok (readers, e)) :
    d.Grows e ∧ e.states = d.states ∧ List.Forall₂ (fun r p => ReadsPart e r.2 p) readers parts := by
  induction letters generalizing d readers with
  | nil =>
    obtain ⟨rfl, rfl⟩ := run_pure_eq_ok_iff.mp h
    exact ⟨.refl formed, rfl, .nil⟩
  | cons letter _ ih =>
    rw [List.mapM_cons] at h
    obtain ⟨reader, e₁, first, h⟩ := run_bind_eq_ok_iff.mp h
    obtain ⟨others, e₂, rest, h⟩ := run_bind_eq_ok_iff.mp h
    obtain ⟨rfl, rfl⟩ := run_pure_eq_ok_iff.mp h
    obtain ⟨found, e₃, entry, ret⟩ := run_bind_eq_ok_iff.mp first
    obtain ⟨rfl, rfl⟩ := run_pure_eq_ok_iff.mp ret
    obtain ⟨names, eq, yields⟩ := letter.letters
    obtain ⟨symbols, rfl, entered⟩ := yields formed entry
    obtain ⟨grows, states, all⟩ := ih entered.grows.wellFormed rest
    refine ⟨entered.grows.trans grows, states.trans entered.states, .cons ?_ all⟩
    refine ReadsPart.mono grows ⟨symbols, rfl, entered.range, ?_⟩
    rw [eq]
    congr 1
    ext name
    simpa using (entered.reads name).symm

theorem testBit_requiredMask {members : List Member} {k : Nat} :
    (requiredMask members).testBit k = true ↔
      ∃ m, members[k]? = some m ∧ 0 < m.content.occurs.min := by
  rw [requiredMask, testBit_foldl_insert]
  simp only [Nat.zero_testBit, Bool.false_eq_true, false_or, List.mem_filter, decide_eq_true_eq,
    Prod.exists, List.mk_mem_zipIdx_iff_getElem?]
  constructor
  · rintro ⟨m, i, ⟨at_i, required⟩, rfl⟩
    exact ⟨m, at_i, required⟩
  · rintro ⟨m, at_k, required⟩
    exact ⟨m, k, ⟨at_k, required⟩, rfl⟩

theorem getElem?_of_forall₂ {α β : Type} {R : α → β → Prop} {xs : List α} {ys : List β}
    (related : List.Forall₂ R xs ys) (i : Nat) : Option.Rel R xs[i]? ys[i]? := by
  induction related generalizing i with
  | nil => simp
  | cons first _ ih =>
    cases i with
    | zero => exact .some first
    | succ i => simpa using ih i

/-- All required members are in the word exactly when those outside of it are optional. -/
theorem and_requiredMask_eq_iff {members : List Member}
    (occurs : List.Forall₂ (fun m p => m.content.occurs = p.occurs) members parts) {mask : Nat} :
    mask &&& requiredMask members = requiredMask members ↔
      ∀ p ∈ outside mask parts, p.occurs.min = 0 := by
  rw [and_eq_right_iff]
  constructor
  · intro all p hp
    obtain ⟨i, at_i, free⟩ := mem_outside_iff.mp hp
    have related := getElem?_of_forall₂ occurs i
    rw [at_i] at related
    generalize at_i' : members[i]? = found at related
    obtain ⟨eq⟩ := related
    by_contra required
    have := all i (testBit_requiredMask.mpr ⟨_, at_i', by rw [eq]; omega⟩)
    rw [free] at this
    cases this
  · intro optional k bit
    obtain ⟨m, at_k, required⟩ := testBit_requiredMask.mp bit
    have related := getElem?_of_forall₂ occurs k
    rw [at_k] at related
    generalize at_k' : parts[k]? = found at related
    obtain ⟨eq⟩ := related
    by_contra free
    have := optional _ (mem_outside_iff.mpr ⟨k, at_k', by simpa using free⟩)
    rw [← eq] at this
    omega

/-- The edge over one member. -/
theorem step_spec {m : Member} {found : Option (List Nat)} {p : Part} {mask i : Nat}
    (reads : ReadsPart d found p) (at_i : parts[i]? = some p) (formed : d.WellFormed)
    (room : first + 1 <<< parts.length ≤ d.states.size) (hm : mask < 1 <<< parts.length)
    (h : (if !mask.testBit i then lead m found (first + mask) (first + (mask ||| 1 <<< i))
      else pure ()).run d = .ok ((), e)) :
    d.Wires (stepEdges parts first mask i) e := by
  cases free : mask.testBit i with
  | true =>
    rw [free] at h
    obtain ⟨-, rfl⟩ := run_pure_eq_ok_iff.mp h
    have none : stepEdges parts first mask i = ∅ := by
      ext edge
      simp [stepEdges, free]
    rw [none]
    exact .none formed
  | false =>
    rw [free] at h
    obtain ⟨symbols, rfl, range, eq⟩ := reads
    have target := insert_lt hm (List.getElem?_eq_some_iff.mp at_i).1
    have moves := addMoves_spec formed (p := first + mask) (q := first + (mask ||| 1 <<< i))
      (by omega) (by omega) range h
    have one : stepEdges parts first mask i =
        {⟨first + mask, p.language, first + (mask ||| 1 <<< i)⟩} := by
      ext edge
      simp [stepEdges, at_i, free]
    rwa [one, eq]

/-- The edges over all members. -/
theorem steps_spec {readers : List (Member × Option (List Nat))} {mask : Nat}
    (read : List.Forall₂ (fun r p => ReadsPart d r.2 p) readers parts) (formed : d.WellFormed)
    (room : first + 1 <<< parts.length ≤ d.states.size) (hm : mask < 1 <<< parts.length)
    (h : (readers.zipIdx.forM fun ((m, symbols), place) => do
      if !mask.testBit place then
        lead m symbols (first + mask) (first + (mask ||| 1 <<< place))).run d = .ok ((), e)) :
    d.Wires {edge | ∃ i, edge ∈ stepEdges parts first mask i} e := by
  have wires := forM_wires (fun r => stepEdges parts first mask r.2) formed ?_ h
  · have same : {edge | ∃ r ∈ readers.zipIdx, edge ∈ stepEdges parts first mask r.2} =
        {edge | ∃ i, edge ∈ stepEdges parts first mask i} := by
      ext edge
      constructor
      · rintro ⟨r, -, mem⟩
        exact ⟨r.2, mem⟩
      · rintro ⟨i, p, at_i, rest⟩
        have related := getElem?_of_forall₂ read i
        rw [at_i] at related
        generalize at_i' : readers[i]? = found at related
        obtain ⟨-⟩ := related
        exact ⟨(_, i), List.mk_mem_zipIdx_iff_getElem?.mpr at_i', p, at_i, rest⟩
    rwa [← same]
  · rintro ⟨⟨m, found⟩, i⟩ hr d' e' grows size round
    have related := getElem?_of_forall₂ read i
    rw [List.mk_mem_zipIdx_iff_getElem?.mp hr] at related
    generalize at_i : parts[i]? = part at related
    obtain ⟨reads⟩ := related
    exact step_spec (reads.mono grows) at_i grows.wellFormed (by rwa [size]) hm round

/-- The edges out of the state of one word. -/
theorem round_spec {members : List Member} {readers : List (Member × Option (List Nat))}
    (occurs : List.Forall₂ (fun m p => m.content.occurs = p.occurs) members parts)
    (read : List.Forall₂ (fun r p => ReadsPart d r.2 p) readers parts) (formed : d.WellFormed)
    (room : first + 1 <<< parts.length ≤ d.states.size) (exit : finish < d.states.size)
    {mask : Nat} (hm : mask < 1 <<< parts.length)
    (h : (do
      if mask &&& requiredMask members = requiredMask members then addEpsilon (first + mask) finish
      readers.zipIdx.forM fun ((m, symbols), place) => do
        if !mask.testBit place then
          lead m symbols (first + mask) (first + (mask ||| 1 <<< place))).run d = .ok ((), e)) :
    d.Wires (latticeEdges parts first finish mask) e := by
  by_cases complete : mask &&& requiredMask members = requiredMask members
  · rw [if_pos complete] at h
    obtain ⟨_, d₁, leave, rest⟩ := run_bind_eq_ok_iff.mp h
    have out := addEpsilon_spec formed (by omega) exit leave
    have across := steps_spec (read.imp fun _ _ reads => reads.mono out.grows)
      out.grows.wellFormed (by rwa [out.size]) hm rest
    have optional := (and_requiredMask_eq_iff occurs).mp complete
    have same : exitEdges parts first finish mask = {⟨first + mask, 1, finish⟩} := by
      ext edge
      simp only [exitEdges, Set.mem_ofPred_eq, Set.mem_singleton_iff]
      exact and_iff_right optional
    rw [latticeEdges, same]
    exact out.trans across
  · rw [if_neg complete] at h
    have same : exitEdges parts first finish mask = ∅ := by
      ext edge
      simp only [exitEdges, Set.mem_ofPred_eq, Set.mem_empty_iff_false, iff_false, not_and]
      exact fun optional => absurd ((and_requiredMask_eq_iff occurs).mpr optional) complete
    rw [latticeEdges, same, Set.empty_union]
    exact steps_spec read formed room hm h

/-- A fragment that is built once symbols have been entered. -/
theorem Spans.after (formed : d.WellFormed) (grows : d.Grows e) (states : e.states = d.states)
    {part : Fragment} {language : Language QName} (spans : e.Spans part language f) :
    d.Spans part language f where
  grows := grows.trans spans.grows
  start := spans.start
  finish := spans.finish
  reads := spans.reads
  labels label rest labels := by
    obtain ⟨more, cont, ends⟩ := spans.labels label rest (labels.of_states_eq formed grows states)
    exact ⟨more, ⟨cont.labels, fun p hp => cont.agrees p (by rwa [states])⟩, ends⟩

/-- What is built for members that read letters reads them in any order. -/
theorem all_spec {members : List Member}
    (letters : members.Forall₂ (Member.IsLetter env) parts)
    (proper : ∀ p ∈ parts, p.occurs.Proper) :
    Builds (all env members) (Part.inAnyOrder parts) := by
  intro d e part formed h
  rw [← Part.inAnyOrder_filter proper]
  have kept : List.Forall₂ (Member.IsLetter env) (members.filter fun m => !m.content.isEmpty)
      (parts.filter fun p => p.occurs.max ≠ some 0) := by
    refine List.rel_filter ?_ letters
    intro m p letter
    simp [letter.isEmpty, letter.occurs, Occurs.isEmpty]
  have may : ∀ p ∈ parts.filter fun p => p.occurs.max ≠ some 0, p.occurs.max ≠ some 0 := fun p hp =>
    by simpa using (List.mem_filter.mp hp).2
  rw [all] at h
  generalize members.filter (fun m => !m.content.isEmpty) = members' at h kept
  generalize parts.filter (fun p => p.occurs.max ≠ some 0) = parts' at kept may ⊢
  have length := kept.length_eq
  obtain ⟨_, d₁, hk, h⟩ := run_bind_eq_ok_iff.mp h
  obtain ⟨-, rfl⟩ := keep_spec hk
  by_cases many : wordBits ≤ members'.length
  · rw [if_pos many] at h
    obtain ⟨_, _, fails, _⟩ := run_bind_eq_ok_iff.mp h
    cases fails
  · rw [if_neg many] at h
    obtain ⟨s, d₂, hg, h⟩ := run_bind_eq_ok_iff.mp h
    cases hg
    obtain ⟨_, d₃, hk, h⟩ := run_bind_eq_ok_iff.mp h
    obtain ⟨-, rfl⟩ := keep_spec hk
    obtain ⟨readers, d₄, hr, h⟩ := run_bind_eq_ok_iff.mp h
    obtain ⟨grows, states, read⟩ := readers_spec kept formed hr
    obtain ⟨first, d₅, hf, h⟩ := run_bind_eq_ok_iff.mp h
    obtain ⟨rfl, rfl⟩ := newStates_run hf
    obtain ⟨finish, d₆, hx, h⟩ := run_bind_eq_ok_iff.mp h
    obtain ⟨rfl, rfl⟩ := newState_run hx
    obtain ⟨_, d₇, loop, h⟩ := run_bind_eq_ok_iff.mp h
    obtain ⟨rfl, rfl⟩ := run_pure_eq_ok_iff.mp h
    refine Spans.after formed grows states ?_
    rw [length, size_fresh] at loop ⊢
    have grown := (fresh_spec grows.wellFormed (1 <<< parts'.length)).1
    have grown' := (fresh_spec grown.wellFormed 1).1
    refine IsLattice.span grows.wellFormed may ?_
    have wires := forM_wires (latticeEdges parts' d₄.states.size
      (d₄.states.size + 1 <<< parts'.length)) grown'.wellFormed ?_ loop
    · simpa only [IsLattice, List.mem_range] using wires
    · intro mask hm d' e' grows' size round
      rw [size_fresh, size_fresh] at size
      exact round_spec (kept.imp fun _ _ letter => letter.occurs)
        (read.imp fun _ _ reads => reads.mono ((grown.trans grown').trans grows'))
        grows'.wellFormed (by omega) (by omega) (List.mem_range.mp hm) round

end Construct

end Xsd.Nfa
