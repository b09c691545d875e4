import Xsd.Proofs.Facet.ClassReading

/-!
# Reading patterns

What the reader of the search syntax makes of a plain expression that is written in it spells the
language of the expression. So the pattern of a plain expression matches the words of its language,
and no other texts.
-/

namespace Xsd.Regex.Reader

open Pattern

/-- Where the reader is: the groups that have been numbered, the alternatives before the one in
progress, the items of that one, and what is left. -/
structure Place where
  groups : Groups
  before : List Piece
  items : List (Option Piece)
  rest : List Char

def readFrom (fuel nesting : Nat) (s : Place) : Option (Piece × Groups × List Char) :=
  readAlternatives fuel nesting .initial s.groups s.before s.items s.rest

/-- The reader gets from one place to the other, with more steps left than characters. -/
def Leads (nesting : Nat) (s s' : Place) : Prop :=
  ∀ fuel, s.rest.length < fuel →
    ∃ fuel', s'.rest.length < fuel' ∧ readFrom fuel nesting s = readFrom fuel' nesting s'

namespace Leads

variable {nesting : Nat} {s s' s'' : Place}

theorem refl (s : Place) : Leads nesting s s := fun fuel enough => ⟨fuel, enough, rfl⟩

theorem trans (h : Leads nesting s s') (h' : Leads nesting s' s'') : Leads nesting s s'' := by
  intro fuel enough
  obtain ⟨fuel', enough', same⟩ := h fuel enough
  obtain ⟨fuel'', enough'', same'⟩ := h' fuel' enough'
  exact ⟨fuel'', enough'', same.trans same'⟩

theorem step (shorter : s'.rest.length < s.rest.length)
    (h : ∀ fuel, s.rest.length ≤ fuel → readFrom (fuel + 1) nesting s = readFrom fuel nesting s') :
    Leads nesting s s' := by
  intro fuel enough
  obtain ⟨fuel, rfl⟩ := Nat.exists_eq_add_one_of_ne_zero (Nat.ne_zero_of_lt enough)
  exact ⟨fuel, by omega, h fuel (by omega)⟩

end Leads

variable {nesting : Nat} {g : Groups} {before : List Piece} {items : List (Option Piece)}
  {rest : List Char}

/-- At the end, and before a closing parenthesis, the reader is done. -/
theorem readFrom_done {fuel : Nat} (last : rest = [] ∨ ∃ more, rest = ')' :: more) :
    readFrom (fuel + 1) nesting ⟨g, before, items, rest⟩ =
      some (alternatives (sequence items) before, g, rest) := by
  rw [readFrom, readAlternatives]
  rcases last with rfl | ⟨more, rfl⟩ <;> simp only [skipBlanks_initial]

/-! ## Characters and classes -/

theorem leads_escaped {c : Char} (escaped : readEscape .initial (c :: rest) = some (.literal c, rest)) :
    Leads nesting ⟨g, before, items, '\\' :: c :: rest⟩
      ⟨g, before, some ⟨.set (.single c), 0⟩ :: items, rest⟩ := by
  refine .step (by simp) fun fuel _ => ?_
  rw [readFrom, readFrom, readAlternatives]
  simp only [skipBlanks_initial, escaped, Option.bind_some, escapeRegex, foldCase_initial]

theorem leads_plain {c : Char} (normal : isNormal c = true) (caret : c ≠ '^') (dollar : c ≠ '$') :
    Leads nesting ⟨g, before, items, c :: rest⟩
      ⟨g, before, some ⟨.set (.single c), 0⟩ :: items, rest⟩ := by
  refine .step (by simp) fun fuel _ => ?_
  rw [isNormal_iff] at normal
  rw [readFrom, readFrom, readAlternatives]
  simp only [skipBlanks_initial]
  split <;> rename_i first <;> cases first
  case h_14 => rw [foldCase_initial]
  all_goals simp at normal caret dollar

theorem leads_char {c : Char} (normal : isNormal c = true) :
    Leads nesting ⟨g, before, items, Writing.search.outside c ++ rest⟩
      ⟨g, before, some ⟨.set (.single c), 0⟩ :: items, rest⟩ := by
  unfold Writing.search
  dsimp only
  split
  · rename_i special
    rcases special with rfl | rfl <;> exact leads_escaped rfl
  · rename_i other
    rw [not_or] at other
    exact leads_plain normal other.1 other.2

theorem leads_class {k : CharClass} (plain : k.IsPlain) : ∃ s : CharSet,
    (∀ c, s.contains c = k.contains c) ∧
      Leads nesting ⟨g, before, items, k.write .search ++ rest⟩
        ⟨g, before, some ⟨.set s, (Atom.cls k).depth⟩ :: items, rest⟩ := by
  have whole : k.write .search ++ rest =
      '[' :: ((if k.negated then ['^'] else []) ++ (k.writeItems .search ++ ']' :: rest)) := by
    simp only [CharClass.write, List.append_assoc, List.cons_append, List.nil_append]
  obtain ⟨hyphens, more, s, members, opened, further, inside, read⟩ := readClass_write k plain rest
  have shorter : more.length < (k.write .search ++ rest).length := by
    rw [whole, List.length_cons, List.length_append]
    omega
  refine ⟨s, members, .step (further.trans shorter) fun fuel least => ?_⟩
  have inner := read fuel nesting (shorter.trans_le least)
  rw [readFrom, readFrom, whole, readAlternatives]
  simp only [skipBlanks_initial, opened, inner, Option.bind_some, Atom.depth]

/-! ## Quantifiers -/

/-- How often the atom is taken, if that is said. -/
def bounds? : Quantifier → Option (Nat × Option Nat)
  | .one => none
  | .optional => some (0, some 1)
  | .star => some (0, none)
  | .plus => some (1, none)
  | .exactly n => some (n.value, some n.value)
  | .atLeast n => some (n.value, none)
  | .between n m _ => some (n.value, some m.value)

theorem repeated_bounds {q : Quantifier} {min : Nat} {max : Option Nat}
    (bounds : bounds? q = some (min, max)) (l : Language Char) :
    repeated l min max = q.apply l := by
  cases q <;> cases bounds
  case optional => exact repeated_zero_one
  case star => rw [repeated_none, pow_zero, one_mul, Quantifier.apply]
  case plus => rw [repeated_none, pow_one, Quantifier.apply]
  case exactly n => exact repeated_self n.value
  case atLeast n => exact repeated_none n.value
  case between n m ordered =>
    ext w
    simp [repeated, Quantifier.apply]

theorem bounds?_ordered {q : Quantifier} {min : Nat} {max : Option Nat}
    (bounds : bounds? q = some (min, max)) : ∀ m ∈ max, min ≤ m := by
  cases q <;> cases bounds
  case between n m ordered => simpa using ordered
  all_goals simp

theorem write_pos {q : Quantifier} {b : Nat × Option Nat} (bounds : bounds? q = some b) :
    0 < q.write.length ∧ q.depth = 1 := by
  cases q <;> cases bounds <;> exact ⟨Nat.zero_lt_succ _, rfl⟩

theorem repeatLast_initial {p : Piece} {min : Nat} {max : Option Nat}
    (next : rest.head? ≠ some '?') :
    repeatLast .initial min max rest (some p :: items) =
      some (some ⟨.rep p.regex min max true, p.depth + 1⟩ :: items, rest) := by
  have other (more : List Char) : rest ≠ '?' :: more := by
    rintro rfl
    exact next rfl
  unfold repeatLast
  simp only
  rfl

theorem exists_digit (n : Count) : ∃ d ds, n.digits = d :: ds ∧ Text.isDigit d = true := by
  cases digits : n.digits with
  | nil =>
    have read := n.read
    rw [digits] at read
    cases read
  | cons d ds => exact ⟨d, ds, rfl, n.isDigit_of_mem (digits ▸ List.mem_cons_self)⟩

theorem trimStart_of_not_blank {c : Char} (blank : Text.isBlank c = false) (cs : List Char) :
    Text.trimStart (c :: cs) = c :: cs := by
  rw [Text.trimStart, List.dropWhile_cons_of_neg (by rw [blank]; decide)]

/-- A number is read up to a character that is neither a digit nor blank. -/
theorem readCount_digits {n : Count} (small : n.value < 2 ^ 32) {c : Char}
    (digit : Text.isDigit c = false) (blank : Text.isBlank c = false) (rest : List Char) :
    readCount .initial (n.digits ++ c :: rest) = some (n.value, c :: rest) := by
  obtain ⟨d, ds, digits, first⟩ := exists_digit n
  have all : ∀ c ∈ n.digits, Text.isDigit c = true := fun c => n.isDigit_of_mem
  have trim : Text.trimStart (n.digits ++ c :: rest) = n.digits ++ c :: rest := by
    rw [digits]
    exact trimStart_of_not_blank (Text.isBlank_of_isDigit first) _
  unfold readCount
  rw [trim, spanSkipping_initial, List.takeWhile_append_of_pos all,
    List.dropWhile_append_of_pos all, List.takeWhile_cons, List.dropWhile_cons, digit]
  simp only [Bool.false_eq_true, if_false, List.append_nil, n.read, Option.bind_some,
    trimStart_of_not_blank blank]
  exact if_pos small

theorem readBounds_exactly {n : Count} (small : n.value < 2 ^ 32) :
    readBounds .initial (n.digits ++ '\x7d' :: rest) = some ((n.value, some n.value), rest) := by
  unfold readBounds
  rw [skipBlanks_initial, readCount_digits small rfl rfl]
  rfl

theorem readBounds_atLeast {n : Count} (small : n.value < 2 ^ 32) :
    readBounds .initial (n.digits ++ ',' :: '\x7d' :: rest) = some ((n.value, none), rest) := by
  unfold readBounds
  rw [skipBlanks_initial, readCount_digits small rfl rfl]
  rfl

theorem readBounds_between {n m : Count} (small : n.value < 2 ^ 32 ∧ m.value < 2 ^ 32)
    (ordered : n.value ≤ m.value) :
    readBounds .initial (n.digits ++ ',' :: (m.digits ++ '\x7d' :: rest)) =
      some ((n.value, some m.value), rest) := by
  unfold readBounds
  rw [skipBlanks_initial, readCount_digits small.1 rfl rfl]
  obtain ⟨d, ds, digits, first⟩ := exists_digit m
  have closing : d ≠ '\x7d' := by
    rintro rfl
    cases first
  have more := readCount_digits (c := '\x7d') small.2 rfl rfl rest
  rw [digits] at more ⊢
  simp only [Option.bind_eq_bind, Option.bind_some, skipBlanks_initial, List.cons_append] at more ⊢
  split
  · rename_i last
    exact absurd (List.cons.inj last).1 closing
  · rw [more]
    exact if_pos ordered

theorem readFrom_quantifier {q : Quantifier} (plain : q.IsPlain) {min : Nat} {max : Option Nat}
    (bounds : bounds? q = some (min, max)) (fuel : Nat) :
    readFrom (fuel + 1) nesting ⟨g, before, items, q.write ++ rest⟩ =
      (repeatLast .initial min max rest items).bind fun (items, rest) =>
        readAlternatives fuel nesting .initial g before items rest := by
  rw [readFrom]
  cases q <;> cases bounds
  case exactly n =>
    simp only [Quantifier.write, List.cons_append, List.append_assoc, List.nil_append]
    rw [readAlternatives]
    simp only [skipBlanks_initial, readBounds_exactly plain, Option.bind_some]
  case atLeast n =>
    simp only [Quantifier.write, List.cons_append, List.append_assoc, List.nil_append]
    rw [readAlternatives]
    simp only [skipBlanks_initial, readBounds_atLeast plain, Option.bind_some]
  case between n m ordered =>
    simp only [Quantifier.write, List.cons_append, List.append_assoc, List.nil_append]
    rw [readAlternatives]
    simp only [skipBlanks_initial, readBounds_between plain ordered, Option.bind_some]
  all_goals
    rw [Quantifier.write, List.singleton_append, readAlternatives]
    simp only [skipBlanks_initial]

theorem leads_quantifier {q : Quantifier} {p : Piece} (plain : q.IsPlain)
    (next : rest.head? ≠ some '?') {l : Language Char} (spells : Spells p.regex l) :
    ∃ p' : Piece, Spells p'.regex (q.apply l) ∧ p'.depth = p.depth + q.depth ∧
      Leads nesting ⟨g, before, some p :: items, q.write ++ rest⟩
        ⟨g, before, some p' :: items, rest⟩ := by
  cases bounds : bounds? q with
  | none =>
    cases q <;> cases bounds
    exact ⟨p, spells, rfl, .refl _⟩
  | some b =>
    obtain ⟨min, max⟩ := b
    obtain ⟨shorter, depth⟩ := write_pos bounds
    have repeats := spells.rep (bounds?_ordered bounds) true
    rw [repeated_bounds bounds] at repeats
    refine ⟨⟨.rep p.regex min max true, p.depth + 1⟩, repeats, by rw [depth],
      .step ?_ fun fuel _ => ?_⟩
    · show rest.length < (q.write ++ rest).length
      rw [List.length_append]
      omega
    · rw [readFrom_quantifier plain bounds, repeatLast_initial next]
      rfl

/-! ## Sequences, alternatives and groups -/

theorem jointDepth_reverse (depths : List Nat) :
    jointDepth depths.reverse = jointDepth depths := by
  rw [jointDepth, jointDepth, List.length_reverse, (List.reverse_perm depths).foldl_op_eq]

theorem le_foldl_max {depths : List Nat} {d least : Nat} (h : d ≤ least ∨ d ∈ depths) :
    d ≤ depths.foldl max least := by
  induction depths generalizing least with
  | nil => simpa using h
  | cons e depths ih =>
    refine ih ?_
    rw [List.mem_cons] at h
    rw [le_max_iff]
    rcases h with h | rfl | h
    · exact Or.inl (Or.inl h)
    · exact Or.inl (Or.inr le_rfl)
    · exact Or.inr h

theorem le_jointDepth {depths : List Nat} {d : Nat} (mem : d ∈ depths) : d ≤ jointDepth depths :=
  (le_foldl_max (Or.inr mem)).trans (Nat.le_add_right _ _)

theorem depth_sequence (ps : List Piece) :
    (sequence (ps.map some)).depth = jointDepth (ps.map (·.depth)) := by
  rw [sequence, List.map_map]
  rfl

/-- The expressions one after the other, of which the last one comes first. -/
def joined : List Regex → Regex
  | [] => .empty
  | last :: before => before.foldl (fun r item => .seq item r) last

theorem joined_append_singleton (last : Regex) (before : List Regex) (r : Regex) :
    joined (last :: before ++ [r]) = .seq r (joined (last :: before)) := by
  rw [List.cons_append, joined, joined, List.foldl_append]
  rfl

theorem regex_sequence (ps : List Piece) :
    (sequence (ps.map some)).regex = joined (ps.map (·.regex)) := by
  have regexes : (ps.map some).filterMap (fun item => item.map (·.regex)) = ps.map (·.regex) := by
    simp [List.filterMap_map]
  exact congrArg joined regexes

theorem depth_alternatives (last : Piece) (before : List Piece) :
    (alternatives last before).depth = jointDepth ((last :: before).map (·.depth)) := rfl

theorem alternatives_singleton (p : Piece) : alternatives (sequence [some p]) [] = p := by
  simp [alternatives, sequence, jointDepth]

/-- The first item of a sequence is given last. -/
theorem spells_sequence {ps : List Piece} {p : Piece} {l m : Language Char}
    (others : Spells (sequence (ps.map some)).regex l) (first : Spells p.regex m) :
    Spells (sequence ((ps ++ [p]).map some)).regex (m * l) := by
  rw [regex_sequence] at others ⊢
  cases ps with
  | nil =>
    rw [others.unique .empty, mul_one]
    exact first
  | cons last ps =>
    rw [List.map_append, List.map_cons, List.map_singleton, joined_append_singleton]
    exact first.seq others

theorem spells_alternatives {last q : Piece} {before : List Piece} {l m : Language Char}
    (others : Spells (alternatives last before).regex l) (first : Spells q.regex m) :
    Spells (alternatives last (before ++ [q])).regex (m + l) := by
  rw [alternatives, List.foldl_append]
  exact first.alt others

/-! ## What comes first -/

theorem head?_outside {c : Char} (normal : isNormal c = true) (rest : List Char) :
    (Writing.search.outside c ++ rest).head? ≠ some '?' := by
  unfold Writing.search
  dsimp only
  split
  · simp
  · rw [isNormal_iff] at normal
    simpa using normal.2.2.1

theorem head?_atom (a : Atom) (rest : List Char) :
    (a.write .search ++ rest).head? ≠ some '?' := by
  cases a with
  | char c normal =>
    rw [Atom.write]
    exact head?_outside normal rest
  | cls k => simp [Atom.write, CharClass.write]
  | group e => simp [Atom.write]

theorem head?_branch (b : Branch) {rest : List Char} (next : rest.head? ≠ some '?') :
    (b.write .search ++ rest).head? ≠ some '?' := by
  cases b with
  | nil => rwa [Branch.write, List.nil_append]
  | cons a q more =>
    rw [Branch.write, List.append_assoc, List.append_assoc]
    exact head?_atom a _

theorem head?_expression (e : Expression) {rest : List Char} (next : rest.head? ≠ some '?') :
    (e.write .search ++ rest).head? ≠ some '?' := by
  cases e with
  | last b => exact head?_branch b next
  | more b others =>
    rw [Expression.write, List.append_assoc]
    exact head?_branch b (by simp)

/-! ## Groups -/

theorem readOpening_numbered {cs : List Char} (next : cs.head? ≠ some '?') :
    readOpening .initial cs = some (.numbered none, cs) := by
  unfold readOpening
  simp only [skipBlanks_initial]
  split <;> first | rfl | simp at next

theorem readOpening_group (cs : List Char) :
    readOpening .initial ('?' :: ':' :: cs) = some (.group .initial, cs) := by
  rfl

/-- A part in parentheses. -/
def enclosed (index : Option Nat) (p : Piece) : Piece := ⟨.group p.regex index, p.depth + 1⟩

/-- What is read up to the closing parenthesis becomes an item. -/
theorem leads_numbered {inner : List Char} {g' : Groups} {more : List Piece}
    {last : List (Option Piece)} (next : (inner ++ ')' :: rest).head? ≠ some '?')
    (h : Leads nesting ⟨⟨g.count + 1, g.names⟩, [], [], inner ++ ')' :: rest⟩
      ⟨g', more, last, ')' :: rest⟩) :
    Leads (nesting + 1) ⟨g, before, items, '(' :: (inner ++ ')' :: rest)⟩
      ⟨g', before, some (enclosed (some (g.count + 1)) (alternatives (sequence last) more)) :: items,
        rest⟩ := by
  refine .step (by simp; omega) fun fuel least => ?_
  obtain ⟨fuel', enough, same⟩ := h fuel (Nat.lt_of_succ_le least)
  obtain ⟨fuel', rfl⟩ := Nat.exists_eq_add_one_of_ne_zero (Nat.ne_zero_of_lt enough)
  rw [readFrom_done (Or.inr ⟨rest, rfl⟩), readFrom] at same
  rw [readFrom, readFrom, readAlternatives]
  simp only [skipBlanks_initial, readOpening_numbered next, Groups.add?, same, enclosed]

theorem leads_group {inner : List Char} {g' : Groups} {more : List Piece}
    {last : List (Option Piece)}
    (h : Leads nesting ⟨g, [], [], inner ++ ')' :: rest⟩ ⟨g', more, last, ')' :: rest⟩) :
    Leads (nesting + 1) ⟨g, before, items, '(' :: '?' :: ':' :: (inner ++ ')' :: rest)⟩
      ⟨g', before, some (enclosed none (alternatives (sequence last) more)) :: items, rest⟩ := by
  refine .step (by simp; omega) fun fuel least => ?_
  obtain ⟨fuel', enough, same⟩ := h fuel (by simp at least ⊢; omega)
  obtain ⟨fuel', rfl⟩ := Nat.exists_eq_add_one_of_ne_zero (Nat.ne_zero_of_lt enough)
  rw [readFrom_done (Or.inr ⟨rest, rfl⟩), readFrom] at same
  rw [readFrom, readFrom, readAlternatives]
  simp only [skipBlanks_initial, readOpening_group, same, enclosed]

theorem leads_alternative :
    Leads nesting ⟨g, before, items, '|' :: rest⟩ ⟨g, sequence items :: before, [], rest⟩ := by
  refine .step (by simp) fun fuel _ => ?_
  rw [readFrom, readFrom, readAlternatives]
  simp only [skipBlanks_initial]

/-! ## Expressions -/

mutual

/-- By induction on the expression. -/
theorem leads_atom {nesting : Nat} (a : Atom) (plain : a.IsPlain) (deep : a.depth ≤ nesting)
    (g : Groups) (before : List Piece) (items : List (Option Piece)) (rest : List Char) :
    ∃ (g' : Groups) (p : Piece), Spells p.regex a.language ∧ p.depth = a.depth ∧
      Leads nesting ⟨g, before, items, a.write .search ++ rest⟩
        ⟨g', before, some p :: items, rest⟩ := by
  cases a with
  | char c normal =>
    refine ⟨g, ⟨.set (.single c), 0⟩, ?_, by rw [Atom.depth], ?_⟩
    · rw [Atom.language]
      exact .single c
    · rw [Atom.write]
      exact leads_char normal
  | cls k =>
    rw [Atom.IsPlain] at plain
    obtain ⟨s, members, leads⟩ : ∃ s : CharSet, (∀ c, s.contains c = k.contains c) ∧
        Leads nesting ⟨g, before, items, k.write .search ++ rest⟩ _ := leads_class plain
    refine ⟨g, ⟨.set s, _⟩, ?_, rfl, ?_⟩
    · rw [Atom.language]
      exact .set members
    · rw [Atom.write]
      exact leads
  | group e =>
    rw [Atom.IsPlain] at plain
    rw [Atom.depth] at deep
    obtain ⟨nesting, rfl⟩ := Nat.exists_eq_add_one_of_ne_zero (by omega : nesting ≠ 0)
    obtain ⟨g', more, last, spells, depths, leads⟩ :=
      leads_expression e plain (fun d mem => (le_jointDepth mem).trans (Nat.le_of_succ_le_succ deep))
        ⟨g.count + 1, g.names⟩ [] (')' :: rest) (by simp)
    rw [List.append_nil] at leads
    refine ⟨g', enclosed (some (g.count + 1)) (alternatives (sequence last) more), ?_, ?_, ?_⟩
    · rw [Atom.language]
      exact spells.group _
    · rw [Atom.depth, enclosed, depth_alternatives, depths, jointDepth_reverse]
    · simp only [Atom.write, List.cons_append, List.append_assoc, List.nil_append]
      exact leads_numbered (head?_expression e (by simp)) leads

theorem leads_branch {nesting : Nat} (b : Branch) (plain : b.IsPlain)
    (deep : ∀ d ∈ b.depths, d ≤ nesting) (g : Groups) (before : List Piece)
    (items : List (Option Piece)) (rest : List Char) (next : rest.head? ≠ some '?') :
    ∃ (g' : Groups) (ps : List Piece), Spells (sequence (ps.map some)).regex b.language ∧
      ps.map (·.depth) = b.depths.reverse ∧
      Leads nesting ⟨g, before, items, b.write .search ++ rest⟩
        ⟨g', before, ps.map some ++ items, rest⟩ := by
  cases b with
  | nil =>
    refine ⟨g, [], ?_, by rw [Branch.depths]; rfl, ?_⟩
    · rw [Branch.language]
      exact .empty
    · rw [Branch.write]
      exact .refl _
  | cons a q more =>
    rw [Branch.IsPlain] at plain
    rw [Branch.depths, List.forall_mem_cons] at deep
    have follows : (more.write .search ++ rest).head? ≠ some '?' := head?_branch more next
    obtain ⟨g₁, p, spells, depth, atom⟩ := leads_atom a plain.1
      ((Nat.le_add_right _ _).trans deep.1) g before items
      (q.write ++ (more.write .search ++ rest))
    obtain ⟨p', spells', depth', quantifier⟩ : ∃ p' : Piece, Spells p'.regex _ ∧
        p'.depth = p.depth + q.depth ∧ Leads nesting ⟨g₁, before, some p :: items, _⟩ _ :=
      leads_quantifier plain.2.1 follows spells
    obtain ⟨g₂, ps, others, depths, branch⟩ :=
      leads_branch more plain.2.2 deep.2 g₁ before (some p' :: items) rest next
    refine ⟨g₂, ps ++ [p'], ?_, ?_, ?_⟩
    · rw [Branch.language]
      exact spells_sequence others spells'
    · rw [List.map_append, depths, List.map_singleton, depth', depth, Branch.depths,
        List.reverse_cons]
    · rw [Branch.write, List.append_assoc, List.append_assoc, List.map_append, List.append_assoc]
      exact atom.trans (quantifier.trans branch)

theorem leads_expression {nesting : Nat} (e : Expression) (plain : e.IsPlain)
    (deep : ∀ d ∈ e.depths, d ≤ nesting) (g : Groups) (before : List Piece) (rest : List Char)
    (next : rest.head? ≠ some '?') :
    ∃ (g' : Groups) (more : List Piece) (last : List (Option Piece)),
      Spells (alternatives (sequence last) more).regex e.language ∧
      (sequence last :: more).map (·.depth) = e.depths.reverse ∧
      Leads nesting ⟨g, before, [], e.write .search ++ rest⟩ ⟨g', more ++ before, last, rest⟩ := by
  cases e with
  | last b =>
    rw [Expression.IsPlain] at plain
    rw [Expression.depths, List.forall_mem_singleton] at deep
    obtain ⟨g', ps, spells, depths, branch⟩ := leads_branch b plain
      (fun d mem => (le_jointDepth mem).trans deep) g before [] rest next
    refine ⟨g', [], ps.map some, ?_, ?_, ?_⟩
    · rw [Expression.language]
      exact spells
    · rw [Expression.depths, List.map_singleton, depth_sequence, depths, jointDepth_reverse]
      rfl
    · rw [Expression.write]
      rwa [List.append_nil] at branch
  | more b others =>
    rw [Expression.IsPlain] at plain
    rw [Expression.depths, List.forall_mem_cons] at deep
    obtain ⟨g₁, ps, spells, depths, branch⟩ := leads_branch b plain.1
      (fun d mem => (le_jointDepth mem).trans deep.1) g before []
      ('|' :: (others.write .search ++ rest)) (by simp)
    obtain ⟨g₂, more, last, spells', depths', expression⟩ := leads_expression others plain.2 deep.2
      g₁ (sequence (ps.map some) :: before) rest next
    refine ⟨g₂, more ++ [sequence (ps.map some)], last, ?_, ?_, ?_⟩
    · rw [Expression.language]
      exact spells_alternatives spells' spells
    · rw [← List.cons_append, List.map_append, depths', List.map_singleton, depth_sequence, depths,
        jointDepth_reverse, Expression.depths, List.reverse_cons]
    · rw [Expression.write, List.append_assoc, List.cons_append, List.append_assoc,
        List.singleton_append]
      rw [List.append_nil] at branch
      exact branch.trans (leads_alternative.trans expression)

end

/-! ## The whole text -/

theorem leads_start : Leads nesting ⟨g, before, items, '^' :: rest⟩
    ⟨g, before, some ⟨.look .start, 0⟩ :: items, rest⟩ := by
  refine .step (by simp) fun fuel _ => ?_
  rw [readFrom, readFrom, readAlternatives]
  simp only [skipBlanks_initial]
  rfl

theorem leads_finish : Leads nesting ⟨g, before, items, '$' :: rest⟩
    ⟨g, before, some ⟨.look .finish, 0⟩ :: items, rest⟩ := by
  refine .step (by simp) fun fuel _ => ?_
  rw [readFrom, readFrom, readAlternatives]
  simp only [skipBlanks_initial]
  rfl

theorem parse?_of_leads {cs : List Char} {g : Groups}
    (h : Leads depthLimit ⟨⟨0, []⟩, [], [], cs⟩ ⟨g, [], items, []⟩)
    (deep : (sequence items).depth ≤ depthLimit) : parse? cs = some (sequence items).regex := by
  obtain ⟨fuel, enough, same⟩ := h (cs.length + 1) (Nat.lt_succ_self _)
  obtain ⟨fuel, rfl⟩ := Nat.exists_eq_add_one_of_ne_zero (Nat.ne_zero_of_lt enough)
  have single : (alternatives (sequence items) []).depth = (sequence items).depth := by
    simp [alternatives, jointDepth]
  rw [readFrom_done (Or.inl rfl), readFrom] at same
  rw [parse?, same]
  simp only [single, if_pos deep]
  rfl

end Xsd.Regex.Reader

namespace Xsd.Pattern

open Regex
open Regex.Reader

/-- A part between the start and the end of the text. The items of a sequence are in reverse. -/
def ends (p : Piece) : List Piece := [⟨.look .finish, 0⟩, p, ⟨.look .start, 0⟩]

theorem depth_ends (p : Piece) : (Reader.sequence ((ends p).map some)).depth = p.depth + 1 := by
  rw [depth_sequence]
  simp [ends, jointDepth]

theorem searchText_singleton (e : Expression) : searchText [e.text] =
    '^' :: '(' :: '?' :: ':' ::
      ('(' :: '?' :: ':' :: (e.write .search ++ [')']) ++ [')', '$']) := by
  rw [searchText, List.map_singleton, e.searchSource_text]
  simp [List.intercalate]

/-- Between its two ends, the expression is read in two groups. -/
theorem leads_searchText {e : Expression} {g : Groups} {more : List Piece}
    {last : List (Option Piece)}
    (h : Reader.Leads 248 ⟨⟨0, []⟩, [], [], e.write .search ++ [')', ')', '$']⟩
      ⟨g, more, last, [')', ')', '$']⟩) :
    Reader.Leads depthLimit ⟨⟨0, []⟩, [], [], searchText [e.text]⟩
      ⟨g, [], (ends (enclosed none (enclosed none (alternatives (Reader.sequence last) more)))).map
        some, []⟩ := by
  have inner : Reader.Leads 249
      ⟨⟨0, []⟩, [], [], '(' :: '?' :: ':' :: (e.write .search ++ [')']) ++ [')', '$']⟩
      ⟨g, [], [some (enclosed none (alternatives (Reader.sequence last) more))], [')', '$']⟩ := by
    simpa using leads_group h
  have outer : Reader.Leads depthLimit ⟨⟨0, []⟩, [], [some ⟨.look .start, 0⟩], _⟩ ⟨g, [], _, ['$']⟩ :=
    leads_group inner
  rw [alternatives_singleton] at outer
  rw [searchText_singleton]
  exact leads_start.trans (outer.trans leads_finish)

/-- The pattern of a plain expression that is not nested too deep matches the words of its language,
and no other texts. -/
theorem isMatch_iff_of_isPlain (e : Expression) (plain : e.IsPlain)
    (deep : e.depth + 3 ≤ depthLimit) :
    ∃ p, read? [e.text] = some p ∧
      ∀ value, p.isMatch value = true ↔ value.toList ∈ e.language := by
  have bounded : ∀ d ∈ e.depths, d ≤ 248 := fun d mem => by
    have := le_jointDepth mem
    rw [Expression.depth, depthLimit] at deep
    omega
  obtain ⟨g, more, last, spells, depths, leads⟩ :=
    leads_expression e plain bounded ⟨0, []⟩ [] [')', ')', '$'] (by simp)
  rw [List.append_nil] at leads
  have depth : (alternatives (Reader.sequence last) more).depth = e.depth := by
    rw [depth_alternatives, depths, jointDepth_reverse, Expression.depth]
  have shallow : (Reader.sequence ((ends (enclosed none (enclosed none
      (alternatives (Reader.sequence last) more)))).map some)).depth ≤ depthLimit := by
    rw [depth_ends, enclosed, enclosed, depth]
    exact deep
  have reads := parse?_of_leads (leads_searchText leads) shallow
  rw [regex_sequence] at reads
  refine ⟨⟨[e.text], _⟩, by rw [read?, reads, Option.map_some], fun value => ?_⟩
  exact ((spells.group none).group none).search_iff value.toList

/-- The expression `[^$-]+|^x{2}`. -/
def carets : Expression :=
  .more (.cons (.cls ⟨true, false, [.single '$' (by decide)], true, by simp, by simp⟩) .plus .nil)
    (.last (.cons (.char '^' (by decide)) .one
      (.cons (.char 'x' (by decide)) (.exactly ⟨['2'], 2, by decide⟩) .nil)))

theorem isMatch_carets : carets.IsPlain ∧ carets.depth + 3 ≤ depthLimit ∧
    ∃ p, read? [carets.text] = some p ∧
      ∀ value, p.isMatch value = true ↔ value.toList ∈ carets.language := by
  have plain : carets.IsPlain := by
    simp [carets, Expression.IsPlain, Branch.IsPlain, Atom.IsPlain, CharClass.IsPlain,
      Quantifier.IsPlain]
  have deep : carets.depth + 3 ≤ depthLimit := by decide
  exact ⟨plain, deep, isMatch_iff_of_isPlain carets plain deep⟩

/-- The expression `[a&&b]`. -/
def ampersands : Expression :=
  .last (.cons (.cls ⟨false, false, [.single 'a' (by decide), .single '&' (by decide),
    .single '&' (by decide), .single 'b' (by decide)], false, by simp,
    by simp [ClassItem.first]⟩) .one .nil)

/-- The search syntax takes two ampersands in a class for an intersection, here one that is
empty. -/
theorem not_isMatch_iff_ampersands : ¬ ∀ e : Expression, ∃ p, read? [e.text] = some p ∧
    ∀ value, p.isMatch value = true ↔ value.toList ∈ e.language := by
  intro h
  obtain ⟨p, reads, same⟩ := h ampersands
  have member : "a".toList ∈ ampersands.language :=
    Language.mem_mul.mpr ⟨['a'], ⟨'a', rfl, rfl⟩, [], rfl, rfl⟩
  have refused : (read? [ampersands.text]).map (·.isMatch "a") = some false := by rfl
  rw [reads, Option.map_some, (same "a").mpr member] at refused
  cases refused

end Xsd.Pattern
