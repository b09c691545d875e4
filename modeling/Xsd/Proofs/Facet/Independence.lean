import Xsd.Proofs.Facet.PatternReading
import Xsd.Proofs.Regex.Elsewhere

/-!
# Sources beside one another

The sources of one level are put together as text. If each is closed, so that in parentheses it is
read up to the closing one, or broken, so that it cannot be read whatever follows, and if no two
give the same name to a group, then they are put together just if each is read alone, and a text is
matched by all of them together just if one of them matches it. A source that is neither can reach
into the next one.
-/

namespace Xsd

namespace Regex.Reader

theorem readAlternatives_group (fuel nesting : Nat) (g : Groups) (before : List Piece)
    (items : List (Option Piece)) (cs : List Char) :
    readAlternatives (fuel + 1) (nesting + 1) .initial g before items ('(' :: '?' :: ':' :: cs) =
      readEnclosed fuel nesting .initial .initial none g before items cs := by
  rw [readAlternatives]
  simp only [skipBlanks_initial, readOpening_group]
  rfl

theorem readAlternatives_bar (fuel nesting : Nat) (g : Groups) (before : List Piece)
    (items : List (Option Piece)) (cs : List Char) :
    readAlternatives (fuel + 1) nesting .initial g before items ('|' :: cs) =
      readAlternatives fuel nesting .initial g (sequence items :: before) [] cs := by
  rw [readAlternatives]
  simp only [skipBlanks_initial]

/-- Alternatives, the latest first. -/
def joint : List Piece → Piece
  | [] => sequence []
  | last :: before => alternatives last before

theorem sequence_singleton (p : Piece) : sequence [some p] = p := by
  simp [sequence, jointDepth]

/-- Some position is reached by alternatives if it is by one of them. -/
theorem reach_joint (text : List Char) {ps : List Piece} (nonempty : ps ≠ []) (i m : Nat) :
    reach text (joint ps).regex i &&& m ≠ 0 ↔ ∃ p ∈ ps, reach text p.regex i &&& m ≠ 0 := by
  have either (r : Regex) (before : List Piece) :
      reach text (before.foldl (fun r item => .alt item.regex r) r) i &&& m ≠ 0 ↔
        reach text r i &&& m ≠ 0 ∨ ∃ p ∈ before, reach text p.regex i &&& m ≠ 0 := by
    induction before generalizing r with
    | nil => simp
    | cons p before ih =>
      rw [List.foldl_cons, ih, reach, Nat.and_or_distrib_right, List.exists_mem_cons_iff,
        ← or_assoc]
      refine or_congr_left ?_
      rw [ne_eq, Nat.or_eq_zero_iff, not_and_or, or_comm]
  obtain ⟨last, before, rfl⟩ := List.exists_cons_of_ne_nil nonempty
  rw [joint, alternatives, either, List.exists_mem_cons_iff]

theorem depth_joint (ps : List Piece) : (joint ps).depth = jointDepth (ps.map (·.depth)) := by
  cases ps <;> rfl

/-! ## The whole text -/

/-- The expression, from the start of the text to its end. -/
def anchored (r : Regex) : Regex :=
  .seq (.look .start) (.seq (.group r none) (.look .finish))

/-- A text is matched as a whole by alternatives if it is by one of them. -/
theorem search_anchored_joint (text : List Char) {ps : List Piece} (nonempty : ps ≠ []) :
    (anchored (joint ps).regex).search text = true ↔
      ∃ p ∈ ps, (anchored p.regex).search text = true := by
  simp only [search, anchored, reach, bne_iff_ne]
  exact reach_joint text nonempty _ _

theorem search_anchored_congr {r r' : Regex} {text : List Char}
    (same : reach text r = reach text r') :
    (anchored r).search text = (anchored r').search text := by
  simp only [search, anchored, reach, same]

theorem parse?_eq (cs : List Char) : parse? ("^(?:".toList ++ cs ++ ")$".toList) =
    match readEnclosed (cs.length + 5) 249 .initial .initial none ⟨0, []⟩ []
        [some ⟨.look .start, 0⟩] (cs ++ [')', '$']) with
    | some (p, _, []) => if p.depth ≤ depthLimit then some p.regex else none
    | _ => none := by
  have text : "^(?:".toList ++ cs ++ ")$".toList =
      '^' :: '(' :: '?' :: ':' :: (cs ++ [')', '$']) := rfl
  have fuel : ('^' :: '(' :: '?' :: ':' :: (cs ++ [')', '$'])).length + 1 =
      cs.length + 5 + 1 + 1 := by
    simp
  have start (fuel : Nat) (tail : List Char) :
      readAlternatives (fuel + 1) depthLimit .initial ⟨0, []⟩ [] [] ('^' :: tail) =
        readAlternatives fuel depthLimit .initial ⟨0, []⟩ [] [some ⟨.look .start, 0⟩] tail := by
    rw [readAlternatives]
    simp only [skipBlanks_initial]
    rfl
  rw [parse?, text, fuel, start]
  exact congrArg (fun r : Option (Piece × Groups × List Char) => match r with
    | some (p, _, []) => if p.depth ≤ depthLimit then some p.regex else none
    | _ => none) (readAlternatives_group _ 249 _ _ _ _)

theorem parse?_none {cs : List Char}
    (reads : readAlternatives (cs.length + 5) 249 .initial ⟨0, []⟩ [] [] (cs ++ [')', '$']) = none) :
    parse? ("^(?:".toList ++ cs ++ ")$".toList) = none := by
  rw [parse?_eq, readEnclosed, reads]

theorem parse?_anchored {cs : List Char} {p : Piece} {last : Groups}
    (reads : readAlternatives (cs.length + 5) 249 .initial ⟨0, []⟩ [] [] (cs ++ [')', '$']) =
      some (p, last, [')', '$'])) :
    parse? ("^(?:".toList ++ cs ++ ")$".toList) =
      if p.depth + 2 ≤ depthLimit then some (anchored p.regex) else none := by
  have finish : readAlternatives (cs.length + 5) 250 .initial last []
      [some ⟨.group p.regex none, p.depth + 1⟩, some ⟨.look .start, 0⟩] ['$'] =
      some (⟨anchored p.regex, p.depth + 2⟩, last, []) := by
    rw [readAlternatives]
    simp only [skipBlanks_initial]
    rw [readAlternatives]
    simp only [skipBlanks_initial]
    simp [alternatives, sequence, jointDepth, anchored, lineFinish, Flags.initial]
  rw [parse?_eq, readEnclosed, reads]
  simp only [finish]

end Regex.Reader

namespace Pattern

open Regex Regex.Reader

/-- The source in the search syntax. -/
def translation (s : String) : List Char := searchSource 0 false s.toList

/-- What the source is in parentheses, with the groups in it, if it is read up to the closing
one. -/
def inner? (s : String) : Option (Piece × Groups) :=
  match readAlternatives ((translation s).length + 2) 248 .initial ⟨0, []⟩ [] []
      (translation s ++ [')']) with
  | some (p, g, [')']) => some (p, g)
  | _ => none

/-- In parentheses the source is read up to the closing one. -/
def IsClosed (s : String) : Prop := (inner? s).isSome

/-- In parentheses the source cannot be read, whatever is before it and after it. -/
def IsBroken (s : String) : Prop :=
  ∀ fuel g tail, readAlternatives fuel 248 .initial g [] [] (translation s ++ ')' :: tail) = none

/-- A repetition of nothing is broken. -/
example : IsBroken "*[a" := by
  intro fuel g tail
  cases fuel <;> rfl

/-- The names that a closed source gives to groups. -/
def groupNames (s : String) : List (List Char) := ((inner? s).map (·.2.names)).getD []

/-- How deep a closed source is nested. -/
def nesting (s : String) : Nat := ((inner? s).map (·.1.depth)).getD 0

/-- What a closed source stands for. -/
def innerRegex (s : String) : Regex := ((inner? s).map (·.1.regex)).getD .empty

/-- A source in parentheses. -/
def alternative (s : String) : List Char := "(?:".toList ++ translation s ++ [')']

/-- What is read for a closed source in parentheses. -/
def IsAlternative (s : String) (p : Piece) : Prop :=
  p.depth = nesting s + 1 ∧ ∀ text, Regex.reach text p.regex = Regex.reach text (innerRegex s)

theorem readEnclosed_closed {s : String} (closed : IsClosed s) {fuel : Nat}
    (enough : (translation s).length + 2 ≤ fuel) {g : Groups}
    (apart : ∀ name ∈ groupNames s, name ∉ g.names) (before : List Piece)
    (items : List (Option Piece)) (tail : List Char) :
    ∃ q g', IsAlternative s (enclosed none q) ∧ g'.names = groupNames s ++ g.names ∧
      readEnclosed fuel 248 .initial .initial none g before items (translation s ++ ')' :: tail) =
        readAlternatives fuel 249 .initial g' before (some (enclosed none q) :: items) tail := by
  obtain ⟨⟨p, last⟩, inner⟩ := Option.isSome_iff_exists.mp closed
  rw [groupNames, inner] at apart
  simp only [IsAlternative, groupNames, nesting, innerRegex, inner]
  unfold inner? at inner
  split at inner
  · rename_i p' last' reads
    cases inner
    obtain ⟨-, -, elsewhere⟩ := readsAlike enough 248 .initial reads
    have fresh : g.names = (⟨0, []⟩ : Groups).names ++ g.names := rfl
    obtain ⟨q, g', reads', same, names⟩ :=
      elsewhere (List.cons_ne_nil _ _) apart (.fresh fresh) tail
    obtain ⟨regex, depth⟩ := Piece.mk.inj same
    refine ⟨q, g', ⟨congrArg (· + 1) depth, fun text => ?_⟩, names, ?_⟩
    · calc Regex.reach text q.regex
        _ = Regex.reach text q.regex.unnumbered := (reach_unnumbered ..).symm
        _ = Regex.reach text p.regex.unnumbered := congrArg _ regex
        _ = Regex.reach text p.regex := reach_unnumbered ..
    · rw [List.append_assoc] at reads'
      rw [readEnclosed]
      simp only [List.singleton_append] at reads'
      rw [reads']
      rfl
  · cases inner

/-! ## Splicing -/

/-- The sources, with bars between them. -/
def spliced (sources : List String) : List Char :=
  List.intercalate ['|'] (sources.map alternative)

theorem searchText_eq (sources : List String) :
    searchText sources = "^(?:".toList ++ spliced sources ++ ")$".toList := rfl

theorem spliced_singleton (s : String) (tail : List Char) : spliced [s] ++ tail =
    '(' :: '?' :: ':' :: (translation s ++ ')' :: tail) := by
  simp [spliced, alternative]

theorem spliced_cons (s t : String) (more : List String) (tail : List Char) :
    spliced (s :: t :: more) ++ tail =
      '(' :: '?' :: ':' :: (translation s ++ ')' :: '|' :: (spliced (t :: more) ++ tail)) := by
  simp [spliced, alternative]

/-- No two of the sources give the same name to a group. -/
def NamesApart (sources : List String) : Prop :=
  sources.Pairwise fun s t => ∀ name ∈ groupNames s, name ∉ groupNames t

/-- Every source begins with its parenthesis. -/
theorem exists_spliced (s : String) (more : List String) (tail : List Char) : ∃ tail',
    spliced (s :: more) ++ tail = '(' :: '?' :: ':' :: (translation s ++ ')' :: tail') := by
  cases more with
  | nil => exact ⟨_, spliced_singleton s tail⟩
  | cons t more => exact ⟨_, spliced_cons s t more tail⟩

/-- A closed source is read, and then what comes after the bar. The names of the later sources are
new also behind it. -/
theorem readAlternatives_cons {s t : String} {more : List String} (closed : IsClosed s)
    (names : NamesApart (s :: t :: more)) {fuel : Nat} {rest : List Char}
    (enough : (spliced (s :: t :: more) ++ ')' :: rest).length < fuel) {g : Groups}
    (apart : ∀ u ∈ s :: t :: more, ∀ name ∈ groupNames u, name ∉ g.names) (before : List Piece) :
    ∃ p g' fuel', IsAlternative s p ∧ (spliced (t :: more) ++ ')' :: rest).length < fuel' ∧
      (∀ u ∈ t :: more, ∀ name ∈ groupNames u, name ∉ g'.names) ∧
      readAlternatives fuel 249 .initial g before [] (spliced (s :: t :: more) ++ ')' :: rest) =
        readAlternatives fuel' 249 .initial g' (p :: before) []
          (spliced (t :: more) ++ ')' :: rest) := by
  obtain ⟨apartHere, apart⟩ := List.forall_mem_cons.mp apart
  obtain ⟨namesHere, -⟩ := List.pairwise_cons.mp names
  rw [spliced_cons] at enough ⊢
  -- One step goes into the parenthesis, and one over the bar.
  obtain ⟨fuel, rfl⟩ : ∃ n, fuel = n + 2 := ⟨fuel - 2, by simp at enough; omega⟩
  have enoughHere : (translation s).length + 2 ≤ fuel + 1 := by simp at enough; omega
  obtain ⟨q, g', here, given, reads⟩ := readEnclosed_closed closed enoughHere apartHere before []
    ('|' :: (spliced (t :: more) ++ ')' :: rest))
  refine ⟨enclosed none q, g', fuel, here, by simp at enough ⊢; omega, ?_, ?_⟩
  · intro u mem name here there
    rw [given, List.mem_append] at there
    rcases there with there | there
    · exact namesHere u mem name there here
    · exact apart u mem name here there
  · rw [readAlternatives_group, reads, readAlternatives_bar, sequence_singleton]

/-- Closed sources are read one after the other. -/
theorem readAlternatives_spliced {sources : List String} (nonempty : sources ≠ [])
    (closed : ∀ s ∈ sources, IsClosed s) (names : NamesApart sources) {fuel : Nat}
    {rest : List Char} (enough : (spliced sources ++ ')' :: rest).length < fuel) {g : Groups}
    (apart : ∀ s ∈ sources, ∀ name ∈ groupNames s, name ∉ g.names) (before : List Piece) :
    ∃ (ps : List Piece) (last : Groups),
      List.Forall₂ IsAlternative sources ps ∧
      readAlternatives fuel 249 .initial g before [] (spliced sources ++ ')' :: rest) =
        some (joint (ps.reverse ++ before), last, ')' :: rest) := by
  induction sources generalizing fuel g before with
  | nil => exact absurd rfl nonempty
  | cons s more ih =>
    cases more with
    | nil =>
      rw [spliced_singleton] at enough ⊢
      obtain ⟨fuel, rfl⟩ : ∃ n, fuel = n + 2 := ⟨fuel - 2, by simp at enough; omega⟩
      have enough : (translation s).length + 2 ≤ fuel + 1 := by simp at enough; omega
      obtain ⟨q, g', here, -, reads⟩ := readEnclosed_closed (closed s List.mem_cons_self) enough
        (apart s List.mem_cons_self) before [] (')' :: rest)
      refine ⟨[enclosed none q], g', .cons here .nil, ?_⟩
      rw [readAlternatives_group, reads, readAlternatives]
      simp only [skipBlanks_initial, sequence_singleton]
      rfl
    | cons t more =>
      obtain ⟨p, g', fuel', here, enough, apart, reads⟩ :=
        readAlternatives_cons (closed s List.mem_cons_self) names enough apart before
      obtain ⟨ps, last, others, reads'⟩ := ih (List.cons_ne_nil _ _)
        (List.forall_mem_cons.mp closed).2 (List.pairwise_cons.mp names).2 enough apart (p :: before)
      refine ⟨p :: ps, last, .cons here others, ?_⟩
      rw [reads, reads']
      simp

/-- A broken source is not read, whether it is the first one or comes after closed ones. -/
theorem readAlternatives_broken {sources : List String}
    (kinds : ∀ s ∈ sources, IsClosed s ∨ IsBroken s) (broken : ∃ s ∈ sources, IsBroken s)
    (names : NamesApart sources) {fuel : Nat} {rest : List Char}
    (enough : (spliced sources ++ ')' :: rest).length < fuel) {g : Groups}
    (apart : ∀ s ∈ sources, ∀ name ∈ groupNames s, name ∉ g.names) (before : List Piece) :
    readAlternatives fuel 249 .initial g before [] (spliced sources ++ ')' :: rest) = none := by
  induction sources generalizing fuel g before with
  | nil => simp at broken
  | cons s more ih =>
    by_cases here : IsBroken s
    · obtain ⟨tail, text⟩ := exists_spliced s more (')' :: rest)
      obtain ⟨fuel, rfl⟩ := Nat.exists_eq_add_one_of_ne_zero (Nat.ne_zero_of_lt enough)
      rw [text, readAlternatives_group, readEnclosed, here]
    · obtain ⟨kind, kinds⟩ := List.forall_mem_cons.mp kinds
      rw [List.exists_mem_cons_iff] at broken
      have broken := broken.resolve_left here
      obtain ⟨t, more, rfl⟩ : ∃ t tail, more = t :: tail :=
        List.exists_cons_of_ne_nil fun none => by simp [none] at broken
      obtain ⟨p, g', fuel', -, enough, apart, reads⟩ :=
        readAlternatives_cons (kind.resolve_right here) names enough apart before
      rw [reads]
      exact ih kinds broken (List.pairwise_cons.mp names).2 enough apart (p :: before)

/-! ## Together and alone -/

theorem apart_nil (sources : List String) :
    ∀ s ∈ sources, ∀ name ∈ groupNames s, name ∉ (⟨0, []⟩ : Groups).names :=
  fun _ _ _ _ => List.not_mem_nil

theorem read?_broken {sources : List String} (kinds : ∀ s ∈ sources, IsClosed s ∨ IsBroken s)
    (broken : ∃ s ∈ sources, IsBroken s) (names : NamesApart sources) : read? sources = none := by
  have enough : (spliced sources ++ [')', '$']).length < (spliced sources).length + 5 := by simp
  have reads := readAlternatives_broken kinds broken names enough (apart_nil sources) []
  rw [read?, searchText_eq, parse?_none reads, Option.map_none]

/-- The depth of alternatives that are in parentheses each. -/
def splicedDepth (sources : List String) : Nat := jointDepth (sources.map (nesting · + 1))

theorem depths_of_isAlternative {sources : List String} {ps : List Piece}
    (each : List.Forall₂ IsAlternative sources ps) :
    ps.map (·.depth) = sources.map (nesting · + 1) := by
  induction each with
  | nil => rfl
  | cons here _ ih => rw [List.map_cons, List.map_cons, here.1, ih]

/-- Some closed source stands for the text as a whole. -/
def SomeMatches (sources : List String) (text : List Char) : Prop :=
  ∃ s ∈ sources, (anchored (innerRegex s)).search text = true

theorem exists_search_iff {sources : List String} {ps : List Piece}
    (each : List.Forall₂ IsAlternative sources ps) (text : List Char) :
    (∃ p ∈ ps, (anchored p.regex).search text = true) ↔ SomeMatches sources text := by
  induction each with
  | nil => simp [SomeMatches]
  | cons here _ ih =>
    rw [SomeMatches, List.exists_mem_cons_iff, List.exists_mem_cons_iff, ih,
      search_anchored_congr (here.2 text), SomeMatches]

theorem read?_closed {sources : List String} (nonempty : sources ≠ [])
    (closed : ∀ s ∈ sources, IsClosed s) (names : NamesApart sources) :
    ∃ p : Pattern, (∀ value, p.isMatch value = true ↔ SomeMatches sources value.toList) ∧
      read? sources = if splicedDepth sources + 2 ≤ depthLimit then some p else none := by
  have enough : (spliced sources ++ [')', '$']).length < (spliced sources).length + 5 := by simp
  obtain ⟨ps, last, each, reads⟩ :=
    readAlternatives_spliced nonempty closed names enough (apart_nil sources) []
  rw [List.append_nil] at reads
  have depth : (joint ps.reverse).depth = splicedDepth sources := by
    rw [depth_joint, List.map_reverse, jointDepth_reverse, depths_of_isAlternative each,
      splicedDepth]
  have some_read : ps.reverse ≠ [] := by
    intro none
    rw [List.reverse_eq_nil_iff] at none
    subst none
    cases each
    exact nonempty rfl
  refine ⟨⟨sources, anchored (joint ps.reverse).regex⟩, fun value => ?_, ?_⟩
  · rw [isMatch, search_anchored_joint _ some_read, ← exists_search_iff each]
    simp only [List.mem_reverse]
  · rw [read?, searchText_eq, parse?_anchored reads, depth]
    split <;> rfl

theorem splicedDepth_singleton (s : String) : splicedDepth [s] = nesting s + 1 := by
  simp [splicedDepth, jointDepth]

/-- A second alternative takes one level. It makes no difference unless a source reaches the limit
without it. -/
theorem splicedDepth_le_iff {sources : List String}
    (within : ∀ s ∈ sources, nesting s + 3 ≠ depthLimit) :
    splicedDepth sources + 2 ≤ depthLimit ↔ ∀ s ∈ sources, splicedDepth [s] + 2 ≤ depthLimit := by
  simp only [splicedDepth_singleton]
  constructor
  · intro shallow s mem
    have least : nesting s + 1 ≤ splicedDepth sources := le_jointDepth (List.mem_map_of_mem mem)
    omega
  · intro shallow
    have bounded : ∀ d ∈ sources.map (nesting · + 1), d ≤ depthLimit - 3 := by
      intro d mem
      obtain ⟨s, here, rfl⟩ := List.mem_map.mp mem
      have shallow := shallow s here
      have within := within s here
      omega
    have deepest : (sources.map (nesting · + 1)).foldl max 0 ≤ depthLimit - 3 :=
      List.foldlRecOn _ _ (motive := (· ≤ depthLimit - 3)) (Nat.zero_le _) fun _ le d mem =>
        max_le le (bounded d mem)
    rw [splicedDepth, jointDepth]
    rw [depthLimit] at deepest ⊢
    split <;> omega

/-- Closed sources and broken ones do not depend on one another. Put together they can be read just
if each can be read alone, and then they match what one of them matches. -/
theorem read?_iff_each (sources : List String) (nonempty : sources ≠ [])
    (kinds : ∀ s ∈ sources, IsClosed s ∨ IsBroken s) (names : NamesApart sources)
    (within : ∀ s ∈ sources, nesting s + 3 ≠ depthLimit) :
    ((read? sources).isSome ↔ ∀ s ∈ sources, (read? [s]).isSome) ∧
      ∀ p, read? sources = some p → ∀ value, p.isMatch value = true ↔
        ∃ s ∈ sources, ∃ q, read? [s] = some q ∧ q.isMatch value = true := by
  by_cases broken : ∃ s ∈ sources, IsBroken s
  · rw [read?_broken kinds broken names]
    refine ⟨iff_of_false nofun fun reads => ?_, nofun⟩
    obtain ⟨s, mem, broken⟩ := broken
    have alone := reads s mem
    rw [read?_broken (by simp [broken]) (by simp [broken]) (List.pairwise_singleton _ _)] at alone
    cases alone
  · have closed : ∀ s ∈ sources, IsClosed s := fun s mem =>
      (kinds s mem).resolve_right fun here => broken ⟨s, mem, here⟩
    have alone (s : String) (mem : s ∈ sources) :=
      read?_closed (List.cons_ne_nil s []) (by simp [closed s mem]) (List.pairwise_singleton _ _)
    obtain ⟨p, matched, reads⟩ := read?_closed nonempty closed names
    rw [reads]
    by_cases shallow : splicedDepth sources + 2 ≤ depthLimit
    · have each := (splicedDepth_le_iff within).mp shallow
      rw [if_pos shallow]
      refine ⟨iff_of_true rfl fun s mem => ?_, ?_⟩
      · obtain ⟨q, -, reads⟩ := alone s mem
        rw [reads, if_pos (each s mem)]
        rfl
      · rintro _ ⟨⟩ value
        rw [matched]
        refine exists_congr fun s => and_congr_right fun mem => ?_
        obtain ⟨q, matched, reads⟩ := alone s mem
        rw [reads, if_pos (each s mem)]
        simp [matched, SomeMatches]
    · rw [if_neg shallow]
      refine ⟨iff_of_false nofun fun readable => shallow ?_, nofun⟩
      refine (splicedDepth_le_iff within).mpr fun s mem => ?_
      obtain ⟨q, -, reads⟩ := alone s mem
      have readable := readable s mem
      rw [reads] at readable
      split at readable
      · assumption
      · cases readable

/-- Flags and bars stay in their source. -/
theorem read?_iff_each_letters :
    ["(?i)a|b", "([c-e]x)+?"] ≠ [] ∧
      (∀ s ∈ ["(?i)a|b", "([c-e]x)+?"], IsClosed s ∨ IsBroken s) ∧
      NamesApart ["(?i)a|b", "([c-e]x)+?"] ∧
      (∀ s ∈ ["(?i)a|b", "([c-e]x)+?"], nesting s + 3 ≠ depthLimit) ∧
      ((read? ["(?i)a|b", "([c-e]x)+?"]).isSome ↔
        ∀ s ∈ ["(?i)a|b", "([c-e]x)+?"], (read? [s]).isSome) := by
  have nonempty : ["(?i)a|b", "([c-e]x)+?"] ≠ [] := by simp
  have kinds : ∀ s ∈ ["(?i)a|b", "([c-e]x)+?"], IsClosed s ∨ IsBroken s := by
    simp only [List.forall_mem_cons]
    exact ⟨.inl rfl, .inl rfl, by simp⟩
  have names : NamesApart ["(?i)a|b", "([c-e]x)+?"] := by
    unfold NamesApart
    decide
  have within : ∀ s ∈ ["(?i)a|b", "([c-e]x)+?"], nesting s + 3 ≠ depthLimit := by
    decide
  exact ⟨nonempty, kinds, names, within, (read?_iff_each _ nonempty kinds names within).1⟩

/-- A class that one source leaves open is closed by the next one. -/
theorem not_read?_iff_each : ¬ ∀ sources : List String, sources ≠ [] →
    ((read? sources).isSome ↔ ∀ s ∈ sources, (read? [s]).isSome) ∧
      ∀ p, read? sources = some p → ∀ value, p.isMatch value = true ↔
        ∃ s ∈ sources, ∃ q, read? [s] = some q ∧ q.isMatch value = true := by
  intro h
  have together : (read? ["[a", "b]"]).isSome := by rfl
  have alone := (h ["[a", "b]"] (by simp)).1.mp together "[a" (by simp)
  have refused : (read? ["[a"]).isSome = false := by rfl
  rw [refused] at alone
  cases alone

end Pattern

end Xsd
