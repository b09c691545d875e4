import Xsd.Proofs.Regex.Local

/-!
# Reading elsewhere

A part of an expression is read in the same way wherever it stands: what comes after it makes no
difference, and what has been read before it only shifts the numbers of its groups, as long as no
name is given twice.
-/

namespace Xsd.Regex.Reader

variable {f : Flags}

/-! ## Repetitions -/

theorem isLocal_readCount : IsLocal (readCount f) := by
  have reads : IsLocal fun cs => andThen (some ((), Text.trimStart cs)) fun _ cs =>
      andThen (some (spanSkipping f Text.isDigit cs)) fun digits rest =>
        (Text.digits? digits).bind fun n =>
          if n < 1 <<< 32 then some (n, Text.trimStart rest) else none :=
    .andThen (isLocal_trimStart ()) fun _ => .andThen (isLocal_spanSkipping _) fun _ =>
      .given _ fun n => .ite (isLocal_trimStart n) .nothing
  exact reads

/-- The bounds after the first number. -/
def readMax (f : Flags) (min : Nat) : List Char → Option ((Nat × Option Nat) × List Char) :=
  onHead '\x7d' (fun rest => some ((min, some min), rest)) (onHead ',' (fun rest =>
      onHead '\x7d' (fun rest => some ((min, none), rest)) (fun rest =>
          andThen (readCount f rest) fun max =>
            onHead '\x7d' (fun rest => if min ≤ max then some ((min, some max), rest) else none)
              fun _ => none)
        (skipBlanks f rest))
    fun _ => none)

theorem isLocal_readMax (min : Nat) : IsLocal (readMax f min) := by
  refine .onHead _ (.pure _) (.onHead _ (.afterBlanks (.onHead _ (.pure _) ?_)) .nothing)
  exact .andThen isLocal_readCount fun _ => .onHead _ (.ite (.pure _) .nothing) .nothing

theorem readBounds_eq : readBounds f = fun cs =>
    andThen (readCount f (skipBlanks f cs)) (readMax f) := by
  funext cs
  rw [readBounds, andThen]
  rcases readCount f (skipBlanks f cs) with _ | ⟨min, rest⟩
  · rfl
  · simp only [Option.bind_eq_bind, Option.bind_some, readMax]
    rcases rest with _ | ⟨c, rest⟩
    · rfl
    · by_cases brace : c = '\x7d'
      · subst brace
        rfl
      · by_cases comma : c = ','
        · subst comma
          simp only [onHead, brace, ↓reduceIte]
          rcases skipBlanks f rest with _ | ⟨d, more⟩
          · rfl
          · by_cases brace : d = '\x7d'
            · subst brace
              rfl
            · have other : ∀ rest, d :: more = '\x7d' :: rest → False :=
                fun rest same => brace (List.cons.inj same).1
              simp only [brace, ↓reduceIte, andThen]
              rcases readCount f (d :: more) with _ | ⟨max, _ | ⟨e, last⟩⟩
              · rfl
              · rfl
              · by_cases brace : e = '\x7d'
                · subst brace
                  rfl
                · simp [onHead, brace]
        · simp [onHead, brace, comma]

theorem isLocal_readBounds : IsLocal (readBounds f) := by
  rw [readBounds_eq]
  exact .andThen isLocal_readCount.afterBlanks isLocal_readMax

/-! ## Groups -/

/-- The flags end before a colon or a parenthesis. -/
theorem readFlags_append {seen : List Char} {last : Option Char} {cs rest : List Char} {any : Bool}
    {f' : Flags} (found : readFlags f seen last cs = some (any, f', rest)) :
    rest <:+ cs ∧ ∀ more, readFlags f seen last (cs ++ more) = some (any, f', rest ++ more) := by
  induction cs generalizing f seen last with
  | nil => cases found
  | cons c cs ih =>
    rw [readFlags] at found
    split at found
    · rename_i closes
      split at found
      · cases found
      · rename_i complete
        cases found
        refine ⟨List.suffix_refl _, fun more => ?_⟩
        rw [List.cons_append, readFlags, if_pos closes, if_neg complete]
    · rename_i goes
      split at found
      · cases found
      · rename_i new
        split at found
        · rename_i clears
          obtain ⟨suffix, forward⟩ := ih found
          refine ⟨suffix.trans (List.suffix_cons c cs), fun more => ?_⟩
          rw [List.cons_append, readFlags, if_neg goes, if_neg new, if_pos clears]
          exact forward more
        · rename_i sets
          obtain ⟨f'', set, found⟩ := Option.bind_eq_some_iff.mp found
          obtain ⟨suffix, forward⟩ := ih found
          refine ⟨suffix.trans (List.suffix_cons c cs), fun more => ?_⟩
          rw [List.cons_append, readFlags, if_neg goes, if_neg new, if_neg sets, set,
            Option.bind_some]
          exact forward more

theorem readName_eq : readName = fun cs => andThen (Text.cutList '>' cs) fun name rest =>
    onAny (fun c more => if isNamePart true c && more.all (isNamePart false) then
      some (c :: more, rest) else none) name := by
  funext cs
  rw [readName, andThen]
  rcases Text.cutList '>' cs with _ | ⟨_ | ⟨c, more⟩, rest⟩ <;> rfl

theorem isLocal_readName : IsLocal readName := by
  rw [readName_eq]
  refine .andThen (isLocal_cutList '>') fun name => ?_
  cases name with
  | nil => exact .nothing
  | cons c more => exact .ite (.pure _) .nothing

/-- What follows a question mark after a parenthesis, if it is no name. -/
def readFlagged (f : Flags) (cs : List Char) : Option (Opening × List Char) :=
  match readFlags f [] none cs with
  | some (true, f, ')' :: rest) => some (.flags f, rest)
  | some (_, f, ':' :: rest) => some (.group f, rest)
  | _ => none

theorem isLocal_readFlagged : IsLocal (readFlagged f) := by
  intro cs a rest found
  unfold readFlagged at found
  split at found
  · rename_i f' tail reads
    cases found
    obtain ⟨suffix, forward⟩ := readFlags_append reads
    refine ⟨(List.suffix_cons _ _).trans suffix, fun _ more => ?_⟩
    rw [readFlagged, forward more]
    rfl
  · rename_i any f' tail reads
    cases found
    obtain ⟨suffix, forward⟩ := readFlags_append reads
    refine ⟨(List.suffix_cons _ _).trans suffix, fun _ more => ?_⟩
    rw [readFlagged, forward more]
    cases any <;> rfl
  · cases found

/-- The name of a group. -/
def readNamed (cs : List Char) : Option (Opening × List Char) :=
  (readName cs).map fun p => (.numbered (some p.1), p.2)

theorem isLocal_readNamed : IsLocal readNamed :=
  isLocal_readName.map fun name => Opening.numbered (some name)

theorem readOpening_eq : readOpening f = fun cs =>
    onHead '?' (onHead '=' (fun _ => none) (onHead '!' (fun _ => none)
        (onHead '<' (onHead '=' (fun _ => none) (onHead '!' (fun _ => none) readNamed))
          (onHead 'P' (onHead '<' readNamed fun _ => none) (readFlagged f)))))
      (fun cs => some (.numbered none, cs)) (skipBlanks f cs) := by
  funext cs
  rw [readOpening]
  rcases skipBlanks f cs with _ | ⟨c, cs⟩
  · rfl
  · by_cases mark : c = '?'
    · subst mark
      simp only [onHead, ↓reduceIte]
      rcases cs with _ | ⟨d, cs⟩
      · rfl
      · by_cases equals : d = '='
        · subst equals
          rfl
        · by_cases bang : d = '!'
          · subst bang
            rfl
          · by_cases angle : d = '<'
            · subst angle
              simp only [equals, bang, ↓reduceIte]
              rcases cs with _ | ⟨e, cs⟩
              · rfl
              · by_cases equals : e = '='
                · subst equals
                  rfl
                · by_cases bang : e = '!'
                  · subst bang
                    rfl
                  · simp [equals, bang, readNamed]
            · by_cases letter : d = 'P'
              · subst letter
                simp only [equals, bang, angle, ↓reduceIte]
                rcases cs with _ | ⟨e, cs⟩
                · rfl
                · by_cases angle : e = '<'
                  · subst angle
                    rfl
                  · simp only [List.cons.injEq, angle, false_and, and_false, imp_self, implies_true,
                      ↓reduceIte, Char.reduceEq]
                    rfl
              · simp only [List.cons.injEq, equals, bang, angle, letter, false_and, imp_self,
                  implies_true, ↓reduceIte]
                rfl
    · simp [onHead, mark]

theorem isLocal_readOpening : IsLocal (readOpening f) := by
  rw [readOpening_eq]
  refine .afterBlanks (.onHead _ (.onHead _ .nothing (.onHead _ .nothing ?_)) (.pure _))
  refine .onHead _ ?_ ?_
  · exact .onHead _ .nothing (.onHead _ .nothing isLocal_readNamed)
  · exact .onHead _ (.onHead _ isLocal_readNamed .nothing) isLocal_readFlagged

/-! ## Steps -/

/-- What stands next in an expression. -/
inductive Move where
  | close
  | bar
  | opening (o : Opening)
  | part (p : Piece)
  | repetition (min : Nat) (max : Option Nat) (greedy : Bool)

/-- The question mark that may follow a repetition. -/
def readGreed (f : Flags) (min : Nat) (max : Option Nat) : List Char → Option (Move × List Char) :=
  onHead '?' (fun rest => some (.repetition min max (true == f.swapGreed), rest))
    fun rest => some (.repetition min max (false == f.swapGreed), rest)

theorem isLocal_readGreed (min : Nat) (max : Option Nat) : IsLocal (readGreed f min max) :=
  .onHead _ (.pure _) (.pure _)

/-- The next step, behind blanks. -/
def readMark (f : Flags) (fuel nesting : Nat) : List Char → Option (Move × List Char)
  | [] => some (.close, [])
  | c :: rest =>
    let part (x : Option Regex) : Option (Move × List Char) :=
      x.map fun r => (.part ⟨r, 0⟩, rest)
    match c with
    | ')' => some (.close, ')' :: rest)
    | '|' => some (.bar, rest)
    | '(' => (readOpening f rest).map fun p => (.opening p.1, p.2)
    | '[' =>
      (readInner f fuel nesting rest).map fun p => (.part ⟨.set p.1.set, p.1.depth⟩, p.2)
    | '?' => readGreed f 0 (some 1) rest
    | '*' => readGreed f 0 none rest
    | '+' => readGreed f 1 none rest
    | '\x7b' => andThen (readBounds f rest) fun bounds rest =>
        readGreed f bounds.1 bounds.2 (skipBlanks f rest)
    | '\\' => (readEscape f rest).map fun p => (.part ⟨escapeRegex f p.1, 0⟩, p.2)
    | '.' => part (dot f)
    | '^' => part (some (.look (lineStart f)))
    | '$' => part (some (.look (lineFinish f)))
    | c => part (some (.set (foldCase f (.single c))))

/-- The next step. -/
def readMove (f : Flags) (fuel nesting : Nat) (cs : List Char) : Option (Move × List Char) :=
  readMark f fuel nesting (skipBlanks f cs)

theorem extends_readMark {fuel fuel' : Nat} (le : fuel ≤ fuel') (nesting : Nat) :
    Extends (readMark f fuel nesting) (readMark f fuel' nesting) := by
  intro cs a rest found
  rcases cs with _ | ⟨c, cs⟩
  · cases found
    exact ⟨List.suffix_refl _, fun further => absurd rfl further⟩
  · by_cases close : c = ')'
    · subst close
      cases found
      exact ⟨List.suffix_refl _, fun _ _ => rfl⟩
    · have next : Extends (fun cs => readMark f fuel nesting (c :: cs))
          fun cs => readMark f fuel' nesting (c :: cs) := by
        simp only [readMark]
        split
        case h_1 => exact absurd rfl close
        case h_2 => exact .pure _
        case h_3 => exact isLocal_readOpening.map _
        case h_4 =>
          exact (extends_readInner (extends_readClass le) nesting).map fun part =>
            Move.part ⟨.set part.set, part.depth⟩
        case h_5 | h_6 | h_7 => exact isLocal_readGreed _ _
        case h_8 =>
          exact .andThen isLocal_readBounds fun bounds => (isLocal_readGreed _ _).afterBlanks
        case h_9 => exact isLocal_readEscape.map fun e => Move.part ⟨escapeRegex f e, 0⟩
        all_goals exact .value _ _
      obtain ⟨suffix, forward⟩ := next found
      exact ⟨suffix.trans (List.suffix_cons c cs), forward⟩

theorem extends_readMove {fuel fuel' : Nat} (le : fuel ≤ fuel') (nesting : Nat) :
    Extends (readMove f fuel nesting) (readMove f fuel' nesting) :=
  (extends_readMark le nesting).afterBlanks

/-- What has been read goes on with the step. -/
def proceed (fuel nesting : Nat) (f : Flags) (g : Groups) (before : List Piece)
    (items : List (Option Piece)) : Move → List Char → Option (Piece × Groups × List Char)
  | .close, rest => some (alternatives (sequence items) before, g, rest)
  | .bar, rest => readAlternatives fuel nesting f g (sequence items :: before) [] rest
  | .part p, rest => readAlternatives fuel nesting f g before (some p :: items) rest
  | .repetition min max greedy, rest =>
    match items with
    | some p :: items => readAlternatives fuel nesting f g before
        (some ⟨.rep p.regex min max greedy, p.depth + 1⟩ :: items) rest
    | _ => none
  | .opening (.flags f), rest => readAlternatives fuel nesting f g before (none :: items) rest
  | .opening (.group inner), rest =>
    match nesting with
    | 0 => none
    | nesting + 1 =>
      match readAlternatives fuel nesting inner g [] [] rest with
      | some (p, g, ')' :: rest) => readAlternatives fuel (nesting + 1) f g before
          (some ⟨.group p.regex none, p.depth + 1⟩ :: items) rest
      | _ => none
  | .opening (.numbered name), rest =>
    match nesting with
    | 0 => none
    | nesting + 1 =>
      (g.add? name).bind fun inner =>
        match readAlternatives fuel nesting f inner [] [] rest with
        | some (p, g, ')' :: rest) => readAlternatives fuel (nesting + 1) f g before
            (some ⟨.group p.regex (some inner.count), p.depth + 1⟩ :: items) rest
        | _ => none

theorem proceed_greed (fuel nesting : Nat) (g : Groups) (before : List Piece)
    (items : List (Option Piece)) (min : Nat) (max : Option Nat) (rest : List Char) :
    (repeatLast f min max rest items).bind
        (fun p => readAlternatives fuel nesting f g before p.1 p.2) =
      (readGreed f min max rest).bind fun p => proceed fuel nesting f g before items p.1 p.2 := by
  rcases rest with _ | ⟨c, rest⟩
  · rcases items with _ | ⟨_ | p, items⟩ <;> rfl
  · by_cases mark : c = '?'
    · subst mark
      rcases items with _ | ⟨_ | p, items⟩ <;> rfl
    · rcases items with _ | ⟨_ | p, items⟩ <;> simp [repeatLast, readGreed, onHead, mark, proceed]

theorem readAlternatives_succ (fuel nesting : Nat) (f : Flags) (g : Groups) (before : List Piece)
    (items : List (Option Piece)) (cs : List Char) :
    readAlternatives (fuel + 1) nesting f g before items cs =
      (readMove f fuel nesting cs).bind fun p => proceed fuel nesting f g before items p.1 p.2 := by
  rw [readAlternatives, readMove]
  rcases skipBlanks f cs with _ | ⟨c, cs⟩
  · rfl
  · split
    case h_1 same => cases same
    case h_2 | h_3 | h_12 | h_13 =>
      rename_i rest same
      obtain ⟨rfl, rfl⟩ := List.cons.inj same
      rfl
    case h_4 rest same =>
      obtain ⟨rfl, rfl⟩ := List.cons.inj same
      simp only [readMark]
      rcases readOpening f cs with _ | ⟨_ | inner | name, rest⟩
      · rfl
      · rfl
      · cases nesting <;> rfl
      · cases nesting with
        | zero => rfl
        | succ nesting =>
          simp only [Option.map_some, Option.bind_some, proceed]
          cases g.add? name <;> rfl
    case h_5 rest same =>
      obtain ⟨rfl, rfl⟩ := List.cons.inj same
      simp only [readMark, Option.bind_map]
      exact readClassOpen_bind fuel nesting cs fun p =>
        proceed fuel nesting f g before items (.part ⟨.set p.1.set, p.1.depth⟩) p.2
    case h_6 | h_7 | h_8 =>
      rename_i rest same
      obtain ⟨rfl, rfl⟩ := List.cons.inj same
      exact proceed_greed ..
    case h_9 rest same =>
      obtain ⟨rfl, rfl⟩ := List.cons.inj same
      simp only [readMark, andThen, Option.bind_assoc]
      exact congrArg _ (funext fun a => proceed_greed ..)
    case h_10 | h_11 =>
      rename_i rest same
      obtain ⟨rfl, rfl⟩ := List.cons.inj same
      simp only [readMark, Option.bind_map]
      rfl
    case h_14 =>
      rename_i same
      obtain ⟨rfl, rfl⟩ := List.cons.inj same
      simp only [readMark, Option.map_some, Option.bind_some]
      rfl

/-! ## Numbers of groups -/

end Reader

/-- The expression without the numbers of its groups. -/
def unnumbered : Regex → Regex
  | .empty => .empty
  | .set s => .set s
  | .look l => .look l
  | .seq a b => .seq a.unnumbered b.unnumbered
  | .alt a b => .alt a.unnumbered b.unnumbered
  | .rep a min max greedy => .rep a.unnumbered min max greedy
  | .group a _ => .group a.unnumbered none

/-- The numbers make no difference to what is matched. -/
theorem reach_unnumbered (text : List Char) (r : Regex) :
    reach text r.unnumbered = reach text r := by
  induction r with
  | empty | set | look => rfl
  | seq a b iha ihb =>
    funext i
    rw [unnumbered, reach, reach, iha, ihb]
  | alt a b iha ihb =>
    funext i
    rw [unnumbered, reach, reach, iha, ihb]
  | rep a min max greedy ih =>
    funext i
    simp only [unnumbered, reach, ih]
  | group a index ih =>
    funext i
    rw [unnumbered, reach, reach, ih]

namespace Reader

def Piece.unnumbered (p : Piece) : Piece := ⟨p.regex.unnumbered, p.depth⟩

theorem unnumbered_sequence (items : List (Option Piece)) :
    (sequence items).unnumbered = sequence (items.map (·.map Piece.unnumbered)) := by
  have depths : (items.map (·.map Piece.unnumbered)).map (fun item => (item.map (·.depth)).getD 0) =
      items.map fun item => (item.map (·.depth)).getD 0 := by
    rw [List.map_map]
    refine List.map_congr_left fun item _ => ?_
    cases item <;> rfl
  have regexes : (items.map (·.map Piece.unnumbered)).filterMap (fun item => item.map (·.regex)) =
      (items.filterMap fun item => item.map (·.regex)).map Regex.unnumbered := by
    rw [List.filterMap_map, List.map_filterMap]
    refine List.filterMap_congr fun item _ => ?_
    cases item <;> rfl
  have joined (before : List Regex) (last : Regex) :
      (before.foldl (fun r item => .seq item r) last).unnumbered =
        (before.map Regex.unnumbered).foldl (fun r item => .seq item r) last.unnumbered := by
    induction before generalizing last with
    | nil => rfl
    | cons r before ih => exact ih _
  rw [sequence, sequence, Piece.unnumbered, depths, regexes]
  cases items.filterMap fun item => item.map (·.regex) with
  | nil => rfl
  | cons last before => simp only [List.map_cons, joined]

theorem unnumbered_alternatives (last : Piece) (before : List Piece) :
    (alternatives last before).unnumbered =
      alternatives last.unnumbered (before.map Piece.unnumbered) := by
  have joined (r : Regex) : (before.foldl (fun r item => .alt item.regex r) r).unnumbered =
      (before.map Piece.unnumbered).foldl (fun r item => .alt item.regex r) r.unnumbered := by
    induction before generalizing r with
    | nil => rfl
    | cons item before ih => exact ih _
  rw [alternatives, alternatives, Piece.unnumbered, joined, ← List.map_cons, List.map_map]
  rfl

/-! ## Reading in two places -/

/-- In two places the same has been read, up to the numbers of groups. In the second place names
have been given before. -/
structure Alike (earlier : List (List Char)) (g g' : Groups) (before before' : List Piece)
    (items items' : List (Option Piece)) : Prop where
  names : g'.names = g.names ++ earlier
  before : before'.map Piece.unnumbered = before.map Piece.unnumbered
  items : items'.map (·.map Piece.unnumbered) = items.map (·.map Piece.unnumbered)

/-- What comes of reading in two places. -/
def AlikeResults (earlier : List (List Char)) (p p' : Piece) (g g' : Groups) : Prop :=
  p'.unnumbered = p.unnumbered ∧ g'.names = g.names ++ earlier

namespace Alike

variable {earlier : List (List Char)} {g g' : Groups} {before before' : List Piece}
  {items items' : List (Option Piece)}

theorem push (h : Alike earlier g g' before before' items items') {p p' : Option Piece}
    (same : p'.map Piece.unnumbered = p.map Piece.unnumbered) :
    Alike earlier g g' before before' (p :: items) (p' :: items') :=
  ⟨h.names, h.before, by rw [List.map_cons, List.map_cons, same, h.items]⟩

theorem bar (h : Alike earlier g g' before before' items items') :
    Alike earlier g g' (sequence items :: before) (sequence items' :: before') [] [] :=
  ⟨h.names, by rw [List.map_cons, List.map_cons, unnumbered_sequence, unnumbered_sequence, h.items,
    h.before], rfl⟩

theorem close (h : Alike earlier g g' before before' items items') :
    AlikeResults earlier (alternatives (sequence items) before)
      (alternatives (sequence items') before') g g' := by
  refine ⟨?_, h.names⟩
  rw [unnumbered_alternatives, unnumbered_alternatives, unnumbered_sequence, unnumbered_sequence,
    h.items, h.before]

/-- The latest item is there in both places, or in neither. -/
theorem pop {p : Piece} (h : Alike earlier g g' before before' (some p :: items) items') :
    ∃ p' rest, items' = some p' :: rest ∧ p'.unnumbered = p.unnumbered ∧
      Alike earlier g g' before before' items rest := by
  obtain ⟨names, heads, same⟩ := h
  rw [List.map_cons, List.map_eq_cons_iff] at same
  obtain ⟨q, rest, rfl, head, tail⟩ := same
  rw [Option.map_some, Option.map_eq_some_iff] at head
  obtain ⟨p', rfl, head⟩ := head
  exact ⟨p', rest, rfl, head, names, heads, tail⟩

theorem fresh {g g' : Groups} (names : g'.names = g.names ++ earlier) :
    Alike earlier g g' [] [] [] [] :=
  ⟨names, rfl, rfl⟩

end Alike

/-- The reader leaves an end of the text and adds names to those that have been given. What it reads
it also reads in another place, whatever follows, if no name has been given there before. -/
def ReadsAlike
    (read : Groups → List Piece → List (Option Piece) → List Char →
      Option (Piece × Groups × List Char))
    (read' : Groups → List Piece → List (Option Piece) → List Char →
      Option (Piece × Groups × List Char)) : Prop :=
  ∀ ⦃g before items cs p last rest⦄, read g before items cs = some (p, last, rest) →
    rest <:+ cs ∧ g.names <:+ last.names ∧
      ∀ ⦃earlier g' before' items'⦄, rest ≠ [] → (∀ name ∈ last.names, name ∉ earlier) →
        Alike earlier g g' before before' items items' → ∀ more, ∃ p' last',
          read' g' before' items' (cs ++ more) = some (p', last', rest ++ more) ∧
            AlikeResults earlier p p' last last'

/-- What stands in parentheses, and what comes after it. -/
def readEnclosed (fuel nesting : Nat) (f inner : Flags) (index : Option Nat) (g : Groups)
    (before : List Piece) (items : List (Option Piece)) (cs : List Char) :
    Option (Piece × Groups × List Char) :=
  match readAlternatives fuel nesting inner g [] [] cs with
  | some (p, g, ')' :: rest) => readAlternatives fuel (nesting + 1) f g before
      (some ⟨.group p.regex index, p.depth + 1⟩ :: items) rest
  | _ => none

theorem readsAlike_enclosed {fuel fuel' nesting : Nat} {f inner : Flags}
    (h : ∀ nesting f, ReadsAlike (readAlternatives fuel nesting f)
      (readAlternatives fuel' nesting f)) (index index' : Option Nat) :
    ReadsAlike (readEnclosed fuel nesting f inner index)
      (readEnclosed fuel' nesting f inner index') := by
  intro g before items cs p last rest found
  unfold readEnclosed at found
  split at found
  · rename_i q middle tail reads
    obtain ⟨suffix, grows, elsewhere⟩ := h _ _ reads
    obtain ⟨suffix', grows', elsewhere'⟩ := h _ _ found
    refine ⟨suffix'.trans ((List.suffix_cons _ _).trans suffix), grows.trans grows',
      fun earlier g' before' items' further apart alike more => ?_⟩
    obtain ⟨q', middle', reads', same, names⟩ := elsewhere (List.cons_ne_nil _ _)
      (fun name mem => apart name (grows'.subset mem)) (.fresh alike.names) more
    have pushed : Alike earlier middle middle' before before'
        (some ⟨.group q.regex index, q.depth + 1⟩ :: items)
        (some ⟨.group q'.regex index', q'.depth + 1⟩ :: items') := by
      obtain ⟨regex, depth⟩ := Piece.mk.inj same
      refine Alike.push ⟨names, alike.before, alike.items⟩ ?_
      simp only [Option.map_some, Piece.unnumbered, unnumbered, regex, depth]
    obtain ⟨p', last', reads'', results⟩ := elsewhere' further apart pushed more
    refine ⟨p', last', ?_, results⟩
    rw [readEnclosed, reads']
    exact reads''
  · cases found

theorem names_of_add? {g inner : Groups} {name : Option (List Char)}
    (added : g.add? name = some inner) : inner.names = name.toList ++ g.names := by
  unfold Groups.add? at added
  split at added
  · cases added
    rfl
  · split at added
    · cases added
    · cases added
      rfl

/-- A name that has not been given can be given. -/
theorem exists_add? {g g' inner : Groups} {earlier : List (List Char)} {name : Option (List Char)}
    (added : g.add? name = some inner) (names : g'.names = g.names ++ earlier)
    (apart : ∀ name ∈ inner.names, name ∉ earlier) :
    ∃ inner', g'.add? name = some inner' ∧ inner'.names = inner.names ++ earlier := by
  cases name with
  | none =>
    cases added
    exact ⟨_, rfl, names⟩
  | some name =>
    simp only [Groups.add?] at added ⊢
    split at added
    · cases added
    · rename_i new
      cases added
      have free : ¬ g'.names.contains name = true := by
        rw [List.contains_iff_mem] at new ⊢
        rw [names, List.mem_append, not_or]
        exact ⟨new, apart name List.mem_cons_self⟩
      exact ⟨_, if_neg free, by rw [names]; rfl⟩

theorem readsAlike_proceed {fuel fuel' : Nat}
    (h : ∀ nesting f, ReadsAlike (readAlternatives fuel nesting f)
      (readAlternatives fuel' nesting f)) (nesting : Nat) (f : Flags) (move : Move) :
    ReadsAlike (fun g before items => proceed fuel nesting f g before items move)
      fun g before items => proceed fuel' nesting f g before items move := by
  intro g before items cs p last rest found
  cases move with
  | close =>
    cases found
    exact ⟨List.suffix_refl _, List.suffix_refl _,
      fun _ _ _ _ _ _ alike _ => ⟨_, _, rfl, alike.close⟩⟩
  | bar =>
    obtain ⟨suffix, grows, elsewhere⟩ := h _ _ found
    exact ⟨suffix, grows, fun _ _ _ _ further apart alike => elsewhere further apart alike.bar⟩
  | part q =>
    obtain ⟨suffix, grows, elsewhere⟩ := h _ _ found
    exact ⟨suffix, grows,
      fun _ _ _ _ further apart alike => elsewhere further apart (alike.push rfl)⟩
  | repetition min max greedy =>
    match items with
    | [] => cases found
    | none :: items => cases found
    | some q :: items =>
      obtain ⟨suffix, grows, elsewhere⟩ := h _ _ found
      refine ⟨suffix, grows, fun _ _ _ _ further apart alike more => ?_⟩
      obtain ⟨q', tail, rfl, same, alike⟩ := alike.pop
      obtain ⟨regex, depth⟩ := Piece.mk.inj same
      refine elsewhere further apart (alike.push ?_) more
      simp only [Option.map_some, Piece.unnumbered, unnumbered, regex, depth]
  | opening o =>
    cases o with
    | flags inner =>
      obtain ⟨suffix, grows, elsewhere⟩ := h _ _ found
      exact ⟨suffix, grows,
        fun _ _ _ _ further apart alike => elsewhere further apart (alike.push rfl)⟩
    | group inner =>
      cases nesting with
      | zero => cases found
      | succ nesting => exact readsAlike_enclosed h none none found
    | numbered name =>
      cases nesting with
      | zero => cases found
      | succ nesting =>
        obtain ⟨inner, added, found⟩ := Option.bind_eq_some_iff.mp found
        have beneath : g.names <:+ inner.names := by
          rw [names_of_add? added]
          exact List.suffix_append _ _
        -- The number in the second place comes with the name that is given there, so this is used
        -- twice.
        obtain ⟨suffix, grows, -⟩ := readsAlike_enclosed h (some inner.count) none found
        refine ⟨suffix, beneath.trans grows, fun _ _ _ _ further apart alike more => ?_⟩
        obtain ⟨inner', added', names⟩ := exists_add? added alike.names
          fun name mem => apart name (grows.subset mem)
        obtain ⟨-, -, elsewhere⟩ :=
          readsAlike_enclosed h (some inner.count) (some inner'.count) found
        obtain ⟨p', last', reads, results⟩ :=
          elsewhere further apart ⟨names, alike.before, alike.items⟩ more
        refine ⟨p', last', ?_, results⟩
        simp only [proceed, added']
        exact reads

/-- What is read in one place is read in another one, whatever follows, and with more fuel. -/
theorem readsAlike {fuel fuel' : Nat} (le : fuel ≤ fuel') (nesting : Nat) (f : Flags) :
    ReadsAlike (readAlternatives fuel nesting f) (readAlternatives fuel' nesting f) := by
  induction fuel generalizing fuel' nesting f with
  | zero =>
    intro g before items cs p last rest found
    cases found
  | succ fuel ih =>
    obtain ⟨fuel', rfl⟩ := Nat.exists_eq_add_one_of_ne_zero (Nat.ne_zero_of_lt le)
    have le := Nat.le_of_succ_le_succ le
    intro g before items cs p last rest found
    rw [readAlternatives_succ] at found
    obtain ⟨⟨move, middle⟩, moved, found⟩ := Option.bind_eq_some_iff.mp found
    obtain ⟨suffix, forward⟩ := extends_readMove le nesting moved
    obtain ⟨suffix', grows, elsewhere⟩ :=
      readsAlike_proceed (fun nesting f => ih le nesting f) nesting f move found
    refine ⟨suffix'.trans suffix, grows, fun _ _ _ _ further apart alike more => ?_⟩
    rw [readAlternatives_succ, forward (nonempty_of_suffix suffix' further) more, Option.bind_some]
    exact elsewhere further apart alike more

end Reader

end Xsd.Regex
