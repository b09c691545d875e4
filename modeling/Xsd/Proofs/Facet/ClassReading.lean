import Xsd.Proofs.Facet.Expression

/-!
# Reading classes

What the reader of the search syntax makes of a class that is written in it: the set of the
characters of the class. The hyphens at either end are read as such, and nothing else is read as an
operation, if the class is plain.
-/

namespace Xsd.Regex.Reader

open Pattern

theorem skipBlanks_initial (cs : List Char) : skipBlanks .initial cs = cs :=
  if_neg Bool.false_ne_true

theorem foldCase_initial (s : CharSet) : foldCase .initial s = s := if_pos rfl

theorem classLiteral_initial (c : Char) : classLiteral .initial c = some c := if_pos rfl

theorem afterHyphen_initial (cs : List Char) : afterHyphen .initial cs = cs.head? := if_pos rfl

theorem negate_initial (negated : Bool) (s : CharSet) :
    negate .initial negated s = some (.negateIf negated s) := by
  cases negated <;> rfl

theorem spanSkipping_initial (wanted : Char → Bool) (cs : List Char) :
    spanSkipping .initial wanted cs = (cs.takeWhile wanted, cs.dropWhile wanted) := by
  unfold spanSkipping
  induction cs with
  | nil => rfl
  | cons c cs ih =>
    rw [spanSkipping.span, ih]
    cases h : wanted c <;> simp [Flags.initial, h]

/-! ## Items -/

theorem readItem_inside {c : Char} (normal : isClassNormal c = true) (rest : List Char) :
    readItem .initial (Writing.search.inside c ++ rest) = some (.literal c, rest) := by
  obtain ⟨escape, -, -, -⟩ := isClassNormal_iff.mp normal
  unfold Writing.search
  dsimp only
  split
  · rename_i caret
    subst caret
    rfl
  · rw [List.singleton_append, readItem]
    exact escape

/-- The first character of an item, or the backslash before it. -/
theorem head?_inside {c : Char} (normal : isClassNormal c = true) (rest : List Char) :
    ∃ d, (Writing.search.inside c ++ rest).head? = some d ∧ d ≠ '-' ∧ d ≠ ']' ∧ d ≠ '[' ∧
      (d = c ∨ d = '\\') := by
  obtain ⟨escape, hyphen, opening, closing⟩ := isClassNormal_iff.mp normal
  unfold Writing.search
  dsimp only
  split
  · exact ⟨'\\', rfl, by decide, by decide, by decide, Or.inr rfl⟩
  · exact ⟨c, rfl, hyphen, closing, opening, Or.inl rfl⟩

/-- The set of an item. -/
def itemSet : ClassItem → CharSet
  | .single c _ => .single c
  | .range low high _ _ _ => .range low high

theorem contains_itemSet (item : ClassItem) (c : Char) :
    (itemSet item).contains c = item.contains c := by
  cases item with
  | single d normal => exact contains_single d c
  | range low high lowNormal highNormal ordered => rfl

/-- What may follow an item: a hyphen only if that is the last item of the class. -/
def MayFollow (rest : List Char) : Prop :=
  rest ≠ [] ∧ ∀ more, rest = '-' :: more → more.head? = some ']'

theorem readRange_alone {c : Char} {cs rest : List Char}
    (read : readItem .initial cs = some (.literal c, rest)) (follows : MayFollow rest) :
    readRange .initial cs = some (.single c, rest) := by
  obtain ⟨more, hyphen⟩ := follows
  unfold readRange
  rw [read]
  simp only [Option.bind_eq_bind, Option.bind_some, skipBlanks_initial, classLiteral_initial,
    Option.map_some, List.isEmpty_iff, more, if_false, afterHyphen_initial]
  split
  · rename_i tail
    rw [if_pos (by rw [hyphen _ rfl]; rfl)]
  · rfl

theorem readRange_write (item : ClassItem) {rest : List Char} (follows : MayFollow rest) :
    readRange .initial (item.write .search ++ rest) = some (itemSet item, rest) := by
  cases item with
  | single c normal => exact readRange_alone (readItem_inside normal rest) follows
  | range low high lowNormal highNormal ordered =>
    obtain ⟨d, head, hyphen, closing, -, -⟩ := head?_inside highNormal rest
    have first := readItem_inside lowNormal ('-' :: (Writing.search.inside high ++ rest))
    simp only [ClassItem.write, List.append_assoc, List.cons_append]
    unfold readRange
    rw [first]
    simp only [Option.bind_eq_bind, Option.bind_some, skipBlanks_initial, classLiteral_initial,
      afterHyphen_initial, head, readItem_inside highNormal, ordered, itemSet]
    simp [hyphen, closing]

theorem head?_write (item : ClassItem) (rest : List Char) :
    ∃ d, (item.write .search ++ rest).head? = some d ∧ d ≠ '-' ∧ d ≠ ']' ∧ d ≠ '[' ∧
      (d = item.first ∨ d = '\\') := by
  cases item with
  | single c normal => exact head?_inside normal rest
  | range low high lowNormal highNormal ordered =>
    rw [ClassItem.write, List.append_assoc]
    exact head?_inside lowNormal _

/-! ## Classes -/

/-- Parts of a class that are not nested. -/
def parts (sets : List CharSet) : List Part := sets.map fun s => ⟨s, 0⟩

theorem map_set_parts (sets : List CharSet) : (parts sets).map (·.set) = sets := by
  rw [parts, List.map_map]
  exact List.map_id _

theorem jointDepth_parts (sets : List CharSet) :
    jointDepth ((parts sets).map (·.depth)) = if 1 < sets.length then 1 else 0 := by
  have flat : ((parts sets).map (·.depth)).foldl max 0 = 0 := by
    induction sets with
    | nil => rfl
    | cons s sets ih => exact ih
  rw [jointDepth, flat, parts, List.length_map, List.length_map, Nat.zero_add]

theorem readClass_close (fuel nesting : Nat) (negated : Bool) (sets : List CharSet)
    (rest : List Char) :
    readClass .initial (fuel + 1) nesting negated none (parts sets) (']' :: rest) =
      some (⟨.negateIf negated (.unions sets.reverse),
        (if 1 < sets.length then 1 else 0) + 1⟩, rest) := by
  rw [readClass]
  simp only [skipBlanks_initial, foldCase_initial, negate_initial, combine, Option.map_some,
    jointDepth_parts, List.map_reverse, map_set_parts]

/-- Two characters that make up an operation of the search syntax. -/
def IsOperation (c : Char) (next : Option Char) : Prop :=
  next = some c ∧ (c = '&' ∨ c = '-' ∨ c = '~')

theorem readClass_range {fuel nesting : Nat} {negated : Bool} {items : List Part} {c : Char}
    {cs rest : List Char} {s : CharSet} (closing : c ≠ ']') (opening : c ≠ '[')
    (operation : ¬ IsOperation c cs.head?) (read : readRange .initial (c :: cs) = some (s, rest)) :
    readClass .initial (fuel + 1) nesting negated none items (c :: cs) =
      readClass .initial fuel nesting negated none (⟨s, 0⟩ :: items) rest := by
  rw [readClass]
  simp only [skipBlanks_initial]
  split
  · rename_i none
    cases none
  · rename_i bracket
    exact absurd (List.cons.inj bracket).1 closing
  · rename_i bracket
    exact absurd (List.cons.inj bracket).1 opening
  · rename_i doubled
    cases doubled
    exact absurd ⟨rfl, Or.inl rfl⟩ operation
  · rename_i doubled
    cases doubled
    exact absurd ⟨rfl, Or.inr (Or.inl rfl)⟩ operation
  · rename_i doubled
    cases doubled
    exact absurd ⟨rfl, Or.inr (Or.inr rfl)⟩ operation
  · rw [read, Option.bind_some]

/-- What is left of a class: items, perhaps a hyphen, and the bracket. -/
def remainder (items : List ClassItem) (trailing : Bool) (rest : List Char) : List Char :=
  items.flatMap (·.write .search) ++ (CharClass.hyphenIf trailing ++ ']' :: rest)

/-- The sets of what is left of a class. -/
def remainderSets (items : List ClassItem) (trailing : Bool) : List CharSet :=
  items.map itemSet ++ if trailing then [.single '-'] else []

theorem mayFollow_remainder (items : List ClassItem) (trailing : Bool) (rest : List Char) :
    MayFollow (remainder items trailing rest) := by
  cases items with
  | nil =>
    cases trailing with
    | true => exact ⟨nofun, by rintro more ⟨⟩; rfl⟩
    | false => exact ⟨nofun, by rintro more ⟨⟩⟩
  | cons item items =>
    rw [remainder, List.flatMap_cons, List.append_assoc]
    obtain ⟨d, head, hyphen, -⟩ := head?_write item
      (items.flatMap (·.write .search) ++ (CharClass.hyphenIf trailing ++ ']' :: rest))
    refine ⟨fun none => ?_, fun more whole => ?_⟩
    · rw [none] at head
      cases head
    · rw [whole] at head
      exact absurd (Option.some.inj head).symm hyphen

/-- An item of a plain class starts no operation. -/
theorem not_isOperation {item : ClassItem} {items : List ClassItem} {trailing : Bool}
    {rest cs : List Char} {c : Char} (plain : ∀ next ∈ items.head?, ¬ item.Clashes next)
    (whole : item.write .search ++ remainder items trailing rest = c :: cs) :
    ¬ IsOperation c cs.head? := by
  rintro ⟨next, sign⟩
  have notEscape : c ≠ '\\' := by rcases sign with rfl | rfl | rfl <;> decide
  cases item with
  | range low high lowNormal highNormal ordered =>
    obtain ⟨-, hyphen, -, -⟩ := isClassNormal_iff.mp lowNormal
    rw [ClassItem.write, Writing.search] at whole
    dsimp only at whole
    split at whole
    · exact notEscape (List.cons.inj whole).1.symm
    · obtain ⟨rfl, rfl⟩ := List.cons.inj whole
      exact hyphen (Option.some.inj next).symm
  | single d normal =>
    obtain ⟨escape, hyphen, -, closing⟩ := isClassNormal_iff.mp normal
    rw [ClassItem.write, Writing.search] at whole
    dsimp only at whole
    split at whole
    · exact notEscape (List.cons.inj whole).1.symm
    · obtain ⟨rfl, rfl⟩ := List.cons.inj whole
      cases items with
      | nil =>
        cases trailing with
        | true => exact hyphen (Option.some.inj next).symm
        | false => exact closing (Option.some.inj next).symm
      | cons other items =>
        obtain ⟨e, head, -, -, -, same⟩ := head?_write other (remainder items trailing rest)
        have next : (remainder (other :: items) trailing rest).head? = some d := next
        rw [remainder, List.flatMap_cons, List.append_assoc] at next
        obtain rfl := Option.some.inj (head.symm.trans next)
        rcases same with same | same
        · refine plain other rfl ⟨?_, same.symm⟩
          rcases sign with sign | sign | sign
          · exact Or.inl sign
          · exact absurd sign hyphen
          · exact Or.inr sign
        · exact escape same

theorem length_write_pos (item : ClassItem) : 0 < (item.write .search).length := by
  obtain ⟨d, head, -⟩ := head?_write item []
  rw [List.append_nil] at head
  exact List.length_pos_of_mem (List.mem_of_head? head)

/-- By induction on the items that are left. -/
theorem readClass_remainder {items : List ClassItem} (plain : items.IsChain fun a b => ¬ a.Clashes b)
    {fuel nesting : Nat} (negated : Bool) (sets : List CharSet) (trailing : Bool)
    (rest : List Char) (enough : (remainder items trailing rest).length < fuel) :
    readClass .initial fuel nesting negated none (parts sets) (remainder items trailing rest) =
      some (⟨.negateIf negated (.unions (sets.reverse ++ remainderSets items trailing)),
        (if 1 < sets.length + (remainderSets items trailing).length then 1 else 0) + 1⟩, rest) := by
  induction items generalizing fuel sets with
  | nil =>
    obtain ⟨fuel, rfl⟩ := Nat.exists_eq_add_one_of_ne_zero (Nat.ne_zero_of_lt enough)
    cases trailing with
    | false =>
      exact (readClass_close fuel nesting negated sets rest).trans (by simp [remainderSets])
    | true =>
      have hyphen : readRange .initial ('-' :: ']' :: rest) = some (.single '-', ']' :: rest) :=
        readRange_alone rfl ⟨nofun, nofun⟩
      have shorter : fuel ≠ 0 := by
        rintro rfl
        simp [remainder, CharClass.hyphenIf] at enough
      obtain ⟨fuel, rfl⟩ := Nat.exists_eq_add_one_of_ne_zero shorter
      refine (readClass_range (by decide) (by decide) ?_ hyphen).trans ?_
      · rintro ⟨⟨⟩, -⟩
      · refine (readClass_close fuel nesting negated (.single '-' :: sets) rest).trans ?_
        simp [remainderSets]
  | cons item items ih =>
    have follows := mayFollow_remainder items trailing rest
    have read := readRange_write item follows
    obtain ⟨d, head, -, closing, opening, -⟩ := head?_write item (remainder items trailing rest)
    have split : remainder (item :: items) trailing rest =
        item.write .search ++ remainder items trailing rest := by
      rw [remainder, List.flatMap_cons, List.append_assoc]
      rfl
    obtain ⟨cs, whole⟩ := List.head?_eq_some_iff.mp head
    obtain ⟨first, others⟩ := List.isChain_cons.mp plain
    rw [split] at enough ⊢
    have operation := not_isOperation first whole
    rw [whole] at read enough ⊢
    obtain ⟨fuel, rfl⟩ := Nat.exists_eq_add_one_of_ne_zero (Nat.ne_zero_of_lt enough)
    rw [readClass_range closing opening operation read]
    refine (ih others (itemSet item :: sets) ?_).trans ?_
    · have shorter := length_write_pos item
      rw [← whole, List.length_append] at enough
      omega
    · simp [remainderSets, Nat.add_assoc, Nat.add_comm 1]

theorem contains_unions (sets : List CharSet) (c : Char) :
    (CharSet.unions sets).contains c = sets.any (·.contains c) := by
  induction sets with
  | nil => rfl
  | cons s sets ih =>
    rw [List.any_cons, ← ih]
    rfl

theorem contains_negateIf (negated : Bool) (s : CharSet) (c : Char) :
    (CharSet.negateIf negated s).contains c = (negated != s.contains c) := by
  cases negated with
  | true => rw [Bool.true_bne]; rfl
  | false => rw [Bool.false_bne]; rfl

theorem head?_remainder_cons (item : ClassItem) (items : List ClassItem) (trailing : Bool)
    (rest : List Char) : ∃ d, (remainder (item :: items) trailing rest).head? = some d ∧ d ≠ '-' ∧
      d ≠ ']' ∧ (d = item.first ∨ d = '\\') := by
  obtain ⟨d, head, hyphen, closing, -, same⟩ := head?_write item (remainder items trailing rest)
  refine ⟨d, ?_, hyphen, closing, same⟩
  rw [← head, remainder, List.flatMap_cons, List.append_assoc]
  rfl

/-- The hyphens that come first in a class, and what is left after them: its items, or the bracket
right away. -/
theorem exists_hyphens (k : CharClass) (rest : List Char) : ∃ n trailing,
    k.writeItems .search ++ ']' :: rest = List.replicate n '-' ++ remainder k.items trailing rest ∧
      (∃ d, (remainder k.items trailing rest).head? = some d ∧ d ≠ '-' ∧ (n = 0 → d ≠ ']')) ∧
      n + (if trailing then 1 else 0) = k.leading.toNat + k.trailing.toNat := by
  unfold CharClass.writeItems
  cases hk : k.items with
  | nil =>
    refine ⟨k.leading.toNat + k.trailing.toNat, false, ?_, ⟨']', rfl, by decide, ?_⟩, rfl⟩
    · cases k.leading <;> cases k.trailing <;> rfl
    · intro none
      have inhabited := k.inhabited
      rw [hk] at inhabited
      cases leading : k.leading <;> cases trailing : k.trailing <;> simp_all
  | cons item items =>
    obtain ⟨d, head, hyphen, closing, -⟩ := head?_remainder_cons item items k.trailing rest
    refine ⟨k.leading.toNat, k.trailing, ?_, ⟨d, head, hyphen, fun _ => closing⟩, ?_⟩
    · simp only [List.append_assoc]
      cases k.leading <;> rfl
    · cases k.trailing <;> rfl

theorem head?_writeItems (k : CharClass) (positive : k.negated = false) (rest : List Char) :
    (k.writeItems .search ++ ']' :: rest).head? ≠ some '^' := by
  unfold CharClass.writeItems
  cases leading : k.leading with
  | true => simp [CharClass.hyphenIf]
  | false =>
    have unambiguous := k.unambiguous positive leading
    cases hk : k.items with
    | nil => cases k.trailing <;> simp [CharClass.hyphenIf]
    | cons item items =>
      obtain ⟨d, head, -, -, same⟩ := head?_remainder_cons item items k.trailing rest
      have caret : d ≠ '^' := by
        rcases same with rfl | rfl
        · exact unambiguous item (by rw [hk]; rfl)
        · decide
      have whole : (CharClass.hyphenIf false ++ (item :: items).flatMap (·.write .search) ++
          CharClass.hyphenIf k.trailing ++ ']' :: rest).head? = some d := by
        simp only [List.append_assoc]
        exact head
      rw [whole]
      exact fun same => caret (Option.some.inj same)

theorem span_replicate {cs : List Char} {d : Char} (head : cs.head? = some d) (hyphen : d ≠ '-')
    (n : Nat) : spanSkipping .initial (· == '-') (List.replicate n '-' ++ cs) =
      (List.replicate n '-', cs) := by
  obtain ⟨rest, rfl⟩ := List.head?_eq_some_iff.mp head
  have same : ∀ c ∈ List.replicate n '-', (c == '-') = true := by simp
  have other : (d == '-') = false := beq_false_of_ne hyphen
  rw [spanSkipping_initial, List.takeWhile_append_of_pos same, List.dropWhile_append_of_pos same,
    List.takeWhile_cons, List.dropWhile_cons, other]
  simp

/-- The caret is read first, and then the hyphens. -/
theorem readClassOpen_replicate {cs : List Char} {n : Nat} {d : Char} (head : cs.head? = some d)
    (hyphen : d ≠ '-') (closing : n = 0 → d ≠ ']') (negated : Bool)
    (positive : negated = false → (List.replicate n '-' ++ cs).head? ≠ some '^') :
    readClassOpen .initial ((if negated then ['^'] else []) ++ (List.replicate n '-' ++ cs)) =
      some (negated, List.replicate n (.single '-'), cs) := by
  have span := span_replicate head hyphen n
  obtain ⟨rest, rfl⟩ := List.head?_eq_some_iff.mp head
  have bracket : List.replicate n '-' = [] → d ≠ ']' := fun none =>
    closing (by simpa using none)
  cases negated with
  | true =>
    rw [if_pos rfl, List.singleton_append]
    unfold readClassOpen
    simp only [skipBlanks_initial, span]
    split
    · rename_i none
      cases none
    · rename_i first second
      exact absurd (List.cons.inj second).1 (bracket first)
    · rw [List.map_replicate]
  | false =>
    have caret (r : List Char) : List.replicate n '-' ++ d :: rest ≠ '^' :: r := by
      intro first
      rw [first] at positive
      exact positive rfl rfl
    rw [if_neg Bool.false_ne_true, List.nil_append]
    unfold readClassOpen
    simp only [skipBlanks_initial, span]
    split
    · rename_i none
      cases none
    · rename_i first second
      exact absurd (List.cons.inj second).1 (bracket first)
    · rw [List.map_replicate]

/-- In one of the sets are the items of the class, and the hyphen if it is one of them. -/
theorem any_sets (k : CharClass) {n : Nat} {trailing : Bool}
    (same : n + (if trailing then 1 else 0) = k.leading.toNat + k.trailing.toNat) (c : Char) :
    (List.replicate n (CharSet.single '-') ++ remainderSets k.items trailing).any (·.contains c) =
      ((k.leading || k.trailing) && c == '-' || k.items.any (·.contains c)) := by
  have hyphen : (n != 0 || trailing) = (k.leading || k.trailing) := by
    generalize k.leading = before, k.trailing = after at same
    cases trailing <;> cases before <;> cases after <;> simp at same ⊢ <;> omega
  have items : (k.items.map itemSet).any (·.contains c) = k.items.any (·.contains c) := by
    rw [List.any_map]
    simp only [Function.comp_def, contains_itemSet]
  have before : (List.replicate n (CharSet.single '-')).any (·.contains c) =
      (n != 0 && c == '-') := by
    rw [List.any_replicate, contains_single]
    by_cases none : n = 0 <;> simp [none]
  have after : (if trailing then [CharSet.single '-'] else []).any (·.contains c) =
      (trailing && c == '-') := by
    cases trailing <;> simp [contains_single]
  rw [List.any_append, remainderSets, List.any_append, items, before, after, ← hyphen,
    Bool.and_or_distrib_right, Bool.or_assoc, Bool.or_comm (k.items.any _)]

/-- A class is read as the set of its characters. -/
theorem readClass_write (k : CharClass) (plain : k.IsPlain) (rest : List Char) :
    ∃ hyphens more s, (∀ c, CharSet.contains s c = k.contains c) ∧
      readClassOpen .initial
        ((if k.negated then ['^'] else []) ++ (k.writeItems .search ++ ']' :: rest)) =
          some (k.negated, hyphens, more) ∧
      rest.length < more.length ∧ more.length ≤ (k.writeItems .search ++ ']' :: rest).length ∧
      ∀ fuel nesting, more.length < fuel → readClass .initial fuel nesting k.negated none
        (hyphens.reverse.map fun s => (⟨s, 0⟩ : Part)) more =
          some (⟨s, (if 1 < k.size then 1 else 0) + 1⟩, rest) := by
  obtain ⟨n, trailing, whole, ⟨d, head, hyphen, closing⟩, same⟩ := exists_hyphens k rest
  have opened := readClassOpen_replicate head hyphen closing k.negated fun positive =>
    whole ▸ head?_writeItems k positive rest
  have size : n + (remainderSets k.items trailing).length = k.size := by
    rw [remainderSets, List.length_append, List.length_map, CharClass.size]
    cases trailing <;> simp at same ⊢ <;> omega
  refine ⟨_, _, .negateIf k.negated (.unions (List.replicate n (.single '-') ++
    remainderSets k.items trailing)), fun c => ?_, whole ▸ opened, ?_, ?_,
    fun fuel nesting enough => ?_⟩
  · rw [contains_negateIf, contains_unions, CharClass.contains]
    exact congrArg (k.negated != ·) (any_sets k same c)
  · simp only [remainder, List.length_append, List.length_cons]
    omega
  · rw [whole, List.length_append]
    omega
  · have read : readClass .initial fuel nesting k.negated none _ _ = _ :=
      readClass_remainder plain k.negated (List.replicate n (.single '-')) trailing rest enough
    rw [List.length_replicate, size, List.reverse_replicate] at read
    rw [List.reverse_replicate]
    exact read

end Xsd.Regex.Reader
