import Xsd.Facet.WhiteSpace
import Xsd.Proofs.Text.Blank

/-!
# Treatments of white space

A treatment leaves alone what a more thorough one has left, itself included. Collapsing makes a
space of each blank, shrinks runs of spaces to one and leaves out the spaces at both ends. Only four
blanks are white space in markup; a text that holds another one loses it, so that collapsing is not
what replacing and then shrinking comes to.
-/

namespace Xsd.WhiteSpace

open Text

theorem replaceChar_of_not_blank {c : Char} (h : isBlank c = false) : replaceChar c = c := by
  rw [replaceChar, if_neg]
  intro hc
  simp only [Bool.or_eq_true, beq_iff_eq] at hc
  rcases hc with (rfl | rfl) | rfl <;> exact absurd h (by decide)

theorem replaceChar_replaceChar (c : Char) : replaceChar (replaceChar c) = replaceChar c := by
  rw [replaceChar]
  split
  · rename_i h
    rw [replaceChar]
    split
    · rfl
    · rename_i h'
      rw [replaceChar, if_neg h'] at h
      exact absurd h h'
  · rfl

theorem toList_collapse (s : String) :
    (WhiteSpace.collapse.normalize s).toList = [' '].intercalate (wordsFrom [] s.toList) := by
  rw [normalize, String.toList_intercalate, words, List.map_map]
  congr 1
  simp

theorem wordsFrom_collapse (s : String) :
    wordsFrom [] (WhiteSpace.collapse.normalize s).toList = wordsFrom [] s.toList := by
  rw [toList_collapse]
  exact wordsFrom_intercalate (isWord_of_mem_wordsFrom (by simp))

theorem mem_intercalate {ws : List (List Char)} {c : Char} (h : c ∈ [' '].intercalate ws) :
    c = ' ' ∨ ∃ w ∈ ws, c ∈ w := by
  induction ws with
  | nil => simp at h
  | cons w ws ih =>
    cases ws with
    | nil => exact Or.inr ⟨w, by simp, by simpa using h⟩
    | cons v ws =>
      rw [List.intercalate_cons_cons, List.append_assoc, List.mem_append, List.mem_append] at h
      rcases h with h | h | h
      · exact Or.inr ⟨w, by simp, h⟩
      · exact Or.inl (by simpa using h)
      · exact (ih h).imp id fun ⟨u, hu, hc⟩ => ⟨u, List.mem_cons_of_mem w hu, hc⟩

/-- What a treatment has left is left alone by a less thorough one. -/
theorem normalize_of_le {weak strong : WhiteSpace} (le : compare weak strong ≠ .gt) (s : String) :
    weak.normalize (strong.normalize s) = strong.normalize s := by
  cases weak with
  | preserve => rfl
  | replace =>
    have same : ∀ t : String, (∀ c ∈ t.toList, replaceChar c = c) →
        WhiteSpace.replace.normalize t = t := by
      intro t fixed
      rw [normalize, List.map_congr_left fixed, List.map_id', String.ofList_toList]
    refine same _ ?_
    cases strong with
    | preserve => exact absurd rfl le
    | replace =>
      intro c hc
      rw [normalize, String.toList_ofList] at hc
      obtain ⟨d, -, rfl⟩ := List.mem_map.mp hc
      exact replaceChar_replaceChar d
    | collapse =>
      intro c hc
      rw [toList_collapse] at hc
      rcases mem_intercalate hc with rfl | ⟨w, hw, hc⟩
      · decide
      · exact replaceChar_of_not_blank
          ((isWord_of_mem_wordsFrom (by simp) w hw).2 c hc)
  | collapse =>
    cases strong with
    | preserve => exact absurd rfl le
    | replace => exact absurd rfl le
    | collapse =>
      rw [← String.toList_inj, toList_collapse, wordsFrom_collapse, ← toList_collapse]

theorem normalize_normalize (mode : WhiteSpace) (s : String) :
    mode.normalize (mode.normalize s) = mode.normalize s :=
  normalize_of_le (by cases mode <;> decide) s

/-- A literal without spaces is what its text has between the blanks at both ends. -/
theorem trimList_normalize {mode : WhiteSpace} {s : String}
    (solid : ' ' ∉ (mode.normalize s).toList) :
    trimList (mode.normalize s).toList = trimList s.toList := by
  cases mode with
  | preserve => rfl
  | replace =>
    have same : ∀ c ∈ s.toList, replaceChar c = c := by
      intro c hc
      rw [replaceChar, if_neg]
      intro replaced
      refine solid ?_
      rw [normalize, String.toList_ofList, List.mem_map]
      exact ⟨c, hc, by rw [replaceChar, if_pos replaced]⟩
    rw [normalize, String.toList_ofList, List.map_congr_left same, List.map_id']
  | collapse =>
    rw [toList_collapse] at solid ⊢
    have areWords : ∀ w ∈ wordsFrom [] s.toList, IsWord w := isWord_of_mem_wordsFrom (by simp)
    match h : wordsFrom [] s.toList with
    | [] => rw [trimList_of_blanks (blanks_of_wordsFrom_eq_nil h)]; rfl
    | [w] =>
      rw [trimList_of_single h, List.intercalate_singleton]
      simpa using trimList_eq blanks_nil blanks_nil (areWords w (by simp [h])).2
    | w :: v :: ws =>
      rw [h, List.intercalate_cons_cons] at solid
      simp at solid

/-! ## Runs of spaces -/

/-- Leave out the spaces at the start. -/
def dropSpaces (cs : List Char) : List Char := cs.dropWhile (· == ' ')

/-- Leave out the spaces at the end. -/
def dropLastSpaces (cs : List Char) : List Char := cs.rdropWhile (· == ' ')

/-- A single space in place of each run of spaces. -/
def squeeze : List Char → List Char
  | [] => []
  | c :: cs => if c = ' ' ∧ cs.head? = some ' ' then squeeze cs else c :: squeeze cs

/-- Leave out the spaces at both ends, and all but one of each run of spaces. -/
def collapseSpaces (s : String) : String :=
  String.ofList (squeeze (dropLastSpaces (dropSpaces s.toList)))

/-- A space in place of any blank. -/
def blankToSpace (c : Char) : Char := if isBlank c then ' ' else c

/-- White space in markup. -/
def isMarkupSpace (c : Char) : Bool := c == ' ' || c == '\t' || c == '\n' || c == '\r'

variable {c : Char} {cs : List Char}

@[simp] theorem dropSpaces_space (cs : List Char) : dropSpaces (' ' :: cs) = dropSpaces cs :=
  List.dropWhile_cons_of_pos (by decide)

theorem dropSpaces_of_ne (other : c ≠ ' ') (cs : List Char) : dropSpaces (c :: cs) = c :: cs :=
  List.dropWhile_cons_of_neg (by simpa using other)

theorem dropLastSpaces_cons (c : Char) (cs : List Char) :
    dropLastSpaces (c :: cs) =
      if c = ' ' ∧ dropLastSpaces cs = [] then [] else c :: dropLastSpaces cs := by
  unfold dropLastSpaces List.rdropWhile
  rw [List.reverse_cons, List.dropWhile_append]
  by_cases rest : cs.reverse.dropWhile (· == ' ') = []
  · by_cases space : c = ' ' <;> simp [rest, space]
  · simp [rest]

theorem dropLastSpaces_of_ne (other : c ≠ ' ') (cs : List Char) :
    dropLastSpaces (c :: cs) = c :: dropLastSpaces cs := by
  rw [dropLastSpaces_cons, if_neg fun h => other h.1]

/-- It makes no difference at which end one starts. -/
theorem dropSpaces_dropLastSpaces (cs : List Char) :
    dropSpaces (dropLastSpaces cs) = dropLastSpaces (dropSpaces cs) := by
  induction cs with
  | nil => rfl
  | cons c cs ih =>
    by_cases space : c = ' '
    · subst space
      rw [dropSpaces_space, ← ih, dropLastSpaces_cons]
      split
      · rename_i rest
        rw [rest.2]
      · exact dropSpaces_space _
    · rw [dropSpaces_of_ne space, dropLastSpaces_of_ne space, dropSpaces_of_ne space]

theorem squeeze_of_ne (other : c ≠ ' ') (cs : List Char) : squeeze (c :: cs) = c :: squeeze cs := by
  rw [squeeze, if_neg fun h => other h.1]

/-- The spaces that follow one are left out. -/
theorem squeeze_space (cs : List Char) : squeeze (' ' :: cs) = ' ' :: squeeze (dropSpaces cs) := by
  induction cs with
  | nil => rfl
  | cons c cs ih =>
    by_cases space : c = ' '
    · subst space
      rw [squeeze, if_pos ⟨rfl, rfl⟩, ih, dropSpaces_space]
    · rw [squeeze, if_neg (by simpa using space), dropSpaces_of_ne space]

/-- No other character is lost. -/
theorem mem_squeeze (other : c ≠ ' ') : c ∈ squeeze cs ↔ c ∈ cs := by
  induction cs with
  | nil => rfl
  | cons d cs ih =>
    rw [squeeze]
    split
    · rename_i run
      rw [ih, List.mem_cons, run.1, or_iff_right other]
    · rw [List.mem_cons, List.mem_cons, ih]

theorem mem_dropSpaces (other : c ≠ ' ') : c ∈ dropSpaces cs ↔ c ∈ cs := by
  induction cs with
  | nil => rfl
  | cons d cs ih =>
    by_cases space : d = ' '
    · rw [space, dropSpaces_space, ih, List.mem_cons, or_iff_right other]
    · rw [dropSpaces_of_ne space]

theorem mem_dropLastSpaces (other : c ≠ ' ') : c ∈ dropLastSpaces cs ↔ c ∈ cs := by
  rw [dropLastSpaces, List.rdropWhile, List.mem_reverse]
  exact (mem_dropSpaces other).trans List.mem_reverse

theorem mem_collapseSpaces (other : c ≠ ' ') (s : String) :
    c ∈ (collapseSpaces s).toList ↔ c ∈ s.toList := by
  rw [collapseSpaces, String.toList_ofList, mem_squeeze other, mem_dropLastSpaces other,
    mem_dropSpaces other]

/-! ## Words -/

theorem dropLastSpaces_eq_nil_iff :
    dropLastSpaces (cs.map blankToSpace) = [] ↔ Blanks cs := by
  rw [dropLastSpaces, List.rdropWhile_eq_nil_iff, List.forall_mem_map]
  refine forall₂_congr fun c _ => ?_
  rw [beq_iff_eq, blankToSpace]
  split
  · rename_i blank
    exact iff_of_true rfl blank
  · rename_i solid
    exact iff_of_false (fun space => solid (space ▸ by decide)) solid

theorem wordsFrom_of_blanks (blanks : Blanks cs) : wordsFrom [] cs = [] := by
  induction cs with
  | nil => rfl
  | cons c cs ih =>
    obtain ⟨blank, blanks⟩ := List.forall_mem_cons.mp blanks
    rw [wordsFrom, if_pos blank]
    exact ih blanks

/-- By induction on the text: what a word that has begun and the rest of the text come to is that
word with the rest, in which spaces at the start count. -/
theorem intercalate_wordsFrom (cs : List Char) :
    [' '].intercalate (wordsFrom [] cs) =
        squeeze (dropLastSpaces (dropSpaces (cs.map blankToSpace))) ∧
      ∀ word ≠ [], [' '].intercalate (wordsFrom word cs) =
        word.reverse ++ squeeze (dropLastSpaces (cs.map blankToSpace)) := by
  induction cs with
  | nil =>
    refine ⟨rfl, fun word begun => ?_⟩
    simp [wordsFrom, begun, dropLastSpaces, squeeze]
  | cons c cs ih =>
    obtain ⟨apart, joined⟩ := ih
    rw [List.map_cons]
    cases blank : isBlank c with
    | true =>
      have space : blankToSpace c = ' ' := if_pos blank
      rw [space, dropSpaces_space]
      refine ⟨by simpa [wordsFrom, blank] using apart, fun word begun => ?_⟩
      rw [wordsFrom, if_pos blank, if_neg (by simpa using begun), dropLastSpaces_cons]
      by_cases blanks : Blanks cs
      · rw [wordsFrom_of_blanks blanks, if_pos ⟨rfl, dropLastSpaces_eq_nil_iff.mpr blanks⟩]
        simp [squeeze]
      · have more : wordsFrom [] cs ≠ [] := fun none => blanks (blanks_of_wordsFrom_eq_nil none)
        obtain ⟨w, ws, words⟩ := List.exists_cons_of_ne_nil more
        rw [if_neg fun h => blanks (dropLastSpaces_eq_nil_iff.mp h.2), squeeze_space,
          dropSpaces_dropLastSpaces, ← apart, words, List.intercalate_cons_cons]
        simp
    | false =>
      have solid : blankToSpace c = c := if_neg (by simp [blank])
      have other : c ≠ ' ' := by
        rintro rfl
        cases blank
      rw [solid, dropSpaces_of_ne other, dropLastSpaces_of_ne other, squeeze_of_ne other]
      have step : ∀ word, wordsFrom word (c :: cs) = wordsFrom (c :: word) cs := fun word => by
        rw [wordsFrom, if_neg (by simp [blank])]
      refine ⟨by rw [step, joined [c] (by simp)]; rfl, fun word _ => ?_⟩
      rw [step, joined (c :: word) (by simp)]
      simp

/-! ## Collapsing -/

/-- Collapsing a text is shrinking its spaces once all blanks are spaces. -/
theorem normalize_collapse (s : String) : WhiteSpace.collapse.normalize s =
    collapseSpaces (String.ofList (s.toList.map blankToSpace)) := by
  rw [← String.toList_inj, toList_collapse, (intercalate_wordsFrom s.toList).1, collapseSpaces,
    String.toList_ofList, String.toList_ofList]

theorem replaceChar_eq_blankToSpace (h : isBlank c = true → isMarkupSpace c = true) :
    replaceChar c = blankToSpace c := by
  cases blank : isBlank c with
  | false => rw [replaceChar_of_not_blank blank, blankToSpace, if_neg (by simp [blank])]
  | true =>
    have markup := h blank
    rw [blankToSpace, if_pos blank]
    simp only [isMarkupSpace, Bool.or_eq_true, beq_iff_eq] at markup
    rcases markup with ((rfl | rfl) | rfl) | rfl <;> rfl

/-- No blank but a space is left by collapsing. -/
theorem not_mem_collapse (blank : isBlank c = true) (other : c ≠ ' ') (s : String) :
    c ∉ (WhiteSpace.collapse.normalize s).toList := by
  rw [normalize_collapse, mem_collapseSpaces other, String.toList_ofList]
  intro mem
  obtain ⟨d, -, same⟩ := List.mem_map.mp mem
  rw [blankToSpace] at same
  split at same
  · exact other same.symm
  · rename_i solid
    exact solid (same ▸ blank)

/-- Any other blank would be lost. -/
theorem isMarkupSpace_of_collapse {s : String}
    (same : WhiteSpace.collapse.normalize s = collapseSpaces (WhiteSpace.replace.normalize s))
    (mem : c ∈ s.toList) (blank : isBlank c = true) : isMarkupSpace c = true := by
  by_contra foreign
  have fixed : replaceChar c = c := by
    rw [replaceChar, if_neg]
    intro replaced
    exact foreign (by simp_all [isMarkupSpace])
  have other : c ≠ ' ' := by
    rintro rfl
    exact foreign rfl
  refine not_mem_collapse blank other s ?_
  rw [same, mem_collapseSpaces other, normalize, String.toList_ofList]
  exact List.mem_map.mpr ⟨c, mem, fixed⟩

/-- To collapse a text is to replace its blanks and to shrink its spaces just if it holds no blanks
but those of markup. -/
theorem normalize_collapse_eq_iff (s : String) :
    WhiteSpace.collapse.normalize s = collapseSpaces (WhiteSpace.replace.normalize s) ↔
      ∀ c ∈ s.toList, isBlank c = true → isMarkupSpace c = true := by
  constructor
  · exact fun same c mem blank => isMarkupSpace_of_collapse same mem blank
  · intro markup
    have replaced : s.toList.map replaceChar = s.toList.map blankToSpace :=
      List.map_congr_left fun c mem => replaceChar_eq_blankToSpace (markup c mem)
    rw [normalize_collapse, ← replaced, normalize]

/-- A no-break space is a blank, but not one of markup. -/
theorem not_normalize_collapse_eq : ¬ ∀ s : String,
    WhiteSpace.collapse.normalize s = collapseSpaces (WhiteSpace.replace.normalize s) := by
  intro h
  exact absurd (isMarkupSpace_of_collapse (c := '\u00a0') (h "a\u00a0b") (by decide) (by decide))
    (by decide)

end Xsd.WhiteSpace
