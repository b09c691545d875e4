import Mathlib
import Xsd.Text.Blank

/-!
# Words and blanks

The words of a text hold no blank, and are the words of the text that they are put together to.
-/

namespace Xsd.Text

variable {cs word rest : List Char}

/-- The word has some character, and no blank. -/
def IsWord (word : List Char) : Prop := word ≠ [] ∧ ∀ c ∈ word, isBlank c = false

/-- There are nothing but blanks. -/
def Blanks (cs : List Char) : Prop := ∀ c ∈ cs, isBlank c = true

theorem blanks_nil : Blanks [] := fun _ hc => nomatch hc

theorem isWord_of_mem_wordsFrom (clean : ∀ c ∈ word, isBlank c = false) :
    ∀ w ∈ wordsFrom word cs, IsWord w := by
  have closed : ∀ {word : List Char}, (∀ c ∈ word, isBlank c = false) → word.isEmpty = false →
      IsWord word.reverse := by
    intro word clean nonempty
    exact ⟨by simpa using nonempty, fun c hc => clean c (List.mem_reverse.mp hc)⟩
  induction cs generalizing word with
  | nil =>
    intro w hw
    cases empty : word.isEmpty with
    | true => simp [wordsFrom, empty] at hw
    | false =>
      obtain rfl : w = word.reverse := by simpa [wordsFrom, empty] using hw
      exact closed clean empty
  | cons c cs ih =>
    intro w hw
    rw [wordsFrom] at hw
    cases blank : isBlank c with
    | true =>
      cases empty : word.isEmpty with
      | true =>
        simp only [blank, empty, if_true] at hw
        exact ih (by simp) w hw
      | false =>
        rw [if_pos blank, if_neg (by simp [empty])] at hw
        rcases List.mem_cons.mp hw with rfl | hw
        · exact closed clean empty
        · exact ih (by simp) w hw
    | false =>
      rw [if_neg (by simp [blank])] at hw
      refine ih ?_ w hw
      intro x hx
      rcases List.mem_cons.mp hx with rfl | hx
      · exact blank
      · exact clean x hx

theorem wordsFrom_append {more : List Char} (clean : ∀ c ∈ more, isBlank c = false) :
    wordsFrom word (more ++ rest) = wordsFrom (more.reverse ++ word) rest := by
  induction more generalizing word with
  | nil => rfl
  | cons c more ih =>
    rw [List.cons_append, wordsFrom, if_neg (by simp [clean c List.mem_cons_self]),
      ih fun x hx => clean x (List.mem_cons_of_mem c hx)]
    simp

/-- The words of words with a space between them are these words. -/
theorem wordsFrom_intercalate {ws : List (List Char)} (areWords : ∀ w ∈ ws, IsWord w) :
    wordsFrom [] ([' '].intercalate ws) = ws := by
  induction ws with
  | nil => rfl
  | cons w ws ih =>
    obtain ⟨nonempty, clean⟩ := areWords w List.mem_cons_self
    have ih := ih fun v hv => areWords v (List.mem_cons_of_mem w hv)
    cases ws with
    | nil =>
      have whole : wordsFrom [] (w ++ []) = wordsFrom (w.reverse ++ []) [] :=
        wordsFrom_append clean
      simpa [wordsFrom, nonempty] using whole
    | cons v ws =>
      rw [List.intercalate_cons_cons, List.append_assoc, wordsFrom_append clean,
        List.singleton_append, wordsFrom, if_pos (by decide), if_neg (by simpa using nonempty), ih]
      simp

/-! ## Blanks at both ends -/

theorem trimList_eq {before after : List Char} (hb : Blanks before) (ha : Blanks after)
    (clean : ∀ c ∈ word, isBlank c = false) : trimList (before ++ (word ++ after)) = word := by
  have all : ∀ {l : List Char}, Blanks l → l.dropWhile isBlank = [] := fun h =>
    List.dropWhile_eq_nil_iff.mpr h
  cases word with
  | nil =>
    have blanks : Blanks (before ++ after) := fun c hc =>
      (List.mem_append.mp hc).elim (hb c) (ha c)
    simp [trimList, all blanks]
  | cons c word =>
    have head : ((c :: word) ++ after).dropWhile isBlank = (c :: word) ++ after := by
      rw [List.cons_append, List.dropWhile_cons, if_neg (by simp [clean c List.mem_cons_self])]
    have last : ((c :: word).reverse).dropWhile isBlank = (c :: word).reverse := by
      rw [List.dropWhile_eq_self_iff]
      intro hl
      rw [clean _ (List.mem_reverse.mp (List.getElem_mem hl))]
      simp
    rw [trimList, List.dropWhile_append_of_pos hb, head, List.reverse_append,
      List.dropWhile_append_of_pos fun x hx => ha x (List.mem_reverse.mp hx), last,
      List.reverse_reverse]

theorem wordsFrom_ne_nil (begun : word ≠ []) : wordsFrom word cs ≠ [] := by
  induction cs generalizing word with
  | nil => simp [wordsFrom, begun]
  | cons c cs ih =>
    rw [wordsFrom]
    split
    · simp [begun]
    · exact ih (by simp)

theorem blanks_of_wordsFrom_eq_nil (h : wordsFrom [] cs = []) : Blanks cs := by
  induction cs with
  | nil => simp [Blanks]
  | cons c cs ih =>
    rw [wordsFrom] at h
    cases blank : isBlank c with
    | false =>
      rw [if_neg (by simp [blank])] at h
      exact absurd h (wordsFrom_ne_nil (by simp))
    | true =>
      intro x hx
      rcases List.mem_cons.mp hx with rfl | hx
      · exact blank
      · exact ih (by simpa [blank] using h) x hx

/-- Behind a word that has begun there are the rest of it and blanks, if it stays the only one. -/
theorem exists_of_wordsFrom_begun {w : List Char} (begun : word ≠ [])
    (h : wordsFrom word cs = [w]) :
    ∃ more after, Blanks after ∧ cs = more ++ after ∧ w = word.reverse ++ more := by
  induction cs generalizing word with
  | nil =>
    have eq : word.reverse = w := by simpa [wordsFrom, begun] using h
    exact ⟨[], [], by simp [Blanks], rfl, by simp [eq]⟩
  | cons c cs ih =>
    rw [wordsFrom] at h
    cases blank : isBlank c with
    | true =>
      rw [if_pos blank, if_neg (by simpa using begun)] at h
      obtain ⟨rfl, none⟩ := List.cons.inj h
      refine ⟨[], c :: cs, ?_, rfl, by simp⟩
      intro x hx
      rcases List.mem_cons.mp hx with rfl | hx
      · exact blank
      · exact blanks_of_wordsFrom_eq_nil none x hx
    | false =>
      rw [if_neg (by simp [blank])] at h
      obtain ⟨more, after, ha, rfl, eq⟩ := ih (by simp) h
      exact ⟨c :: more, after, ha, rfl, by simpa using eq⟩

theorem exists_of_wordsFrom_single {w : List Char} (h : wordsFrom [] cs = [w]) :
    ∃ before after, Blanks before ∧ Blanks after ∧ cs = before ++ (w ++ after) := by
  induction cs with
  | nil => simp [wordsFrom] at h
  | cons c cs ih =>
    rw [wordsFrom] at h
    cases blank : isBlank c with
    | true =>
      obtain ⟨before, after, hb, ha, rfl⟩ := ih (by simpa [blank] using h)
      refine ⟨c :: before, after, ?_, ha, rfl⟩
      intro x hx
      rcases List.mem_cons.mp hx with rfl | hx
      · exact blank
      · exact hb x hx
    | false =>
      rw [if_neg (by simp [blank])] at h
      obtain ⟨more, after, ha, rfl, rfl⟩ := exists_of_wordsFrom_begun (by simp) h
      exact ⟨[], after, by simp [Blanks], ha, by simp⟩

/-- A text with one word is that word with blanks around it. -/
theorem trimList_of_single {w : List Char} (h : wordsFrom [] cs = [w]) : trimList cs = w := by
  have isWord : IsWord w :=
    isWord_of_mem_wordsFrom (by simp) w (h ▸ List.mem_singleton_self w)
  obtain ⟨before, after, hb, ha, rfl⟩ := exists_of_wordsFrom_single h
  exact trimList_eq hb ha isWord.2

theorem trimList_of_blanks (blanks : Blanks cs) : trimList cs = [] := by
  have trimmed : trimList (cs ++ ([] ++ [])) = [] := trimList_eq blanks blanks_nil (by simp)
  simpa using trimmed

end Xsd.Text
