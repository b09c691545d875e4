/-!
# Cutting texts

A text is cut at the first place where a mark stands, or has a fixed start or end taken off.
-/

namespace Xsd.Text

/-- The parts before and after the first `mark`. -/
def cutList (mark : Char) : List Char → Option (List Char × List Char)
  | [] => none
  | c :: cs => if c = mark then some ([], cs) else (cutList mark cs).map fun p => (c :: p.1, p.2)

/-- The parts of a text before and after the first `mark`. -/
def cutAt (mark : Char) (s : String) : Option (String × String) :=
  (cutList mark s.toList).map fun p => (String.ofList p.1, String.ofList p.2)

/-- What follows `start` in a list of characters that begins with it. -/
def dropStart? : List Char → List Char → Option (List Char)
  | [], cs => some cs
  | _ :: _, [] => none
  | a :: as, c :: cs => if a = c then dropStart? as cs else none

/-- What follows `start` in a text that begins with it. -/
def after? (start : String) (s : String) : Option String :=
  (dropStart? start.toList s.toList).map String.ofList

theorem cutList_eq_none_iff {mark : Char} {cs : List Char} :
    cutList mark cs = none ↔ mark ∉ cs := by
  induction cs with
  | nil => simp [cutList]
  | cons c cs ih =>
    by_cases h : c = mark
    · simp [cutList, h]
    · simp [cutList, h, ih, Ne.symm h]

theorem cutList_append {mark : Char} {before : List Char} (free : mark ∉ before)
    (rest : List Char) : cutList mark (before ++ mark :: rest) = some (before, rest) := by
  induction before with
  | nil => exact if_pos rfl
  | cons c before ih =>
    rw [List.mem_cons, not_or] at free
    obtain ⟨other, free⟩ := free
    rw [List.cons_append, cutList, if_neg (Ne.symm other), ih free, Option.map_some]

theorem eq_append_of_cutList {mark : Char} {cs before rest : List Char}
    (h : cutList mark cs = some (before, rest)) :
    cs = before ++ mark :: rest ∧ mark ∉ before := by
  induction cs generalizing before with
  | nil => simp [cutList] at h
  | cons c cs ih =>
    by_cases hc : c = mark
    · simp [cutList, hc] at h
      obtain ⟨rfl, rfl⟩ := h
      simp [hc]
    · simp [cutList, hc] at h
      obtain ⟨b, hb, rfl⟩ := h
      obtain ⟨rfl, hn⟩ := ih hb
      exact ⟨rfl, by simp [hn, Ne.symm hc]⟩

end Xsd.Text
