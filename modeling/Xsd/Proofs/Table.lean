import Mathlib
import Xsd.Table

/-!
# Entries of tables

What stands in a table once a key has been entered or left out.
-/

namespace Xsd.Table

variable {κ ν : Type} [BEq κ] {t : Table κ ν} {k : κ} {v : ν}

theorem contains_cons (j : κ) (w : ν) (es : List (κ × ν)) :
    (⟨(j, w) :: es⟩ : Table κ ν).contains k = (k == j || (⟨es⟩ : Table κ ν).contains k) := by
  unfold contains get?
  rw [List.lookup_cons]
  cases k == j <;> rfl

/-- A new key is entered at the end. -/
theorem entries_insert_of_new [LawfulBEq κ] (new : ¬ t.contains k) :
    (t.insert k v).entries = t.entries ++ [(k, v)] := by
  obtain ⟨es⟩ := t
  induction es with
  | nil => rfl
  | cons e es ih =>
    obtain ⟨j, w⟩ := e
    rw [contains_cons, Bool.or_eq_true, not_or, beq_iff_eq] at new
    have entries := ih new.2
    simpa [insert, insertList, Ne.symm new.1] using entries

theorem mem_values_of_get? (h : t.get? k = some v) : v ∈ t.values := by
  obtain ⟨es⟩ := t
  induction es with
  | nil => cases h
  | cons e es ih =>
    obtain ⟨j, w⟩ := e
    unfold get? at h ih
    rw [List.lookup_cons] at h
    split at h
    · cases h
      exact List.mem_cons_self
    · exact List.mem_cons_of_mem _ (ih h)

theorem contains_of_mem_keys [LawfulBEq κ] (h : k ∈ t.keys) : t.contains k := by
  obtain ⟨es⟩ := t
  induction es with
  | nil => cases h
  | cons e es ih =>
    obtain ⟨j, w⟩ := e
    rw [contains_cons, Bool.or_eq_true, beq_iff_eq]
    exact (List.mem_cons.mp h).imp_right ih

/-- A key that is entered once has the value of its entry. -/
theorem get?_of_mem_entries [LawfulBEq κ] (nodup : t.keys.Nodup) (mem : (k, v) ∈ t.entries) :
    t.get? k = some v := by
  obtain ⟨es⟩ := t
  induction es with
  | nil => cases mem
  | cons e es ih =>
    obtain ⟨j, w⟩ := e
    obtain ⟨new, nodup⟩ := List.nodup_cons.mp nodup
    unfold get?
    rw [List.lookup_cons]
    rcases List.mem_cons.mp mem with same | later
    · cases same
      rw [beq_self_eq_true]
    · have other : (k == j) = false := by
        rw [beq_eq_false_iff_ne]
        rintro rfl
        exact new (List.mem_map.mpr ⟨_, later, rfl⟩)
      rw [other]
      exact ih nodup later

theorem mem_values_insert {w : ν} (h : w ∈ (t.insert k v).values) : w = v ∨ w ∈ t.values := by
  have listed : ∀ es : List (κ × ν),
      w ∈ (insertList k v es).map (·.2) → w = v ∨ w ∈ es.map (·.2) := by
    intro es
    induction es with
    | nil =>
      intro h
      exact Or.inl (List.mem_singleton.mp h)
    | cons e es ih =>
      intro h
      unfold insertList at h
      split at h
      · rcases List.mem_cons.mp h with same | h
        · exact Or.inl same
        · exact Or.inr (List.mem_cons_of_mem _ h)
      · rcases List.mem_cons.mp h with same | h
        · exact Or.inr (List.mem_cons.mpr (Or.inl same))
        · exact (ih h).imp_right (List.mem_cons_of_mem _)
  exact listed t.entries h

theorem get?_erase [LawfulBEq κ] (t : Table κ ν) (k j : κ) :
    (t.erase k).get? j = if j == k then none else t.get? j := by
  unfold get? erase
  induction t.entries with
  | nil => cases j == k <;> rfl
  | cons e es ih =>
    obtain ⟨i, w⟩ := e
    by_cases hi : i = k
    · subst hi
      by_cases hj : j = i
      · subst hj
        simpa using ih
      · have : (j == i) = false := by simp [hj]
        simp [List.lookup_cons, this, ih]
    · by_cases hj : j = i
      · subst hj
        simp [hi]
      · have : (j == i) = false := by simp [hj]
        simp [hi, List.lookup_cons, this, ih]

theorem mem_values_of_mem_erase (h : v ∈ (t.erase k).values) : v ∈ t.values := by
  obtain ⟨e, mem, rfl⟩ := List.mem_map.mp h
  exact List.mem_map_of_mem (List.mem_filter.mp mem).1

end Xsd.Table
