import Mathlib
import Xsd.Reach

/-!
# Reachability along the edges of a finite graph

The search with bounded room finds exactly the numbers to which a way leads from a seed. The room
is never short: every round takes a new number below the size, so when it is used up all of them
have been found.
-/

namespace Xsd

open Relation

/-- A way along edges, possibly of no edge at all. -/
def Leads (next : Nat → List Nat) : Nat → Nat → Prop :=
  ReflTransGen fun a b => b ∈ next a

/-- What follows a number that has been found is found too, or still on the stack. -/
def Pending (next : Nat → List Nat) (found : Std.TreeSet Nat) (stack : List Nat) : Prop :=
  ∀ a ∈ found, ∀ b ∈ next a, b ∈ found ∨ b ∈ stack

theorem found_all_of_full {found : Std.TreeSet Nat} {size : Nat}
    (below : ∀ a ∈ found, a < size) (full : found.size = size) {a : Nat} (ha : a < size) :
    a ∈ found := by
  have nodup : found.toList.Nodup := by
    refine Std.TreeSet.distinct_toList.imp ?_
    intro x y hxy heq
    exact hxy (by simp [heq])
  have sub : found.toList.toFinset ⊆ Finset.range size := by
    intro x hx
    have hx' : x ∈ found := Std.TreeSet.mem_of_mem_toList (List.mem_toFinset.mp hx)
    exact Finset.mem_range.mpr (below x hx')
  have card : (Finset.range size).card ≤ found.toList.toFinset.card := by
    rw [List.toFinset_card_of_nodup nodup, Std.TreeSet.length_toList, Finset.card_range, full]
  have eq := Finset.eq_of_subset_of_card_le sub card
  have mem : a ∈ found.toList.toFinset := by
    rw [eq]
    exact Finset.mem_range.mpr ha
  exact Std.TreeSet.mem_of_mem_toList (List.mem_toFinset.mp mem)

theorem mem_found_or_dropWhile (found : Std.TreeSet Nat) {stack : List Nat} {a : Nat}
    (ha : a ∈ stack) : a ∈ found ∨ a ∈ stack.dropWhile found.contains := by
  rw [← List.takeWhile_append_dropWhile (p := found.contains) (l := stack)] at ha
  rcases List.mem_append.mp ha with taken | left
  · exact Or.inl (List.all_eq_true.mp List.all_takeWhile a taken)
  · exact Or.inr left

theorem reach_sound {next : Nat → List Nat} {room : Nat} {found : Std.TreeSet Nat}
    {stack : List Nat} {a : Nat} (h : a ∈ reach next room found stack) :
    a ∈ found ∨ ∃ s ∈ stack, Leads next s a := by
  induction room generalizing found stack with
  | zero => exact Or.inl h
  | succ room ih =>
    rw [reach] at h
    cases hd : stack.dropWhile found.contains with
    | nil => exact Or.inl (by simpa [hd] using h)
    | cons n rest =>
      have sub : ∀ s ∈ n :: rest, s ∈ stack := by
        intro s hs
        exact (List.dropWhile_sublist _).subset (hd ▸ hs)
      rcases ih (by simpa [hd] using h) with hf | ⟨s, hs, way⟩
      · rcases Std.TreeSet.mem_insert.mp hf with eq | hf
        · have hn : n = a := by simpa using eq
          exact Or.inr ⟨n, sub n List.mem_cons_self, hn ▸ ReflTransGen.refl⟩
        · exact Or.inl hf
      · rcases List.mem_append.mp hs with edge | hs
        · exact Or.inr ⟨n, sub n List.mem_cons_self, ReflTransGen.head edge way⟩
        · exact Or.inr ⟨s, sub s (List.mem_cons_of_mem n hs), way⟩

/-- A search that has room for all numbers below the size ends with a closed set. -/
theorem reach_closed {next : Nat → List Nat} {size : Nat}
    (inside : ∀ a < size, ∀ b ∈ next a, b < size) {room : Nat} {found : Std.TreeSet Nat}
    {stack : List Nat} (hroom : found.size + room = size) (hfound : ∀ a ∈ found, a < size)
    (hstack : ∀ a ∈ stack, a < size) (pending : Pending next found stack) :
    (∀ a, a ∈ found ∨ a ∈ stack → a ∈ reach next room found stack) ∧
      ∀ a ∈ reach next room found stack, ∀ b ∈ next a, b ∈ reach next room found stack := by
  induction room generalizing found stack with
  | zero =>
    have all : ∀ a < size, a ∈ found := fun a ha => found_all_of_full hfound hroom ha
    refine ⟨?_, fun a ha b hb => all b (inside a (hfound a ha) b hb)⟩
    rintro a (ha | ha)
    · exact ha
    · exact all a (hstack a ha)
  | succ room ih =>
    rw [reach]
    cases hd : stack.dropWhile found.contains with
    | nil =>
      have all : ∀ a ∈ stack, a ∈ found := by
        intro a ha
        simpa [hd] using mem_found_or_dropWhile found ha
      refine ⟨?_, fun a ha b hb => (pending a ha b hb).elim id (all b)⟩
      rintro a (ha | ha)
      · exact ha
      · exact all a ha
    | cons n rest =>
      have sub : ∀ s ∈ n :: rest, s ∈ stack := by
        intro s hs
        exact (List.dropWhile_sublist _).subset (hd ▸ hs)
      have new : found.contains n = false := by
        have head := List.head?_dropWhile_not found.contains stack
        rw [hd] at head
        exact head
      have hn := hstack n (sub n List.mem_cons_self)
      have moves : ∀ a, a ∈ found ∨ a ∈ stack → a ∈ found.insert n ∨ a ∈ next n ++ rest := by
        intro a ha
        have ha : a ∈ found ∨ a ∈ n :: rest := by
          rcases ha with ha | ha
          · exact Or.inl ha
          · exact hd ▸ mem_found_or_dropWhile found ha
        rcases ha with ha | ha
        · exact Or.inl (Std.TreeSet.mem_insert.mpr (Or.inr ha))
        · rcases List.mem_cons.mp ha with eq | ha
          · exact Or.inl (Std.TreeSet.mem_insert.mpr (Or.inl (by simp [eq])))
          · exact Or.inr (List.mem_append_right _ ha)
      have step := @ih (found.insert n) (next n ++ rest)
        (by rw [Std.TreeSet.size_insert, new, if_neg Bool.false_ne_true]; omega)
        (by
          intro a ha
          rcases Std.TreeSet.mem_insert.mp ha with eq | ha
          · have eq : n = a := by simpa using eq
            exact eq ▸ hn
          · exact hfound a ha)
        (by
          intro a ha
          rcases List.mem_append.mp ha with ha | ha
          · exact inside n hn a ha
          · exact hstack a (sub a (List.mem_cons_of_mem n ha)))
        (by
          intro a ha b hb
          rcases Std.TreeSet.mem_insert.mp ha with eq | ha
          · have eq : n = a := by simpa using eq
            exact Or.inr (List.mem_append_left _ (eq ▸ hb))
          · exact moves b (pending a ha b hb))
      exact ⟨fun a ha => step.1 a (moves a ha), step.2⟩

/-- The numbers that are found are those to which a way leads from a seed. -/
theorem mem_reachable_iff {next : Nat → List Nat} {size : Nat} {seeds : List Nat}
    (inside : ∀ a < size, ∀ b ∈ next a, b < size) (hseeds : ∀ s ∈ seeds, s < size) {a : Nat} :
    a ∈ reachable next size seeds ↔ ∃ s ∈ seeds, Leads next s a := by
  have pending : Pending next ∅ seeds := fun a ha => absurd ha Std.TreeSet.not_mem_emptyc
  have closed := @reach_closed next size inside size ∅ seeds (by simp)
    (fun a ha => absurd ha Std.TreeSet.not_mem_emptyc) hseeds pending
  constructor
  · intro h
    rcases reach_sound h with h | h
    · exact absurd h Std.TreeSet.not_mem_emptyc
    · exact h
  · rintro ⟨s, hs, way⟩
    induction way with
    | refl => exact closed.1 s (Or.inr hs)
    | tail _ edge ih => exact closed.2 _ ih _ edge

end Xsd
