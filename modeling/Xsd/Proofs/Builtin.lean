import Mathlib
import Xsd.Builtin.Basic
import Xsd.Builtin.Form
import Xsd.Facet.FacetSet

/-!
# Literals of builtin types

Numbers and points in time are written without spaces: what a reader takes off holds none, and
nothing is left at the end. A builtin type takes its values from the space of its base, and its
literals from those of its base.
-/

namespace Xsd

namespace Form

variable {cs : List Char} {c : Char}

theorem ne_space_of_isDigit (h : isDigit c = true) : c ≠ ' ' := by
  rintro rfl
  exact absurd h (by decide)

/-! ## Numbers -/

theorem solid_of_all_isDigit (h : cs.all isDigit = true) : ' ' ∉ cs :=
  fun space => ne_space_of_isDigit (List.all_eq_true.mp h ' ' space) rfl

theorem solid_digits (h : digits cs = true) : ' ' ∉ cs := by
  rw [digits, Bool.and_eq_true] at h
  exact solid_of_all_isDigit h.2

theorem solid_of_dropSign (h : ' ' ∉ dropSign cs) : ' ' ∉ cs := by
  unfold dropSign at h
  split at h
  · simpa using h
  · simpa using h
  · exact h

theorem solid_integer (h : integer cs = true) : ' ' ∉ cs :=
  solid_of_dropSign (solid_digits h)

theorem solid_unsigned (h : unsigned cs = true) : ' ' ∉ cs := by
  unfold unsigned at h
  split at h
  · exact solid_digits h
  · rename_i whole fraction cut
    obtain ⟨rfl, -⟩ := Text.eq_append_of_cutList cut
    have parts : ' ' ∉ whole ∧ ' ' ∉ fraction := by
      split at h
      · rename_i empty
        rw [List.isEmpty_iff.mp empty]
        exact ⟨List.not_mem_nil, solid_digits h⟩
      · rw [Bool.and_eq_true] at h
        exact ⟨solid_digits h.1, solid_of_all_isDigit h.2⟩
    simpa using parts

theorem solid_decimal (h : decimal cs = true) : ' ' ∉ cs :=
  solid_of_dropSign (solid_unsigned h)

theorem solid_float (h : float cs = true) : ' ' ∉ cs := by
  simp only [float, Bool.or_eq_true, Bool.and_eq_true, beq_iff_eq] at h
  rcases h with ((rfl | rfl) | rfl) | ⟨number, exponent⟩
  · decide
  · decide
  · decide
  · rw [← List.takeWhile_append_dropWhile (p := fun c => !isExponentMark c) (l := cs),
      List.mem_append]
    rintro (space | space)
    · exact solid_decimal number space
    · split at exponent
      · rename_i none
        rw [none] at space
        exact absurd space List.not_mem_nil
      · rename_i m rest cut
        have marks := List.head?_dropWhile_not (fun c => !isExponentMark c) cs
        rw [cut] at marks space
        rcases List.mem_cons.mp space with rfl | space
        · exact absurd marks (by simp [isExponentMark])
        · exact solid_integer exponent space

/-! ## Points in time -/

/-- The reader takes no space off. -/
def Solid (reader : List Char → Option (List Char)) : Prop :=
  ∀ cs rest, reader cs = some rest → ' ' ∈ cs → ' ' ∈ rest

theorem Solid.bind {first second : List Char → Option (List Char)} (h₁ : Solid first)
    (h₂ : Solid second) : Solid fun cs => (first cs).bind second := by
  intro cs rest h space
  obtain ⟨between, hb, hr⟩ := Option.bind_eq_some_iff.mp h
  exact h₂ _ _ hr (h₁ _ _ hb space)

theorem solid_mark {m : Char} (hm : m ≠ ' ') : Solid (mark m) := by
  intro cs rest h space
  cases cs with
  | nil => cases h
  | cons c cs =>
    rw [mark, Option.ite_none_right_eq_some] at h
    obtain ⟨rfl, h⟩ := h
    cases h
    exact (List.mem_cons.mp space).resolve_left fun eq => hm eq.symm

theorem solid_twoDigits : Solid twoDigits := by
  intro cs rest h space
  unfold twoDigits at h
  split at h
  · rw [Option.ite_none_right_eq_some, Bool.and_eq_true] at h
    obtain ⟨⟨ha, hb⟩, h⟩ := h
    cases h
    rcases List.mem_cons.mp space with rfl | space
    · exact absurd rfl (ne_space_of_isDigit ha)
    · exact (List.mem_cons.mp space).resolve_left fun eq => ne_space_of_isDigit hb eq.symm
  · cases h

/-- What is left of a list after its digits holds the spaces of the list. -/
theorem space_mem_dropWhile (space : ' ' ∈ cs) : ' ' ∈ cs.dropWhile isDigit := by
  rw [← List.takeWhile_append_dropWhile (p := isDigit) (l := cs), List.mem_append] at space
  exact space.resolve_left fun h => ne_space_of_isDigit (List.mem_takeWhile_imp h) rfl

theorem solid_year : Solid year := by
  intro cs rest h space
  unfold year at h
  rw [Option.ite_none_right_eq_some] at h
  obtain ⟨-, h⟩ := h
  cases h
  refine space_mem_dropWhile ?_
  split
  · exact (List.mem_cons.mp space).resolve_left (by decide)
  · exact space

theorem solid_clock : Solid clock := by
  intro cs rest h space
  simp only [clock, Option.bind_eq_bind, Option.bind_eq_some_iff] at h
  obtain ⟨hours, hh, colon, hc, minutes, hm, colon', hc', seconds, hs, h⟩ := h
  replace space := solid_twoDigits cs hours hh space
  replace space := solid_mark (by decide) hours colon hc space
  replace space := solid_twoDigits colon minutes hm space
  replace space := solid_mark (by decide) minutes colon' hc' space
  replace space := solid_twoDigits colon' seconds hs space
  split at h
  · rename_i fraction
    split at h
    · cases h
    · cases h
      exact space_mem_dropWhile ((List.mem_cons.mp space).resolve_left (by decide))
  · cases h
    exact space

theorem solid_hyphenTwo : Solid hyphenTwo :=
  Solid.bind (solid_mark (by decide)) solid_twoDigits

theorem solid_calendarDay : Solid calendarDay :=
  Solid.bind solid_year (Solid.bind solid_hyphenTwo solid_hyphenTwo)

theorem solid_zone (h : zone cs = true) : ' ' ∉ cs := by
  unfold zone at h
  split at h
  · exact List.not_mem_nil
  · decide
  · rename_i sign offset _
    simp only [Bool.and_eq_true, Bool.or_eq_true, beq_iff_eq] at h
    obtain ⟨hs, ho⟩ := h
    have reader : Solid fun cs => ((twoDigits cs).bind (mark ':')).bind twoDigits :=
      Solid.bind (Solid.bind solid_twoDigits (solid_mark (by decide))) solid_twoDigits
    intro space
    rcases List.mem_cons.mp space with rfl | space
    · exact absurd hs (by decide)
    · exact absurd (reader offset [] ho space) List.not_mem_nil

theorem solid_zoned {reader : List Char → Option (List Char)} (solid : Solid reader)
    (h : zoned reader cs = true) : ' ' ∉ cs := by
  intro space
  unfold zoned at h
  cases hr : reader cs with
  | none => simp [hr] at h
  | some rest =>
    simp only [hr, Option.map_some, Option.getD_some] at h
    exact solid_zone h (solid cs rest hr space)

theorem solid_dateTime (h : dateTime cs = true) : ' ' ∉ cs :=
  solid_zoned
    (Solid.bind solid_calendarDay (Solid.bind (solid_mark (m := 'T') (by decide)) solid_clock)) h

theorem solid_date (h : date cs = true) : ' ' ∉ cs := solid_zoned solid_calendarDay h

theorem solid_time (h : time cs = true) : ' ' ∉ cs := solid_zoned solid_clock h

end Form

/-! ## The hierarchy -/

theorem Name.isName_of_isNCName {s : String} (h : isNCName s = true) : isName s = true := by
  unfold isNCName at h
  unfold isName
  split at h
  · exact absurd h (by decide)
  · rename_i c cs text
    simp only [Bool.and_eq_true, List.all_eq_true] at h
    simp only [Bool.and_eq_true, List.all_eq_true, Bool.or_eq_true]
    exact ⟨Or.inl h.1, fun c hc => Or.inl (h.2 c hc)⟩

/-- A whole number is a decimal number without a point. -/
theorem Form.decimal_of_integer {cs : List Char} (h : integer cs = true) : decimal cs = true := by
  have uncut : Text.cutList '.' (dropSign cs) = none := by
    rw [Text.cutList_eq_none_iff]
    rw [integer, digits, Bool.and_eq_true, List.all_eq_true] at h
    exact fun point => absurd (h.2 '.' point) (by decide)
  rw [decimal, unsigned, uncut]
  exact h

namespace Builtin

variable {b p : Builtin} {value : String}

theorem primitive_base (h : b.base? = some p) : b.primitive = p.primitive := by
  cases b <;> cases h <;> rfl

theorem valueSpace_base (h : b.base? = some p) : b.valueSpace = p.valueSpace := by
  rw [valueSpace, valueSpace, primitive_base h]

theorem lengthOf_base (h : b.base? = some p) : b.lengthOf value = p.lengthOf value := by
  rw [lengthOf, lengthOf, primitive_base h]

/-- A literal of a type is one of its base. -/
theorem isLiteral_base (h : b.base? = some p) (literal : b.isLiteral value = true) :
    p.isLiteral value = true := by
  cases b <;> cases h <;> first
    | rfl
    | exact literal
    | exact Name.isName_of_isNCName literal
    | exact Form.decimal_of_integer literal

/-- A type adds no literals to those that its base lists. -/
theorem valuesOf_impliedFacets :
    FacetSet.valuesOf .enumeration b.impliedFacets = [] := by
  cases b <;> rfl

/-- The values of an ordered space are written without spaces. -/
theorem solid_of_isLiteral (ordered : b.valueSpace ≠ .unordered)
    (literal : b.isLiteral value = true) : ' ' ∉ value.toList := by
  cases b <;> first
    | exact absurd rfl ordered
    | exact Form.solid_decimal literal
    | exact Form.solid_integer literal
    | exact Form.solid_float (Bool.and_eq_true_iff.mp literal).1
    | exact Form.solid_dateTime (Bool.and_eq_true_iff.mp literal).1
    | exact Form.solid_date (Bool.and_eq_true_iff.mp literal).1
    | exact Form.solid_time (Bool.and_eq_true_iff.mp literal).1

end Builtin

end Xsd
