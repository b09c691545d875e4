import Xsd.Proofs.Schema.Reading
import Xsd.Resolution

/-!
# The builtin types stay what they are

Nothing that is read or resolved changes the types that are there from the start, and no other type
is a builtin one.
-/

namespace Xsd

namespace Arena

/-- The types that are there from the start are there, and no others are builtin. -/
structure Grounded (a : Arena) : Prop where
  initial : ∀ {id t}, (Arena.initial Registry.builtinDocument).type? id = some t →
    a.type? id = some t
  added : ∀ {id t}, (Arena.initial Registry.builtinDocument).type? id = none →
    a.type? id = some t → t.builtin? = none

theorem grounded_initial : (Arena.initial Registry.builtinDocument).Grounded where
  initial h := h
  added missing h := by
    rw [missing] at h
    cases h

variable {a : Arena}

theorem Grounded.of_types (h : a.Grounded) {a' : Arena} (same : a'.types = a.types) :
    a'.Grounded where
  initial {id t} ht := by
    rw [type?, same]
    exact h.initial ht
  added missing ht := by
    rw [type?, same] at ht
    exact h.added missing ht

theorem Grounded.addType (h : a.Grounded) {t : TypeDefinition} (ht : t.builtin? = none) :
    (a.addType t).2.Grounded where
  initial {id u} hu := by
    have old : a.types[id.index]? = some u := h.initial hu
    obtain ⟨bound, -⟩ := Array.getElem?_eq_some_iff.mp old
    change (a.types.push t)[id.index]? = some u
    rw [Array.getElem?_push, if_neg (by omega), old]
  added {id u} missing hu := by
    change (a.types.push t)[id.index]? = some u at hu
    rw [Array.getElem?_push] at hu
    split at hu
    · cases hu
      exact ht
    · exact h.added missing hu

/-- A change of a type that is not there from the start. -/
theorem Grounded.modify (h : a.Grounded) {id : TypeId} {f : TypeDefinition → TypeDefinition}
    (missing : (Arena.initial Registry.builtinDocument).type? id = none)
    (hf : ∀ t, (f t).builtin? = t.builtin?) :
    { a with types := a.types.modify id.index f : Arena }.Grounded where
  initial {id' u} hu := by
    have other : id.index ≠ id'.index := by
      intro same
      rw [type?, ← same] at hu
      rw [type?, hu] at missing
      cases missing
    change (a.types.modify id.index f)[id'.index]? = some u
    rw [Array.getElem?_modify, if_neg other]
    exact h.initial hu
  added {id' u} missing' hu := by
    change (a.types.modify id.index f)[id'.index]? = some u at hu
    rw [Array.getElem?_modify] at hu
    split at hu
    · obtain ⟨t, ht, rfl⟩ := Option.map_eq_some_iff.mp hu
      rw [hf]
      exact h.added missing' ht
    · exact h.added missing' hu

theorem initial_cases {document : DocumentId} {id : TypeId} {t : TypeDefinition}
    (h : (Arena.initial document).type? id = some t) :
    t = anyType document ∨ t = anySimpleType document ∨ ∃ b, t = builtinType document b := by
  have listed := Array.mem_of_getElem? h
  simp only [Arena.initial, Array.mem_append, List.mem_toArray, List.mem_cons, List.not_mem_nil,
    or_false, List.mem_map] at listed
  rcases listed with (rfl | rfl) | ⟨b, -, rfl⟩
  · exact Or.inl rfl
  · exact Or.inr (Or.inl rfl)
  · exact Or.inr (Or.inr ⟨b, rfl⟩)

/-- All types that are there from the start are resolved. -/
theorem initial_state {document : DocumentId} {id : TypeId} {t : TypeDefinition}
    (h : (Arena.initial document).type? id = some t) : t.info.state = .resolved := by
  rcases initial_cases h with rfl | rfl | ⟨b, rfl⟩ <;> rfl

/-- The definition of a builtin type is found under its number. -/
theorem Grounded.type?_typeId (h : a.Grounded) (b : Builtin) :
    a.type? b.typeId = some (builtinType Registry.builtinDocument b) := by
  apply h.initial
  cases b <;> rfl

theorem Grounded.type?_anyType (h : a.Grounded) :
    a.type? .anyType = some (anyType Registry.builtinDocument) :=
  h.initial rfl

theorem Grounded.has_anyType (h : a.Grounded) : a.Has (.type .anyType) :=
  has_iff.mpr ⟨_, by rw [info?, h.type?_anyType]; rfl⟩

theorem Grounded.type?_anySimpleType (h : a.Grounded) :
    a.type? .anySimpleType = some (anySimpleType Registry.builtinDocument) :=
  h.initial rfl

/-- A definition of a builtin type is the one that is there from the start. -/
theorem Grounded.eq_builtinType (h : a.Grounded) {id : TypeId} {t : TypeDefinition} {b : Builtin}
    (ht : a.type? id = some t) (hb : t.builtin? = some b) :
    t = builtinType Registry.builtinDocument b := by
  cases hi : (Arena.initial Registry.builtinDocument).type? id with
  | none =>
    rw [h.added hi ht] at hb
    cases hb
  | some u =>
    cases ht.symm.trans (h.initial hi)
    rcases initial_cases hi with rfl | rfl | ⟨b', rfl⟩
    · cases hb
    · cases hb
    · cases hb
      rfl

end Arena

/-- Reading documents leaves the builtin types alone. -/
theorem stable_grounded (base : Assembly) : Stable base fun a => a.arena.Grounded where
  note _ h := h
  document _ _ h := h
  importEdge _ _ _ h := h
  declare _ _ _ h := h
  type ht _ _ h := h.addType ht
  elementDecl _ h := h.of_types rfl
  attributeDecl _ _ h := h.of_types rfl
  groupDef _ h := h.of_types rfl
  attributeGroupDef _ h := h.of_types rfl

end Xsd
