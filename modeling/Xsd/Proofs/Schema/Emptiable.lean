import Xsd.Proofs.Schema.EmptyContent

/-!
# Contents that may be left out

Where text may stand between the elements of a content, and all of these may be left out, a default
or fixed value can stand in the place of the content. Whether they may be left out is what the
automaton of the content says of the empty sequence. But the values of elements are looked at without
it, by the bounds of the outermost group only: if that has to occur, it is not taken for one that may
be empty, even where all that it holds is optional.
-/

namespace Xsd

open Computability

/-! ## The empty sequence in a language -/

section

variable {language : Language QName}

theorem nil_mem_mul_iff {other : Language QName} :
    [] ∈ language * other ↔ [] ∈ language ∧ [] ∈ other := by
  rw [Language.mem_mul]
  constructor
  · rintro ⟨first, hf, second, hs, eq⟩
    obtain ⟨rfl, rfl⟩ := List.append_eq_nil_iff.mp eq
    exact ⟨hf, hs⟩
  · rintro ⟨first, second⟩
    exact ⟨[], first, [], second, rfl⟩

theorem nil_mem_prod_iff {languages : List (Language QName)} :
    [] ∈ languages.prod ↔ ∀ l ∈ languages, [] ∈ l := by
  induction languages with
  | nil => simp
  | cons l languages ih => rw [List.prod_cons, nil_mem_mul_iff, ih, List.forall_mem_cons]

theorem nil_mem_sum_iff {languages : List (Language QName)} :
    [] ∈ languages.sum ↔ ∃ l ∈ languages, [] ∈ l := by
  induction languages with
  | nil => simp [Language.notMem_zero]
  | cons l languages ih => rw [List.sum_cons, Language.mem_add, ih, List.exists_mem_cons_iff]

theorem nil_mem_pow_iff {count : Nat} : [] ∈ language ^ count ↔ count = 0 ∨ [] ∈ language := by
  rw [← List.prod_replicate, nil_mem_prod_iff]
  simp only [List.mem_replicate, and_imp, forall_eq_apply_imp_iff]
  tauto

theorem Content.nil_notMem_letters {names : Set QName} : [] ∉ letters names := by
  rintro ⟨name, -, nil⟩
  cases nil

theorem Occurs.nil_mem_repeats_iff {o : Occurs} (proper : o.Proper) :
    [] ∈ o.repeats language ↔ o.min = 0 ∨ [] ∈ language := by
  constructor
  · rintro ⟨count, low, -, mem⟩
    exact (nil_mem_pow_iff.mp mem).imp_left fun zero => Nat.le_zero.mp (low.trans_eq zero)
  · rintro (zero | mem)
    · exact ⟨0, zero.le, fun max _ => Nat.zero_le max, nil_mem_pow_iff.mpr (Or.inl rfl)⟩
    · exact ⟨o.min, Nat.le_refl _, proper, nil_mem_pow_iff.mpr (Or.inr mem)⟩

/-- Members in any order may all be left out if each of them may. -/
theorem Part.nil_mem_inAnyOrder_iff {ps : List Part} (proper : ∀ p ∈ ps, p.occurs.Proper) :
    [] ∈ inAnyOrder ps ↔ ∀ p ∈ ps, [] ∈ p.repeated := by
  constructor
  · rintro ⟨taken, left, perm, -, optional, mem⟩ p hp
    rw [repeated, Occurs.nil_mem_repeats_iff (proper p hp)]
    rcases List.mem_append.mp (perm.symm.subset hp) with here | here
    · exact Or.inr (nil_mem_prod_iff.mp mem _ (List.mem_map_of_mem here))
    · exact Or.inl (optional p here)
  · intro each
    -- Those that have to occur are taken, the others are left.
    have split := List.filter_append_perm (fun p : Part => p.occurs.min != 0) ps
    refine ⟨_, _, split, fun p hp never => ?_, fun p hp => ?_, nil_mem_prod_iff.mpr ?_⟩
    · obtain ⟨mem, must⟩ := List.mem_filter.mp hp
      have zero : p.occurs.min = 0 := Nat.le_zero.mp (proper p mem 0 never)
      simp [zero] at must
    · simpa using (List.mem_filter.mp hp).2
    · intro l hl
      obtain ⟨p, hp, rfl⟩ := List.mem_map.mp hl
      obtain ⟨mem, must⟩ := List.mem_filter.mp hp
      have reads := (Occurs.nil_mem_repeats_iff (proper p mem)).mp (each p mem)
      exact reads.resolve_left (by simpa using must)

end

/-! ## Emptiable contents -/

namespace Content

mutual

/-- The content can occur without an element. -/
def isEmptiableOnce : Content → Bool
  | .element _ _ => false
  | .wildcard _ _ => false
  | .group _ .choice members => someEmptiable members
  | .group _ _ members => allEmptiable members

/-- Some of the contents may be left out. -/
def someEmptiable : List Content → Bool
  | [] => false
  | c :: cs => (c.occurs.min == 0 || c.isEmptiableOnce) || someEmptiable cs

/-- Each of the contents may be left out. -/
def allEmptiable : List Content → Bool
  | [] => true
  | c :: cs => (c.occurs.min == 0 || c.isEmptiableOnce) && allEmptiable cs

end

/-- The content may be left out: it need not occur, or can occur without an element. -/
def isEmptiable (c : Content) : Bool := c.occurs.min == 0 || c.isEmptiableOnce

theorem someEmptiable_iff {cs : List Content} :
    someEmptiable cs = true ↔ ∃ c ∈ cs, c.isEmptiable = true := by
  induction cs with
  | nil => simp [someEmptiable]
  | cons c cs ih => rw [someEmptiable, Bool.or_eq_true, ih, List.exists_mem_cons_iff, isEmptiable]

theorem allEmptiable_iff {cs : List Content} :
    allEmptiable cs = true ↔ ∀ c ∈ cs, c.isEmptiable = true := by
  induction cs with
  | nil => simp [allEmptiable]
  | cons c cs ih => rw [allEmptiable, Bool.and_eq_true, ih, List.forall_mem_cons, isEmptiable]

variable {a : Arena} {s : SubstitutionGroups}

theorem nil_mem_repeats_iff {c : Content} (proper : c.Proper)
    (once : [] ∈ c.once a s ↔ c.isEmptiableOnce = true) :
    [] ∈ c.occurs.repeats (c.once a s) ↔ c.isEmptiable = true := by
  rw [Occurs.nil_mem_repeats_iff proper.occurs, once, isEmptiable, Bool.or_eq_true, beq_iff_eq]

mutual

/-- By induction on the tree: what a content reads when it occurs once, and what it reads as a member
of a group. -/
theorem nil_mem_once_iff (c : Content) (proper : c.Proper) :
    [] ∈ c.once a s ↔ c.isEmptiableOnce = true := by
  cases c with
  | element o id => exact iff_of_false nil_notMem_letters Bool.false_ne_true
  | wildcard o w => exact iff_of_false nil_notMem_letters Bool.false_ne_true
  | group o compositor members =>
    obtain ⟨-, -, all⟩ := proper
    have each := nil_mem_repeated_iff members all
    cases compositor with
    | sequence =>
      rw [once, parts_eq_map, List.map_map, nil_mem_prod_iff, List.forall_mem_map, isEmptiableOnce,
        allEmptiable_iff]
      · exact forall₂_congr each
      · nofun
    | choice =>
      rw [once, parts_eq_map, List.map_map, nil_mem_sum_iff, isEmptiableOnce, someEmptiable_iff]
      simp only [List.mem_map, exists_exists_and_eq_and]
      exact exists_congr fun c => and_congr_right (each c)
    | all =>
      have proper : ∀ p ∈ parts a s members, p.occurs.Proper := by
        rw [parts_eq_map, List.forall_mem_map]
        exact fun c mem => (forall_mem_of_allProper all c mem).occurs
      rw [once, Part.nil_mem_inAnyOrder_iff proper, parts_eq_map, List.forall_mem_map,
        isEmptiableOnce, allEmptiable_iff]
      · exact forall₂_congr each
      · nofun

theorem nil_mem_repeated_iff (cs : List Content) (proper : AllProper cs) :
    ∀ c ∈ cs, [] ∈ c.occurs.repeats (c.once a s) ↔ c.isEmptiable = true := by
  cases cs with
  | nil => exact List.forall_mem_nil _
  | cons c cs =>
    exact List.forall_mem_cons.mpr
      ⟨nil_mem_repeats_iff proper.1 (nil_mem_once_iff c proper.1), nil_mem_repeated_iff cs proper.2⟩

end

/-- A content admits the empty sequence if it may be left out. -/
theorem nil_mem_language_iff {content : Option Content} (proper : ∀ c ∈ content, c.Proper) :
    [] ∈ language a s content ↔ ∀ c ∈ content, c.isEmptiable = true := by
  cases content with
  | none => simp [language]
  | some c =>
    have proper := proper c rfl
    simpa [language] using nil_mem_repeats_iff proper (nil_mem_once_iff c proper)

end Content

/-! ## What a type is called -/

/-- The label of a complex type says whether it has a simple content, and if not, whether text may
stand between its elements. -/
structure ComplexType.IsLabelled (t : ComplexType) : Prop where
  simple : t.label = .simple ↔ t.valueType.isSome = true
  mixed : t.label = .mixed ↔ t.mixed = true

/-- A type without a simple content has no literals. -/
theorem ComplexType.IsLabelled.plain {t : ComplexType} (labelled : t.IsLabelled)
    (label : t.label ≠ .simple) : t.valueType.isSome = false := by
  simpa [labelled.simple] using label

namespace Derivation

theorem contentLabel_ne_simple {content : Option Content} {mixed : Bool} :
    contentLabel content mixed ≠ .simple := by
  cases content <;> cases mixed <;> simp [contentLabel]

theorem contentLabel_eq_mixed_iff {content : Option Content} {mixed : Bool} :
    contentLabel content mixed = .mixed ↔ mixed = true := by
  cases content <;> cases mixed <;> simp [contentLabel]

theorem isLabelled_anyType {t : ComplexType} (h : anyType.effective = .complex t) :
    t.IsLabelled := by
  cases h
  exact ⟨by decide, by decide⟩

theorem isLabelled_of_deriveComplex {a : Arena} {need : Need} {id : TypeId}
    {definition : ComplexTypeDef} {info : TypeInfo} {s u : DerivationState} (other : id ≠ .anyType)
    (h : Yields (deriveComplex a need id definition) s info u) {t : ComplexType}
    (effective : info.effective = .complex t) : t.IsLabelled := by
  unfold deriveComplex at h
  rw [if_neg other] at h
  extract_lets owner at h
  obtain ⟨baseId, _, -, h⟩ := yields_bind_iff.mp h
  obtain ⟨_, _, -, h⟩ := yields_bind_iff.mp h
  obtain ⟨base, _, -, h⟩ := yields_bind_iff.mp h
  obtain ⟨own, _, -, h⟩ := yields_bind_iff.mp h
  extract_lets inherited finish at h
  obtain ⟨attributes, _, -, h⟩ := yields_bind_iff.mp h
  split at h
  · obtain ⟨v, _, -, h⟩ := yields_bind_iff.mp h
    obtain ⟨c, _, hc, h⟩ := yields_bind_iff.mp h
    obtain ⟨rfl, -⟩ := yields_pure_iff.mp hc
    obtain ⟨rfl, -⟩ := yields_pure_iff.mp h
    cases effective
    exact ⟨by simp, by simp⟩
  · obtain ⟨⟨content, mixed⟩, _, -, h⟩ := yields_bind_iff.mp h
    obtain ⟨c, _, hc, h⟩ := yields_bind_iff.mp h
    obtain ⟨rfl, -⟩ := yields_pure_iff.mp hc
    obtain ⟨rfl, -⟩ := yields_pure_iff.mp h
    cases effective
    exact ⟨by simp [contentLabel_ne_simple], contentLabel_eq_mixed_iff⟩

/-- What is said of the label of a derived type. -/
def HasOwnLabel : Claim := fun _ _ info => ∀ t, info.effective = .complex t → t.IsLabelled

theorem hasOwnLabel_isInductive (a : Arena) : Claim.IsInductive HasOwnLabel a where
  mono _ h := h
  made {need id definition s info u} hd hneed sound h t effective := by
    cases definition with
    | simple definition =>
      by_cases special : id = .anySimpleType
      · subst special
        obtain ⟨rfl, -⟩ := yields_pure_iff.mp h
        cases effective
      · cases yields_deriveSimple special h <;> cases effective
    | complex definition =>
      by_cases special : id = .anyType
      · subst special
        obtain ⟨rfl, -⟩ := yields_pure_iff.mp h
        exact isLabelled_anyType effective
      · exact isLabelled_of_deriveComplex special h effective

theorem isLabelled_of_complex? {a : Arena} {id : TypeId} {t : ComplexType}
    (complex : (deriveAll a).1.complex? id = some t) : t.IsLabelled := by
  obtain ⟨base, method, entry⟩ := DerivedTypes.get?_of_complex? complex
  exact deriveAll_holds (hasOwnLabel_isInductive a) entry t rfl

end Derivation

/-! ## Values in the place of a content -/

namespace ContentModel

variable {a : Arena} {s : SubstitutionGroups} {limits : Limits} {id : TypeId} {automaton : Automaton}

/-- A type with a content model has literals, or is complex without a simple content. In that case
it has an automaton, unless there is nothing between whose parts text may stand. -/
theorem ofType_cases {model : ContentModel}
    (h : ofType a (Derivation.deriveAll a).1 s limits id = .ok model) :
    (∃ v t, model = .simple v ∧ (Derivation.deriveAll a).1.valueType? id = some t) ∨
    ∃ t, (Derivation.deriveAll a).1.complex? id = some t ∧ t.label ≠ .simple ∧
      (model = .empty ∧ t.mixed = false ∨ ∃ automaton, model = .elements automaton t.mixed ∧
        automatonOf ⟨a, s, limits, a.typeName id⟩ t.content = .ok automaton) := by
  unfold ofType at h
  dsimp only at h
  split at h
  · cases h
  · rename_i entry
    cases h
    exact Or.inl ⟨_, _, rfl, DerivedTypes.valueType?_of_get? entry⟩
  · rename_i base method t entry
    have complex := DerivedTypes.complex?_of_get? entry rfl
    have labelled := Derivation.isLabelled_of_complex? complex
    split at h
    · rename_i empty
      cases h
      refine Or.inr ⟨t, complex, by simp [empty], Or.inl ⟨rfl, ?_⟩⟩
      simpa [empty] using labelled.mixed.symm
    · rename_i simple
      cases h
      obtain ⟨v, hv⟩ := Option.isSome_iff_exists.mp (labelled.simple.mp simple)
      exact Or.inl ⟨_, v, rfl, (DerivedTypes.valueType?_of_get? entry).trans hv⟩
    · rename_i simple
      obtain ⟨automaton, built, same⟩ := bind_eq_ok_iff.mp h
      cases same
      exact Or.inr ⟨t, complex, simple, Or.inr ⟨automaton, rfl, built⟩⟩

/-- A model of elements is that of a complex type without a simple content. -/
theorem complex?_of_ofType {mixed : Bool}
    (h : ofType a (Derivation.deriveAll a).1 s limits id = .ok (.elements automaton mixed)) :
    ∃ t, (Derivation.deriveAll a).1.complex? id = some t ∧ t.label ≠ .simple ∧ t.mixed = mixed ∧
      automatonOf ⟨a, s, limits, a.typeName id⟩ t.content = .ok automaton := by
  rcases ofType_cases h with ⟨_, _, ⟨⟩, -⟩ | ⟨t, complex, label, ⟨⟨⟩, -⟩ | ⟨_, ⟨⟩, built⟩⟩
  exact ⟨t, complex, label, rfl, built⟩

end ContentModel

/-- Without a simple content, only the bounds of the content decide whether a value can stand in its
place. -/
theorem Arena.elementConstraintError?_eq_none_iff {a : Arena} {d : DerivedTypes} {e : ElementId}
    {decl : ElementDecl} {k : ValueConstraint} {t : ComplexType}
    (declared : a.element? e = some decl) (constrained : decl.constraint = some k)
    (complex : d.complex? (a.elementType e) = some t) (plain : t.valueType.isSome = false) :
    a.elementConstraintError? d e = none ↔ t.admitsText = true := by
  obtain ⟨base, method, entry⟩ := DerivedTypes.get?_of_complex? complex
  have same : a.elementConstraintError? d e =
      if t.admitsText then none
      else some (.invalidValueConstraint (decl.info.describe .element) k .noValue) := by
    simp [elementConstraintError?, declared, constrained, entry, plain]
  rw [same]
  split <;> simp [*]

/-- Text can stand in the place of a content that is there and may occur, if that need not. -/
theorem ComplexType.admitsText_iff {t : ComplexType} (mixed : t.mixed = true)
    (full : ∀ c ∈ t.content, c.isEmpty = false) :
    t.admitsText = true ↔ ∀ c ∈ t.content, c.occurs.min = 0 := by
  rw [admitsText, mixed, Bool.true_and]
  cases h : t.content with
  | none => simp
  | some c => simp [full c h]

open Schema Resolution

namespace Model

variable {supply : Supply} {documents : List Document} {report : ResolutionReport} {b : Assembly}
  {substitutions : SubstitutionGroups} {limits : Limits} {id : TypeId} {automaton : Automaton}
  {t : ComplexType}

/-- The contents of the types of an assembly are in order and may occur. -/
theorem isComposed_of_assembled (isAssembled : assembled supply documents = .ok (report, b))
    (complex : (Derivation.deriveAll b.arena).1.complex? id = some t) : t.IsComposed := by
  obtain ⟨base, method, entry⟩ := DerivedTypes.get?_of_complex? complex
  exact Derivation.deriveAll_holds
    (Derivation.hasComposedContent_isInductive (isShaped_of_assembled isAssembled)) entry t rfl

/-- The automaton of a type accepts the empty sequence if the content may be left out. -/
theorem accepts_nil_iff (isAssembled : assembled supply documents = .ok (report, b))
    (complex : (Derivation.deriveAll b.arena).1.complex? id = some t)
    (built : ContentModel.automatonOf ⟨b.arena, substitutions, limits, b.arena.typeName id⟩
      t.content = .ok automaton) :
    automaton.accepts [] = true ↔ ∀ c ∈ t.content, c.isEmptiable = true := by
  have proper := (isComposed_of_assembled isAssembled complex).proper
  rw [← Content.nil_mem_language_iff proper (a := b.arena) (s := substitutions),
    ← ContentModel.language_automatonOf proper built]
  rfl

/-- A value can stand in the place of a mixed content if that need not occur. -/
theorem constraintError_eq_none_iff (isAssembled : assembled supply documents = .ok (report, b))
    {e : ElementId} {decl : ElementDecl} {k : ValueConstraint}
    (declared : b.arena.element? e = some decl) (constrained : decl.constraint = some k)
    (complex : (Derivation.deriveAll b.arena).1.complex? (b.arena.elementType e) = some t)
    (label : t.label ≠ .simple) (mixed : t.mixed = true) :
    b.arena.elementConstraintError? (Derivation.deriveAll b.arena).1 e = none ↔
      ∀ c ∈ t.content, c.occurs.min = 0 := by
  rw [Arena.elementConstraintError?_eq_none_iff declared constrained complex
      ((Derivation.isLabelled_of_complex? complex).plain label),
    ComplexType.admitsText_iff mixed (isComposed_of_assembled isAssembled complex).full]

/-- A value can stand in the place of a mixed content only if the automaton accepts the empty
sequence, and then only if the content need not occur at all where it can occur without an
element. -/
theorem constraintError_eq_none_iff_accepts_nil
    (isAssembled : assembled supply documents = .ok (report, b))
    (hmodel : ContentModel.ofType b.arena (Derivation.deriveAll b.arena).1 substitutions limits id =
      .ok (.elements automaton true))
    {e : ElementId} {decl : ElementDecl} {k : ValueConstraint}
    (declared : b.arena.element? e = some decl) (constrained : decl.constraint = some k)
    (typed : b.arena.elementType e = id) :
    ∃ t, (Derivation.deriveAll b.arena).1.complex? id = some t ∧
      (automaton.accepts [] = true ↔ ∀ c ∈ t.content, c.isEmptiable = true) ∧
      (b.arena.elementConstraintError? (Derivation.deriveAll b.arena).1 e = none ↔
        automaton.accepts [] = true ∧
          ∀ c ∈ t.content, c.isEmptiableOnce = true → c.occurs.min = 0) := by
  obtain ⟨t, complex, label, mixed, built⟩ := ContentModel.complex?_of_ofType hmodel
  have accepts := accepts_nil_iff isAssembled complex built
  refine ⟨t, complex, accepts, ?_⟩
  rw [constraintError_eq_none_iff isAssembled declared constrained (typed ▸ complex) label mixed,
    accepts, ← forall₂_and]
  refine forall₂_congr fun c _ => ?_
  rw [Content.isEmptiable, Bool.or_eq_true, beq_iff_eq]
  constructor
  · intro never
    exact ⟨Or.inl never, fun _ => never⟩
  · rintro ⟨never | once, must⟩
    · exact never
    · exact must once

/-- In letters and in notes stands for whom they are, but need not. In a letter the name is optional,
in a note the group around it. -/
def letters : Document :=
  ⟨.memory "letters.xsd", some ⟨⟨.xsd "schema", .empty, default, 0⟩,
    [schemaNode "complexType" [("name", "Letter"), ("mixed", "true")]
        [schemaNode "sequence" [] [schemaNode "element" [("name", "to"), ("minOccurs", "0")] []]],
      schemaNode "complexType" [("name", "Note"), ("mixed", "true")]
        [schemaNode "sequence" [("minOccurs", "0")] [schemaNode "element" [("name", "to")] []]],
      schemaNode "element" [("name", "letter"), ("type", "Letter"), ("default", "Hello")] [],
      schemaNode "element" [("name", "note"), ("type", "Note"), ("default", "none")] []]⟩⟩

/-- The content of a letter or of a note. -/
def letterContent (letter : Bool) : Content :=
  if letter then .group .once .sequence [.element .optional ⟨0⟩]
  else .group .optional .sequence [.element .once ⟨1⟩]

def isLetterContent (letter : Bool) : Content → Bool
  | .group outer .sequence [.element inner id] =>
    (outer, inner, id) == if letter then (.once, .optional, ⟨0⟩) else (.optional, .once, ⟨1⟩)
  | _ => false

theorem eq_letterContent {letter : Bool} {c : Content} (h : isLetterContent letter c = true) :
    c = letterContent letter := by
  unfold isLetterContent at h
  split at h
  · have same := eq_of_beq h
    cases letter <;> cases same <;> rfl
  · cases h

def letterDecl (letter : Bool) : ElementDecl :=
  if letter then
    { drawingElement "letter" (.named ⟨drawingName "Letter", some ⟨46⟩⟩) none false with
      constraint := some ⟨false, "Hello"⟩ }
  else
    { drawingElement "note" (.named ⟨drawingName "Note", some ⟨47⟩⟩) none false with
      constraint := some ⟨false, "none"⟩ }

def letterElement (letter : Bool) : ElementId := if letter then ⟨2⟩ else ⟨3⟩

def letterType (letter : Bool) : TypeId := if letter then ⟨46⟩ else ⟨47⟩

theorem automatonOf_letterContent {a : Arena} (owner : String)
    (elements : a.elements =
      #[coordinate "to", coordinate "to", letterDecl true, letterDecl false]) (letter : Bool) :
    (ContentModel.automatonOf ⟨a, .ofArena a, .standard, owner⟩
      (some (letterContent letter))).isOk = true := by
  obtain ⟨types, _, attributes, groups, attributeGroups⟩ := a
  cases elements
  cases letter
  · cbv
  · cbv

private theorem letters_computed :
    (assembled ⟨none, .standard⟩ [letters]).isOk = true ∧
      (readAll [letters]).2.arena.elements =
        #[coordinate "to", coordinate "to", letterDecl true, letterDecl false] ∧
      ∀ letter : Bool,
        (readAll [letters]).2.arena.elementType (letterElement letter) = letterType letter ∧
          ((Derivation.deriveAll (readAll [letters]).2.arena).1.complex? (letterType letter)).map
            (fun t => (t.label, t.mixed, t.content.map (isLetterContent letter))) =
              some (.mixed, true, some true) := by
  decide +kernel

/-- The schema is read, and both contents have automata. -/
theorem exists_letters : ∃ report b, assembled ⟨none, .standard⟩ [letters] = .ok (report, b) ∧
    ∀ letter, ∃ t automaton,
      b.arena.element? (letterElement letter) = some (letterDecl letter) ∧
      b.arena.elementType (letterElement letter) = letterType letter ∧
      (Derivation.deriveAll b.arena).1.complex? (letterType letter) = some t ∧
      t.content = some (letterContent letter) ∧
      contentOf b.arena .standard (letterType letter) = .ok (.elements automaton true) := by
  obtain ⟨isOk, elements, types⟩ := letters_computed
  obtain ⟨⟨report, b⟩, isAssembled⟩ := isOk_iff.mp isOk
  have same : readAll [letters] = (report, b) := by
    rw [readAll, isAssembled]
    rfl
  rw [same] at elements types
  refine ⟨report, b, isAssembled, fun letter => ?_⟩
  obtain ⟨typed, derived⟩ := types letter
  obtain ⟨t, complex, same⟩ := Option.map_eq_some_iff.mp derived
  obtain ⟨label, same⟩ := Prod.mk.inj same
  obtain ⟨mixed, same⟩ := Prod.mk.inj same
  obtain ⟨c, hc, isContent⟩ := Option.map_eq_some_iff.mp same
  rw [eq_letterContent isContent] at hc
  obtain ⟨automaton, built⟩ :=
    isOk_iff.mp (automatonOf_letterContent (b.arena.typeName (letterType letter)) elements letter)
  rw [← hc] at built
  refine ⟨t, automaton, ?_, typed, complex, hc, mixed ▸ contentOf_eq_elements complex (Or.inr label)
    built⟩
  rw [Arena.element?, elements]
  cases letter <;> rfl

/-- A note can have a default value, as its automaton accepts the empty sequence. -/
theorem constraintError_note : ∃ report b t automaton,
    assembled ⟨none, .standard⟩ [letters] = .ok (report, b) ∧
      contentOf b.arena .standard ⟨47⟩ = .ok (.elements automaton true) ∧
      b.arena.element? ⟨3⟩ = some (letterDecl false) ∧ b.arena.elementType ⟨3⟩ = ⟨47⟩ ∧
      (Derivation.deriveAll b.arena).1.complex? ⟨47⟩ = some t ∧
      (automaton.accepts [] = true ↔ ∀ c ∈ t.content, c.isEmptiable = true) ∧
      (b.arena.elementConstraintError? (Derivation.deriveAll b.arena).1 ⟨3⟩ = none ↔
        automaton.accepts [] = true ∧
          ∀ c ∈ t.content, c.isEmptiableOnce = true → c.occurs.min = 0) ∧
      automaton.accepts [] = true ∧
      b.arena.elementConstraintError? (Derivation.deriveAll b.arena).1 ⟨3⟩ = none := by
  obtain ⟨report, b, isAssembled, contents⟩ := exists_letters
  obtain ⟨t, automaton, declared, typed, complex, content, hmodel⟩ := contents false
  obtain ⟨t', complex', accepts, clean⟩ :=
    constraintError_eq_none_iff_accepts_nil isAssembled hmodel declared rfl typed
  cases complex.symm.trans complex'
  have accepted : automaton.accepts [] = true := by
    rw [accepts, content]
    rintro _ ⟨⟩
    rfl
  refine ⟨report, b, t, automaton, isAssembled, hmodel, declared, typed, complex, accepts, clean,
    accepted, clean.mpr ⟨accepted, ?_⟩⟩
  rw [content]
  rintro _ ⟨⟩ -
  rfl

/-- A letter cannot have a default value, though its automaton accepts the empty sequence: the name
is optional, but the group around it has to occur. -/
theorem not_constraintError_eq_none_iff_accepts_nil :
    ¬ ∀ (supply : Supply) (documents : List Document) (report : ResolutionReport) (b : Assembly)
      (id : TypeId) (automaton : Automaton) (e : ElementId) (decl : ElementDecl)
      (k : ValueConstraint), assembled supply documents = .ok (report, b) →
      contentOf b.arena supply.limits id = .ok (.elements automaton true) →
      b.arena.element? e = some decl → decl.constraint = some k → b.arena.elementType e = id →
      (b.arena.elementConstraintError? (Derivation.deriveAll b.arena).1 e = none ↔
        automaton.accepts [] = true) := by
  intro always
  obtain ⟨report, b, isAssembled, contents⟩ := exists_letters
  obtain ⟨t, automaton, declared, typed, complex, content, hmodel⟩ := contents true
  obtain ⟨t', complex', label, mixed, built⟩ := ContentModel.complex?_of_ofType hmodel
  cases complex.symm.trans complex'
  have accepted : automaton.accepts [] = true := by
    rw [accepts_nil_iff isAssembled complex built, content]
    rintro _ ⟨⟩
    rfl
  have clean := (always _ _ _ _ _ _ _ _ _ isAssembled hmodel declared rfl typed).mpr accepted
  rw [constraintError_eq_none_iff isAssembled declared rfl (typed ▸ complex) label mixed] at clean
  cases clean _ content

end Model

end Xsd
