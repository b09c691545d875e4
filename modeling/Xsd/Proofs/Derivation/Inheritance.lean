import Xsd.Proofs.Derivation.Attributes

/-!
# Inherited attributes

A type that restricts another one does not widen its attributes. What a complex type requires, all
types that descend from it require, by whatever extensions and restrictions they do.
-/

namespace Xsd

namespace Derivation

variable {a : Arena} {d e : DerivedTypes} {id base : TypeId} {info : TypeInfo}

/-- How a type comes by its attributes. A simple type has none, and neither has its base, which is a
simple type or one of the two most general types. -/
inductive Inherits (a : Arena) (d : DerivedTypes) (id : TypeId) : TypeInfo → Prop
  | simple {p : TypeId} {u : ValueType} :
    (∃ info w, d.get? p = some info ∧ info.effective = .simple w) ∨ p = .anySimpleType ∨
        p = .anyType →
      Inherits a d id ⟨some p, .restriction, .simple u⟩
  | anyType : id = .anyType → Inherits a d id anyType
  | complex {definition : ComplexTypeDef} {p : TypeId} {base : TypeInfo} {c : ComplexType} :
    a.type? id = some (.complex definition) → id ≠ .anyType → d.get? p = some base →
      c.attributeSet.Merges d definition.derivation base.effective.attributeSet →
      c.attributes.Permitted → Inherits a d id ⟨some p, definition.derivation, .complex c⟩

theorem Inherits.permitted (h : Inherits a d id info) :
    info.effective.attributeSet.attributes.Permitted := by
  cases h with
  | simple => exact fun x mem => by cases mem
  | anyType => exact fun x mem => by cases mem
  | complex _ _ _ _ permitted => exact permitted

theorem Inherits.mono (below : d.Below e) (h : Inherits a d id info) : Inherits a e id info := by
  cases h with
  | simple based =>
    refine .simple (based.imp_left ?_)
    rintro ⟨info, w, entry, effective⟩
    exact ⟨info, w, below entry, effective⟩
  | anyType same => exact .anyType same
  | complex hd other entry merges permitted =>
    exact .complex hd other (below entry) (merges.mono below) permitted

theorem inherits_isInductive (a : Arena) : Claim.IsInductive (Inherits a) a where
  mono := Inherits.mono
  made {need id definition s info t} hd hneed sound h := by
    have advance := (upholds_deriveDefinition (hneed s) id definition).of_yields h ⟨sound, .refl s⟩
    cases definition with
    | simple definition =>
      by_cases special : id = .anySimpleType
      · subst special
        obtain ⟨rfl, rfl⟩ := yields_pure_iff.mp h
        exact .simple (Or.inr (Or.inr rfl))
      · cases yields_deriveSimple special h with
        | restriction _ _ simple _ _ =>
          obtain ⟨info, entry, effective⟩ := DerivedTypes.get?_of_simple? simple
          exact .simple (Or.inl ⟨info, _, entry, effective⟩)
        | list _ _ _ _ => exact .simple (Or.inr (Or.inl rfl))
        | union _ => exact .simple (Or.inr (Or.inl rfl))
    | complex definition =>
      by_cases special : id = .anyType
      · subst special
        obtain ⟨rfl, rfl⟩ := yields_pure_iff.mp h
        exact .anyType rfl
      · obtain ⟨baseId, base, c, derives⟩ := yields_deriveComplex hneed sound special h
        cases derives.eq
        obtain ⟨owner, own, u, v, below, merged⟩ := derives.attributes
        have merges := (yields_merge merged).mono below
        have permitted := (advance.sound.holds derives.entry).permitted
        exact .complex hd special derives.entry merges (merges.permitted permitted)

theorem deriveAll_inherits (h : (deriveAll a).1.get? id = some info) :
    Inherits a (deriveAll a).1 id info :=
  deriveAll_holds (inherits_isInductive a) h

/-- A declaration in place of an attribute of a builtin type. -/
def localAttribute (name : String) (type : Builtin) (constraint : Option ValueConstraint) :
    AttributeDecl :=
  ⟨.ofLocal (some ⟨none, name⟩) ⟨1⟩, some (.known type.localName type.typeId), constraint⟩

/-- A complex type without content. -/
def emptyType (base : TypeUse) (derivation : DerivationMethod) (attributes : AttributeDecls) :
    TypeDefinition :=
  .complex ⟨.ofLocal none ⟨1⟩, some base, derivation, .particle none, false, false, attributes⟩

/-- After the types that are there from the start, down to `token`, a type with a fixed code, a note
and any further attributes; a restriction of it to a narrower code and a title, without the note;
and an extension of that one by a label. -/
def parts : Arena :=
  { Arena.empty with
    attributes := #[localAttribute "code" .string (some ⟨true, "x"⟩),
      localAttribute "note" .string none, localAttribute "code" .token (some ⟨true, "x"⟩),
      localAttribute "title" .token none, localAttribute "label" .string none]
    types := (Arena.initial Registry.builtinDocument).types.take 5 ++
      #[emptyType .anyType .restriction
          ⟨[⟨.own ⟨0⟩, .required, none⟩, ⟨.own ⟨1⟩, .optional, none⟩], [], some .anyLax⟩,
        emptyType (.own ⟨5⟩) .restriction
          ⟨[⟨.own ⟨2⟩, .required, none⟩, ⟨.own ⟨1⟩, .prohibited, none⟩,
            ⟨.own ⟨3⟩, .optional, none⟩], [], none⟩,
        emptyType (.own ⟨6⟩) .extension ⟨[⟨.own ⟨4⟩, .required, none⟩], [], none⟩] }

/-- A complex type without content, with the given attributes. -/
def emptyWith (attributes : List EffectiveAttribute) (wildcard : Option Wildcard) : ComplexType :=
  ⟨.empty, none, false, none, ⟨attributes.map fun x => (x.name, x)⟩, wildcard, false⟩

def part : ComplexType :=
  emptyWith [⟨⟨none, "code"⟩, ⟨0⟩, Builtin.string.typeId, .required, some ⟨true, "x"⟩⟩,
    ⟨⟨none, "note"⟩, ⟨1⟩, Builtin.string.typeId, .optional, none⟩] (some .anyLax)

def codedPart : ComplexType :=
  emptyWith [⟨⟨none, "code"⟩, ⟨2⟩, Builtin.token.typeId, .required, some ⟨true, "x"⟩⟩,
    ⟨⟨none, "title"⟩, ⟨3⟩, Builtin.token.typeId, .optional, none⟩] none

def labelledPart : ComplexType :=
  emptyWith [⟨⟨none, "code"⟩, ⟨2⟩, Builtin.token.typeId, .required, some ⟨true, "x"⟩⟩,
    ⟨⟨none, "title"⟩, ⟨3⟩, Builtin.token.typeId, .optional, none⟩,
    ⟨⟨none, "label"⟩, ⟨4⟩, Builtin.string.typeId, .required, none⟩] none

set_option maxRecDepth 20000 in
theorem parts_entries :
    (deriveAll parts).1.complex? ⟨5⟩ = some part ∧
      (deriveAll parts).1.get? ⟨6⟩ = some ⟨some ⟨5⟩, .restriction, .complex codedPart⟩ ∧
      (deriveAll parts).1.complex? ⟨7⟩ = some labelledPart ∧
      (deriveAll parts).1.chain ⟨7⟩ = [⟨7⟩, ⟨6⟩, ⟨5⟩, .anyType] := by
  cbv

/-! ## Restrictions -/

/-- A type that restricts a complex type admits no attribute that its base does not admit. Of those
that both have it may allow less, with a type that derives from that in the base, and keeps what is
fixed there; what the base requires it requires. -/
theorem attributes_of_restriction {t b : ComplexType}
    (restriction : (deriveAll a).1.get? id = some ⟨some base, .restriction, .complex t⟩)
    (complex : (deriveAll a).1.complex? base = some b) :
    (∀ name, t.attributeSet.Admits name → b.attributeSet.Admits name) ∧
      (∀ name x y, t.attributes.get? name = some x → b.attributes.get? name = some y →
        x.Narrows (deriveAll a).1 y) ∧
      ∀ name y, b.attributes.get? name = some y → y.use = .required →
        ∃ x, t.attributes.get? name = some x ∧ x.use = .required := by
  obtain ⟨p, method, entry⟩ := DerivedTypes.get?_of_complex? complex
  have restricts : t.attributeSet.Restricts (deriveAll a).1 b.attributeSet := by
    generalize hm : DerivationMethod.restriction = restricting at restriction
    cases deriveAll_inherits restriction with
    | complex _ _ entry' merges _ =>
      cases entry.symm.trans entry'
      exact merges.restricts (by rw [← hm]; decide)
  refine ⟨fun name => restricts.admits, fun name x y => restricts.narrows, ?_⟩
  intro name y hy required
  obtain ⟨x, hx, narrows⟩ := restricts.carries name y hy required
  exact ⟨x, hx, narrows.required required⟩

theorem attributes_of_codedPart :
    (deriveAll parts).1.get? ⟨6⟩ = some ⟨some ⟨5⟩, .restriction, .complex codedPart⟩ ∧
      (deriveAll parts).1.complex? ⟨5⟩ = some part ∧
      (∀ name, codedPart.attributeSet.Admits name → part.attributeSet.Admits name) ∧
      (∀ name x y, codedPart.attributes.get? name = some x → part.attributes.get? name = some y →
        x.Narrows (deriveAll parts).1 y) ∧
      ∀ name y, part.attributes.get? name = some y → y.use = .required →
        ∃ x, codedPart.attributes.get? name = some x ∧ x.use = .required := by
  obtain ⟨base, restriction, -, -⟩ := parts_entries
  exact ⟨restriction, base, attributes_of_restriction restriction base⟩

/-! ## Chains of extensions and restrictions -/

/-- The base of a simple type has no attributes, if the most general simple type is simple. -/
theorem attributes_base_of_simple
    (inherits : ∀ {id info}, d.get? id = some info → Inherits a d id info)
    (general : ∀ definition, a.type? .anySimpleType = some definition → definition.isSimple = true)
    (based : (∃ info w, d.get? base = some info ∧ info.effective = .simple w) ∨
      base = .anySimpleType ∨ base = .anyType)
    (entry : d.get? base = some info) : info.effective.attributeSet.attributes = .empty := by
  rcases based with ⟨info', w, entry', effective⟩ | rfl | rfl
  · cases entry.symm.trans entry'
    rw [effective]
    rfl
  · cases inherits entry with
    | simple => rfl
    | anyType => rfl
    | complex hd =>
      cases general _ hd
  · cases inherits entry with
    | simple => rfl
    | anyType => rfl
    | complex _ other => exact absurd rfl other

/-- By induction along the way to the base. On the way through a simple type there is no attribute,
and then none that the base requires. -/
theorem carries_of_descends
    (inherits : ∀ {id info}, d.get? id = some info → Inherits a d id info)
    (general : ∀ definition, a.type? .anySimpleType = some definition → definition.isSimple = true)
    {info' : TypeInfo} (entry' : d.get? base = some info') (h : d.Descends id base)
    (entry : d.get? id = some info) :
    info.effective.attributeSet.attributes.Carries d info'.effective.attributeSet.attributes := by
  induction h using Relation.ReflTransGen.head_induction_on generalizing info with
  | refl =>
    cases entry.symm.trans entry'
    exact .refl d _
  | head step rest ih =>
    rename_i id next
    rw [DerivedTypes.base?, entry] at step
    cases inherits entry with
    | simple based =>
      cases step
      cases hn : d.get? next with
      | none =>
        cases DerivedTypes.Descends.eq_of_base? rest (DerivedTypes.base?_eq_none hn)
        cases hn.symm.trans entry'
      | some info =>
        have carries := ih hn
        rwa [attributes_base_of_simple inherits general based hn] at carries
    | anyType => cases step
    | complex _ _ between merges _ =>
      cases step
      exact merges.carries.trans (ih between)

/-- What a complex type requires, a complex type with it in its chain requires too, with a type that
derives from the one there, and fixed to the same value; and no type has an attribute that must not
be used. -/
theorem attributes_of_mem_chain
    (general : ∀ definition, a.type? .anySimpleType = some definition → definition.isSimple = true) :
    (∀ id base t b, (deriveAll a).1.complex? id = some t → (deriveAll a).1.complex? base = some b →
      base ∈ (deriveAll a).1.chain id →
      ∀ name y, b.attributes.get? name = some y → y.use = .required →
        ∃ x, t.attributes.get? name = some x ∧ x.use = .required ∧
          (deriveAll a).1.isDerivedFrom x.type y.type = true ∧
          ∀ c, y.constraint = some c → c.fixed = true → x.constraint = some c) ∧
      ∀ id t, (deriveAll a).1.complex? id = some t →
        ∀ x ∈ t.attributes.values, x.use ≠ .prohibited := by
  constructor
  · intro id base t b complex complex' mem name y hy required
    obtain ⟨p, method, entry⟩ := DerivedTypes.get?_of_complex? complex
    obtain ⟨p', method', entry'⟩ := DerivedTypes.get?_of_complex? complex'
    have descends := DerivedTypes.descends_of_isDerivedFrom (List.contains_iff_mem.mpr mem)
    have carries := carries_of_descends deriveAll_inherits general entry' descends entry
    obtain ⟨x, hx, narrows⟩ := carries name y hy required
    exact ⟨x, hx, narrows.required required, narrows.type, fun c => narrows.fixed⟩
  · intro id t complex
    obtain ⟨p, method, entry⟩ := DerivedTypes.get?_of_complex? complex
    exact (deriveAll_inherits entry).permitted

theorem code_of_labelledPart :
    (deriveAll parts).1.complex? ⟨7⟩ = some labelledPart ∧
      (deriveAll parts).1.complex? ⟨5⟩ = some part ∧
      ⟨5⟩ ∈ (deriveAll parts).1.chain ⟨7⟩ ∧
      ∃ x, labelledPart.attributes.get? ⟨none, "code"⟩ = some x ∧ x.use = .required ∧
        (deriveAll parts).1.isDerivedFrom x.type Builtin.string.typeId = true ∧
        x.constraint = some ⟨true, "x"⟩ := by
  obtain ⟨base, -, labelled, chain⟩ := parts_entries
  have mem : ⟨5⟩ ∈ (deriveAll parts).1.chain ⟨7⟩ := by rw [chain]; decide
  have general : ∀ definition, parts.type? .anySimpleType = some definition →
      definition.isSimple = true := by
    rintro _ ⟨⟩
    rfl
  obtain ⟨x, hx, required, narrower, fixed⟩ :=
    (attributes_of_mem_chain general).1 _ _ _ _ labelled base mem ⟨none, "code"⟩ _ rfl rfl
  exact ⟨labelled, base, mem, x, hx, required, narrower, fixed _ rfl rfl⟩

end Derivation

end Xsd
