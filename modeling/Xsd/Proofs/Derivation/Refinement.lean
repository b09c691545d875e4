import Xsd.Proofs.Derivation.Progress
import Xsd.Proofs.Derivation.ValueType
import Xsd.Proofs.Schema.Grounded

/-!
# Derived types refine their bases

Each type with literals refines its base, or is made directly from one of the two most general
types.
-/

namespace Xsd

/-- What literals the type admits, if it admits any. -/
def EffectiveType.valueType? : EffectiveType → Option ValueType
  | .simple t => some t
  | .complex t => t.valueType

/-- The attributes that the type has, with its wildcard. -/
def ComplexType.attributeSet (t : ComplexType) : Derivation.AttributeSet :=
  ⟨t.attributes, t.wildcard⟩

/-- The attributes that an extension or a restriction of the type starts from. -/
def EffectiveType.attributeSet : EffectiveType → Derivation.AttributeSet
  | .simple _ => ⟨.empty, none⟩
  | .complex t => t.attributeSet

namespace DerivedTypes

variable {d e : DerivedTypes} {id : TypeId} {t : ValueType}

theorem valueType?_eq (d : DerivedTypes) (id : TypeId) :
    d.valueType? id = (d.get? id).bind (·.effective.valueType?) := by
  unfold valueType?
  split <;> rename_i h <;> rw [h] <;> rfl

theorem valueType?_of_get? {info : TypeInfo} (h : d.get? id = some info) :
    d.valueType? id = info.effective.valueType? := by
  rw [valueType?_eq, h, Option.bind_some]

theorem Below.valueType? (below : d.Below e) (h : d.valueType? id = some t) :
    e.valueType? id = some t := by
  rw [valueType?_eq, Option.bind_eq_some_iff] at h ⊢
  obtain ⟨info, hi, ht⟩ := h
  exact ⟨info, below hi, ht⟩

theorem get?_of_simple? (h : d.simple? id = some t) :
    ∃ info, d.get? id = some info ∧ info.effective = .simple t := by
  unfold simple? at h
  split at h
  · rename_i hi
    cases h
    exact ⟨_, hi, rfl⟩
  · cases h

theorem get?_of_complex? {t : ComplexType} (h : d.complex? id = some t) :
    ∃ base method, d.get? id = some ⟨base, method, .complex t⟩ := by
  unfold complex? at h
  split at h
  · rename_i entry
    cases h
    exact ⟨_, _, entry⟩
  · cases h

theorem complex?_of_get? {info : TypeInfo} {t : ComplexType} (h : d.get? id = some info)
    (effective : info.effective = .complex t) : d.complex? id = some t := by
  obtain ⟨base, method, _⟩ := info
  cases effective
  rw [complex?, h]

end DerivedTypes

namespace Derivation

/-- A type with the given literals refines its base, unless that is one of the two most general
types. -/
def RestsOn (d : DerivedTypes) (t : ValueType) (base : TypeId) : Prop :=
  (∃ w, d.valueType? base = some w ∧ t.Refines w) ∨ base = .anySimpleType ∨ base = .anyType

/-- What the literals of a type owe to its base; and the types that are there from the start have
the literals that they should. -/
structure Restricts (a : Arena) (d : DerivedTypes) (id : TypeId) (info : TypeInfo) : Prop where
  base : ∀ {t p}, info.effective.valueType? = some t → info.base = some p → RestsOn d t p
  builtin : ∀ {b}, a.type? id = some (Arena.builtinType Registry.builtinDocument b) →
    b.item? = none → ∃ facets, info.effective = .simple (.atomic facets (some b))
  anySimpleType : id = .anySimpleType → info.effective = .simple .any
  anyType : id = .anyType → info = anyType

theorem RestsOn.mono {d e : DerivedTypes} (below : d.Below e) {t : ValueType} {base : TypeId}
    (h : RestsOn d t base) : RestsOn e t base := by
  rcases h with ⟨w, hw, refines⟩ | general
  · exact Or.inl ⟨w, below.valueType? hw, refines⟩
  · exact Or.inr general

theorem Restricts.mono {a : Arena} {d e : DerivedTypes} {id : TypeId} {info : TypeInfo}
    (below : d.Below e) (h : Restricts a d id info) : Restricts a e id info :=
  ⟨fun ht hp => (h.base ht hp).mono below, h.builtin, h.anySimpleType, h.anyType⟩

variable {a : Arena} {need : Need} {owner : String} {s t : DerivationState}

/-! ## Results of the parts of a derivation -/

theorem yields_expect_iff {α : Type} {x : Option α} {y : α} :
    Yields (Derive.expect x) s y t ↔ x = some y ∧ s = t := by
  cases x with
  | none =>
    constructor
    · intro h
      exact absurd h not_yields_throw
    · rintro ⟨⟨⟩, -⟩
  | some x =>
    rw [Option.some.injEq]
    exact yields_pure_iff

theorem yields_ofFacets_iff {α : Type} {result : Except (FacetKind × FacetFault) α} {x : α} :
    Yields (ofFacets owner result) s x t ↔ result = .ok x ∧ s = t := by
  cases result with
  | error fault =>
    constructor
    · intro h
      exact absurd h not_yields_throw
    · rintro ⟨⟨⟩, -⟩
  | ok y =>
    rw [Except.ok.injEq]
    exact yields_pure_iff

/-- An operand is a simple type that has been derived. -/
theorem yields_operand {action : String} {use : TypeUse} {id : TypeId} {w : ValueType}
    (h : Yields (operand a need owner action use) s (id, w) t) :
    use.target = some id ∧ t.derived.simple? id = some w := by
  obtain ⟨id', u, hid, h⟩ := yields_bind_iff.mp h
  obtain ⟨target, rfl⟩ := yields_expect_iff.mp hid
  obtain ⟨definition, u, hdef, h⟩ := yields_bind_iff.mp h
  split at h
  · exact absurd h not_yields_throw
  · obtain ⟨_, u, -, h⟩ := yields_bind_iff.mp h
    obtain ⟨_, _, hget, h⟩ := yields_bind_iff.mp h
    obtain ⟨rfl, rfl⟩ := yields_get_iff.mp hget
    obtain ⟨_, _, hw, h⟩ := yields_bind_iff.mp h
    obtain ⟨simple, rfl⟩ := yields_expect_iff.mp hw
    obtain ⟨same, rfl⟩ := yields_pure_iff.mp h
    cases same
    exact ⟨target, simple⟩

/-- A builtin type adds its facets, any other type is left as it is. -/
inductive Specializes (own : ValueType) : Option Builtin → ValueType → Prop
  | none : Specializes own none own
  | some {b : Builtin} {facets : FacetSet} :
    own.facets.restrict b.impliedFacets b.valueSpace = .ok facets →
      Specializes own (some b) (.atomic facets (some b))

theorem yields_specialize {builtin : Option Builtin} {own w : ValueType}
    (h : Yields (specialize owner builtin own) s w t) : Specializes own builtin w ∧ s = t := by
  cases builtin with
  | none =>
    obtain ⟨rfl, rfl⟩ := yields_pure_iff.mp h
    exact ⟨.none, rfl⟩
  | some b =>
    obtain ⟨facets, u, hf, h⟩ := yields_bind_iff.mp h
    obtain ⟨restricted, rfl⟩ := yields_ofFacets_iff.mp hf
    obtain ⟨rfl, rfl⟩ := yields_pure_iff.mp h
    exact ⟨.some restricted, rfl⟩

/-- What a simple type is derived as, by the types that are derived. -/
inductive DerivesSimple (d : DerivedTypes) (definition : SimpleTypeDef) : TypeInfo → Prop
  | restriction {use : TypeUse} {declared : List FacetDecl} {baseId : TypeId}
    {base own t : ValueType} :
    definition.variety = .restriction use declared → use.target = some baseId →
      d.simple? baseId = some base → base.restrict declared = .ok own →
      Specializes own definition.builtin t →
      DerivesSimple d definition ⟨some baseId, .restriction, .simple t⟩
  | list {use : TypeUse} {itemId : TypeId} {item : ValueType} {facets : FacetSet} :
    definition.variety = .list use → use.target = some itemId → d.simple? itemId = some item →
      FacetSet.empty.restrict (listFacets definition.builtin) .unordered = .ok facets →
      DerivesSimple d definition
        ⟨some .anySimpleType, .restriction, .simple (.list facets itemId item)⟩
  | union {uses : List TypeUse} {members : List (TypeId × ValueType)} :
    definition.variety = .union uses →
      DerivesSimple d definition
        ⟨some .anySimpleType, .restriction,
          .simple (.union .empty (members.map (·.1)) (members.map (·.2)))⟩

theorem yields_deriveSimple {id : TypeId} {definition : SimpleTypeDef} {info : TypeInfo}
    (other : id ≠ .anySimpleType) (h : Yields (deriveSimple a need id definition) s info t) :
    DerivesSimple t.derived definition info := by
  unfold deriveSimple at h
  rw [if_neg other] at h
  extract_lets owner at h
  split at h
  · rename_i use declared variety
    obtain ⟨⟨baseId, base⟩, u, hbase, h⟩ := yields_bind_iff.mp h
    obtain ⟨target, simple⟩ := yields_operand hbase
    obtain ⟨own, u', hown, h⟩ := yields_bind_iff.mp h
    obtain ⟨restricted, rfl⟩ := yields_ofFacets_iff.mp hown
    obtain ⟨w, u', hw, h⟩ := yields_bind_iff.mp h
    obtain ⟨special, rfl⟩ := yields_specialize hw
    obtain ⟨rfl, rfl⟩ := yields_pure_iff.mp h
    exact .restriction variety target simple restricted special
  · rename_i use variety
    obtain ⟨⟨itemId, item⟩, u, hitem, h⟩ := yields_bind_iff.mp h
    obtain ⟨target, simple⟩ := yields_operand hitem
    dsimp only at h
    split at h
    · exact absurd h not_yields_throw
    · obtain ⟨facets, u', hf, h⟩ := yields_bind_iff.mp h
      obtain ⟨restricted, rfl⟩ := yields_ofFacets_iff.mp hf
      obtain ⟨rfl, rfl⟩ := yields_pure_iff.mp h
      exact .list variety target simple restricted
  · rename_i uses variety
    obtain ⟨members, u, hm, h⟩ := yields_bind_iff.mp h
    obtain ⟨rfl, rfl⟩ := yields_pure_iff.mp h
    exact .union variety

/-- The literals of simple content are those of the base, or fewer. -/
theorem yields_deriveSimpleContent {definition : ComplexTypeDef} {baseId : TypeId}
    {base : EffectiveType} {facets : List FacetDecl} {v : ValueType}
    (h : Yields (deriveSimpleContent a owner definition baseId base facets) s v t) :
    ∃ w, base.valueType? = some w ∧ (v = w ∨ w.restrict facets = .ok v) := by
  unfold deriveSimpleContent at h
  extract_lets finish at h
  have finished : ∀ {w u}, Yields (finish w) u v t → v = w ∨ w.restrict facets = .ok v := by
    intro w u h
    unfold finish at h
    split at h
    · exact Or.inr (yields_ofFacets_iff.mp h).1
    · exact Or.inl (yields_pure_iff.mp h).1.symm
  split at h
  · split at h
    · obtain ⟨w, u, hw, h⟩ := yields_bind_iff.mp h
      obtain ⟨rfl, rfl⟩ := yields_pure_iff.mp hw
      exact ⟨_, rfl, finished h⟩
    · obtain ⟨w, u, hw, -⟩ := yields_bind_iff.mp h
      exact absurd hw not_yields_throw
  · split at h
    · rename_i valueType
      obtain ⟨w, u, hw, h⟩ := yields_bind_iff.mp h
      obtain ⟨rfl, rfl⟩ := yields_pure_iff.mp hw
      exact ⟨_, valueType, finished h⟩
    · obtain ⟨w, u, hw, -⟩ := yields_bind_iff.mp h
      exact absurd hw not_yields_throw

/-- The content that a type declares, if it does. -/
inductive Declares (a : Arena) : Option Particle → Option Content → Prop
  | none : Declares a none none
  | some {p : Particle} {own : Content} : expand a p = .ok own → Declares a (some p) (some own)

/-- The content of a type: none if that is simple, and else its own, which an extension adds to that
of the base. The base is then not of simple content either. -/
inductive Composes (a : Arena) (definition : ComplexTypeDef) (base : EffectiveType) :
    Option Content → Prop
  | simple {facets : List FacetDecl} :
    definition.content = .simple facets → Composes a definition base none
  | particle {particle : Option Particle} {b : ComplexType} {own : Option Content} :
    definition.content = .particle particle → base = .complex b → b.label ≠ .simple →
      Declares a particle own →
        Composes a definition base ((if definition.derivation = .extension then
          Content.extend b.content own else own).filter fun c => !c.isEmpty)

theorem yields_deriveContent {definition : ComplexTypeDef} {baseId : TypeId} {base : EffectiveType}
    {particle : Option Particle} {content : Option Content} {mixed : Bool}
    (declared : definition.content = .particle particle)
    (h : Yields (deriveContent a owner definition baseId base particle) s (content, mixed) t) :
    Composes a definition base content := by
  unfold deriveContent at h
  extract_lets refuse at h
  split at h
  · exact absurd h not_yields_throw
  · rename_i b
    split at h
    · exact absurd h not_yields_throw
    · rename_i label
      extract_lets compose at h
      have composed : ∀ own u, Declares a particle own → Yields (compose own) u (content, mixed) t →
          Composes a definition (.complex b) content := by
        intro own u declares h
        have same : content = (if definition.derivation = .extension then
            Content.extend b.content own else own).filter fun c => !c.isEmpty := by
          unfold compose at h
          cases method : definition.derivation <;>
          · rw [method] at h
            obtain ⟨same, -⟩ := yields_pure_iff.mp h
            exact (Prod.mk.inj same).1.symm
        exact same ▸ .particle declared rfl label declares
      split at h
      · rename_i p
        obtain ⟨own, u, hown, h⟩ := yields_bind_iff.mp h
        cases expanded : expand a p with
        | error e =>
          rw [expanded] at hown
          cases hown
        | ok c =>
          rw [expanded] at hown
          cases hown
          exact composed _ _ (.some expanded) h
      · obtain ⟨own, u, hown, h⟩ := yields_bind_iff.mp h
        obtain ⟨rfl, -⟩ := yields_pure_iff.mp hown
        exact composed _ _ .none h

/-- What a complex type is derived as: it is based on a type that has been derived before, and so are
its content, its literals and its attributes. -/
structure DerivesComplex (a : Arena) (d : DerivedTypes) (definition : ComplexTypeDef)
    (info : TypeInfo) (baseId : TypeId) (base : TypeInfo) (c : ComplexType) : Prop where
  eq : info = ⟨some baseId, definition.derivation, .complex c⟩
  based : definition.base.bind (·.target) = some baseId
  entry : d.get? baseId = some base
  content : Composes a definition base.effective c.content
  label : ∀ {particle}, definition.content = .particle particle →
    c.label = contentLabel c.content c.mixed
  literals : ∀ {v}, c.valueType = some v →
    ∃ w, base.effective.valueType? = some w ∧ (v = w ∨ ∃ facets, w.restrict facets = .ok v)
  attributes : ∃ owner own s t, s.derived.Below d ∧
    Yields (merge a owner definition.derivation base.effective.attributeSet own) s c.attributeSet t

/-- A complex type is abstract if its definition says so, and its attributes are the declared ones
merged with those of the base. -/
structure MergesOwn (a : Arena) (need : Need) (definition : ComplexTypeDef) (base : EffectiveType)
    (own : AttributeSet) (c : ComplexType) : Prop where
  isAbstract : c.isAbstract = definition.isAbstract
  declared : ∃ owner s t, Yields (declared a need owner [] definition.attributes) s own t
  merged : ∃ owner s t,
    Yields (merge a owner definition.derivation base.attributeSet own) s c.attributeSet t

theorem yields_deriveComplex_own {claim : Claim} (hneed : need.IsSound claim)
    (sound : Sound claim s) {id : TypeId} {definition : ComplexTypeDef} {info : TypeInfo}
    (other : id ≠ .anyType) (h : Yields (deriveComplex a need id definition) s info t) :
    ∃ baseId base own c, DerivesComplex a t.derived definition info baseId base c ∧
      MergesOwn a need definition base.effective own c := by
  unfold deriveComplex at h
  rw [if_neg other] at h
  extract_lets owner at h
  obtain ⟨baseId, u, hid, h⟩ := yields_bind_iff.mp h
  obtain ⟨based, rfl⟩ := yields_expect_iff.mp hid
  obtain ⟨_, u, hneeded, h⟩ := yields_bind_iff.mp h
  obtain ⟨base, u', hbase, h⟩ := yields_bind_iff.mp h
  obtain ⟨_, _, hget, hbase⟩ := yields_bind_iff.mp hbase
  obtain ⟨rfl, rfl⟩ := yields_get_iff.mp hget
  obtain ⟨entry, rfl⟩ := yields_expect_iff.mp hbase
  have start := (hneed s baseId).of_yields hneeded ⟨sound, .refl s⟩
  have found : Advances claim u u := ⟨start.sound, .refl u⟩
  obtain ⟨own, u₁, hown, h⟩ := yields_bind_iff.mp h
  have flat := (upholds_declared (hneed u) _ _).of_yields hown found
  extract_lets inherited finish at h
  have inherits : inherited = base.effective.attributeSet := by
    unfold inherited EffectiveType.attributeSet
    cases base.effective <;> rfl
  obtain ⟨attributes, u₂, hmerge, h⟩ := yields_bind_iff.mp h
  rw [inherits] at hmerge
  have merged := (upholds_merge _ _ _).of_yields hmerge (⟨flat.sound, .refl u₁⟩ : Advances claim _ _)
  split at h
  · rename_i declared
    obtain ⟨v, u₃, hv, h⟩ := yields_bind_iff.mp h
    have now := (upholds_deriveSimpleContent _ _ _ _).of_yields hv merged
    obtain ⟨c, u₄, hc, h⟩ := yields_bind_iff.mp h
    obtain ⟨rfl, rfl⟩ := yields_pure_iff.mp hc
    obtain ⟨rfl, rfl⟩ := yields_pure_iff.mp h
    refine ⟨baseId, base, own, _, ⟨rfl, based, now.extended.derived (flat.extended.derived entry),
      .simple declared, ?_, ?_, owner, own, u₁, u₂, now.extended.derived, hmerge⟩,
      rfl, ⟨_, _, _, hown⟩, ⟨_, _, _, hmerge⟩⟩
    · intro _ particle
      cases declared.symm.trans particle
    · rintro _ ⟨⟩
      obtain ⟨w, hw, restricted⟩ := yields_deriveSimpleContent hv
      exact ⟨w, hw, restricted.imp_right fun restricted => ⟨_, restricted⟩⟩
  · rename_i particle declared
    obtain ⟨⟨content, mixed⟩, u₃, hcontent, h⟩ := yields_bind_iff.mp h
    have now := (upholds_deriveContent _ _ _ _).of_yields hcontent merged
    obtain ⟨c, u₄, hc, h⟩ := yields_bind_iff.mp h
    obtain ⟨rfl, rfl⟩ := yields_pure_iff.mp hc
    obtain ⟨rfl, rfl⟩ := yields_pure_iff.mp h
    refine ⟨baseId, base, own, _, ⟨rfl, based, now.extended.derived (flat.extended.derived entry),
      yields_deriveContent declared hcontent, fun _ => rfl, ?_, owner, own, u₁, u₂,
      now.extended.derived, hmerge⟩, rfl, ⟨_, _, _, hown⟩, ⟨_, _, _, hmerge⟩⟩
    rintro _ ⟨⟩

theorem yields_deriveComplex {claim : Claim} (hneed : need.IsSound claim)
    (sound : Sound claim s) {id : TypeId} {definition : ComplexTypeDef} {info : TypeInfo}
    (other : id ≠ .anyType) (h : Yields (deriveComplex a need id definition) s info t) :
    ∃ baseId base c, DerivesComplex a t.derived definition info baseId base c := by
  obtain ⟨baseId, base, own, c, derives, -⟩ := yields_deriveComplex_own hneed sound other h
  exact ⟨baseId, base, c, derives⟩

/-! ## The claim is inductive -/

theorem base?_item? {b p : Builtin} (h : b.base? = some p) : p.item? = none := by
  cases b <;> cases h <;> rfl

/-- Builtin types restrict the type that they should, and declare nothing. -/
theorem variety_of_builtinType {document : DocumentId} {definition : SimpleTypeDef} {b : Builtin}
    (h : .simple definition = Arena.builtinType document b) :
    definition.variety = match b.item? with
      | some item => .list (.known item.localName item.typeId)
      | none =>
        .restriction ((b.base?.map fun p => .known p.localName p.typeId).getD .anySimpleType) [] := by
  cases h
  rfl

theorem builtin_of_builtinType {document : DocumentId} {definition : SimpleTypeDef} {b : Builtin}
    (h : .simple definition = Arena.builtinType document b) : definition.builtin = some b := by
  cases h
  rfl

/-- The base of a builtin type is the builtin type that it should be. -/
theorem restsOn_of_builtin (grounded : a.Grounded) {definition : SimpleTypeDef} {b : Builtin}
    (hb : .simple definition = Arena.builtinType Registry.builtinDocument b)
    {use : TypeUse} {declared : List FacetDecl} {baseId : TypeId} {base own w : ValueType}
    (sound : Sound (Restricts a) t) (variety : definition.variety = .restriction use declared)
    (target : use.target = some baseId) (simple : t.derived.simple? baseId = some base)
    (restricted : base.restrict declared = .ok own) (special : Specializes own (some b) w) :
    RestsOn t.derived w baseId := by
  rw [variety_of_builtinType hb] at variety
  obtain ⟨info, entry, effective⟩ := DerivedTypes.get?_of_simple? simple
  split at variety
  · cases variety
  · cases variety
    cases hp : b.base? with
    | none =>
      rw [hp] at target
      cases target
      exact Or.inr (Or.inl rfl)
    | some p =>
      rw [hp] at target
      cases target
      obtain ⟨facets, atomic⟩ :=
        (sound.holds entry).builtin (grounded.type?_typeId p) (base?_item? hp)
      cases effective.symm.trans atomic
      obtain ⟨facets', rfl⟩ := ValueType.eq_withFacets_of_restrict restricted
      cases special with
      | some specialized =>
        refine Or.inl ⟨_, ?_, (ValueType.specialize_refines hp specialized).trans
          (ValueType.restrict_refines restricted)⟩
        rw [DerivedTypes.valueType?_of_get? entry, effective]
        rfl

theorem restricts_simple (grounded : a.Grounded) {id : TypeId} {definition : SimpleTypeDef}
    {info : TypeInfo} (hd : a.type? id = some (.simple definition))
    (sound : Sound (Restricts a) t) (h : DerivesSimple t.derived definition info)
    (other : id ≠ .anySimpleType) : Restricts a t.derived id info where
  anySimpleType same := absurd same other
  anyType same := by
    subst same
    cases grounded.type?_anyType.symm.trans hd
  builtin {b} hb notList := by
    have isBuiltin := Option.some.inj (hd.symm.trans hb)
    have variety := variety_of_builtinType isBuiltin
    rw [notList] at variety
    cases h with
    | restriction _ _ _ _ special =>
      rw [builtin_of_builtinType isBuiltin] at special
      cases special
      exact ⟨_, rfl⟩
    | list variety' => cases variety.symm.trans variety'
    | union variety' => cases variety.symm.trans variety'
  base {v p} hv hp := by
    cases h with
    | restriction variety target simple restricted special =>
      cases hv
      cases hp
      cases hb : definition.builtin with
      | none =>
        rw [hb] at special
        cases special
        obtain ⟨info, entry, effective⟩ := DerivedTypes.get?_of_simple? simple
        refine Or.inl ⟨_, ?_, ValueType.restrict_refines restricted⟩
        rw [DerivedTypes.valueType?_of_get? entry, effective]
        rfl
      | some b =>
        rw [hb] at special
        exact restsOn_of_builtin grounded (grounded.eq_builtinType hd hb) sound variety target
          simple restricted special
    | list =>
      cases hp
      exact Or.inr (Or.inl rfl)
    | union =>
      cases hp
      exact Or.inr (Or.inl rfl)

theorem restricts_anySimpleType (grounded : a.Grounded) (d : DerivedTypes) :
    Restricts a d .anySimpleType ⟨some .anyType, .restriction, .simple .any⟩ where
  base _ hp := by
    cases hp
    exact Or.inr (Or.inr rfl)
  builtin hb _ := by
    have isBuiltin := Option.some.inj (grounded.type?_anySimpleType.symm.trans hb)
    cases builtin_of_builtinType isBuiltin
  anySimpleType _ := rfl
  anyType same := absurd same (by decide)

theorem restricts_anyType (grounded : a.Grounded) (d : DerivedTypes) :
    Restricts a d .anyType anyType where
  base _ hp := by cases hp
  builtin hb _ := by cases grounded.type?_anyType.symm.trans hb
  anySimpleType same := absurd same (by decide)
  anyType _ := rfl

theorem restricts_complex (grounded : a.Grounded) {id : TypeId} {definition : ComplexTypeDef}
    (hd : a.type? id = some (.complex definition)) {info : TypeInfo} (other : id ≠ .anyType)
    (hneed : need.IsSound (Restricts a)) (sound : Sound (Restricts a) s)
    (h : Yields (deriveComplex a need id definition) s info t) :
    Restricts a t.derived id info where
  base {v p} hv hp := by
    obtain ⟨baseId, base, c, derives⟩ := yields_deriveComplex hneed sound other h
    cases derives.eq
    cases hp
    have entry := DerivedTypes.valueType?_of_get? derives.entry
    obtain ⟨w, hw, same | ⟨facets, restricted⟩⟩ := derives.literals hv
    · exact Or.inl ⟨w, entry.trans hw, same ▸ .refl⟩
    · exact Or.inl ⟨w, entry.trans hw, ValueType.restrict_refines restricted⟩
  builtin hb _ := by cases hd.symm.trans hb
  anySimpleType same := by
    subst same
    cases grounded.type?_anySimpleType.symm.trans hd
  anyType same := absurd same other

theorem restricts_isInductive (grounded : a.Grounded) : Claim.IsInductive (Restricts a) a where
  mono below h := h.mono below
  made {need id definition s info t} hd hneed sound h := by
    cases definition with
    | simple definition =>
      by_cases other : id = .anySimpleType
      · subst other
        obtain ⟨rfl, rfl⟩ := yields_pure_iff.mp h
        exact restricts_anySimpleType grounded _
      · have advance := (upholds_deriveSimple (hneed s) id definition).of_yields h
          ⟨sound, .refl s⟩
        exact restricts_simple grounded hd advance.sound (yields_deriveSimple other h) other
    | complex definition =>
      by_cases other : id = .anyType
      · subst other
        obtain ⟨rfl, rfl⟩ := yields_pure_iff.mp h
        exact restricts_anyType grounded _
      · exact restricts_complex grounded hd other hneed sound h

end Derivation

end Xsd
