import Xsd.Proofs.Automaton.ContentModel
import Xsd.Proofs.Schema.AllGroups

/-!
# The content of extensions

An extension reads what its base reads and then what it declares itself. Its content is put together
by cases, as far as the two parts are there and can occur at all; that the cases add up to the
product of two languages rests on the contents of derived types being in order, and on none of them
being one that cannot occur.
-/

namespace Xsd

open Computability

/-! ## Languages of two contents -/

theorem Occurs.repeats_once (language : Language QName) : Occurs.once.repeats language = language := by
  rw [Occurs.once, repeats_bounded (Nat.le_refl 1), pow_one, Nat.sub_self, upTo, further, add_zero,
    mul_one]

namespace Content

variable {a : Arena} {s : SubstitutionGroups}

theorem language_followedBy (first second : Content) :
    language a s (some (first.followedBy second)) =
      language a s (some first) * language a s (some second) := by
  simp only [followedBy, language, occurs, once, parts, Occurs.repeats_once, List.map_cons,
    List.map_nil, List.prod_cons, List.prod_nil, mul_one, Part.repeated]

/-- What a content counts for where only contents that may occur are kept. -/
def effective (content : Option Content) : Option Content := content.filter fun c => !c.isEmpty

@[simp] theorem effective_none : effective none = none := rfl

theorem effective_of_isEmpty {c : Content} (h : c.isEmpty = true) : effective (some c) = none := by
  rw [effective, Option.filter_some, h, Bool.not_true, if_neg Bool.false_ne_true]

theorem effective_of_not_isEmpty {c : Content} (h : c.isEmpty = false) :
    effective (some c) = some c := by
  rw [effective, Option.filter_some, h, Bool.not_false, if_pos rfl]

/-- The cases of an extension add up to the product, provided that the content of the base may
occur. -/
theorem language_extend {base : Option Content} (full : ∀ c ∈ base, c.isEmpty = false)
    (own : Option Content) :
    language a s (effective (extend base own)) =
      language a s base * language a s (effective own) := by
  cases base with
  | none => rw [extend, language, one_mul]
  | some first =>
    have fullFirst : first.isEmpty = false := full first rfl
    cases own with
    | none =>
      rw [extend, fullFirst, if_neg Bool.false_ne_true, effective_of_not_isEmpty fullFirst,
        effective_none, language, language, mul_one]
    | some second =>
      rw [extend, fullFirst, if_neg Bool.false_ne_true]
      cases second_eq : second.isEmpty with
      | true =>
        rw [if_pos rfl, effective_of_not_isEmpty fullFirst, effective_of_isEmpty second_eq]
        simp only [language, mul_one]
      | false =>
        have fullBoth : (first.followedBy second).isEmpty = false := by
          simp [followedBy, isEmpty, areEmpty, fullFirst, Occurs.isEmpty, Occurs.once]
        rw [if_neg Bool.false_ne_true, effective_of_not_isEmpty fullBoth,
          effective_of_not_isEmpty second_eq, language_followedBy]

theorem proper_followedBy {first second : Content} (h : first.Proper) (h' : second.Proper) :
    (first.followedBy second).Proper := by
  refine ⟨?_, ?_, h, h', trivial⟩
  · rintro max ⟨⟩
    exact Nat.le_refl 1
  · rintro ⟨⟩

/-- An extension of contents that are in order is in order. -/
theorem proper_extend {base own : Option Content} (hbase : ∀ c ∈ base, c.Proper)
    (hown : ∀ c ∈ own, c.Proper) : ∀ c ∈ extend base own, c.Proper := by
  intro c hc
  rcases extend_cases hc with inherited | declared | ⟨first, second, hfirst, hsecond, -, -, rfl⟩
  · exact hbase c inherited
  · exact hown c declared
  · exact proper_followedBy (hbase first hfirst) (hown second hsecond)

end Content

/-! ## Expansions are in order -/

namespace Derivation

variable {a : Arena} {inner : ExpandGroup} {stack : List GroupId}

/-- What named groups expand to may stand in a content that is in order. -/
def ExpandsInOrder (inner : ExpandGroup) : Prop :=
  ∀ stack id c members, inner stack id = .ok (c, members) →
    (c = .all → ∀ m ∈ members, m.IsSingleElement) ∧ Content.AllProper members

theorem ExpandsInOrder.use (expands : ExpandsInOrder inner) {r : Reference GroupId} {c : Compositor}
    {members : List Content} (h : expandUse a inner stack r = .ok (c, members)) :
    (c = .all → ∀ m ∈ members, m.IsSingleElement) ∧ Content.AllProper members := by
  unfold expandUse at h
  split at h
  · cases h
  · split at h
    · cases h
    · exact expands _ _ _ _ h

mutual

theorem proper_of_expandParticle (expands : ExpandsInOrder inner) :
    (p : Particle) → {c : Content} → expandParticle a inner stack p = .ok c →
      (∀ q ∈ p.nodes, q.occurs.Proper ∧ ¬ q.IsAll) → c.Proper
  | .element o use, c, h, fine => by
    unfold expandParticle at h
    split at h <;> cases h
    exact (fine _ List.mem_cons_self).1
  | .wildcard o w, c, h, fine => by
    cases h
    exact (fine _ List.mem_cons_self).1
  | .group o compositor particles, c, h, fine => by
    obtain ⟨members, hm, h⟩ := bind_eq_ok_iff.mp h
    cases h
    obtain ⟨root, inside⟩ := List.forall_mem_cons.mp fine
    refine ⟨root.1, ?_, proper_of_expandParticles expands particles hm inside⟩
    rintro rfl
    exact absurd trivial root.2
  | .groupUse o r, c, h, fine => by
    obtain ⟨⟨compositor, members⟩, hm, h⟩ := bind_eq_ok_iff.mp h
    cases h
    exact ⟨(fine _ List.mem_cons_self).1, expands.use hm⟩

theorem proper_of_expandParticles (expands : ExpandsInOrder inner) :
    (ps : List Particle) → {cs : List Content} → expandParticles a inner stack ps = .ok cs →
      (∀ q ∈ Particle.nodesOf ps, q.occurs.Proper ∧ ¬ q.IsAll) → Content.AllProper cs
  | [], cs, h, _ => by
    cases h
    trivial
  | p :: ps, cs, h, fine => by
    obtain ⟨c, hc, h⟩ := bind_eq_ok_iff.mp h
    obtain ⟨rest, hrest, h⟩ := bind_eq_ok_iff.mp h
    cases h
    obtain ⟨first, others⟩ := List.forall_mem_append.mp fine
    exact ⟨proper_of_expandParticle expands p hc first,
      proper_of_expandParticles expands ps hrest others⟩

end

/-- Elements that occur at most once remain so. -/
theorem isSingleElement_of_expandParticles {ps : List Particle} {cs : List Content}
    (h : expandParticles a inner stack ps = .ok cs) (single : ∀ p ∈ ps, p.IsSingleElement) :
    ∀ c ∈ cs, c.IsSingleElement := by
  induction ps generalizing cs with
  | nil =>
    cases h
    exact List.forall_mem_nil _
  | cons p ps ih =>
    obtain ⟨c, hc, h⟩ := bind_eq_ok_iff.mp h
    obtain ⟨rest, hrest, h⟩ := bind_eq_ok_iff.mp h
    cases h
    obtain ⟨first, others⟩ := List.forall_mem_cons.mp single
    refine List.forall_mem_cons.mpr ⟨?_, ih hrest others⟩
    cases p with
    | element o use =>
      unfold expandParticle at hc
      split at hc <;> cases hc
      exact first
    | _ => exact first.elim

/-- A shaped group, an `all` group or not, expands to members that are in order. -/
theorem inOrder_of_expandParticles (expands : ExpandsInOrder inner) {g : ModelGroup}
    (shaped : g.IsShaped) {members : List Content}
    (h : expandParticles a inner stack g.particles = .ok members) :
    (g.compositor = .all → ∀ m ∈ members, m.IsSingleElement) ∧ Content.AllProper members :=
  ⟨fun all => isSingleElement_of_expandParticles h (shaped.members all),
    proper_of_expandParticles expands g.particles h shaped.inside⟩

/-- By induction on the number of groups inside each other. -/
theorem expandsInOrder_expandNamed (shaped : a.IsShaped) (fuel : Nat) :
    ExpandsInOrder (expandNamed a fuel) := by
  induction fuel with
  | zero =>
    intro stack id c members h
    cases h
  | succ fuel ih =>
    intro stack id c members h
    unfold expandNamed at h
    split at h
    · cases h
    · rename_i g hg
      obtain ⟨expanded, hm, h⟩ := bind_eq_ok_iff.mp h
      cases h
      exact inOrder_of_expandParticles ih (shaped.groups hg) hm

/-- The content that a shaped particle declares is in order. -/
theorem proper_of_expand (shaped : a.IsShaped) {p : Particle} (hp : p.IsShaped) {c : Content}
    (h : expand a p = .ok c) : c.Proper := by
  have expands := expandsInOrder_expandNamed shaped (a.groups.size + 1)
  cases p with
  | group o compositor particles =>
    obtain ⟨members, hm, h⟩ := bind_eq_ok_iff.mp h
    cases h
    exact ⟨hp.occurs, inOrder_of_expandParticles expands (hp.group rfl) hm⟩
  | _ =>
    refine proper_of_expandParticle expands _ h fun q mem => ?_
    cases List.mem_singleton.mp mem
    exact ⟨hp.occurs, id⟩

/-! ## Contents of derived types -/

theorem DerivesComplex.mono {d e : DerivedTypes} (below : d.Below e) {definition : ComplexTypeDef}
    {info base : TypeInfo} {baseId : TypeId} {c : ComplexType}
    (h : DerivesComplex a d definition info baseId base c) :
    DerivesComplex a e definition info baseId base c where
  eq := h.eq
  based := h.based
  entry := below h.entry
  content := h.content
  label := h.label
  literals := h.literals
  attributes := by
    obtain ⟨owner, own, s, t, before, merged⟩ := h.attributes
    exact ⟨owner, own, s, t, fun h => below (before h), merged⟩

/-- A complex type, other than the most general type, is derived from its base. -/
def DerivesFromBase (a : Arena) : Claim := fun d id info =>
  ∀ {definition}, a.type? id = some (.complex definition) → id ≠ .anyType →
    ∃ baseId base c, DerivesComplex a d definition info baseId base c

theorem derivesFromBase_isInductive (a : Arena) : Claim.IsInductive (DerivesFromBase a) a where
  mono below h _ known other := by
    obtain ⟨baseId, base, c, derives⟩ := h known other
    exact ⟨baseId, base, c, derives.mono below⟩
  made hd hneed sound h _ known other := by
    cases hd.symm.trans known
    exact yields_deriveComplex hneed sound other h

end Derivation

/-- The content of the type is in order and may occur, and there is none if the label says so. -/
structure ComplexType.IsComposed (t : ComplexType) : Prop where
  proper : ∀ c ∈ t.content, c.Proper
  full : ∀ c ∈ t.content, c.isEmpty = false
  empty : t.label = .empty → t.content = none

namespace Derivation

variable {a : Arena}

theorem contentLabel_eq_empty_iff {content : Option Content} {mixed : Bool} :
    contentLabel content mixed = .empty ↔ content = none ∧ mixed = false := by
  cases content <;> cases mixed <;> simp [contentLabel]

theorem isComposed_anyType {t : ComplexType} (h : anyType.effective = .complex t) :
    t.IsComposed := by
  cases h
  refine ⟨?_, ?_, ?_⟩
  · rintro _ ⟨⟩
    rintro max ⟨⟩
  · rintro _ ⟨⟩
    rfl
  · rintro ⟨⟩

/-- The content that a type of a shaped arena declares is in order. -/
theorem proper_of_declares (shaped : a.IsShaped) {id : TypeId} {definition : ComplexTypeDef}
    (known : a.type? id = some (.complex definition)) {particle : Option Particle}
    (declared : definition.content = .particle particle) {own : Option Content}
    (declares : Declares a particle own) : ∀ c ∈ own, c.Proper := by
  rintro c rfl
  cases declares with
  | some expanded =>
    exact proper_of_expand shaped
      (shaped.types known _ (by rw [ComplexTypeDef.particle?, declared]; rfl)) expanded

theorem isComposed_of_derivesComplex (shaped : a.IsShaped) {d : DerivedTypes} {id baseId : TypeId}
    {definition : ComplexTypeDef} {info base : TypeInfo} {t : ComplexType}
    (known : a.type? id = some (.complex definition))
    (derives : DerivesComplex a d definition info baseId base t)
    (before : ∀ b, base.effective = .complex b → b.IsComposed) : t.IsComposed := by
  have composes := derives.content
  generalize hwhole : t.content = whole at composes
  cases composes with
  | simple => exact ⟨by simp [hwhole], by simp [hwhole], fun _ => hwhole⟩
  | particle declared based label declares =>
    rename_i particle b own
    have ownProper := proper_of_declares shaped known declared declares
    refine ⟨fun c hc => ?_, fun c hc => ?_, fun empty => ?_⟩
    · rw [hwhole] at hc
      have hc := (Option.filter_eq_some_iff.mp hc).1
      split at hc
      · exact Content.proper_extend (before b based).proper ownProper c hc
      · exact ownProper c hc
    · rw [hwhole] at hc
      simpa using (Option.filter_eq_some_iff.mp hc).2
    · rw [derives.label declared] at empty
      exact (contentLabel_eq_empty_iff.mp empty).1

/-- What is said of the content of a derived type. -/
def HasComposedContent : Claim := fun _ _ info =>
  ∀ t, info.effective = .complex t → t.IsComposed

theorem hasComposedContent_isInductive (shaped : a.IsShaped) :
    Claim.IsInductive HasComposedContent a where
  mono _ h := h
  made {need id definition s info t} hd hneed sound h c effective := by
    have advance := (upholds_deriveDefinition (hneed s) id definition).of_yields h ⟨sound, .refl s⟩
    cases definition with
    | simple definition =>
      by_cases special : id = .anySimpleType
      · subst special
        obtain ⟨rfl, -⟩ := yields_pure_iff.mp h
        cases effective
      · cases yields_deriveSimple special h <;> cases effective
    | complex definition =>
      by_cases special : id = .anyType
      · subst special
        obtain ⟨rfl, -⟩ := yields_pure_iff.mp h
        exact isComposed_anyType effective
      · obtain ⟨baseId, base, c, derives⟩ := yields_deriveComplex hneed sound special h
        cases derives.eq
        cases effective
        exact isComposed_of_derivesComplex shaped hd derives (advance.sound.holds derives.entry)

end Derivation

/-! ## The language of an extension -/

namespace ContentModel

/-- The sequences of names that the model admits as the children of an element. -/
def language : ContentModel → Language QName
  | .empty => 1
  | .simple _ => 1
  | .elements automaton _ => automaton.language

/-- A complex type without simple content admits what its content reads. -/
theorem language_ofType {a : Arena} {d : DerivedTypes} {s : SubstitutionGroups} {limits : Limits}
    {id : TypeId} {info : TypeInfo} {t : ComplexType} {model : ContentModel}
    (entry : d.get? id = some info) (effective : info.effective = .complex t)
    (composed : t.IsComposed) (label : t.label ≠ .simple)
    (h : ofType a d s limits id = .ok model) : model.language = Content.language a s t.content := by
  obtain ⟨base, method, _⟩ := info
  cases effective
  unfold ofType at h
  simp only [entry] at h
  split at h
  · rename_i empty
    cases h
    rw [composed.empty empty, Content.language, language]
  · rename_i simple
    exact absurd simple label
  · obtain ⟨automaton, built, h⟩ := bind_eq_ok_iff.mp h
    cases pure_eq_ok_iff.mp h
    exact language_automatonOf composed.proper built

end ContentModel

open Schema Resolution

namespace Model

/-- A type that declares a content admits what that reads, as far as it may occur, and an extension
what the content of the base and its own make together. -/
theorem exists_language_of_particle {supply : Supply} {documents : List Document}
    {report : ResolutionReport} {b : Assembly}
    (isAssembled : assembled supply documents = .ok (report, b))
    (substitutions : SubstitutionGroups) (limits : Limits) {id baseId : TypeId}
    {definition : ComplexTypeDef} {particle : Option Particle}
    (known : b.arena.type? id = some (.complex definition))
    (declared : definition.content = .particle particle)
    (based : definition.base.bind (·.target) = some baseId) {model : ContentModel}
    (hmodel : ContentModel.ofType b.arena (Derivation.deriveAll b.arena).1 substitutions limits id =
      .ok model) :
    ∃ inherited own, Derivation.Declares b.arena particle own ∧ (∀ c ∈ own, c.Proper) ∧
      (∀ c ∈ inherited, c.isEmpty = false) ∧
      model.language = Content.language b.arena substitutions (Content.effective
        (if definition.derivation = .extension then Content.extend inherited own else own)) ∧
      ∀ base, ContentModel.ofType b.arena (Derivation.deriveAll b.arena).1 substitutions limits
        baseId = .ok base → base.language = Content.language b.arena substitutions inherited := by
  have shaped := isShaped_of_assembled isAssembled
  have grounded := holds_of_assembled lasting_grounded Arena.grounded_initial isAssembled
  have other : id ≠ .anyType := by
    rintro rfl
    cases grounded.type?_anyType.symm.trans known
    cases based
  cases entry : (Derivation.deriveAll b.arena).1.get? id with
  | none =>
    unfold ContentModel.ofType at hmodel
    rw [entry] at hmodel
    cases hmodel
  | some info =>
    have holds {other info} (entry : (Derivation.deriveAll b.arena).1.get? other = some info) :=
      Derivation.deriveAll_holds (Derivation.hasComposedContent_isInductive shaped) entry
    obtain ⟨baseId', baseInfo, t, derives⟩ :=
      Derivation.deriveAll_holds (Derivation.derivesFromBase_isInductive b.arena) entry known other
    cases based.symm.trans derives.based
    have effective : info.effective = .complex t := derives.eq ▸ rfl
    have label : t.label ≠ .simple := by
      rw [derives.label declared, Derivation.contentLabel]
      split
      · decide
      · split <;> decide
    have whole := ContentModel.language_ofType entry effective (holds entry t effective) label hmodel
    have composes := derives.content
    generalize hcontent : t.content = content at composes whole
    cases composes with
    | simple simple => cases declared.symm.trans simple
    | particle declared' isComplex baseLabel declares =>
      rename_i c own
      cases declared.symm.trans declared'
      have composed := holds derives.entry c isComplex
      exact ⟨c.content, own, declares, Derivation.proper_of_declares shaped known declared declares,
        composed.full, whole, fun base hbase =>
          ContentModel.language_ofType derives.entry isComplex composed baseLabel hbase⟩

/-- An extension by content of its own admits what its base admits, followed by what it declares;
what cannot occur does not count. -/
theorem accepts_of_extension {supply : Supply} {documents : List Document}
    {report : ResolutionReport} {b : Assembly}
    (isAssembled : assembled supply documents = .ok (report, b))
    (substitutions : SubstitutionGroups) (limits : Limits) {id baseId : TypeId}
    {definition : ComplexTypeDef} {particle : Option Particle}
    (known : b.arena.type? id = some (.complex definition))
    (extends' : definition.derivation = .extension)
    (declared : definition.content = .particle particle)
    (based : definition.base.bind (·.target) = some baseId) {model base : ContentModel}
    (hmodel : ContentModel.ofType b.arena (Derivation.deriveAll b.arena).1 substitutions limits id =
      .ok model)
    (hbase : ContentModel.ofType b.arena (Derivation.deriveAll b.arena).1 substitutions limits
      baseId = .ok base) :
    ∃ own, Derivation.Declares b.arena particle own ∧ ∀ names, names ∈ model.language ↔
      ∃ first second, names = first ++ second ∧ first ∈ base.language ∧
        second ∈ Content.language b.arena substitutions (own.filter fun c => !c.isEmpty) := by
  obtain ⟨inherited, own, declares, -, full, whole, first⟩ :=
    exists_language_of_particle isAssembled substitutions limits known declared based hmodel
  refine ⟨own, declares, fun names => ?_⟩
  rw [whole, if_pos extends', Content.language_extend full, ← first base hbase, Language.mem_mul]
  constructor
  · rintro ⟨first, hf, second, hs, rfl⟩
    exact ⟨first, second, rfl, hf, hs⟩
  · rintro ⟨first, second, rfl, hf, hs⟩
    exact ⟨first, hf, second, hs, rfl⟩

/-- A place has one coordinate, and a site is a place with another one. -/
def sites : Document :=
  ⟨.memory "sites.xsd", some ⟨⟨.xsd "schema", .empty, default, 0⟩,
    [schemaNode "complexType" [("name", "Place")]
        [schemaNode "sequence" [] [schemaNode "element" [("name", "x")] []]],
      schemaNode "complexType" [("name", "Site")]
        [schemaNode "complexContent" []
          [schemaNode "extension" [("base", "Place")]
            [schemaNode "sequence" [] [schemaNode "element" [("name", "y")] []]]]]]⟩⟩

/-- The content of a place or, if it has both coordinates, of a site. -/
def siteContent (both : Bool) : Content :=
  let place : Content := .group .once .sequence [.element .once ⟨0⟩]
  if both then place.followedBy (.group .once .sequence [.element .once ⟨1⟩]) else place

def isSiteContent : Bool → Content → Bool
  | false, .group ⟨1, some 1⟩ .sequence [.element ⟨1, some 1⟩ ⟨0⟩] => true
  | true, .group ⟨1, some 1⟩ .sequence [.group ⟨1, some 1⟩ .sequence [.element ⟨1, some 1⟩ ⟨0⟩],
      .group ⟨1, some 1⟩ .sequence [.element ⟨1, some 1⟩ ⟨1⟩]] => true
  | _, _ => false

theorem eq_siteContent {both : Bool} {c : Content} (h : isSiteContent both c = true) :
    c = siteContent both := by
  unfold isSiteContent at h
  split at h
  · rfl
  · rfl
  · cases h

theorem automatonOf_siteContent {a : Arena} (owner : String)
    (elements : a.elements = #[coordinate "x", coordinate "y"]) (both : Bool) :
    (ContentModel.automatonOf ⟨a, .ofArena a, .standard, owner⟩ (some (siteContent both))).isOk =
      true := by
  obtain ⟨types, _, attributes, groups, attributeGroups⟩ := a
  cases elements
  cases both
  · cbv
  · cbv

/-- A type whose content is that of a place or of a site has a model, if its automaton can be
made. -/
theorem exists_contentOf_siteContent {a : Arena} {id : TypeId} {both : Bool}
    (isOk : (ContentModel.automatonOf ⟨a, .ofArena a, .standard, a.typeName id⟩
      (some (siteContent both))).isOk = true)
    (derived : ((Derivation.deriveAll a).1.complex? id).map (fun t =>
      (t.label, t.content.map (isSiteContent both))) = some (.elementOnly, some true)) :
    ∃ model, contentOf a .standard id = .ok model := by
  obtain ⟨t, complex, same⟩ := Option.map_eq_some_iff.mp derived
  obtain ⟨label, same⟩ := Prod.mk.inj same
  obtain ⟨c, hc, isContent⟩ := Option.map_eq_some_iff.mp same
  obtain ⟨automaton, built⟩ := isOk_iff.mp isOk
  rw [← eq_siteContent isContent, ← hc] at built
  exact ⟨_, contentOf_eq_elements complex (Or.inl label) built⟩

/-- What is computed of a document in which a place is extended holds of what is read from it. -/
theorem exists_extended_place {document : Document} {isOwn : Particle → Bool} {both : Bool}
    (isOk : (assembled ⟨none, .standard⟩ [document]).isOk = true)
    (automata : ∀ owner, ∀ site ∈ [false, both], (ContentModel.automatonOf
      ⟨(readAll [document]).2.arena, .ofArena (readAll [document]).2.arena, .standard, owner⟩
      (some (siteContent site))).isOk = true)
    (isExtension : ((readAll [document]).2.arena.complex? ⟨47⟩).map (fun t =>
      (t.derivation, t.particle?.map isOwn, t.base.bind (·.target))) =
        some (.extension, some true, some ⟨46⟩))
    (isPlace : ((Derivation.deriveAll (readAll [document]).2.arena).1.complex? ⟨46⟩).map (fun t =>
      (t.label, t.content.map (isSiteContent false))) = some (.elementOnly, some true))
    (isSite : ((Derivation.deriveAll (readAll [document]).2.arena).1.complex? ⟨47⟩).map (fun t =>
      (t.label, t.content.map (isSiteContent both))) = some (.elementOnly, some true)) :
    ∃ report b definition own model base,
      assembled ⟨none, .standard⟩ [document] = .ok (report, b) ∧
        b.arena.type? ⟨47⟩ = some (.complex definition) ∧ definition.derivation = .extension ∧
        definition.content = .particle (some own) ∧ isOwn own = true ∧
        definition.base.bind (·.target) = some ⟨46⟩ ∧
        contentOf b.arena .standard ⟨47⟩ = .ok model ∧
        contentOf b.arena .standard ⟨46⟩ = .ok base := by
  obtain ⟨⟨report, b⟩, isAssembled⟩ := isOk_iff.mp isOk
  have same : readAll [document] = (report, b) := by
    rw [readAll, isAssembled]
    rfl
  rw [same] at automata isExtension isPlace isSite
  obtain ⟨definition, known, isExtension⟩ := Option.map_eq_some_iff.mp isExtension
  obtain ⟨extends', isExtension⟩ := Prod.mk.inj isExtension
  obtain ⟨isParticle, based⟩ := Prod.mk.inj isExtension
  obtain ⟨own, particle, isOwn⟩ := Option.map_eq_some_iff.mp isParticle
  have declared : definition.content = .particle (some own) := by
    cases hc : definition.content with
    | particle particle' =>
      rw [ComplexTypeDef.particle?, hc] at particle
      rw [← particle]
    | simple => simp [ComplexTypeDef.particle?, hc] at particle
  obtain ⟨model, hmodel⟩ := exists_contentOf_siteContent (automata _ both (by simp)) isSite
  obtain ⟨base, hbase⟩ := exists_contentOf_siteContent (automata _ false (by simp)) isPlace
  exact ⟨report, b, definition, own, model, base, isAssembled, Arena.complex?_eq_some_iff.mp known,
    extends', declared, isOwn, based, hmodel, hbase⟩

private theorem sites_computed :
    (assembled ⟨none, .standard⟩ [sites]).isOk = true ∧
      (readAll [sites]).2.arena.elements = #[coordinate "x", coordinate "y"] ∧
      ((readAll [sites]).2.arena.complex? ⟨47⟩).map (fun t =>
        (t.derivation, t.particle?.map fun _ => true, t.base.bind (·.target))) =
          some (.extension, some true, some ⟨46⟩) ∧
      ∀ both : Bool, ((Derivation.deriveAll (readAll [sites]).2.arena).1.complex?
        (if both then ⟨47⟩ else ⟨46⟩)).map (fun t =>
          (t.label, t.content.map (isSiteContent both))) = some (.elementOnly, some true) := by
  decide +kernel

theorem accepts_site : ∃ report b definition particle model base,
    assembled ⟨none, .standard⟩ [sites] = .ok (report, b) ∧
      b.arena.type? ⟨47⟩ = some (.complex definition) ∧ definition.derivation = .extension ∧
      definition.content = .particle particle ∧
      definition.base.bind (·.target) = some ⟨46⟩ ∧
      contentOf b.arena .standard ⟨47⟩ = .ok model ∧ contentOf b.arena .standard ⟨46⟩ = .ok base ∧
      ∃ own, Derivation.Declares b.arena particle own ∧ ∀ names, names ∈ model.language ↔
        ∃ first second, names = first ++ second ∧ first ∈ base.language ∧
          second ∈ Content.language b.arena (.ofArena b.arena)
            (own.filter fun c => !c.isEmpty) := by
  obtain ⟨isOk, elements, isExtension, contents⟩ := sites_computed
  obtain ⟨report, b, definition, own, model, base, isAssembled, known, extends', declared, -, based,
    hmodel, hbase⟩ := exists_extended_place isOk
      (fun owner both _ => automatonOf_siteContent owner elements both) isExtension
      (contents false) (contents true)
  exact ⟨report, b, definition, some own, model, base, isAssembled, known, extends', declared,
    based, hmodel, hbase,
    accepts_of_extension isAssembled _ _ known extends' declared based hmodel hbase⟩

end Model

end Xsd
