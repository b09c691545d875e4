import Xsd.Proofs.Derivation.Uses
import Xsd.Proofs.Wildcard

/-!
# Attribute wildcards in comparison with those of the base

A type declares a wildcard, by itself or in attribute groups. An extension admits beyond the
attributes that it has what that or the wildcard of the base admits. A restriction admits what its
own one admits, and is refused if that admits more than the wildcard of the base.
-/

namespace Xsd

/-- With what there is so far the wildcards of the groups are met one after the other; a group comes
with those of the groups in it. -/
inductive Arena.Gathers (a : Arena) :
    Option Wildcard → List (Reference AttributeGroupId) → Option Wildcard → Prop
  | nil (w : Option Wildcard) : Gathers a w [] w
  | cons {w group result : Option Wildcard} {r : Reference AttributeGroupId}
    {rs : List (Reference AttributeGroupId)} {id : AttributeGroupId} {g : AttributeGroupDef} :
    r.target = some id → a.attributeGroup? id = some g →
      Gathers a g.attributes.wildcard g.attributes.groups group →
      Gathers a (Derivation.bothWildcards w group) rs result → Gathers a w (r :: rs) result

/-- The wildcard is what the declarations come to, with those of the groups to which they refer. -/
def Arena.DeclaresWildcard (a : Arena) (decls : AttributeDecls) (w : Option Wildcard) : Prop :=
  a.Gathers decls.wildcard decls.groups w

theorem Arena.Gathers.unique {a : Arena} {rs : List (Reference AttributeGroupId)}
    {w v v' : Option Wildcard} (h : a.Gathers w rs v) (h' : a.Gathers w rs v') : v = v' := by
  induction h generalizing v' with
  | nil w =>
    cases h'
    rfl
  | cons target there _ _ ihGroup ihRest =>
    cases h' with
    | cons target' there' group rest =>
      cases target.symm.trans target'
      cases there.symm.trans there'
      cases ihGroup group
      exact ihRest rest

/-- There is a wildcard, and that admits the namespace. -/
def Wildcard.Admitted (w : Option Wildcard) (ns : Namespace) : Prop :=
  ∃ v, w = some v ∧ v.allows ns = true

/-- What is so for the constraints of the wildcards, if there are two. -/
def Wildcard.Related (R : NamespaceConstraint → NamespaceConstraint → Prop)
    (w v : Option Wildcard) : Prop :=
  ∃ x y, w = some x ∧ v = some y ∧ R x.constraint y.constraint

/-- The first wildcard, if there is one, is within the second, as far as the constraints are
compared. -/
def Wildcard.Within (w v : Option Wildcard) : Prop :=
  ∀ x, w = some x → ∃ y, v = some y ∧ x.constraint.isSubsetOf y.constraint = true

theorem Wildcard.Within.admitted {w v : Option Wildcard} (h : Within w v) {ns : Namespace}
    (allowed : Admitted w ns) : Admitted v ns := by
  obtain ⟨x, hx, allowed⟩ := allowed
  obtain ⟨y, hy, subset⟩ := h x hx
  exact ⟨y, hy, NamespaceConstraint.allows_of_isSubsetOf subset allowed⟩

namespace Derivation

/-- The wildcard of a type that is derived in the given way, by its own and that of the base. -/
inductive Combines : DerivationMethod → Option Wildcard → Option Wildcard → Option Wildcard → Prop
  | extension (own base : Option Wildcard) : Combines .extension own base (eitherWildcard own base)
  | restriction {method : DerivationMethod} {own base : Option Wildcard} :
    method ≠ .extension → Wildcard.Within own base → Combines method own base own

variable {a : Arena} {need : Need} {owner : String} {s t u : DerivationState}
  {w v own base : Option Wildcard} {method : DerivationMethod}

/-! ## Declared wildcards -/

theorem yields_gather {f : AttributeSet → Reference AttributeGroupId → Derive AttributeSet}
    {rs : List (Reference AttributeGroupId)} {sofar result : AttributeSet}
    (step : ∀ r sofar s result t, Yields (f sofar r) s result t →
      ∃ id g w, r.target = some id ∧ a.attributeGroup? id = some g ∧
        a.DeclaresWildcard g.attributes w ∧ result.wildcard = bothWildcards sofar.wildcard w)
    (h : Yields (rs.foldlM f sofar) s result t) : a.Gathers sofar.wildcard rs result.wildcard := by
  induction rs generalizing sofar s with
  | nil =>
    obtain ⟨rfl, -⟩ := yields_pure_iff.mp h
    exact .nil _
  | cons r rs ih =>
    rw [List.foldlM_cons] at h
    obtain ⟨next, _, hr, h⟩ := yields_bind_iff.mp h
    obtain ⟨id, g, w, target, there, declares, same⟩ := step _ _ _ _ _ hr
    exact .cons target there declares (same ▸ ih h)

theorem wildcard_of_yields_addGroup {sofar group result : AttributeSet}
    (h : Yields (addGroup owner sofar group) s result t) :
    result.wildcard = bothWildcards sofar.wildcard group.wildcard := by
  obtain ⟨table, _, -, h⟩ := yields_bind_iff.mp h
  obtain ⟨rfl, -⟩ := yields_pure_iff.mp h
  rfl

/-- By induction on the number of groups that can still be inside each other. -/
theorem declaresWildcard_of_yields_flatten {fuel : Nat} {stack : List AttributeGroupId}
    {decls : AttributeDecls} {own : AttributeSet}
    (h : Yields (flatten a need owner fuel stack decls) s own t) :
    a.DeclaresWildcard decls own.wildcard := by
  induction fuel generalizing stack decls own s t with
  | zero => exact absurd h not_yields_throw
  | succ fuel ih =>
    obtain ⟨used, _, -, h⟩ := yields_bind_iff.mp h
    change a.Gathers (AttributeSet.mk used decls.wildcard).wildcard decls.groups own.wildcard
    refine yields_gather ?_ h
    intro r sofar _ result _ h
    obtain ⟨id, _, hid, h⟩ := yields_bind_iff.mp h
    obtain ⟨target, rfl⟩ := yields_expect_iff.mp hid
    split at h
    · exact absurd h not_yields_throw
    · obtain ⟨g, _, hg, h⟩ := yields_bind_iff.mp h
      obtain ⟨there, rfl⟩ := yields_expect_iff.mp hg
      obtain ⟨group, _, inside, h⟩ := yields_bind_iff.mp h
      exact ⟨id, g, group.wildcard, target, there, ih inside, wildcard_of_yields_addGroup h⟩

/-! ## Wildcards of extensions and of restrictions -/

theorem admitted_eitherWildcard (whole : ¬ Wildcard.Related NamespaceConstraint.Splits own base)
    {ns : Namespace} (h : Wildcard.Admitted own ns ∨ Wildcard.Admitted base ns) :
    Wildcard.Admitted (eitherWildcard own base) ns := by
  cases own with
  | none =>
    rcases h with ⟨_, ⟨⟩, -⟩ | h
    exact h
  | some x =>
    cases base with
    | none =>
      rcases h with h | ⟨_, ⟨⟩, -⟩
      exact h
    | some y =>
      refine ⟨_, rfl, NamespaceConstraint.allows_union_of_allows (fun splits => ?_) ?_⟩
      · exact whole ⟨x, y, rfl, rfl, splits⟩
      · rcases h with ⟨_, ⟨⟩, allowed⟩ | ⟨_, ⟨⟩, allowed⟩
        · exact Or.inl allowed
        · exact Or.inr allowed

theorem admitted_of_eitherWildcard (same : ¬ Wildcard.Related NamespaceConstraint.Differ own base)
    {ns : Namespace} (h : Wildcard.Admitted (eitherWildcard own base) ns) :
    Wildcard.Admitted own ns ∨ Wildcard.Admitted base ns := by
  cases own with
  | none => exact Or.inr h
  | some x =>
    cases base with
    | none => exact Or.inl h
    | some y =>
      obtain ⟨_, ⟨⟩, allowed⟩ := h
      have differ : ¬ x.constraint.Differ y.constraint := fun h => same ⟨x, y, rfl, rfl, h⟩
      exact (NamespaceConstraint.allows_of_allows_union differ allowed).imp
        (fun allowed => ⟨x, rfl, allowed⟩) fun allowed => ⟨y, rfl, allowed⟩

/-- An own wildcard that is within that of the base is taken, and any other is refused. -/
theorem restrictWildcard_spec (owner : String) (own base : Option Wildcard)
    (s : DerivationState) :
    (Wildcard.Within own base ∧ Yields (restrictWildcard owner own base) s own s) ∨
      (¬ Wildcard.Within own base ∧
        Fails (restrictWildcard owner own base) s (some (.invalidDerivation owner .widerWildcard))
          s) := by
  cases own with
  | none => exact Or.inl ⟨nofun, rfl⟩
  | some x =>
    cases base with
    | none =>
      refine Or.inr ⟨fun within => ?_, rfl⟩
      obtain ⟨_, ⟨⟩, -⟩ := within x rfl
    | some y =>
      by_cases subset : x.constraint.isSubsetOf y.constraint = true
      · refine Or.inl ⟨fun _ h => ⟨y, rfl, Option.some.inj h ▸ subset⟩, ?_⟩
        rw [restrictWildcard, if_pos subset]
        rfl
      · refine Or.inr ⟨fun within => ?_, ?_⟩
        · obtain ⟨_, ⟨⟩, included⟩ := within x rfl
          exact subset included
        · rw [restrictWildcard, if_neg subset]
          rfl

/-- After the attributes the wildcard decides whether the restriction is refused. -/
theorem merge_spec {base own : AttributeSet} {table : AttributeTable}
    (other : method ≠ .extension)
    (folded : Yields (own.attributes.values.foldlM (restrictAttribute a s.derived owner base)
      base.attributes) s table u) :
    (Wildcard.Within own.wildcard base.wildcard ∧
        Yields (merge a owner method base own) s ⟨table, own.wildcard⟩ u) ∨
      (¬ Wildcard.Within own.wildcard base.wildcard ∧
        Fails (merge a owner method base own) s
          (some (.invalidDerivation owner .widerWildcard)) u) := by
  have restricts : merge a owner method base own = restrict a owner base own := by
    cases method with
    | extension => exact absurd rfl other
    | _ => rfl
  have last : (merge a owner method base own).run.run s =
      (do return ⟨table, ← restrictWildcard owner own.wildcard base.wildcard⟩ :
        Derive AttributeSet).run.run u := by
    have found : Yields (get : Derive DerivationState) s s s := rfl
    rw [restricts]
    exact found.bind.trans folded.bind
  rcases restrictWildcard_spec owner own.wildcard base.wildcard u with ⟨within, hw⟩ | ⟨wider, hw⟩
  · exact Or.inl ⟨within, last.trans hw.bind⟩
  · exact Or.inr ⟨wider, last.trans hw.bind⟩

theorem combines_of_yields_merge {base own merged : AttributeSet}
    (h : Yields (merge a owner method base own) s merged t) :
    Combines method own.wildcard base.wildcard merged.wildcard := by
  by_cases extension : method = .extension
  · subst extension
    obtain ⟨table, _, -, h⟩ := yields_bind_iff.mp h
    obtain ⟨rfl, -⟩ := yields_pure_iff.mp h
    exact .extension _ _
  · obtain ⟨table, u, folded⟩ : ∃ table u, Yields (own.attributes.values.foldlM
        (restrictAttribute a s.derived owner base) base.attributes) s table u := by
      cases method with
      | extension => exact absurd rfl extension
      | _ =>
        obtain ⟨_, _, hget, h⟩ := yields_bind_iff.mp h
        obtain ⟨rfl, rfl⟩ := yields_get_iff.mp hget
        obtain ⟨table, u, folded, -⟩ := yields_bind_iff.mp h
        exact ⟨table, u, folded⟩
    rcases merge_spec extension folded with ⟨within, h'⟩ | ⟨-, fails⟩
    · cases h.symm.trans h'
      exact .restriction extension within
    · exact absurd fails h.not_fails

/-! ## Complex types -/

/-- A complex type has the wildcard that it declares, as it is combined with that of the base. -/
def HasWildcard (a : Arena) : Claim := fun d id info =>
  ∀ {definition}, a.type? id = some (.complex definition) → id ≠ .anyType →
    ∃ p base c own, info = ⟨some p, definition.derivation, .complex c⟩ ∧ d.get? p = some base ∧
      a.DeclaresWildcard definition.attributes own ∧
      Combines definition.derivation own base.effective.attributeSet.wildcard c.wildcard

theorem hasWildcard_isInductive (a : Arena) : Claim.IsInductive (HasWildcard a) a where
  mono {d e id info} below h definition complex other := by
    obtain ⟨p, base, c, own, eq, entry, rest⟩ := h complex other
    exact ⟨p, base, c, own, eq, below entry, rest⟩
  made hd hneed sound h definition complex other := by
    cases hd.symm.trans complex
    obtain ⟨p, base, own, c, derives, merges⟩ := yields_deriveComplex_own hneed sound other h
    obtain ⟨_, _, _, hown⟩ := merges.declared
    obtain ⟨_, _, _, hmerge⟩ := merges.merged
    exact ⟨p, base, c, own.wildcard, derives.eq, derives.entry,
      declaresWildcard_of_yields_flatten hown, combines_of_yields_merge hmerge⟩

theorem exists_combines {id p : TypeId} {c : ComplexType} {base : TypeInfo}
    (entry : (deriveAll a).1.get? id = some ⟨some p, method, .complex c⟩)
    (based : (deriveAll a).1.get? p = some base) :
    ∃ definition own, a.type? id = some (.complex definition) ∧
      a.DeclaresWildcard definition.attributes own ∧
      Combines method own base.effective.attributeSet.wildcard c.wildcard := by
  generalize hm : method = derivation at entry
  cases deriveAll_inherits entry with
  | complex hd other _ _ _ =>
    obtain ⟨p', base', c', own, eq, entry', declares, combines⟩ :=
      deriveAll_holds (hasWildcard_isInductive a) entry hd other
    cases eq
    cases based.symm.trans entry'
    exact ⟨_, own, hd, declares, hm ▸ combines⟩

/-- A union admits what either constraint does, unless the one is a negation and the other a list
that holds just one of the absent namespace and the one that is negated; and it admits no more,
unless they negate different namespaces. So the wildcard of an extension admits what its own one and
that of the base admit. -/
theorem union_exact (a b : NamespaceConstraint) (arena : Arena) :
    ((∀ ns, a.allows ns = true ∨ b.allows ns = true → (a.union b).allows ns = true) ↔
      ¬ a.Splits b) ∧
    ((∀ ns, (a.union b).allows ns = true → a.allows ns = true ∨ b.allows ns = true) ↔
      ¬ a.Differ b) ∧
    ∀ (id p : TypeId) (t : ComplexType) (base : TypeInfo),
      (deriveAll arena).1.get? id = some ⟨some p, .extension, .complex t⟩ →
      (deriveAll arena).1.get? p = some base →
      ∃ definition own, arena.type? id = some (.complex definition) ∧
        arena.DeclaresWildcard definition.attributes own ∧
        (¬ Wildcard.Related NamespaceConstraint.Splits own base.effective.attributeSet.wildcard →
          ∀ ns, Wildcard.Admitted own ns ∨ Wildcard.Admitted base.effective.attributeSet.wildcard ns →
            Wildcard.Admitted t.wildcard ns) ∧
        (¬ Wildcard.Related NamespaceConstraint.Differ own base.effective.attributeSet.wildcard →
          ∀ ns, Wildcard.Admitted t.wildcard ns →
            Wildcard.Admitted own ns ∨
              Wildcard.Admitted base.effective.attributeSet.wildcard ns) := by
  refine ⟨NamespaceConstraint.union_keeps_iff, NamespaceConstraint.union_adds_nothing_iff,
    fun id p t base entry based => ?_⟩
  obtain ⟨definition, own, complex, declares, combines⟩ := exists_combines entry based
  refine ⟨definition, own, complex, declares, ?_⟩
  generalize t.wildcard = wildcard at combines
  cases combines with
  | extension =>
    exact ⟨fun whole ns => admitted_eitherWildcard whole,
      fun same ns => admitted_of_eitherWildcard same⟩
  | restriction other => exact absurd rfl other

/-- After the most general types, a type that admits attributes of no namespace and of one, and an
extension of it by those of any other namespace, as an attribute group has it. -/
def openTypes : Arena :=
  { Arena.empty with
    attributeGroups := #[⟨.ofLocal none ⟨1⟩, ⟨[], [], some ⟨.other (some "urn:t"), .lax⟩⟩⟩]
    types := (Arena.initial Registry.builtinDocument).types.take 2 ++
      #[emptyType .anyType .restriction
          ⟨[], [], some ⟨.enumeration [none, some "urn:t"], .skip⟩⟩,
        emptyType (.own ⟨2⟩) .extension
          ⟨[], [⟨⟨none, "others"⟩, some ⟨0⟩⟩], some ⟨.any, .strict⟩⟩] }

set_option maxRecDepth 20000 in
theorem openTypes_entries :
    (deriveAll openTypes).1.get? .anyType = some anyType ∧
      (deriveAll openTypes).1.get? ⟨2⟩ = some ⟨some .anyType, .restriction,
        .complex (emptyWith [] (some ⟨.enumeration [none, some "urn:t"], .skip⟩))⟩ ∧
      (deriveAll openTypes).1.get? ⟨3⟩ = some ⟨some ⟨2⟩, .extension,
        .complex (emptyWith [] (some ⟨.any, .strict⟩))⟩ := by
  cbv

/-- The extension by the one namespace that the base leaves out comes to admit all. -/
theorem openTypes_union :
    (deriveAll openTypes).1.get? ⟨3⟩ = some ⟨some ⟨2⟩, .extension,
        .complex (emptyWith [] (some ⟨.any, .strict⟩))⟩ ∧
      ∃ definition own, openTypes.type? ⟨3⟩ = some (.complex definition) ∧
        openTypes.DeclaresWildcard definition.attributes own ∧
        ∀ ns, Wildcard.Admitted own ns ∨
            Wildcard.Admitted (some ⟨.enumeration [none, some "urn:t"], .skip⟩) ns ↔
          Wildcard.Admitted (some ⟨.any, .strict⟩) ns := by
  obtain ⟨-, base, extension⟩ := openTypes_entries
  obtain ⟨definition, own, complex, declares, keeps, adds⟩ :=
    (union_exact (.other (some "urn:t")) (.enumeration [none, some "urn:t"]) openTypes).2.2
      _ _ _ _ extension base
  have gathered : openTypes.DeclaresWildcard definition.attributes
      (some ⟨.other (some "urn:t"), .strict⟩) := by
    cases complex
    exact .cons rfl rfl (.nil _) (.nil _)
  cases declares.unique gathered
  have whole : ¬ Wildcard.Related NamespaceConstraint.Splits (some ⟨.other (some "urn:t"), .strict⟩)
      (some ⟨.enumeration [none, some "urn:t"], .skip⟩) := by
    rintro ⟨_, _, ⟨⟩, ⟨⟩, splits⟩
    exact splits (by decide)
  have same : ¬ Wildcard.Related NamespaceConstraint.Differ (some ⟨.other (some "urn:t"), .strict⟩)
      (some ⟨.enumeration [none, some "urn:t"], .skip⟩) := by
    rintro ⟨_, _, ⟨⟩, ⟨⟩, differ⟩
    exact differ
  exact ⟨extension, definition, _, complex, declares, fun ns => ⟨keeps whole ns, adds same ns⟩⟩

/-- A list without the absent namespace is split by the negation of a namespace in it, and then
loses that; and the negations of two namespaces together come to admit the absent one, although just
what they admit is the negation of the absent one. -/
theorem not_union_exact :
    (¬ ∀ (a b : NamespaceConstraint) (ns : Namespace),
      a.allows ns = true ∨ b.allows ns = true → (a.union b).allows ns = true) ∧
    ¬ ∀ (a b c : NamespaceConstraint) (ns : Namespace),
      (∀ ns, c.allows ns = true ↔ a.allows ns = true ∨ b.allows ns = true) →
        ¬ (a.allows ns = true ∨ b.allows ns = true) → ¬ (a.union b).allows ns = true := by
  constructor
  · intro keeps
    have kept := keeps (.other (some "urn:t")) (.enumeration [some "urn:t"]) (some "urn:t")
      (Or.inr (by decide))
    revert kept
    decide
  · intro adds
    refine adds (.other (some "urn:t")) (.other (some "urn:u")) (.other none) none ?_ (by decide)
      (by decide)
    intro ns
    simp only [NamespaceConstraint.allows_other_iff]
    constructor
    · rintro ⟨present, -⟩
      by_cases same : ns = some "urn:t"
      · subst same
        exact Or.inr ⟨present, by decide⟩
      · exact Or.inl ⟨present, same⟩
    · rintro (⟨present, -⟩ | ⟨present, -⟩) <;> exact ⟨present, present⟩

/-! ## Restrictions -/

theorem within_iff {x y : Wildcard} (comparable : ¬ x.constraint.ExcludesMore y.constraint) :
    Wildcard.Within (some x) (some y) ↔ ∀ ns, x.allows ns = true → y.allows ns = true := by
  refine Iff.trans ⟨fun within => ?_, fun subset _ h => ⟨y, rfl, Option.some.inj h ▸ subset⟩⟩
    (NamespaceConstraint.isSubsetOf_iff comparable)
  obtain ⟨_, ⟨⟩, subset⟩ := within x rfl
  exact subset

/-- A constraint is within another one if all that it admits is admitted there, unless both are
negations of which the second excludes no more than the absent namespace and the first a name as
well. So after its attributes a restriction is refused for its wildcard exactly if that widens the
one of the base; and the wildcard of a type that is derived by restriction is its own one, and does
not. -/
theorem isSubsetOf_decides_restriction (a b : NamespaceConstraint) (arena : Arena) :
    (¬ a.ExcludesMore b →
      (a.isSubsetOf b = true ↔ ∀ ns, a.allows ns = true → b.allows ns = true)) ∧
    (∀ (owner : String) (method : DerivationMethod) (base own : AttributeSet)
        (s u : DerivationState) (table : AttributeTable), method ≠ .extension →
      Yields (own.attributes.values.foldlM (restrictAttribute arena s.derived owner base)
        base.attributes) s table u →
      (own.wildcard = none → Yields (merge arena owner method base own) s ⟨table, none⟩ u) ∧
      ∀ x, own.wildcard = some x →
        (base.wildcard = none → Fails (merge arena owner method base own) s
          (some (.invalidDerivation owner .widerWildcard)) u) ∧
        ∀ y, base.wildcard = some y → ¬ x.constraint.ExcludesMore y.constraint →
          (Fails (merge arena owner method base own) s
              (some (.invalidDerivation owner .widerWildcard)) u ↔
            ∃ ns, x.allows ns = true ∧ ¬ y.allows ns = true) ∧
          (Yields (merge arena owner method base own) s ⟨table, some x⟩ u ↔
            ∀ ns, x.allows ns = true → y.allows ns = true)) ∧
    ∀ (id p : TypeId) (t : ComplexType) (base : TypeInfo),
      (deriveAll arena).1.get? id = some ⟨some p, .restriction, .complex t⟩ →
      (deriveAll arena).1.get? p = some base →
      ∃ definition, arena.type? id = some (.complex definition) ∧
        arena.DeclaresWildcard definition.attributes t.wildcard ∧
        ∀ ns, Wildcard.Admitted t.wildcard ns →
          Wildcard.Admitted base.effective.attributeSet.wildcard ns := by
  refine ⟨NamespaceConstraint.isSubsetOf_iff, ?_, ?_⟩
  · intro owner method base own s u table other folded
    rcases merge_spec other folded with ⟨within, yields⟩ | ⟨wider, fails⟩
    · refine ⟨fun none => none ▸ yields, fun x hx => ⟨fun none => ?_, fun y hy comparable => ?_⟩⟩
      · obtain ⟨_, there, -⟩ := within x hx
        cases none.symm.trans there
      · rw [hx, hy, within_iff comparable] at within
        rw [hx] at yields
        refine ⟨iff_of_false yields.not_fails ?_, iff_of_true yields within⟩
        rintro ⟨ns, allowed, not⟩
        exact not (within ns allowed)
    · refine ⟨fun none => ?_, fun x hx => ⟨fun _ => fails, fun y hy comparable => ?_⟩⟩
      · rw [none] at wider
        exact absurd nofun wider
      · rw [hx, hy, within_iff comparable] at wider
        refine ⟨iff_of_true fails ?_, iff_of_false (fun yields => yields.not_fails fails) wider⟩
        simpa only [not_forall, exists_prop] using wider
  · intro id p t base entry based
    obtain ⟨definition, own, complex, declares, combines⟩ := exists_combines entry based
    generalize t.wildcard = wildcard at combines ⊢
    cases combines with
    | restriction _ within => exact ⟨definition, complex, declares, fun ns => within.admitted⟩

/-- A wildcard for all names outside of a namespace is taken in place of one for all names, but not
the other way around. -/
theorem isSubsetOf_decides_restriction_other :
    ¬ (NamespaceConstraint.other (some "urn:t")).ExcludesMore .any ∧
      Yields (merge .empty "T" .restriction ⟨.empty, some .anyLax⟩
          ⟨.empty, some ⟨.other (some "urn:t"), .lax⟩⟩) (Derive.initial .empty)
        ⟨.empty, some ⟨.other (some "urn:t"), .lax⟩⟩ (Derive.initial .empty) ∧
      Fails (merge .empty "T" .restriction ⟨.empty, some ⟨.other (some "urn:t"), .lax⟩⟩
          ⟨.empty, some .anyLax⟩) (Derive.initial .empty)
        (some (.invalidDerivation "T" .widerWildcard)) (Derive.initial .empty) ∧
      ∃ definition, openTypes.type? ⟨2⟩ = some (.complex definition) ∧
        openTypes.DeclaresWildcard definition.attributes
          (some ⟨.enumeration [none, some "urn:t"], .skip⟩) ∧
        ∀ ns, Wildcard.Admitted (some ⟨.enumeration [none, some "urn:t"], .skip⟩) ns →
          Wildcard.Admitted (some .anyLax) ns := by
  have narrower : ¬ (NamespaceConstraint.other (some "urn:t")).ExcludesMore .any := nofun
  have wider : ¬ NamespaceConstraint.any.ExcludesMore (.other (some "urn:t")) := nofun
  obtain ⟨-, merges, -⟩ := isSubsetOf_decides_restriction (.other (some "urn:t")) .any .empty
  obtain ⟨-, taken⟩ := (merges "T" .restriction ⟨.empty, some .anyLax⟩
    ⟨.empty, some ⟨.other (some "urn:t"), .lax⟩⟩ (Derive.initial .empty)
    (Derive.initial .empty) .empty (by decide) rfl).2 _ rfl
  obtain ⟨-, refused⟩ := (merges "T" .restriction ⟨.empty, some ⟨.other (some "urn:t"), .lax⟩⟩
    ⟨.empty, some .anyLax⟩ (Derive.initial .empty)
    (Derive.initial .empty) .empty (by decide) rfl).2 _ rfl
  obtain ⟨base, restriction, -⟩ := openTypes_entries
  exact ⟨narrower, (taken _ rfl narrower).2.mpr fun _ _ => rfl,
    (refused _ rfl wider).1.mpr ⟨none, rfl, by decide⟩,
    (isSubsetOf_decides_restriction (.other (some "urn:t")) .any openTypes).2.2 _ _ _ _
      restriction base⟩

/-- The negation of a namespace admits less than that of the absent one, but is not said to be
within it. -/
theorem not_isSubsetOf_exact :
    ¬ ∀ a b : NamespaceConstraint,
      a.isSubsetOf b = true ↔ ∀ ns, a.allows ns = true → b.allows ns = true := by
  intro exact
  have included := (exact (.other (some "urn:t")) (.other none)).mpr fun ns allowed => by
    rw [NamespaceConstraint.allows_other_iff] at allowed ⊢
    exact ⟨allowed.1, allowed.1⟩
  revert included
  decide

end Derivation

end Xsd
