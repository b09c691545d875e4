import Xsd.Proofs.Derivation.Wildcards

/-!
# Wildcards of attribute groups

Declarations bring the wildcards that they have by themselves and in the attribute groups to which
they refer, in groups inside groups as well. The wildcard that they come to admits what all of these
admit, and nothing that their own one does not; and unless two of them are negations of different
namespaces, it admits no more than what all of them do.
-/

namespace Xsd

/-- The wildcard is one of the declarations, or of those of a group to which they refer. -/
inductive Arena.Brings (a : Arena) : AttributeDecls → Wildcard → Prop
  | own {decls : AttributeDecls} {w : Wildcard} : decls.wildcard = some w → Brings a decls w
  | group {decls : AttributeDecls} {r : Reference AttributeGroupId} {id : AttributeGroupId}
    {g : AttributeGroupDef} {w : Wildcard} : r ∈ decls.groups → r.target = some id →
      a.attributeGroup? id = some g → Brings a g.attributes w → Brings a decls w

/-- The wildcards that the groups bring. -/
def Arena.broughtBy (a : Arena) (rs : List (Reference AttributeGroupId)) : Set Wildcard :=
  {w | ∃ r ∈ rs, ∃ id g, r.target = some id ∧ a.attributeGroup? id = some g ∧
    a.Brings g.attributes w}

theorem Arena.setOf_brings (a : Arena) (decls : AttributeDecls) :
    {w | a.Brings decls w} = {w | decls.wildcard = some w} ∪ a.broughtBy decls.groups := by
  ext w
  constructor
  · rintro (own | ⟨mem, target, there, inside⟩)
    · exact Or.inl own
    · exact Or.inr ⟨_, mem, _, _, target, there, inside⟩
  · rintro (own | ⟨r, mem, id, g, target, there, inside⟩)
    · exact .own own
    · exact .group mem target there inside

theorem Arena.broughtBy_cons {a : Arena} {r : Reference AttributeGroupId}
    {rs : List (Reference AttributeGroupId)} {id : AttributeGroupId} {g : AttributeGroupDef}
    (target : r.target = some id) (there : a.attributeGroup? id = some g) :
    a.broughtBy (r :: rs) = {w | a.Brings g.attributes w} ∪ a.broughtBy rs := by
  ext w
  constructor
  · rintro ⟨r', mem, id', g', target', there', inside⟩
    rcases List.mem_cons.mp mem with rfl | mem
    · cases target.symm.trans target'
      cases there.symm.trans there'
      exact Or.inl inside
    · exact Or.inr ⟨r', mem, id', g', target', there', inside⟩
  · rintro (inside | ⟨r', mem, rest⟩)
    · exact ⟨r, List.mem_cons_self, id, g, target, there, inside⟩
    · exact ⟨r', List.mem_cons_of_mem r mem, rest⟩

namespace Wildcard

/-- No two of the wildcards are negations of different namespaces. -/
def Compatible (ws : Set Wildcard) : Prop :=
  ∀ v ∈ ws, ∀ w ∈ ws, ¬ v.constraint.Differ w.constraint

/-- The wildcard is what wildcards come to that have to admit a namespace together: it admits what
all of them do and, if they are compatible, nothing else. A negation among the results was there
before. -/
structure IsMeet (ws : Set Wildcard) (result : Option Wildcard) : Prop where
  none : result = none ↔ ws = ∅
  keeps : ∀ ns, ws.Nonempty → (∀ w ∈ ws, w.allows ns = true) → Admitted result ns
  adds : Compatible ws → ∀ ns, Admitted result ns → ∀ w ∈ ws, w.allows ns = true
  negation : ∀ v, result = some v → ∀ excluded, v.constraint = .other excluded →
    ∃ w ∈ ws, w.constraint = .other excluded

theorem isMeet_own (w : Option Wildcard) : IsMeet {v | w = some v} w := by
  cases w with
  | none =>
    have empty : {v : Wildcard | Option.none = some v} = ∅ := by simp
    rw [empty]
    constructor
    case none => exact iff_of_true rfl rfl
    case keeps => exact fun ns any => absurd any Set.not_nonempty_empty
    case adds => exact fun _ ns _ w mem => absurd mem (Set.notMem_empty w)
    case negation => exact fun v own => nomatch own
  | some w =>
    constructor
    case none => simp [Set.ext_iff]
    case keeps => exact fun ns _ all => ⟨w, rfl, all w rfl⟩
    case adds =>
      rintro - ns ⟨_, ⟨⟩, allowed⟩ _ ⟨⟩
      exact allowed
    case negation => exact fun v own excluded same => ⟨v, own, same⟩

theorem IsMeet.nonempty {ws : Set Wildcard} {w : Wildcard} (h : IsMeet ws (some w)) :
    ws.Nonempty :=
  Set.nonempty_iff_ne_empty.mpr fun empty => nomatch h.none.mpr empty

/-- A negation of each result is one of the wildcards that it comes from, so the results differ only
where two wildcards do. -/
theorem IsMeet.not_differ {vs ws : Set Wildcard} {x y : Wildcard} (hv : IsMeet vs (some x))
    (hw : IsMeet ws (some y)) (compatible : Compatible (vs ∪ ws)) :
    ¬ x.constraint.Differ y.constraint := by
  intro differ
  cases hx : x.constraint with
  | other excluded =>
    cases hy : y.constraint with
    | other excluded' =>
      obtain ⟨v, mem, same⟩ := hv.negation x rfl excluded hx
      obtain ⟨w, mem', same'⟩ := hw.negation y rfl excluded' hy
      refine compatible v (Or.inl mem) w (Or.inr mem') ?_
      rw [same, same', ← hx, ← hy]
      exact differ
    | _ =>
      rw [hx, hy] at differ
      exact differ
  | _ =>
    rw [hx] at differ
    exact differ

theorem IsMeet.both {vs ws : Set Wildcard} {v w : Option Wildcard} (hv : IsMeet vs v)
    (hw : IsMeet ws w) : IsMeet (vs ∪ ws) (Derivation.bothWildcards v w) := by
  cases v with
  | none =>
    rw [hv.none.mp rfl, Set.empty_union]
    exact hw
  | some x =>
    cases w with
    | none =>
      rw [hw.none.mp rfl, Set.union_empty]
      exact hv
    | some y =>
      constructor
      case none =>
        refine iff_of_false nofun fun empty => ?_
        exact hv.nonempty.ne_empty (Set.union_empty_iff.mp empty).1
      case keeps =>
        intro ns _ all
        obtain ⟨_, ⟨⟩, first⟩ := hv.keeps ns hv.nonempty fun v mem => all v (Or.inl mem)
        obtain ⟨_, ⟨⟩, second⟩ := hw.keeps ns hw.nonempty fun w mem => all w (Or.inr mem)
        exact ⟨_, rfl, NamespaceConstraint.allows_intersection first second⟩
      case adds =>
        rintro compatible ns ⟨_, ⟨⟩, allowed⟩ u mem
        obtain ⟨first, second⟩ := NamespaceConstraint.allows_intersection_iff.mp allowed
        have second := second.resolve_left (hv.not_differ hw compatible)
        rcases mem with mem | mem
        · exact hv.adds (fun v hv' w hw' => compatible v (Or.inl hv') w (Or.inl hw')) ns
            ⟨x, rfl, first⟩ u mem
        · exact hw.adds (fun v hv' w hw' => compatible v (Or.inr hv') w (Or.inr hw')) ns
            ⟨y, rfl, second⟩ u mem
      case negation =>
        rintro _ ⟨⟩ excluded same
        rcases NamespaceConstraint.eq_other_of_intersection same with same | same
        · obtain ⟨v, mem, same⟩ := hv.negation x rfl excluded same
          exact ⟨v, Or.inl mem, same⟩
        · obtain ⟨w, mem, same⟩ := hw.negation y rfl excluded same
          exact ⟨w, Or.inr mem, same⟩

/-- Of two wildcards the first one counts where the intersection is not exact. -/
theorem admitted_of_bothWildcards {v w : Option Wildcard} {x : Wildcard} {ns : Namespace}
    (first : v = some x) (h : Admitted (Derivation.bothWildcards v w) ns) : x.allows ns = true := by
  subst first
  obtain ⟨y, hy, allowed⟩ := h
  cases w with
  | none =>
    cases hy
    exact allowed
  | some z =>
    cases hy
    exact NamespaceConstraint.allows_of_allows_intersection allowed

end Wildcard

/-- By induction on the groups, and on those inside each of them. -/
theorem Arena.Gathers.isMeet {a : Arena} {rs : List (Reference AttributeGroupId)}
    {w result : Option Wildcard} {ws : Set Wildcard} (h : a.Gathers w rs result)
    (start : Wildcard.IsMeet ws w) : Wildcard.IsMeet (ws ∪ a.broughtBy rs) result := by
  induction h generalizing ws with
  | nil w =>
    have empty : a.broughtBy [] = ∅ := by simp [Arena.broughtBy]
    rw [empty, Set.union_empty]
    exact start
  | @cons w group result r rs id g target there inside rest ihGroup ihRest =>
    have brought : Wildcard.IsMeet {w | a.Brings g.attributes w} group := by
      rw [a.setOf_brings g.attributes]
      exact ihGroup (Wildcard.isMeet_own g.attributes.wildcard)
    rw [Arena.broughtBy_cons target there, ← Set.union_assoc]
    exact ihRest (start.both brought)

theorem Arena.DeclaresWildcard.isMeet {a : Arena} {decls : AttributeDecls} {w : Option Wildcard}
    (h : a.DeclaresWildcard decls w) : Wildcard.IsMeet {w | a.Brings decls w} w := by
  rw [a.setOf_brings decls]
  exact Arena.Gathers.isMeet h (Wildcard.isMeet_own decls.wildcard)

/-- What is there before the groups is not widened by any of them. -/
theorem Arena.Gathers.within {a : Arena} {rs : List (Reference AttributeGroupId)}
    {w result : Option Wildcard} {x : Wildcard} {ns : Namespace} (h : a.Gathers w rs result)
    (first : w = some x) (admitted : Wildcard.Admitted result ns) : x.allows ns = true := by
  induction h generalizing x with
  | nil w =>
    obtain ⟨y, hy, allowed⟩ := admitted
    cases first.symm.trans hy
    exact allowed
  | @cons w group result r rs id g target there inside rest ihGroup ihRest =>
    cases hboth : Derivation.bothWildcards w group with
    | none =>
      subst first
      cases group <;> cases hboth
    | some y =>
      exact Wildcard.admitted_of_bothWildcards first ⟨y, hboth, ihRest hboth admitted⟩

namespace Derivation

/-- An intersection admits what both constraints admit, and nothing else unless they negate
different namespaces; it then admits no more than the first one does. So the wildcard that declarations
come to admits what all wildcards do that they bring, by themselves and in attribute groups; it
admits nothing that their own one does not, and unless two of them negate different namespaces, only
what all of them do. -/
theorem intersection_exact (a b : NamespaceConstraint) (arena : Arena) :
    (¬ a.Differ b → ∀ ns,
      (a.intersection b).allows ns = true ↔ a.allows ns = true ∧ b.allows ns = true) ∧
    (a.Differ b → ∀ ns,
      (a.allows ns = true ∧ b.allows ns = true → (a.intersection b).allows ns = true) ∧
      ((a.intersection b).allows ns = true → a.allows ns = true)) ∧
    ∀ (need : Need) (owner : String) (stack : List AttributeGroupId) (decls : AttributeDecls)
      (s t : DerivationState) (own : AttributeSet),
      Yields (declared arena need owner stack decls) s own t →
      (∀ ns, (∃ w, arena.Brings decls w) → (∀ w, arena.Brings decls w → w.allows ns = true) →
        Wildcard.Admitted own.wildcard ns) ∧
      (∀ ns w, decls.wildcard = some w → Wildcard.Admitted own.wildcard ns → w.allows ns = true) ∧
      (Wildcard.Compatible {w | arena.Brings decls w} → ∀ ns w, arena.Brings decls w →
        Wildcard.Admitted own.wildcard ns → w.allows ns = true) := by
  refine ⟨fun same ns => ?_, fun _ ns => ⟨?_, ?_⟩, ?_⟩
  · rw [NamespaceConstraint.allows_intersection_iff, or_iff_right same]
  · rintro ⟨first, second⟩
    exact NamespaceConstraint.allows_intersection first second
  · exact NamespaceConstraint.allows_of_allows_intersection
  · intro need owner stack decls s t own h
    have declares := declaresWildcard_of_yields_flatten h
    have meet := declares.isMeet
    refine ⟨meet.keeps, fun ns w hw admitted => declares.within hw admitted, ?_⟩
    exact fun compatible ns w brings admitted => meet.adds compatible ns admitted w brings

/-- An attribute group for two namespaces and the absent one, and one inside it for all but the
first of the two. -/
def nestedGroups : Arena :=
  { Arena.empty with
    attributeGroups :=
      #[⟨.ofLocal none ⟨1⟩, ⟨[], [⟨⟨none, "others"⟩, some ⟨1⟩⟩],
          some ⟨.enumeration [none, some "urn:t", some "urn:u"], .skip⟩⟩⟩,
        ⟨.ofLocal none ⟨1⟩, ⟨[], [], some ⟨.other (some "urn:t"), .lax⟩⟩⟩] }

/-- Declarations with a wildcard for everything that refer to the outer group. -/
def nestedDecls : AttributeDecls := ⟨[], [⟨⟨none, "listed"⟩, some ⟨0⟩⟩], some .anyLax⟩

theorem brings_nestedDecls {w : Wildcard} (h : nestedGroups.Brings nestedDecls w) :
    w = .anyLax ∨ w = ⟨.enumeration [none, some "urn:t", some "urn:u"], .skip⟩ ∨
      w = ⟨.other (some "urn:t"), .lax⟩ := by
  rcases h with own | ⟨mem, target, there, own | ⟨mem', target', there', own | ⟨mem'', -⟩⟩⟩
  · cases own
    exact Or.inl rfl
  · cases List.mem_singleton.mp mem
    cases target
    cases there
    cases own
    exact Or.inr (Or.inl rfl)
  · cases List.mem_singleton.mp mem
    cases target
    cases there
    cases List.mem_singleton.mp mem'
    cases target'
    cases there'
    cases own
    exact Or.inr (Or.inr rfl)
  · cases List.mem_singleton.mp mem
    cases target
    cases there
    cases List.mem_singleton.mp mem'
    cases target'
    cases there'
    cases mem''

/-- Only the second namespace of the list is left, and of different negations the first one. -/
theorem nestedGroups_intersection :
    Yields (declared nestedGroups (fun _ => return ()) "T" [] nestedDecls) (Derive.initial .empty)
        ⟨.empty, some ⟨.enumeration [some "urn:u"], .lax⟩⟩ (Derive.initial .empty) ∧
      Wildcard.Compatible {w | nestedGroups.Brings nestedDecls w} ∧
      (∀ ns, Wildcard.Admitted (some ⟨.enumeration [some "urn:u"], .lax⟩) ns ↔
        ∀ w, nestedGroups.Brings nestedDecls w → w.allows ns = true) ∧
      (NamespaceConstraint.other (some "urn:t")).Differ (.other (some "urn:u")) ∧
      ((NamespaceConstraint.other (some "urn:t")).intersection (.other (some "urn:u"))).allows
        (some "urn:v") = true := by
  have yields : Yields (declared nestedGroups (fun _ => return ()) "T" [] nestedDecls)
      (Derive.initial .empty) ⟨.empty, some ⟨.enumeration [some "urn:u"], .lax⟩⟩
      (Derive.initial .empty) := rfl
  have compatible : Wildcard.Compatible {w | nestedGroups.Brings nestedDecls w} := by
    intro v hv w hw
    rcases brings_nestedDecls hv with rfl | rfl | rfl <;>
      rcases brings_nestedDecls hw with rfl | rfl | rfl <;>
      simp [NamespaceConstraint.Differ, Wildcard.anyLax]
  obtain ⟨keeps, -, adds⟩ := (intersection_exact (.enumeration [none, some "urn:t", some "urn:u"])
    (.other (some "urn:t")) nestedGroups).2.2 _ _ _ _ _ _ _ yields
  have differ : (NamespaceConstraint.other (some "urn:t")).Differ (.other (some "urn:u")) := by
    simp [NamespaceConstraint.Differ]
  refine ⟨yields, compatible, fun ns => ⟨fun admitted w brings => ?_, keeps ns ?_⟩, differ, ?_⟩
  · exact adds compatible ns w brings admitted
  · exact ⟨_, .own rfl⟩
  · exact ((intersection_exact _ _ .empty).2.1 differ (some "urn:v")).1 ⟨by decide, by decide⟩

end Derivation

end Xsd
