import Xsd.Proofs.Derivation.Faults

/-!
# The types that a derivation needs

All that the derivation of a type does to the state it does by having other types derived. So it
keeps what their derivations keep.
-/

namespace Xsd.Derivation

variable {P : DerivationState → Prop} {a : Arena} {need : Need} {owner : String}

theorem upholds_refuse {α : Type} (e : Error) : Upholds P (Derive.refuse e : Derive α) :=
  .throw _

theorem upholds_expect {α : Type} (x : Option α) : Upholds P (Derive.expect x) := by
  cases x with
  | none => exact .throw _
  | some x => exact .pure x

/-! ## Attributes -/

theorem upholds_attributeUse (hneed : ∀ id, Upholds P (need id)) (u : AttributeUseDecl) :
    Upholds P (attributeUse a need u) := by
  refine .bind (upholds_expect _) fun id => .bind (upholds_expect _) fun decl => ?_
  refine .bind (upholds_expect _) fun name => ?_
  extract_lets finish
  have hfinish : ∀ type, Upholds P (finish type) := by
    intro type
    refine .bind (upholds_expect _) fun definition => ?_
    split
    · exact .bind (hneed type) fun _ => .pure _
    · exact upholds_refuse _
  split
  · exact .bind (upholds_expect _) hfinish
  · exact .bind (.pure _) hfinish

theorem upholds_addAttribute (table : AttributeTable) (x : EffectiveAttribute) :
    Upholds P (addAttribute owner table x) :=
  (inert_addAttribute : Inert (StopsCollection .empty False _) _ _).upholds

theorem upholds_addGroup (sofar group : AttributeSet) : Upholds P (addGroup owner sofar group) :=
  (inert_addGroup : Inert (StopsCollection .empty False _) _ _).upholds

/-- By induction on the number of groups that can still be inside each other. -/
theorem upholds_flatten (hneed : ∀ id, Upholds P (need id)) (fuel : Nat)
    (stack : List AttributeGroupId) (decls : AttributeDecls) :
    Upholds P (flatten a need owner fuel stack decls) := by
  induction fuel generalizing stack decls with
  | zero => exact .throw _
  | succ fuel ih =>
    refine .bind (.foldlM fun table u => ?_) fun used => .foldlM fun sofar r => ?_
    · exact .bind (upholds_attributeUse hneed u) fun x => upholds_addAttribute table x
    · refine .bind (upholds_expect _) fun id => ?_
      split
      · exact upholds_refuse _
      · refine .bind (upholds_expect _) fun group => ?_
        exact .bind (ih _ _) fun attributes => upholds_addGroup sofar attributes

theorem upholds_declared (hneed : ∀ id, Upholds P (need id)) (stack : List AttributeGroupId)
    (decls : AttributeDecls) : Upholds P (declared a need owner stack decls) :=
  upholds_flatten hneed _ stack decls

theorem upholds_merge (method : DerivationMethod) (base own : AttributeSet) :
    Upholds P (merge a owner method base own) := by
  unfold merge
  split
  · exact (inert_extend : Inert (Stops a False) _ _).upholds
  · refine .bind .get fun s => ?_
    refine .bind (.foldlM fun _ _ => (inert_restrictAttribute : Inert (Stops a False) _ _).upholds)
      fun table => ?_
    exact .bind (inert_restrictWildcard : Inert (Stops a False) _ _).upholds fun _ => .pure _

/-! ## Types -/

theorem upholds_ofFacets {α : Type} (result : Except (FacetKind × FacetFault) α) :
    Upholds P (ofFacets owner result) :=
  (inert_ofFacets : Inert (Stops .empty False) _ _).upholds

theorem upholds_operand (hneed : ∀ id, Upholds P (need id)) (action : String) (use : TypeUse) :
    Upholds P (operand a need owner action use) := by
  refine .bind (upholds_expect _) fun id => .bind (upholds_expect _) fun definition => ?_
  split
  · exact upholds_refuse _
  · refine .bind (hneed id) fun _ => .bind .get fun s => ?_
    exact .bind (upholds_expect _) fun _ => .pure _

theorem upholds_deriveSimple (hneed : ∀ id, Upholds P (need id)) (id : TypeId) (t : SimpleTypeDef) :
    Upholds P (deriveSimple a need id t) := by
  unfold deriveSimple
  split
  · exact .pure _
  · extract_lets owner
    split
    · refine .bind (upholds_operand hneed _ _) fun ⟨baseId, base⟩ => ?_
      refine .bind (upholds_ofFacets _) fun own => ?_
      exact .bind (inert_specialize : Inert (Stops a False) _ _).upholds fun _ => .pure _
    · refine .bind (upholds_operand hneed _ _) fun ⟨itemId, item⟩ => ?_
      dsimp only
      split
      · exact upholds_refuse _
      · exact .bind (upholds_ofFacets _) fun _ => .pure _
    · exact .bind (.mapM (upholds_operand hneed _)) fun _ => .pure _

theorem upholds_deriveSimpleContent (t : ComplexTypeDef) (baseId : TypeId) (base : EffectiveType)
    (facets : List FacetDecl) : Upholds P (deriveSimpleContent a owner t baseId base facets) :=
  (inert_deriveSimpleContent : Inert (Stops a False) _ _).upholds

theorem upholds_deriveContent (t : ComplexTypeDef) (baseId : TypeId) (base : EffectiveType)
    (particle : Option Particle) : Upholds P (deriveContent a owner t baseId base particle) :=
  (inert_deriveContent (fun ok : False => ok.elim) fun ok => ok.elim).upholds

theorem upholds_deriveComplex (hneed : ∀ id, Upholds P (need id)) (id : TypeId)
    (t : ComplexTypeDef) : Upholds P (deriveComplex a need id t) := by
  unfold deriveComplex
  split
  · exact .pure _
  · extract_lets owner
    refine .bind (upholds_expect _) fun baseId => .bind (hneed baseId) fun _ => ?_
    refine .bind (.bind .get fun s => upholds_expect _) fun base => ?_
    refine .bind (upholds_declared hneed _ _) fun own => ?_
    extract_lets inherited finish
    refine .bind (upholds_merge _ _ _) fun attributes => ?_
    split
    · exact .bind (upholds_deriveSimpleContent _ _ _ _) fun _ => .bind (.pure _) fun _ => .pure _
    · exact .bind (upholds_deriveContent _ _ _ _) fun _ => .bind (.pure _) fun _ => .pure _

theorem upholds_deriveDefinition (hneed : ∀ id, Upholds P (need id)) (id : TypeId)
    (definition : TypeDefinition) : Upholds P (deriveDefinition a need id definition) := by
  cases definition with
  | simple t => exact upholds_deriveSimple hneed id t
  | complex t => exact upholds_deriveComplex hneed id t

end Xsd.Derivation
