import Xsd.Proofs.Steps
import Xsd.Schema.Reading

/-!
# Why a document is not read

The reading of a document fails for what is wrong with the structure of that document, which the
error names the place of, or because a limit is exceeded. What is wrong with the documents that it
includes is noted, and does not stop it.
-/

namespace Xsd

/-- The document that the place is in. -/
def Place.location : Place → Location
  | .document location => location
  | .element location _ _ _ => location

/-- The error is in the document at the location, or it is that a limit is exceeded. -/
def Error.IsIn (location : Location) : Error → Prop
  | .schemaStructure _ (some place) => place.location = location
  | .limitExceeded _ => True
  | _ => False

/-- Something is wrong with the documents: with their structure, with a name that is declared twice,
or with a document that cannot be had. -/
def Error.isDocumentFault : Error → Bool
  | .schemaStructure _ _ => true
  | .duplicateDeclaration _ _ => true
  | .retrieval _ => true
  | _ => false

def Error.isLimitExcess : Error → Bool
  | .limitExceeded _ => true
  | _ => false

theorem Error.IsIn.isFault {location : Location} {e : Error} (h : e.IsIn location) :
    e.isDocumentFault = true ∨ e.isLimitExcess = true := by
  cases e with
  | schemaStructure => exact Or.inl rfl
  | limitExceeded => exact Or.inr rfl
  | _ => exact h.elim

/-! ## Computations that fail for known reasons only -/

section

variable {α β : Type} {E : Error → Prop}

/-- If an outcome is an error, it is one of these. -/
def Blames (E : Error → Prop) (x : Except Error α) : Prop :=
  ∀ e, x = .error e → E e

namespace Blames

@[simp] theorem ok (v : α) : Blames E (.ok v) := by
  rintro _ ⟨⟩

@[simp] theorem pure (v : α) : Blames E (Pure.pure v) := ok v

theorem error {e : Error} (h : E e) : Blames E (.error e : Except Error α) := by
  rintro _ ⟨⟩
  exact h

theorem bind {x : Except Error α} {f : α → Except Error β} (hx : Blames E x)
    (hf : ∀ v, Blames E (f v)) : Blames E (x >>= f) := by
  cases x with
  | ok v => exact hf v
  | error e => exact error (hx e rfl)

theorem map {x : Except Error α} (f : α → β) (hx : Blames E x) : Blames E (x.map f) := by
  cases x with
  | ok v => exact ok (f v)
  | error e => exact error (hx e rfl)

theorem foldlM {f : β → α → Except Error β} (hf : ∀ b x, Blames E (f b x)) (xs : List α) (b : β) :
    Blames E (xs.foldlM f b) := by
  induction xs generalizing b with
  | nil => exact pure b
  | cons x xs ih => exact bind (hf b x) ih

theorem mapM {f : α → Except Error β} (hf : ∀ x, Blames E (f x)) (xs : List α) :
    Blames E (xs.mapM f) := by
  induction xs with
  | nil => exact pure []
  | cons x xs ih =>
    rw [List.mapM_cons]
    exact bind (hf x) fun y => bind ih fun ys => pure (y :: ys)

end Blames

/-- The same for a step of the assembly. -/
def Raises (E : Error → Prop) (x : Assemble α) : Prop :=
  ∀ a, Blames E (x.run.run a).1

namespace Raises

@[simp] theorem pure (v : α) : Raises E (Pure.pure v) := fun _ => .ok v

theorem throw {e : Error} (h : E e) : Raises E (MonadExcept.throw e : Assemble α) :=
  fun _ => .error h

theorem lift {x : Except Error α} (hx : Blames E x) : Raises E (liftM x : Assemble α) :=
  fun _ => hx

theorem bind {x : Assemble α} {f : α → Assemble β} (hx : Raises E x) (hf : ∀ v, Raises E (f v)) :
    Raises E (x >>= f) := by
  intro a
  have first := hx a
  rw [ExceptT.run_bind, StateT.run_bind]
  generalize x.run.run a = outcome at first
  obtain ⟨r, b⟩ := outcome
  cases r with
  | ok v => exact hf v b
  | error e => exact .error (first e rfl)

theorem liftBind {x : Except Error α} {f : α → Assemble β} (hx : Blames E x)
    (hf : ∀ v, Raises E (f v)) : Raises E ((liftM x : Assemble α) >>= f) :=
  bind (lift hx) hf

theorem get : Raises E (MonadState.get : Assemble Assembly) := fun a => .ok a

theorem modify (f : Assembly → Assembly) : Raises E (modify f : Assemble Unit) := fun _ => .ok ()

theorem modifyGet (f : Assembly → α × Assembly) :
    Raises E (MonadStateOf.modifyGet f : Assemble α) := fun _ => .ok _

theorem discard {x : Assemble α} (hx : Raises E x) : Raises E (Functor.discard x) :=
  bind hx fun _ => pure ()

theorem foldlM {f : β → α → Assemble β} (hf : ∀ b x, Raises E (f b x)) (xs : List α) (b : β) :
    Raises E (xs.foldlM f b) := by
  induction xs generalizing b with
  | nil => exact pure b
  | cons x xs ih => exact bind (hf b x) ih

theorem forM {f : α → Assemble Unit} (hf : ∀ x, Raises E (f x)) (xs : List α) :
    Raises E (xs.forM f) := by
  induction xs with
  | nil => exact pure ()
  | cons x xs ih => exact bind (hf x) fun _ => ih

/-- What is handled is not raised. -/
theorem tryCatch {x : Assemble α} {handle : Error → Assemble α} (hh : ∀ e, Raises E (handle e)) :
    Raises E (MonadExcept.tryCatch x handle) := by
  intro a
  rw [ExceptT.run_tryCatch, StateT.run_bind]
  generalize x.run.run a = outcome
  obtain ⟨r, b⟩ := outcome
  cases r with
  | ok v => exact .ok v
  | error e => exact hh e b

end Raises

theorem Assemble.raises_note (e : Error) : Raises E (Assemble.note e) := .modify _

theorem Assemble.raises_enter {insert : Arena → α × Arena} : Raises E (Assemble.enter insert) :=
  .modifyGet _

theorem Assemble.raises_declare (name : QName) (id : ComponentId) :
    Raises E (Assemble.declare name id) := by
  refine .bind .get fun a => ?_
  split
  · exact .modify _
  · exact Assemble.raises_note _

end

/-! ## What is read at one element -/

namespace Setting

variable {s : Setting} {e : Element}

@[simp] theorem blames_refuse {α : Type} {fault : SchemaFault} :
    Blames (Error.IsIn s.location) (s.refuse e fault : Except Error α) :=
  .error rfl

@[simp] theorem raises_refuse {α : Type} {fault : SchemaFault} :
    Raises (Error.IsIn s.location) (liftM (s.refuse e fault : Except Error α) : Assemble α) :=
  .lift blames_refuse

theorem blames_expectXsd : Blames (Error.IsIn s.location) (s.expectXsd e) := by
  unfold expectXsd
  split <;> simp

theorem blames_forbid (words : List String) (owner : String) :
    Blames (Error.IsIn s.location) (s.forbid e words owner) := by
  unfold forbid
  split <;> simp

theorem blames_annotationOnly : Blames (Error.IsIn s.location) (s.annotationOnly e) := by
  unfold annotationOnly
  split <;> simp

theorem blames_boolean? (word : String) : Blames (Error.IsIn s.location) (s.boolean? e word) := by
  unfold boolean?
  split <;> simp

theorem blames_boolean (word : String) : Blames (Error.IsIn s.location) (s.boolean e word) :=
  .bind (blames_boolean? word) fun _ => .pure _

theorem blames_ncName : Blames (Error.IsIn s.location) (s.ncName e) := by
  unfold ncName
  split
  · simp
  · split <;> simp

theorem blames_globalName : Blames (Error.IsIn s.location) (s.globalName e) :=
  .bind blames_ncName fun _ => .pure _

theorem blames_localName (qualified : Bool) :
    Blames (Error.IsIn s.location) (s.localName e qualified) := by
  refine .bind blames_ncName fun name => ?_
  extract_lets named
  have hnamed : ∀ qualified, Blames (Error.IsIn s.location) (named qualified) := fun _ => .pure _
  split
  · exact .bind (.ok _) hnamed
  · exact .bind (.ok _) hnamed
  · exact .bind (.ok _) hnamed
  · exact .bind blames_refuse hnamed

theorem blames_resolve (text : String) : Blames (Error.IsIn s.location) (s.resolve e text) := by
  unfold resolve
  split <;> simp

theorem blames_typeUse (text : String) : Blames (Error.IsIn s.location) (s.typeUse e text) :=
  .bind (blames_resolve text) fun _ => .pure _

theorem blames_occurs : Blames (Error.IsIn s.location) (s.occurs e) := by
  unfold occurs
  split <;> simp

theorem blames_valueConstraint : Blames (Error.IsIn s.location) (s.valueConstraint e) := by
  unfold valueConstraint
  split <;> simp

theorem blames_wildcard : Blames (Error.IsIn s.location) (s.wildcard e) := by
  unfold wildcard
  extract_lets constrained
  have hconstrained : ∀ c, Blames (Error.IsIn s.location) (constrained c) := by
    intro c
    unfold constrained
    extract_lets processed
    have hprocessed : ∀ p, Blames (Error.IsIn s.location) (processed p) := fun _ => .pure _
    split
    · exact .bind (.ok _) hprocessed
    · split
      · exact .bind (.ok _) hprocessed
      · exact .bind blames_refuse hprocessed
  split
  · exact .bind blames_refuse hconstrained
  · exact .bind (.ok _) hconstrained

theorem blames_facet (kind : FacetKind) : Blames (Error.IsIn s.location) (s.facet e kind) := by
  unfold facet
  split
  · simp
  · exact .bind (blames_boolean _) fun _ => .pure _

end Setting

/-- Whatever is nested in a declaration is in the same document. -/
structure Nested.Raises (s : Setting) (inner : Nested) : Prop where
  simpleType : ∀ e, Xsd.Raises (Error.IsIn s.location) (inner.simpleType e)
  complexType : ∀ e, Xsd.Raises (Error.IsIn s.location) (inner.complexType e)
  particle : ∀ e, Xsd.Raises (Error.IsIn s.location) (inner.particle e)

namespace Schema

open Setting

variable {inner : Nested} {s : Setting}

/-! ## Simple types -/

theorem raises_restrictionChild (nested : inner.Raises s) (owner : Element)
    (parts : RestrictionParts) (c : Element) :
    Raises (Error.IsIn s.location) (restrictionChild inner s owner parts c) := by
  refine .liftBind blames_expectXsd fun _ => ?_
  split
  · exact .pure _
  · split
    · exact raises_refuse
    · exact .bind (nested.simpleType c) fun _ => .pure _
  · split
    · exact .liftBind (blames_facet _) fun _ => .pure _
    · exact raises_refuse

theorem blames_namedType? (e : Element) (word : String) :
    Blames (Error.IsIn s.location) (namedType? s e word) := by
  unfold namedType?
  split
  · exact .map _ (blames_typeUse _)
  · exact .ok _

theorem raises_restriction (nested : inner.Raises s) (e : Element) :
    Raises (Error.IsIn s.location) (restriction inner s e) := by
  refine .liftBind (blames_namedType? _ _) fun base => ?_
  refine .bind (.foldlM (raises_restrictionChild nested e) _ _) fun parts => ?_
  split <;> simp

theorem raises_listChild (nested : inner.Raises s) (owner : Element) (item : Option TypeUse)
    (c : Element) : Raises (Error.IsIn s.location) (listChild inner s owner item c) := by
  refine .liftBind blames_expectXsd fun _ => ?_
  split
  · exact .pure _
  · exact .bind (nested.simpleType c) fun _ => .pure _
  · exact raises_refuse

theorem raises_list (nested : inner.Raises s) (e : Element) :
    Raises (Error.IsIn s.location) (list inner s e) := by
  refine .liftBind (blames_namedType? _ _) fun item => ?_
  refine .bind (.foldlM (raises_listChild nested e) _ _) fun item => ?_
  split <;> simp

theorem raises_unionChild (nested : inner.Raises s) (members : List TypeUse) (c : Element) :
    Raises (Error.IsIn s.location) (unionChild inner s members c) := by
  refine .liftBind blames_expectXsd fun _ => ?_
  split
  · exact .pure _
  · exact .bind (nested.simpleType c) fun _ => .pure _
  · exact raises_refuse

theorem raises_union (nested : inner.Raises s) (e : Element) :
    Raises (Error.IsIn s.location) (union inner s e) := by
  refine .liftBind (.mapM (fun _ => blames_typeUse _) _) fun named => ?_
  refine .bind (.foldlM (raises_unionChild nested) _ _) fun members => ?_
  split <;> simp

theorem raises_simpleTypeChild (nested : inner.Raises s) (owner : Element)
    (parts : ComponentInfo × Option SimpleVariety) (c : Element) :
    Raises (Error.IsIn s.location) (simpleTypeChild inner s owner parts c) := by
  refine .liftBind blames_expectXsd fun _ => ?_
  obtain ⟨info, variety⟩ := parts
  dsimp -zeta only
  extract_lets first
  have hfirst : ∀ read, Raises (Error.IsIn s.location) read →
      Raises (Error.IsIn s.location) (first read) := by
    intro read hread
    unfold first
    split
    · exact raises_refuse
    · exact .bind hread fun _ => .pure _
  split
  · exact .pure _
  · exact hfirst _ (raises_restriction nested c)
  · exact hfirst _ (raises_list nested c)
  · exact hfirst _ (raises_union nested c)
  · exact raises_refuse

theorem raises_simpleType (nested : inner.Raises s) (name : Option QName) (e : Element) :
    Raises (Error.IsIn s.location) (simpleType inner s name e) := by
  refine .bind (.foldlM (raises_simpleTypeChild nested e) _ _) fun ⟨info, variety⟩ => ?_
  dsimp only
  split
  · exact Assemble.raises_enter
  · exact raises_refuse

theorem blames_unnamed (e : Element) : Blames (Error.IsIn s.location) (unnamed s e) := by
  unfold unnamed
  split <;> simp

theorem raises_ownSimpleType (nested : inner.Raises s) (e : Element) :
    Raises (Error.IsIn s.location) (ownSimpleType inner s e) :=
  .liftBind (blames_unnamed e) fun _ => raises_simpleType nested none e

theorem blames_declaredType (e : Element) (owner : String) (own : Option TypeId) :
    Blames (Error.IsIn s.location) (declaredType s e owner own) := by
  unfold declaredType
  split
  · exact blames_refuse
  · exact .map _ (blames_typeUse _)
  · exact .ok _
  · exact .ok _

/-! ## Attributes -/

theorem raises_attributeChild (nested : inner.Raises s) (parts : ComponentInfo × Option TypeId)
    (c : Element) : Raises (Error.IsIn s.location) (attributeChild inner s parts c) := by
  refine .liftBind blames_expectXsd fun _ => ?_
  obtain ⟨info, own⟩ := parts
  dsimp only
  split
  · exact .pure _
  · exact .bind (nested.simpleType c) fun _ => .pure _
  · exact raises_refuse

theorem raises_attributeDecl (nested : inner.Raises s) (info : ComponentInfo) (e : Element) :
    Raises (Error.IsIn s.location) (attributeDecl inner s info e) := by
  refine .bind (.foldlM (raises_attributeChild nested) _ _) fun parts => ?_
  refine .liftBind (blames_declaredType _ _ _) fun type => ?_
  exact .liftBind blames_valueConstraint fun constraint => .pure _

theorem raises_globalAttribute (nested : inner.Raises s) (e : Element) :
    Raises (Error.IsIn s.location) (globalAttribute inner s e) := by
  refine .liftBind (blames_forbid _ _) fun _ => .liftBind blames_globalName fun name => ?_
  refine .bind (raises_attributeDecl nested _ e) fun decl => ?_
  exact .bind Assemble.raises_enter fun id => Assemble.raises_declare _ _

theorem blames_attributeUse (e : Element) : Blames (Error.IsIn s.location) (attributeUse s e) := by
  unfold attributeUse
  extract_lets used
  have hused : ∀ use, Blames (Error.IsIn s.location) (used use) := by
    intro use
    refine .bind blames_valueConstraint fun constraint => ?_
    split
    · split <;> simp
    · simp
  split
  · exact .bind (.ok _) hused
  · split
    · exact .bind (.ok _) hused
    · exact .bind blames_refuse hused

theorem raises_localAttribute (nested : inner.Raises s) (e : Element) :
    Raises (Error.IsIn s.location) (localAttribute inner s e) := by
  refine .liftBind (blames_attributeUse e) fun ⟨use, constraint⟩ => ?_
  dsimp only
  split
  · refine .liftBind (blames_forbid _ _) fun _ => .liftBind blames_annotationOnly fun _ => ?_
    exact .liftBind (blames_resolve _) fun name => .pure _
  · refine .liftBind (blames_localName _) fun name => ?_
    refine .bind (raises_attributeDecl nested _ e) fun decl => ?_
    exact .bind Assemble.raises_enter fun id => .pure _

theorem blames_attributeGroupUse (e : Element) :
    Blames (Error.IsIn s.location) (attributeGroupUse s e) := by
  unfold attributeGroupUse
  split
  · exact blames_refuse
  · exact .bind blames_annotationOnly fun _ => .bind (blames_resolve _) fun _ => .pure _

theorem raises_attributeItem (nested : inner.Raises s) (decls : AttributeDecls) (e : Element) :
    Raises (Error.IsIn s.location) (attributeItem inner s decls e) := by
  unfold attributeItem
  split
  · exact .liftBind (blames_attributeGroupUse e) fun _ => .pure _
  · exact .liftBind blames_annotationOnly fun _ => .liftBind blames_wildcard fun _ => .pure _
  · exact .bind (raises_localAttribute nested e) fun _ => .pure _

theorem raises_attributeGroupChild (nested : inner.Raises s)
    (parts : ComponentInfo × AttributeDecls) (c : Element) :
    Raises (Error.IsIn s.location) (attributeGroupChild inner s parts c) := by
  refine .liftBind blames_expectXsd fun _ => ?_
  obtain ⟨info, decls⟩ := parts
  dsimp only
  split
  · exact .pure _
  · split
    · split
      · exact raises_refuse
      · exact .bind (raises_attributeItem nested decls c) fun _ => .pure _
    · exact raises_refuse

theorem raises_globalAttributeGroup (nested : inner.Raises s) (e : Element) :
    Raises (Error.IsIn s.location) (globalAttributeGroup inner s e) := by
  refine .liftBind (blames_forbid _ _) fun _ => .liftBind blames_globalName fun name => ?_
  refine .bind (.foldlM (raises_attributeGroupChild nested) _ _) fun parts => ?_
  exact .bind Assemble.raises_enter fun id => Assemble.raises_declare _ _

theorem raises_typeAttribute (nested : inner.Raises s) (decls : AttributeDecls) (c : Element) :
    Raises (Error.IsIn s.location) (typeAttribute inner s decls c) := by
  refine .bind (raises_attributeItem nested decls c) fun extended => ?_
  split <;> simp

/-! ## Elements and groups -/

theorem raises_elementChild (nested : inner.Raises s) (owner : Element) (parts : ElementParts)
    (c : Element) : Raises (Error.IsIn s.location) (elementChild inner s owner parts c) := by
  refine .liftBind blames_expectXsd fun _ => ?_
  extract_lets first
  have hfirst : ∀ read, Raises (Error.IsIn s.location) read →
      Raises (Error.IsIn s.location) (first read) := by
    intro read hread
    unfold first
    split
    · exact raises_refuse
    · exact .bind hread fun _ => .pure _
  split
  · exact .pure _
  · exact hfirst _ (nested.simpleType c)
  · exact hfirst _ (nested.complexType c)
  · exact .pure _
  · exact .pure _
  · exact .pure _
  · exact raises_refuse

theorem raises_elementDecl (nested : inner.Raises s) (info : ComponentInfo) (e : Element) :
    Raises (Error.IsIn s.location) (elementDecl inner s info e) := by
  refine .bind (.foldlM (raises_elementChild nested e) _ _) fun parts => ?_
  refine .liftBind (blames_declaredType _ _ _) fun type => ?_
  refine .liftBind blames_valueConstraint fun constraint => ?_
  exact .liftBind (blames_boolean _) fun nillable => .pure _

theorem raises_globalElement (nested : inner.Raises s) (e : Element) :
    Raises (Error.IsIn s.location) (globalElement inner s e) := by
  refine .liftBind (blames_forbid _ _) fun _ => .liftBind blames_globalName fun name => ?_
  refine .bind (raises_elementDecl nested _ e) fun decl => ?_
  extract_lets declare
  have hdeclare : ∀ head, Raises (Error.IsIn s.location) (declare head) := by
    intro head
    refine .liftBind (blames_boolean _) fun isAbstract => ?_
    exact .bind Assemble.raises_enter fun id => Assemble.raises_declare _ _
  split
  · exact .liftBind (blames_resolve _) fun head => hdeclare _
  · exact hdeclare none

theorem raises_elementParticle (nested : inner.Raises s) (e : Element) :
    Raises (Error.IsIn s.location) (elementParticle inner s e) := by
  refine .liftBind blames_occurs fun occurs => ?_
  split
  · refine .liftBind (blames_forbid _ _) fun _ => ?_
    split
    · exact raises_refuse
    · exact .liftBind (blames_resolve _) fun name => .pure _
  · refine .liftBind (blames_forbid _ _) fun _ => .liftBind (blames_localName _) fun name => ?_
    refine .bind (raises_elementDecl nested _ e) fun decl => ?_
    exact .bind Assemble.raises_enter fun id => .pure _

theorem blames_groupUse (e : Element) : Blames (Error.IsIn s.location) (groupUse s e) := by
  unfold groupUse
  split
  · exact blames_refuse
  · refine .bind (blames_forbid _ _) fun _ => .bind blames_annotationOnly fun _ => ?_
    exact .bind blames_occurs fun occurs => .bind (blames_resolve _) fun _ => .pure _

theorem blames_wildcardParticle (e : Element) :
    Blames (Error.IsIn s.location) (wildcardParticle s e) :=
  .bind blames_occurs fun _ => .bind blames_annotationOnly fun _ =>
    .bind blames_wildcard fun _ => .pure _

theorem raises_groupChild (nested : inner.Raises s) (compositor : Compositor)
    (members : List Particle) (c : Element) :
    Raises (Error.IsIn s.location) (groupChild inner s compositor members c) := by
  refine .liftBind blames_expectXsd fun _ => ?_
  split
  · exact .pure _
  · refine .bind (raises_elementParticle nested c) fun particle => ?_
    split <;> simp
  · exact raises_refuse
  · split
    · exact .bind (nested.particle c) fun _ => .pure _
    · exact raises_refuse

theorem raises_modelGroup (nested : inner.Raises s) (compositor : Compositor) (e : Element) :
    Raises (Error.IsIn s.location) (modelGroup inner s compositor e) :=
  .bind (.foldlM (raises_groupChild nested compositor) _ _) fun _ => .pure _

theorem raises_groupParticle (nested : inner.Raises s) (compositor : Compositor) (e : Element) :
    Raises (Error.IsIn s.location) (groupParticle inner s compositor e) := by
  refine .liftBind blames_occurs fun occurs => ?_
  refine .bind (raises_modelGroup nested compositor e) fun group => ?_
  split <;> simp

theorem raises_particle (nested : inner.Raises s) (e : Element) :
    Raises (Error.IsIn s.location) (particle inner s e) := by
  unfold particle
  split
  · exact .lift (blames_wildcardParticle e)
  · exact .lift (blames_groupUse e)
  · split
    · exact raises_groupParticle nested _ e
    · exact raises_refuse

theorem raises_globalGroupChild (nested : inner.Raises s) (owner : Element)
    (parts : ComponentInfo × Option ModelGroup) (c : Element) :
    Raises (Error.IsIn s.location) (globalGroupChild inner s owner parts c) := by
  refine .liftBind blames_expectXsd fun _ => ?_
  obtain ⟨info, group⟩ := parts
  dsimp only
  split
  · exact .pure _
  · split
    · refine .liftBind (blames_forbid _ _) fun _ => ?_
      exact .bind (raises_modelGroup nested _ c) fun _ => .pure _
    · exact raises_refuse

theorem raises_globalGroup (nested : inner.Raises s) (e : Element) :
    Raises (Error.IsIn s.location) (globalGroup inner s e) := by
  refine .liftBind (blames_forbid _ _) fun _ => .liftBind blames_globalName fun name => ?_
  refine .bind (.foldlM (raises_globalGroupChild nested e) _ _) fun ⟨info, group⟩ => ?_
  dsimp only
  split
  · exact raises_refuse
  · exact .bind Assemble.raises_enter fun id => Assemble.raises_declare _ _

/-! ## Complex types -/

theorem blames_derivationChild (owner : Element) (found : Option (Element × DerivationMethod))
    (c : Element) : Blames (Error.IsIn s.location) (derivationChild s owner found c) := by
  refine .bind blames_expectXsd fun _ => ?_
  extract_lets derives
  have hderives : ∀ method, Blames (Error.IsIn s.location) (derives method) := by
    intro method
    unfold derives
    split <;> simp
  split
  · exact .bind (.ok _) hderives
  · exact .bind (.ok _) hderives
  · exact .bind (.ok _) hderives
  · exact .bind blames_refuse hderives

theorem blames_derivation (e : Element) : Blames (Error.IsIn s.location) (derivation s e) := by
  refine .bind (.foldlM (blames_derivationChild e) _ _) fun found => ?_
  split <;> simp

theorem blames_baseType (e : Element) (content : String) :
    Blames (Error.IsIn s.location) (baseType s e content) := by
  unfold baseType
  split
  · exact blames_typeUse _
  · exact blames_refuse

theorem raises_simpleContentChild (nested : inner.Raises s) (method : DerivationMethod)
    (parts : AttributeDecls × List FacetDecl) (c : Element) :
    Raises (Error.IsIn s.location) (simpleContentChild inner s method parts c) := by
  refine .liftBind blames_expectXsd fun _ => ?_
  obtain ⟨decls, facets⟩ := parts
  dsimp only
  split
  · exact .pure _
  · split
    · exact .bind (raises_typeAttribute nested decls c) fun _ => .pure _
    · split
      · exact raises_refuse
      · split
        · exact .liftBind (blames_facet _) fun _ => .pure _
        · exact raises_refuse

theorem raises_simpleContent (nested : inner.Raises s) (t : ComplexTypeDef) (e : Element) :
    Raises (Error.IsIn s.location) (simpleContent inner s t e) := by
  refine .liftBind (blames_derivation e) fun ⟨c, method⟩ => ?_
  refine .liftBind (blames_baseType _ _) fun base => ?_
  exact .bind (.foldlM (raises_simpleContentChild nested method) _ _) fun _ => .pure _

theorem raises_complexContentChild (nested : inner.Raises s) (owner : Element)
    (parts : AttributeDecls × Option Particle) (c : Element) :
    Raises (Error.IsIn s.location) (complexContentChild inner s owner parts c) := by
  refine .liftBind blames_expectXsd fun _ => ?_
  obtain ⟨decls, content⟩ := parts
  dsimp only
  split
  · exact .pure _
  · split
    · split
      · exact raises_refuse
      · exact .bind (raises_particle nested c) fun _ => .pure _
    · split
      · exact .bind (raises_typeAttribute nested decls c) fun _ => .pure _
      · exact raises_refuse

theorem raises_complexContent (nested : inner.Raises s) (t : ComplexTypeDef) (e : Element) :
    Raises (Error.IsIn s.location) (complexContent inner s t e) := by
  refine .liftBind (blames_boolean? _) fun mixed => ?_
  refine .liftBind (blames_derivation e) fun ⟨c, method⟩ => ?_
  refine .liftBind (blames_baseType _ _) fun base => ?_
  exact .bind (.foldlM (raises_complexContentChild nested c) _ _) fun _ => .pure _

theorem raises_complexTypeChild (nested : inner.Raises s) (owner : Element)
    (parts : ComplexTypeParts) (c : Element) :
    Raises (Error.IsIn s.location) (complexTypeChild inner s owner parts c) := by
  refine .liftBind blames_expectXsd fun _ => ?_
  extract_lets t first
  have hfirst : ∀ derived read, Raises (Error.IsIn s.location) read →
      Raises (Error.IsIn s.location) (first derived read) := by
    intro derived read hread
    unfold first
    split
    · exact raises_refuse
    · exact .bind hread fun _ => .pure _
  split
  · exact .pure _
  · split
    · exact hfirst _ _ (raises_simpleContent nested t c)
    · split
      · exact hfirst _ _ (raises_complexContent nested t c)
      · split
        · exact hfirst _ _ (.bind (raises_particle nested c) fun _ => .pure _)
        · split
          · split
            · exact raises_refuse
            · exact .bind (raises_typeAttribute nested _ c) fun _ => .pure _
          · exact raises_refuse

theorem raises_complexType (nested : inner.Raises s) (name : Option QName) (e : Element) :
    Raises (Error.IsIn s.location) (complexType inner s name e) := by
  refine .liftBind (blames_boolean _) fun mixed => .liftBind (blames_boolean _) fun isAbstract => ?_
  refine .bind (.foldlM (raises_complexTypeChild nested e) _ _) fun parts => ?_
  exact Assemble.raises_enter

/-- By induction on the height: what is nested in an element is less high. -/
theorem raises_nested (s : Setting) (height : Nat) : (nested s height).Raises s := by
  induction height with
  | zero => exact ⟨fun _ => raises_refuse, fun _ => raises_refuse, fun _ => raises_refuse⟩
  | succ height ih =>
    refine ⟨raises_ownSimpleType ih, fun e => ?_, raises_particle ih⟩
    exact .liftBind (blames_unnamed e) fun _ => raises_complexType ih none e

/-! ## Documents -/

section Documents

variable {supply : Supply} {depth : Nat} {read : ReadIncluded}

theorem raises_inclusion (e : Element) :
    Raises (Error.IsIn s.location) (inclusion supply depth read s e) := by
  unfold inclusion
  split
  · exact raises_refuse
  · refine .bind .get fun a => ?_
    split
    · exact .pure _
    · extract_lets fetch
      have hfetch : Raises (Error.IsIn s.location) (fetch ()) := by
        unfold fetch
        split
        · exact Assemble.raises_note _
        · split
          · exact Assemble.raises_note _
          · exact .tryCatch Assemble.raises_note
      split
      · exact .bind (.throw trivial) fun _ => hfetch
      · exact hfetch

theorem raises_importation (e : Element) :
    Raises (Error.IsIn s.location) (importation s e) := by
  unfold importation
  extract_lets ns location
  split
  · exact raises_refuse
  · exact .modify _

theorem raises_topLevel (nested : inner.Raises s) (e : Element) :
    Raises (Error.IsIn s.location) (topLevel supply depth read inner s e) := by
  refine .liftBind blames_expectXsd fun _ => ?_
  split
  · exact .pure _
  · exact .pure _
  · exact raises_inclusion e
  · exact raises_importation e
  · exact raises_refuse
  · exact raises_globalElement nested e
  · refine .liftBind blames_globalName fun name => ?_
    exact .bind (raises_simpleType nested _ e) fun id => Assemble.raises_declare _ _
  · refine .liftBind blames_globalName fun name => ?_
    exact .bind (raises_complexType nested _ e) fun id => Assemble.raises_declare _ _
  · exact raises_globalAttribute nested e
  · exact raises_globalAttributeGroup nested e
  · exact raises_globalGroup nested e
  · exact raises_refuse

theorem raises_checkSize (limits : Limits) (location : Location) :
    Raises (Error.IsIn location) (checkSize limits) := by
  refine .bind .get fun a => ?_
  split
  · exact .throw trivial
  · exact .pure _

@[simp] theorem blames_refuseDocument {α : Type} {document : Document} {fault : SchemaFault} :
    Blames (Error.IsIn document.location) (refuseDocument document fault : Except Error α) :=
  .error rfl

theorem blames_schemaRoot (document : Document) :
    Blames (Error.IsIn document.location) (schemaRoot document) := by
  unfold schemaRoot
  split
  · simp
  · split <;> simp

theorem blames_targetNamespace (document : Document) (includer : Option Includer)
    (root : Element) :
    Blames (Error.IsIn document.location) (targetNamespace document includer root) := by
  unfold targetNamespace
  extract_lets declared
  clear_value declared
  split
  · simp
  · cases includer with
    | none => simp
    | some includer =>
      cases declared with
      | none => simp
      | some uri =>
        dsimp only
        split <;> simp

theorem blames_formDefault (document : Document) (root : Element) (word : String) :
    Blames (Error.IsIn document.location) (formDefault document root word) := by
  unfold formDefault
  split <;> simp

theorem raises_children (s : Setting) (height : Nat) (root : Element) :
    Raises (Error.IsIn s.location) (root.children.forM fun e => do
      topLevel supply depth read (nested s height) s e
      checkSize supply.limits) :=
  .forM (fun e => .bind (raises_topLevel (raises_nested s height) e) fun _ =>
    raises_checkSize _ _) _

/-- A document that cannot be read is wrong itself, or exceeds a limit. -/
theorem raises_readDocument (includer : Option Includer) (document : Document) :
    Raises (Error.IsIn document.location) (readDocument supply depth read includer document) := by
  refine .liftBind (blames_schemaRoot document) fun root => ?_
  refine .liftBind (blames_targetNamespace document includer root) fun ⟨target, adopted⟩ => ?_
  refine .liftBind (blames_formDefault document root _) fun elementsQualified => ?_
  refine .liftBind (blames_formDefault document root _) fun attributesQualified => ?_
  refine .bind (.modifyGet _) fun id => ?_
  exact .bind (raises_children _ _ root) fun _ => .pure _

theorem raises_readAt (depth : Nat) (document : Document) :
    Raises (Error.IsIn document.location) (readAt supply depth document) :=
  raises_readDocument _ _

end Documents

end Schema

end Xsd
