import Xsd.Proofs.Schema.Growth
import Xsd.Proofs.Steps
import Xsd.Schema.Reading

/-!
# What the reading of schema documents keeps

Reading only ever adds to an assembly: components, names, documents and errors. What a component
defines in its own place has been added before it. A property that no such addition disturbs holds
throughout.
-/

namespace Xsd

/-- The builtin type that is defined, if it is one. -/
def TypeDefinition.builtin? : TypeDefinition → Option Builtin
  | .simple t => t.builtin
  | .complex _ => none

/-- A complex type says what its base is. -/
def TypeDefinition.IsBased : TypeDefinition → Prop
  | .simple _ => True
  | .complex t => t.base.isSome

/-- A component of a document that has been read so far can be added: it is still to be resolved, and
what it mentions is there or to be found by its name. -/
structure Assembly.Admits (a : Assembly) (info : ComponentInfo) (ms : List Mention) : Prop where
  state : info.state = .unresolved
  document : info.document.index < a.registry.documents.size
  offers : a.arena.Offers ms

/-- No component that a document can define, no name and no error that is added makes the property
fail. Types defined in documents are not builtin. The components of the assembly that the reading
starts from are not given names. -/
structure Steady (base : Assembly) (P : Assembly → Prop) : Prop where
  note : ∀ {a} e, P a → P { a with errors := a.errors ++ [e] }
  declare : ∀ {a name id r}, a.arena.Has id → ¬ base.arena.Has id →
    a.registry.declare? name id = some r → P a → P { a with registry := r }
  type : ∀ {a} {t : TypeDefinition}, t.builtin? = none → t.IsBased → a.Admits t.info t.mentions →
    P a → P { a with arena := (a.arena.addType t).2 }
  elementDecl : ∀ {a} {e : ElementDecl}, a.Admits e.info e.mentions → P a →
    P { a with arena := (a.arena.addElement e).2 }
  attributeDecl : ∀ {a} {d : AttributeDecl}, d.info.name.isSome → a.Admits d.info d.mentions →
    P a → P { a with arena := (a.arena.addAttribute d).2 }
  groupDef : ∀ {a} {g : GroupDef}, a.Admits g.info g.group.mentions → P a →
    P { a with arena := (a.arena.addGroup g).2 }
  attributeGroupDef : ∀ {a} {g : AttributeGroupDef}, a.Admits g.info g.attributes.mentions → P a →
    P { a with arena := (a.arena.addAttributeGroup g).2 }

/-- Nor does a document that is added, or an import that is noted in one. The documents of the
assembly that the reading starts from are not touched. -/
structure Stable (base : Assembly) (P : Assembly → Prop) : Prop extends Steady base P where
  document : ∀ {a} (info : DocumentInfo),
    (∀ d, info.includedBy = some d → d.index < a.registry.documents.size) → P a →
      P { a with registry := (a.registry.addDocument info).2 }
  importEdge : ∀ {a} (d : DocumentId) edge, base.registry.documents.size ≤ d.index → P a →
    P { a with registry := a.registry.addImport d edge }

theorem Stable.and {base : Assembly} {P Q : Assembly → Prop} (h : Stable base P)
    (h' : Stable base Q) : Stable base fun a => P a ∧ Q a where
  note e hP := ⟨h.note e hP.1, h'.note e hP.2⟩
  document info included hP := ⟨h.document info included hP.1, h'.document info included hP.2⟩
  importEdge d edge late hP := ⟨h.importEdge d edge late hP.1, h'.importEdge d edge late hP.2⟩
  declare has new hr hP := ⟨h.declare has new hr hP.1, h'.declare has new hr hP.2⟩
  type plain based admits hP := ⟨h.type plain based admits hP.1, h'.type plain based admits hP.2⟩
  elementDecl admits hP := ⟨h.elementDecl admits hP.1, h'.elementDecl admits hP.2⟩
  attributeDecl named admits hP :=
    ⟨h.attributeDecl named admits hP.1, h'.attributeDecl named admits hP.2⟩
  groupDef admits hP := ⟨h.groupDef admits hP.1, h'.groupDef admits hP.2⟩
  attributeGroupDef admits hP := ⟨h.attributeGroupDef admits hP.1, h'.attributeGroupDef admits hP.2⟩

open Registry

/-! ## What reading and resolving do -/

/-- In the assembly `a` a computation keeps the property and only adds; if it comes to a result,
that is as it should be. -/
def Builds {α : Type} (P : Assembly → Prop) (a : Assembly) (x : Assemble α)
    (post : α → Assembly → Prop) : Prop :=
  P a → P (x.run.run a).2 ∧ a.Grows (x.run.run a).2 ∧
    ∀ v, (x.run.run a).1 = .ok v → post v (x.run.run a).2

namespace Builds

variable {α β : Type} {P : Assembly → Prop} {a : Assembly} {x : Assemble α}
  {post post' : α → Assembly → Prop}

theorem pure {v : α} (h : post v a) : Builds P a (Pure.pure v) post := by
  refine fun hP => ⟨hP, .refl a, ?_⟩
  rintro _ ⟨⟩
  exact h

theorem throw (e : Error) : Builds P a (MonadExcept.throw e) post := by
  refine fun hP => ⟨hP, .refl a, ?_⟩
  rintro _ ⟨⟩

theorem throwBind {e : Error} {f : β → Assemble α} :
    Builds P a (MonadExcept.throw e >>= f) post := by
  refine fun hP => ⟨hP, .refl a, ?_⟩
  rintro _ ⟨⟩

/-- An outcome that does not depend on the assembly. -/
theorem lift {x : Except Error α} (h : ∀ v, x = .ok v → post v a) :
    Builds P a (liftM x : Assemble α) post :=
  fun hP => ⟨hP, .refl a, h⟩

theorem bind {f : α → Assemble β} {post' : β → Assembly → Prop} (hx : Builds P a x post)
    (hf : ∀ v b, a.Grows b → post v b → Builds P b (f v) post') : Builds P a (x >>= f) post' := by
  intro hP
  obtain ⟨kept, grows, result⟩ := hx hP
  rw [ExceptT.run_bind, StateT.run_bind]
  generalize x.run.run a = outcome at kept grows result
  obtain ⟨r, b⟩ := outcome
  cases r with
  | error e =>
    refine ⟨kept, grows, ?_⟩
    rintro _ ⟨⟩
  | ok v =>
    obtain ⟨kept', grows', result'⟩ := hf v b grows (result v rfl) kept
    exact ⟨kept', grows.trans grows', result'⟩

/-- A step whose result is known apart from the assembly. -/
theorem liftBind {x : Except Error α} {f : α → Assemble β} {post' : β → Assembly → Prop}
    (hf : ∀ v, x = .ok v → Builds P a (f v) post') :
    Builds P a ((liftM x : Assemble α) >>= f) post' := by
  intro hP
  cases x with
  | ok v => exact hf v rfl hP
  | error e =>
    refine ⟨hP, .refl a, ?_⟩
    rintro _ ⟨⟩

theorem getBind {f : Assembly → Assemble β} {post' : β → Assembly → Prop}
    (h : Builds P a (f a) post') : Builds P a (MonadState.get >>= f) post' :=
  h

theorem weaken (hx : Builds P a x post) (h : ∀ v b, a.Grows b → post v b → post' v b) :
    Builds P a x post' := by
  intro hP
  obtain ⟨kept, grows, result⟩ := hx hP
  exact ⟨kept, grows, fun v hv => h v _ grows (result v hv)⟩

/-- The assembly is changed. -/
theorem modify {f : Assembly → Assembly} {post : Unit → Assembly → Prop} (hP : P a → P (f a))
    (grows : a.Grows (f a)) (h : post () (f a)) : Builds P a (modify f) post :=
  fun hp => ⟨hP hp, grows, fun _ _ => h⟩

theorem discard {post : Assembly → Prop} (hx : Builds P a x fun _ => post) :
    Builds P a (Functor.discard x) fun _ => post :=
  bind hx fun _ _ _ h => pure h

/-- What holds of the first value of an accumulator and is kept by each step holds of the last. -/
theorem foldlM {f : β → α → Assemble β} {I : β → Assembly → Prop}
    (hf : ∀ b x a', a.Grows a' → I b a' → Builds P a' (f b x) I) (xs : List α) {b : β} (h : I b a) :
    Builds P a (xs.foldlM f b) I := by
  induction xs generalizing a b with
  | nil => exact pure h
  | cons x xs ih =>
    rw [List.foldlM_cons]
    refine bind (hf b x a (.refl a) h) fun b' a' grows h' => ?_
    exact ih (fun b x a'' grows' => hf b x a'' (grows.trans grows')) h'

theorem forM {f : α → Assemble Unit} (I : Assembly → Prop)
    (hf : ∀ x a', a.Grows a' → I a' → Builds P a' (f x) fun _ => I) (xs : List α) (h : I a) :
    Builds P a (xs.forM f) fun _ => I := by
  induction xs generalizing a with
  | nil => exact pure h
  | cons x xs ih =>
    refine bind (hf x a (.refl a) h) fun _ a' grows h' => ?_
    exact ih (fun x a'' grows' => hf x a'' (grows.trans grows')) h'

theorem tryCatch {handle : Error → Assemble α} (hx : Builds P a x post)
    (hh : ∀ e b, a.Grows b → Builds P b (handle e) post) :
    Builds P a (MonadExcept.tryCatch x handle) post := by
  intro hP
  obtain ⟨kept, grows, result⟩ := hx hP
  rw [ExceptT.run_tryCatch, StateT.run_bind]
  generalize x.run.run a = outcome at kept grows result
  obtain ⟨r, b⟩ := outcome
  cases r with
  | ok v => exact ⟨kept, grows, result⟩
  | error e =>
    obtain ⟨kept', grows', result'⟩ := hh e b grows kept
    exact ⟨kept', grows.trans grows', result'⟩

end Builds

/-! ## What is known of the parts -/

/-- A document is being read, the reading having started from an earlier assembly. -/
structure Setting.Within (base a : Assembly) (s : Setting) : Prop where
  grown : base.Grows a
  known : s.document.index < a.registry.documents.size

/-- A component of the document that has not been looked at, of the name if it has one. -/
structure ComponentInfo.IsNew (s : Setting) (name : Option QName) (info : ComponentInfo) :
    Prop where
  state : info.state = .unresolved
  document : info.document = s.document
  name : info.name = name

/-- A component of the document has been entered that was not there at first. -/
structure Setting.Enters (base a : Assembly) (s : Setting) (name : Option QName) (id : ComponentId) :
    Prop where
  info : ∃ info, a.arena.info? id = some info ∧ info.IsNew s name
  fresh : ¬ base.arena.Has id

/-- In its category the name stands for a component of the document, unless it was taken, which has
been noted. -/
def Assembly.Declares (a : Assembly) (document : DocumentId) (name : QName) (category : Category) :
    Prop :=
  (∃ id info, a.registry.get? name category = some id ∧ a.arena.info? id = some info ∧
    info.name = some name ∧ info.document = document) ∨
  .duplicateDeclaration name category ∈ a.errors

/-- What the documents of a schema declare by such an element. -/
def topLevelCategory? : String → Option Category
  | "element" => some .element
  | "simpleType" => some .type
  | "complexType" => some .type
  | "attribute" => some .attribute
  | "attributeGroup" => some .attributeGroup
  | "group" => some .group
  | _ => none

/-- Whatever is nested in a declaration is read with its own components. -/
structure Nested.Builds (base : Assembly) (P : Assembly → Prop) (s : Setting) (inner : Nested) :
    Prop where
  simpleType : ∀ {a} e, s.Within base a →
    Xsd.Builds P a (inner.simpleType e) fun id b => b.arena.Has (.type id)
  complexType : ∀ {a} e, s.Within base a →
    Xsd.Builds P a (inner.complexType e) fun id b => b.arena.Has (.type id)
  particle : ∀ {a} e, s.Within base a →
    Xsd.Builds P a (inner.particle e) fun p b => b.arena.Offers p.mentions

section

variable {base a b : Assembly} {P : Assembly → Prop} {s : Setting} {info : ComponentInfo}
  {name : Option QName}

theorem Setting.Within.mono (h : s.Within base a) (grows : a.Grows b) : s.Within base b :=
  ⟨h.grown.trans grows, h.known.trans_le grows.documents⟩

theorem Setting.isNew_info (s : Setting) (name : Option QName) : (s.info name).IsNew s name := by
  cases name <;> exact ⟨rfl, rfl, rfl⟩

/-- A global name is the one that the element says, in the target namespace. -/
theorem Setting.globalName_eq {e : Element} {name : QName} {word : String}
    (h : s.globalName e = .ok name) (named : e.attribute? "name" = some word) :
    name = ⟨s.target, word⟩ := by
  obtain ⟨found, hn, h⟩ := bind_eq_ok_iff.mp h
  unfold ncName at hn
  rw [named] at hn
  dsimp only at hn
  split at hn
  · cases hn
  · cases hn
    exact (pure_eq_ok_iff.mp h).symm

theorem ComponentInfo.IsNew.annotate (h : info.IsNew s name) (text : Option Annotation) :
    ComponentInfo.IsNew s name { info with annotation := text } :=
  ⟨h.state, h.document, h.name⟩

theorem ComponentInfo.IsNew.isSome_name {name : QName} (h : info.IsNew s (some name)) :
    info.name.isSome :=
  h.name ▸ rfl

theorem ComponentInfo.IsNew.admits (h : info.IsNew s name) (within : s.Within base a)
    {ms : List Mention} (offers : a.arena.Offers ms) : a.Admits info ms :=
  ⟨h.state, h.document ▸ within.known, offers⟩

theorem Builds.refuse {α : Type} {e : Element} {fault : SchemaFault} {post : α → Assembly → Prop} :
    Builds P a (liftM (s.refuse e fault : Except Error α) : Assemble α) post :=
  .lift fun _ h => nomatch h

theorem Assemble.builds_note (steady : Steady base P) (e : Error) :
    Builds P a (Assemble.note e) fun _ b => e ∈ b.errors :=
  .modify (steady.note e) (.note a e) (List.mem_append_right _ (List.mem_singleton_self e))

theorem Setting.Enters.has {id : ComponentId} (h : s.Enters base a name id) : a.arena.Has id := by
  obtain ⟨info, hi, -⟩ := h.info
  exact Arena.has_iff.mpr ⟨info, hi⟩

theorem Assemble.builds_enter (within : s.Within base a) (new : info.IsNew s name) {α : Type}
    {insert : Arena → α × Arena} (number : α → ComponentId) {ms : List Mention}
    (adds : a.arena.Adds (insert a.arena).2 (number (insert a.arena).1) info ms)
    (grows : a.arena.Grows (insert a.arena).2)
    (hP : P a → P { a with arena := (insert a.arena).2 }) :
    Builds P a (Assemble.enter insert) fun id b => s.Enters base b name (number id) := by
  refine fun hp => ⟨hP hp, .ofArena grows, ?_⟩
  rintro _ ⟨⟩
  exact ⟨⟨info, (adds.info _).trans (if_pos rfl), new⟩,
    fun old => adds.not_has (within.grown.arena.has old)⟩

/-- A name that is given to a component of the document. -/
theorem Assemble.builds_declare (steady : Steady base P) {name : QName} {id : ComponentId}
    (h : s.Enters base a (some name) id) :
    Builds P a (Assemble.declare name id) fun _ b => b.Declares s.document name id.category := by
  obtain ⟨info, hi, new⟩ := h.info
  refine .getBind ?_
  split
  · rename_i registry declared
    refine .modify (steady.declare h.has h.fresh declared)
      (.ofRegistry (Registry.extends_declare? declared)) ?_
    exact Or.inl ⟨id, info, Registry.get?_declare? declared, hi, new.name, new.document⟩
  · exact .weaken (Assemble.builds_note steady _) fun _ _ _ noted => Or.inr noted

end

namespace Schema

variable {base a : Assembly} {P : Assembly → Prop} {inner : Nested} {s : Setting}

/-! ## Names -/

/-- A type that is spoken of by name is not bound yet. -/
theorem target_of_typeUse {e : Element} {text : String} {u : TypeUse}
    (h : s.typeUse e text = .ok u) : u.mention.target = none := by
  obtain ⟨name, -, h⟩ := bind_eq_ok_iff.mp h
  cases h
  rfl

theorem offers_namedType? {e : Element} {word : String} {arena : Arena} {use : Option TypeUse}
    (h : namedType? s e word = .ok use) : arena.Offers (use.toList.map (·.mention)) := by
  unfold namedType? at h
  split at h
  · rename_i text _
    cases hu : s.typeUse e text with
    | error e =>
      rw [hu] at h
      cases h
    | ok u =>
      rw [hu] at h
      cases h
      exact Arena.offers_of_target (target_of_typeUse hu)
  · cases h
    exact Arena.offers_nil

theorem offers_namedTypes {e : Element} {word : String} {arena : Arena} {uses : List TypeUse}
    (h : namedTypes s e word = .ok uses) : arena.Offers (uses.map (·.mention)) := by
  unfold namedTypes at h
  generalize Text.words _ = words at h
  induction words generalizing uses with
  | nil =>
    cases h
    exact Arena.offers_nil
  | cons word words ih =>
    rw [List.mapM_cons] at h
    obtain ⟨u, hu, h⟩ := bind_eq_ok_iff.mp h
    obtain ⟨us, hus, h⟩ := bind_eq_ok_iff.mp h
    cases h
    exact (Arena.offers_of_target (target_of_typeUse hu)).append (ih hus)

/-- The type of a declaration is named, or the one that has been read in its place. -/
theorem offers_declaredType {e : Element} {owner : String} {own : Option TypeId} {arena : Arena}
    {use : Option TypeUse} (h : declaredType s e owner own = .ok use)
    (hown : ∀ id ∈ own, arena.Has (.type id)) : arena.Offers (use.toList.map (·.mention)) := by
  unfold declaredType at h
  split at h
  · cases h
  · rename_i text _
    cases hu : s.typeUse e text with
    | error e =>
      rw [hu] at h
      cases h
    | ok u =>
      rw [hu] at h
      cases h
      exact Arena.offers_of_target (target_of_typeUse hu)
  · cases h
    exact Arena.offers_own (hown _ rfl)
  · cases h
    exact Arena.offers_nil

theorem target_of_attributeGroupUse {e : Element} {r : Reference AttributeGroupId}
    (h : attributeGroupUse s e = .ok r) : r.target = none := by
  unfold attributeGroupUse at h
  split at h
  · cases h
  · obtain ⟨_, -, h⟩ := bind_eq_ok_iff.mp h
    obtain ⟨name, -, h⟩ := bind_eq_ok_iff.mp h
    cases h
    rfl

theorem offers_groupUse {e : Element} {arena : Arena} {p : Particle} (h : groupUse s e = .ok p) :
    arena.Offers p.mentions := by
  unfold groupUse at h
  split at h
  · cases h
  · obtain ⟨_, -, h⟩ := bind_eq_ok_iff.mp h
    obtain ⟨_, -, h⟩ := bind_eq_ok_iff.mp h
    obtain ⟨occurs, -, h⟩ := bind_eq_ok_iff.mp h
    obtain ⟨name, -, h⟩ := bind_eq_ok_iff.mp h
    cases h
    exact Arena.offers_of_target rfl

theorem offers_wildcardParticle {e : Element} {arena : Arena} {p : Particle}
    (h : wildcardParticle s e = .ok p) : arena.Offers p.mentions := by
  obtain ⟨occurs, -, h⟩ := bind_eq_ok_iff.mp h
  obtain ⟨_, -, h⟩ := bind_eq_ok_iff.mp h
  obtain ⟨w, -, h⟩ := bind_eq_ok_iff.mp h
  cases h
  exact Arena.offers_nil

theorem target_of_baseType {e : Element} {content : String} {u : TypeUse}
    (h : baseType s e content = .ok u) : u.mention.target = none := by
  unfold baseType at h
  split at h
  · exact target_of_typeUse h
  · cases h

/-! ## Declarations -/

/-- The name that the element gives to a component is declared. -/
def Declared (s : Setting) (e : Element) (category : Category) (a : Assembly) : Prop :=
  ∀ word, e.attribute? "name" = some word → a.Declares s.document ⟨s.target, word⟩ category

theorem builds_declared (steady : Steady base P) {e : Element} {name : QName} {id : ComponentId}
    (hname : s.globalName e = .ok name) (entered : s.Enters base a (some name) id) :
    Builds P a (Assemble.declare name id) fun _ => Declared s e id.category :=
  .weaken (Assemble.builds_declare steady entered) fun _ _ _ declares _ named =>
    Setting.globalName_eq hname named ▸ declares

/-! ## Simple types -/

theorem builds_restrictionChild (nested : inner.Builds base P s) (within : s.Within base a)
    (owner : Element) {parts : RestrictionParts} (c : Element)
    (h : a.arena.Offers (parts.base.toList.map (·.mention))) :
    Builds P a (restrictionChild inner s owner parts c) fun parts b =>
      b.arena.Offers (parts.base.toList.map (·.mention)) := by
  refine .liftBind fun _ _ => ?_
  split
  · exact .pure h
  · split
    · exact .refuse
    · exact .bind (nested.simpleType c within) fun id b _ hid => .pure (Arena.offers_own hid)
  · split
    · exact .liftBind fun _ _ => .pure h
    · exact .refuse

theorem builds_restriction (nested : inner.Builds base P s) (within : s.Within base a)
    (e : Element) :
    Builds P a (restriction inner s e) fun v b => b.arena.Offers v.mentions := by
  refine .liftBind fun base hbase => ?_
  refine .bind (.foldlM (fun _ c b grows h =>
    builds_restrictionChild nested (within.mono grows) e c h) _ (offers_namedType? hbase)) ?_
  intro parts b grows h
  split
  · rename_i base found
    rw [found] at h
    exact .pure h
  · exact .refuse

theorem builds_listChild (nested : inner.Builds base P s) (within : s.Within base a)
    (owner : Element) {item : Option TypeUse} (c : Element)
    (h : a.arena.Offers (item.toList.map (·.mention))) :
    Builds P a (listChild inner s owner item c) fun item b =>
      b.arena.Offers (item.toList.map (·.mention)) := by
  refine .liftBind fun _ _ => ?_
  split
  · exact .pure h
  · exact .bind (nested.simpleType c within) fun id b _ hid => .pure (Arena.offers_own hid)
  · exact .refuse

theorem builds_list (nested : inner.Builds base P s) (within : s.Within base a) (e : Element) :
    Builds P a (list inner s e) fun v b => b.arena.Offers v.mentions := by
  refine .liftBind fun item hitem => ?_
  refine .bind (.foldlM (fun _ c b grows h =>
    builds_listChild nested (within.mono grows) e c h) _ (offers_namedType? hitem)) ?_
  intro item b grows h
  split
  · exact .pure h
  · exact .refuse

theorem builds_unionChild (nested : inner.Builds base P s) (within : s.Within base a)
    {members : List TypeUse} (c : Element) (h : a.arena.Offers (members.map (·.mention))) :
    Builds P a (unionChild inner s members c) fun members b =>
      b.arena.Offers (members.map (·.mention)) := by
  refine .liftBind fun _ _ => ?_
  split
  · exact .pure h
  · refine .bind (nested.simpleType c within) fun id b grows hid => .pure ?_
    rw [List.map_append]
    exact (grows.arena.offers h).append (Arena.offers_own hid)
  · exact .refuse

theorem builds_union (nested : inner.Builds base P s) (within : s.Within base a) (e : Element) :
    Builds P a (union inner s e) fun v b => b.arena.Offers v.mentions := by
  refine .liftBind fun named hnamed => ?_
  refine .bind (.foldlM (fun _ c b grows h =>
    builds_unionChild nested (within.mono grows) c h) _ (offers_namedTypes hnamed)) ?_
  intro members b grows h
  split
  · exact .refuse
  · exact .pure h

/-- A definition as far as it has been read. -/
def IsPart (s : Setting) (name : Option QName) {α : Type} (mentions : α → List Mention)
    (parts : ComponentInfo × Option α) (a : Assembly) : Prop :=
  parts.1.IsNew s name ∧ a.arena.Offers (parts.2.toList.flatMap mentions)

theorem builds_simpleTypeChild (nested : inner.Builds base P s) (within : s.Within base a)
    (owner : Element) {parts : ComponentInfo × Option SimpleVariety} {name : Option QName}
    (c : Element) (h : IsPart s name (·.mentions) parts a) :
    Builds P a (simpleTypeChild inner s owner parts c) (IsPart s name (·.mentions)) := by
  refine .liftBind fun _ _ => ?_
  obtain ⟨info, variety⟩ := parts
  dsimp -zeta only
  extract_lets first
  have hfirst : ∀ read, Builds P a read (fun v b => b.arena.Offers v.mentions) →
      Builds P a (first read) (IsPart s name (·.mentions)) := by
    intro read hread
    unfold first
    split
    · exact .refuse
    · refine .bind hread fun v b _ hv => .pure ⟨h.1, ?_⟩
      simpa using hv
  split
  · exact .pure ⟨h.1.annotate _, h.2⟩
  · exact hfirst _ (builds_restriction nested within c)
  · exact hfirst _ (builds_list nested within c)
  · exact hfirst _ (builds_union nested within c)
  · exact .refuse

theorem builds_simpleType (steady : Steady base P) (nested : inner.Builds base P s)
    (within : s.Within base a) (name : Option QName) (e : Element) :
    Builds P a (simpleType inner s name e) fun id b => s.Enters base b name (.type id) := by
  refine .bind (.foldlM (fun _ c b grows h =>
    builds_simpleTypeChild nested (within.mono grows) e c h) _
      (⟨s.isNew_info name, Arena.offers_nil⟩ : IsPart s name SimpleVariety.mentions _ _)) ?_
  rintro ⟨info, variety⟩ b grows ⟨new, offers⟩
  dsimp only
  have within := within.mono grows
  split
  · rename_i variety
    have offers : b.arena.Offers variety.mentions := by simpa using offers
    exact Assemble.builds_enter within new .type (Arena.adds_addType _ _) (.addType _ _)
      (steady.type rfl trivial (new.admits within offers))
  · exact .refuse

theorem builds_ownSimpleType (steady : Steady base P) (nested : inner.Builds base P s)
    (within : s.Within base a) (e : Element) :
    Builds P a (ownSimpleType inner s e) fun id b => b.arena.Has (.type id) :=
  .liftBind fun _ _ => .weaken (builds_simpleType steady nested within none e) fun _ _ _ h => h.has

/-! ## Attributes -/

/-- The declaration of an attribute, as far as it has been read. Attributes have names. -/
structure IsAttributePart (s : Setting) (name : QName) (parts : ComponentInfo × Option TypeId)
    (a : Assembly) : Prop where
  new : parts.1.IsNew s (some name)
  own : ∀ id ∈ parts.2, a.arena.Has (.type id)

theorem builds_attributeChild (nested : inner.Builds base P s) (within : s.Within base a)
    {parts : ComponentInfo × Option TypeId} {name : QName} (c : Element)
    (h : IsAttributePart s name parts a) :
    Builds P a (attributeChild inner s parts c) (IsAttributePart s name) := by
  refine .liftBind fun _ _ => ?_
  obtain ⟨info, own⟩ := parts
  dsimp only
  split
  · exact .pure ⟨h.new.annotate _, h.own⟩
  · refine .bind (nested.simpleType c within) fun id b _ hid => .pure ⟨h.new, ?_⟩
    rintro _ ⟨⟩
    exact hid
  · exact .refuse

theorem builds_attributeDecl (nested : inner.Builds base P s) (within : s.Within base a)
    {info : ComponentInfo} {name : QName} (new : info.IsNew s (some name)) (e : Element) :
    Builds P a (attributeDecl inner s info e) fun d b =>
      d.info.IsNew s (some name) ∧ b.arena.Offers d.mentions := by
  refine .bind (.foldlM (fun _ c b grows h =>
    builds_attributeChild nested (within.mono grows) c h) _
      (⟨new, nofun⟩ : IsAttributePart s name (info, none) a)) ?_
  rintro ⟨info, own⟩ b grows h
  refine .liftBind fun type htype => .liftBind fun constraint _ => .pure ⟨h.new, ?_⟩
  exact offers_declaredType htype h.own

theorem builds_globalAttribute (steady : Steady base P) (nested : inner.Builds base P s)
    (within : s.Within base a) (e : Element) :
    Builds P a (globalAttribute inner s e) fun _ => Declared s e .attribute := by
  refine .liftBind fun _ _ => .liftBind fun name hname => ?_
  refine .bind (builds_attributeDecl nested within ⟨rfl, rfl, rfl⟩ e) ?_
  rintro decl b grows ⟨new, offers⟩
  have within := within.mono grows
  refine .bind (Assemble.builds_enter within new .attribute (Arena.adds_addAttribute _ _)
    (.addAttribute _ _) (steady.attributeDecl new.isSome_name (new.admits within offers))) ?_
  exact fun id b' _ entered => builds_declared steady hname entered

theorem builds_localAttribute (steady : Steady base P) (nested : inner.Builds base P s)
    (within : s.Within base a) (e : Element) :
    Builds P a (localAttribute inner s e) fun u b => b.arena.Offers [u.source.mention] := by
  refine .liftBind fun ⟨use, constraint⟩ _ => ?_
  dsimp only
  split
  · refine .liftBind fun _ _ => .liftBind fun _ _ => .liftBind fun name _ => .pure ?_
    exact Arena.offers_of_target rfl
  · refine .liftBind fun name _ => ?_
    refine .bind (builds_attributeDecl nested within ⟨rfl, rfl, rfl⟩ e) ?_
    rintro decl b grows ⟨new, offers⟩
    have within := within.mono grows
    refine .bind (Assemble.builds_enter within new .attribute (Arena.adds_addAttribute _ _)
      (.addAttribute _ _) (steady.attributeDecl new.isSome_name (new.admits within offers))) ?_
    exact fun id b' _ entered => .pure (Arena.offers_own entered.has)

theorem builds_attributeItem (steady : Steady base P) (nested : inner.Builds base P s)
    (within : s.Within base a) {decls : AttributeDecls} (e : Element)
    (h : a.arena.Offers decls.mentions) :
    Builds P a (attributeItem inner s decls e) fun decls b => b.arena.Offers decls.mentions := by
  obtain ⟨uses, groups⟩ := Arena.offers_append_iff.mp h
  unfold attributeItem
  split
  · refine .liftBind fun r hr => .pure (uses.append ?_)
    have unbound := target_of_attributeGroupUse hr
    rw [List.map_append]
    exact groups.append (Arena.offers_of_target (by simp [Mention.target, AnyReference.target, unbound]))
  · exact .liftBind fun _ _ => .liftBind fun _ _ => .pure h
  · refine .bind (builds_localAttribute steady nested within e) fun u b grows hu => .pure ?_
    refine Arena.Offers.append ?_ (grows.arena.offers groups)
    rw [List.map_append]
    exact (grows.arena.offers uses).append hu

theorem builds_attributeGroupChild (steady : Steady base P) (nested : inner.Builds base P s)
    (within : s.Within base a) {parts : ComponentInfo × AttributeDecls} {name : QName} (c : Element)
    (h : parts.1.IsNew s (some name) ∧ a.arena.Offers parts.2.mentions) :
    Builds P a (attributeGroupChild inner s parts c) fun parts b =>
      parts.1.IsNew s (some name) ∧ b.arena.Offers parts.2.mentions := by
  refine .liftBind fun _ _ => ?_
  obtain ⟨info, decls⟩ := parts
  dsimp only
  split
  · exact .pure ⟨h.1.annotate _, h.2⟩
  · split
    · split
      · exact .refuse
      · exact .bind (builds_attributeItem steady nested within c h.2) fun decls b _ hd =>
          .pure ⟨h.1, hd⟩
    · exact .refuse

theorem builds_globalAttributeGroup (steady : Steady base P) (nested : inner.Builds base P s)
    (within : s.Within base a) (e : Element) :
    Builds P a (globalAttributeGroup inner s e) fun _ => Declared s e .attributeGroup := by
  refine .liftBind fun _ _ => .liftBind fun name hname => ?_
  refine .bind (.foldlM (I := fun parts b => parts.1.IsNew s (some name) ∧
      b.arena.Offers parts.2.mentions)
    (fun _ c b grows h => builds_attributeGroupChild steady nested (within.mono grows) c h) _
    ⟨⟨rfl, rfl, rfl⟩, Arena.offers_nil⟩) ?_
  rintro ⟨info, decls⟩ b grows ⟨new, offers⟩
  have within := within.mono grows
  refine .bind (Assemble.builds_enter within new .attributeGroup (Arena.adds_addAttributeGroup _ _)
    (.addAttributeGroup _ _) (steady.attributeGroupDef (new.admits within offers))) ?_
  exact fun id b' _ entered => builds_declared steady hname entered

theorem builds_typeAttribute (steady : Steady base P) (nested : inner.Builds base P s)
    (within : s.Within base a) {decls : AttributeDecls} (c : Element)
    (h : a.arena.Offers decls.mentions) :
    Builds P a (typeAttribute inner s decls c) fun decls b => b.arena.Offers decls.mentions := by
  refine .bind (builds_attributeItem steady nested within c h) fun extended b _ hd => ?_
  split
  · exact .refuse
  · exact .pure hd

/-! ## Elements and groups -/

/-- The declaration of an element, as far as it has been read. -/
structure IsElementPart (s : Setting) (name : QName) (parts : ElementParts) (a : Assembly) :
    Prop where
  new : parts.info.IsNew s (some name)
  own : ∀ id ∈ parts.own, a.arena.Has (.type id)

theorem builds_elementChild (nested : inner.Builds base P s) (within : s.Within base a)
    (owner : Element) {parts : ElementParts} {name : QName} (c : Element)
    (h : IsElementPart s name parts a) :
    Builds P a (elementChild inner s owner parts c) (IsElementPart s name) := by
  refine .liftBind fun _ _ => ?_
  extract_lets first
  have hfirst : ∀ read, Builds P a read (fun id b => b.arena.Has (.type id)) →
      Builds P a (first read) (IsElementPart s name) := by
    intro read hread
    unfold first
    split
    · exact .refuse
    · refine .bind hread fun id b _ hid => .pure ⟨h.new, ?_⟩
      rintro _ ⟨⟩
      exact hid
  split
  · exact .pure ⟨h.new.annotate _, h.own⟩
  · exact hfirst _ (nested.simpleType c within)
  · exact hfirst _ (nested.complexType c within)
  · exact .pure h
  · exact .pure h
  · exact .pure h
  · exact .refuse

theorem builds_elementDecl (nested : inner.Builds base P s) (within : s.Within base a)
    {info : ComponentInfo} {name : QName} (new : info.IsNew s (some name)) (e : Element) :
    Builds P a (elementDecl inner s info e) fun d b =>
      (d.info.IsNew s (some name) ∧ d.head = none) ∧ b.arena.Offers (d.type.toList.map (·.mention)) := by
  refine .bind (.foldlM (fun _ c b grows h =>
    builds_elementChild nested (within.mono grows) e c h) _
      (⟨new, nofun⟩ : IsElementPart s name ⟨info, none⟩ a)) ?_
  intro parts b grows h
  refine .liftBind fun type htype => .liftBind fun constraint _ => .liftBind fun nillable _ => ?_
  exact .pure ⟨⟨h.new, rfl⟩, offers_declaredType htype h.own⟩

theorem builds_globalElement (steady : Steady base P) (nested : inner.Builds base P s)
    (within : s.Within base a) (e : Element) :
    Builds P a (globalElement inner s e) fun _ => Declared s e .element := by
  refine .liftBind fun _ _ => .liftBind fun name hname => ?_
  refine .bind (builds_elementDecl nested within ⟨rfl, rfl, rfl⟩ e) ?_
  rintro decl b grows ⟨⟨new, -⟩, offers⟩
  have within := within.mono grows
  extract_lets declare
  have hdeclare : ∀ head : Option (Reference ElementId), (∀ r ∈ head, r.target = none) →
      Builds P b (declare head) fun _ => Declared s e .element := by
    intro head hhead
    refine .liftBind fun isAbstract _ => ?_
    have headOffers : b.arena.Offers (head.toList.map fun r => .named (.element r)) := by
      cases head with
      | none => exact Arena.offers_nil
      | some r =>
        have unbound := hhead r rfl
        exact Arena.offers_of_target (by simp [Mention.target, AnyReference.target, unbound])
    refine .bind (Assemble.builds_enter within new .element (Arena.adds_addElement _ _)
      (.addElement _ _) (steady.elementDecl (new.admits within (offers.append headOffers)))) ?_
    exact fun id b' _ entered => builds_declared steady hname entered
  split
  · refine .liftBind fun head _ => hdeclare _ ?_
    rintro _ ⟨⟩
    rfl
  · exact hdeclare none fun _ mem => by cases mem

theorem builds_elementParticle (steady : Steady base P) (nested : inner.Builds base P s)
    (within : s.Within base a) (e : Element) :
    Builds P a (elementParticle inner s e) fun p b => b.arena.Offers p.mentions := by
  refine .liftBind fun occurs _ => ?_
  split
  · refine .liftBind fun _ _ => ?_
    split
    · exact .refuse
    · exact .liftBind fun name _ => .pure (Arena.offers_of_target rfl)
  · refine .liftBind fun _ _ => .liftBind fun name _ => ?_
    refine .bind (builds_elementDecl nested within ⟨rfl, rfl, rfl⟩ e) ?_
    rintro decl b grows ⟨⟨new, noHead⟩, offers⟩
    have within := within.mono grows
    have offers : b.arena.Offers decl.mentions := by
      rw [ElementDecl.mentions, noHead]
      exact offers.append Arena.offers_nil
    refine .bind (Assemble.builds_enter within new .element (Arena.adds_addElement _ _)
      (.addElement _ _) (steady.elementDecl (new.admits within offers))) ?_
    exact fun id b' _ entered => .pure (Arena.offers_own entered.has)

theorem builds_groupChild (steady : Steady base P) (nested : inner.Builds base P s)
    (within : s.Within base a) (compositor : Compositor) {members : List Particle} (c : Element)
    (h : a.arena.Offers (Particle.allMentions members)) :
    Builds P a (groupChild inner s compositor members c) fun members b =>
      b.arena.Offers (Particle.allMentions members) := by
  have joined : ∀ {p : Particle} {b : Assembly}, a.Grows b → b.arena.Offers p.mentions →
      b.arena.Offers (Particle.allMentions (members ++ [p])) := by
    intro p b grows hp
    rw [Particle.allMentions_append]
    exact (grows.arena.offers h).append (hp.append Arena.offers_nil)
  refine .liftBind fun _ _ => ?_
  split
  · exact .pure h
  · refine .bind (builds_elementParticle steady nested within c) fun p b grows hp => ?_
    split
    · exact .refuse
    · exact .pure (joined grows hp)
  · exact .refuse
  · split
    · exact .bind (nested.particle c within) fun p b grows hp => .pure (joined grows hp)
    · exact .refuse

theorem builds_modelGroup (steady : Steady base P) (nested : inner.Builds base P s)
    (within : s.Within base a) (compositor : Compositor) (e : Element) :
    Builds P a (modelGroup inner s compositor e) fun g b => b.arena.Offers g.mentions :=
  .bind (.foldlM (fun _ c _ grows h =>
    builds_groupChild steady nested (within.mono grows) compositor c h) _ Arena.offers_nil)
    fun _ _ _ h => .pure h

theorem builds_groupParticle (steady : Steady base P) (nested : inner.Builds base P s)
    (within : s.Within base a) (compositor : Compositor) (e : Element) :
    Builds P a (groupParticle inner s compositor e) fun p b => b.arena.Offers p.mentions := by
  refine .liftBind fun occurs _ => ?_
  refine .bind (builds_modelGroup steady nested within compositor e) fun group b _ h => ?_
  split
  · exact .pure h
  · exact .refuse

theorem builds_particle (steady : Steady base P) (nested : inner.Builds base P s)
    (within : s.Within base a) (e : Element) :
    Builds P a (particle inner s e) fun p b => b.arena.Offers p.mentions := by
  unfold particle
  split
  · exact .lift fun _ h => offers_wildcardParticle h
  · exact .lift fun _ h => offers_groupUse h
  · split
    · exact builds_groupParticle steady nested within _ e
    · exact .refuse

theorem builds_globalGroupChild (steady : Steady base P) (nested : inner.Builds base P s)
    (within : s.Within base a) (owner : Element) {parts : ComponentInfo × Option ModelGroup}
    {name : Option QName} (c : Element) (h : IsPart s name (·.mentions) parts a) :
    Builds P a (globalGroupChild inner s owner parts c) (IsPart s name (·.mentions)) := by
  refine .liftBind fun _ _ => ?_
  obtain ⟨info, group⟩ := parts
  dsimp only
  split
  · exact .pure ⟨h.1.annotate _, h.2⟩
  · split
    · refine .liftBind fun _ _ => ?_
      refine .bind (builds_modelGroup steady nested within _ c) fun g b _ hg => .pure ⟨h.1, ?_⟩
      simpa using hg
    · exact .refuse

theorem builds_globalGroup (steady : Steady base P) (nested : inner.Builds base P s)
    (within : s.Within base a) (e : Element) :
    Builds P a (globalGroup inner s e) fun _ => Declared s e .group := by
  refine .liftBind fun _ _ => .liftBind fun name hname => ?_
  refine .bind (.foldlM (fun _ c b grows h =>
    builds_globalGroupChild steady nested (within.mono grows) e c h) _
      (⟨⟨rfl, rfl, rfl⟩, Arena.offers_nil⟩ : IsPart s (some name) ModelGroup.mentions _ _)) ?_
  rintro ⟨info, group⟩ b grows ⟨new, offers⟩
  have within := within.mono grows
  dsimp only
  split
  · exact .refuse
  · rename_i group
    have offers : b.arena.Offers group.mentions := by simpa using offers
    refine .bind (Assemble.builds_enter within new .group (Arena.adds_addGroup _ _) (.addGroup _ _)
      (steady.groupDef (new.admits within offers))) ?_
    exact fun id b' _ entered => builds_declared steady hname entered

/-! ## Complex types -/

/-- A complex type as far as it has been read. -/
structure IsSketch (s : Setting) (name : Option QName) (t : ComplexTypeDef) (a : Assembly) :
    Prop where
  new : t.info.IsNew s name
  based : t.base.isSome
  offers : a.arena.Offers t.mentions

theorem IsSketch.parts {t : ComplexTypeDef} {name : Option QName} (h : IsSketch s name t a) :
    (a.arena.Offers (t.base.toList.map (·.mention)) ∧ a.arena.Offers t.content.mentions) ∧
      a.arena.Offers t.attributes.mentions := by
  have := h.offers
  rwa [ComplexTypeDef.mentions, Arena.offers_append_iff, Arena.offers_append_iff] at this

theorem builds_simpleContentChild (steady : Steady base P) (nested : inner.Builds base P s)
    (within : s.Within base a) (method : DerivationMethod)
    {parts : AttributeDecls × List FacetDecl} (c : Element)
    (h : a.arena.Offers parts.1.mentions) :
    Builds P a (simpleContentChild inner s method parts c) fun parts b =>
      b.arena.Offers parts.1.mentions := by
  refine .liftBind fun _ _ => ?_
  obtain ⟨decls, facets⟩ := parts
  dsimp only
  split
  · exact .pure h
  · split
    · exact .bind (builds_typeAttribute steady nested within c h) fun _ _ _ hd => .pure hd
    · split
      · exact .refuse
      · split
        · exact .liftBind fun _ _ => .pure h
        · exact .refuse

theorem builds_simpleContent (steady : Steady base P) (nested : inner.Builds base P s)
    (within : s.Within base a) {name : Option QName} {t : ComplexTypeDef} (h : IsSketch s name t a)
    (e : Element) :
    Builds P a (simpleContent inner s t e) (IsSketch s name) := by
  refine .liftBind fun ⟨c, method⟩ _ => .liftBind fun use huse => ?_
  refine .bind (.foldlM (I := fun parts b => b.arena.Offers parts.1.mentions) (fun _ c b grows h =>
    builds_simpleContentChild steady nested (within.mono grows) method c h) _ h.parts.2) ?_
  rintro ⟨decls, facets⟩ b grows hd
  have hbase : b.arena.Offers [use.mention] := Arena.offers_of_target (target_of_baseType huse)
  exact .pure ⟨⟨h.new.state, h.new.document, h.new.name⟩, rfl, (hbase.append Arena.offers_nil).append hd⟩

theorem builds_complexContentChild (steady : Steady base P) (nested : inner.Builds base P s)
    (within : s.Within base a) (owner : Element) {parts : AttributeDecls × Option Particle}
    (c : Element)
    (h : a.arena.Offers parts.1.mentions ∧ a.arena.Offers (ContentDecl.particle parts.2).mentions) :
    Builds P a (complexContentChild inner s owner parts c) fun parts b =>
      b.arena.Offers parts.1.mentions ∧ b.arena.Offers (ContentDecl.particle parts.2).mentions := by
  refine .liftBind fun _ _ => ?_
  obtain ⟨decls, content⟩ := parts
  dsimp only
  split
  · exact .pure h
  · split
    · split
      · exact .refuse
      · refine .bind (builds_particle steady nested within c) fun p b grows hp => ?_
        exact .pure ⟨grows.arena.offers h.1, hp.append Arena.offers_nil⟩
    · split
      · refine .bind (builds_typeAttribute steady nested within c h.1) fun ds b grows hd => ?_
        exact .pure ⟨hd, grows.arena.offers h.2⟩
      · exact .refuse

theorem builds_complexContent (steady : Steady base P) (nested : inner.Builds base P s)
    (within : s.Within base a) {name : Option QName} {t : ComplexTypeDef} (h : IsSketch s name t a)
    (e : Element) :
    Builds P a (complexContent inner s t e) (IsSketch s name) := by
  refine .liftBind fun mixed _ => .liftBind fun ⟨c, method⟩ _ => .liftBind fun use huse => ?_
  refine .bind (.foldlM (I := fun parts b => b.arena.Offers parts.1.mentions ∧
      b.arena.Offers (ContentDecl.particle parts.2).mentions)
    (fun _ x b grows h =>
      builds_complexContentChild steady nested (within.mono grows) c x h) _
    ⟨h.parts.2, Arena.offers_nil⟩) ?_
  rintro ⟨decls, content⟩ b grows ⟨hd, hc⟩
  have hbase : b.arena.Offers [use.mention] := Arena.offers_of_target (target_of_baseType huse)
  exact .pure ⟨⟨h.new.state, h.new.document, h.new.name⟩, rfl, (hbase.append hc).append hd⟩

theorem builds_complexTypeChild (steady : Steady base P) (nested : inner.Builds base P s)
    (within : s.Within base a) (owner : Element) {name : Option QName} {parts : ComplexTypeParts}
    (c : Element) (h : IsSketch s name parts.definition a) :
    Builds P a (complexTypeChild inner s owner parts c) fun parts =>
      IsSketch s name parts.definition := by
  refine .liftBind fun _ _ => ?_
  extract_lets t first
  have hfirst : ∀ derived read, Builds P a read (IsSketch s name) →
      Builds P a (first derived read) fun parts => IsSketch s name parts.definition := by
    intro derived read hread
    unfold first
    split
    · exact .refuse
    · exact .bind hread fun _ _ _ ht => .pure ht
  split
  · exact .pure ⟨h.new.annotate _, h.based, h.offers⟩
  · split
    · exact hfirst _ _ (builds_simpleContent steady nested within h c)
    · split
      · exact hfirst _ _ (builds_complexContent steady nested within h c)
      · split
        · refine hfirst _ _ (.bind (builds_particle steady nested within c) ?_)
          intro p b grows hp
          have old := h.parts
          refine .pure ⟨⟨h.new.state, h.new.document, h.new.name⟩, h.based, ?_⟩
          exact ((grows.arena.offers old.1.1).append (hp.append Arena.offers_nil)).append
            (grows.arena.offers old.2)
        · split
          · split
            · exact .refuse
            · refine .bind (builds_typeAttribute steady nested within c h.parts.2) ?_
              intro decls b grows hd
              refine .pure ⟨⟨h.new.state, h.new.document, h.new.name⟩, h.based, ?_⟩
              exact (grows.arena.offers (h.parts.1.1.append h.parts.1.2)).append hd
          · exact .refuse

/-- The most general type, from which a type derives if it says nothing else, is always there. -/
theorem builds_complexType (steady : Steady base P) (nested : inner.Builds base P s)
    (within : s.Within base a) (general : base.arena.Has (.type .anyType)) (name : Option QName)
    (e : Element) :
    Builds P a (complexType inner s name e) fun id b => s.Enters base b name (.type id) := by
  refine .liftBind fun mixed _ => .liftBind fun isAbstract _ => ?_
  have new := s.isNew_info name
  have start : IsSketch s name
      { ComplexTypeDef.plain (s.info name) with mixed := mixed, isAbstract := isAbstract } a :=
    ⟨⟨new.state, new.document, new.name⟩, rfl, Arena.offers_anyType (within.grown.arena.has general)⟩
  refine .bind (.foldlM (I := fun parts => IsSketch s name parts.definition) (fun _ c b grows h =>
    builds_complexTypeChild steady nested (within.mono grows) e c h) _ start) ?_
  intro parts b grows h
  have within := within.mono grows
  exact Assemble.builds_enter within h.new .type (Arena.adds_addType _ _) (.addType _ _)
    (steady.type rfl h.based (h.new.admits within h.offers))

theorem builds_ownComplexType (steady : Steady base P) (nested : inner.Builds base P s)
    (within : s.Within base a) (general : base.arena.Has (.type .anyType)) (e : Element) :
    Builds P a (ownComplexType inner s e) fun id b => b.arena.Has (.type id) :=
  .liftBind fun _ _ => .weaken (builds_complexType steady nested within general none e)
    fun _ _ _ h => h.has

/-- By induction on the height: what is nested in an element is less high. -/
theorem builds_nested (steady : Steady base P) (general : base.arena.Has (.type .anyType))
    (s : Setting) (height : Nat) : (nested s height).Builds base P s := by
  induction height with
  | zero => exact ⟨fun _ _ => .refuse, fun _ _ => .refuse, fun _ _ => .refuse⟩
  | succ height ih =>
    exact ⟨fun e within => builds_ownSimpleType steady ih within e,
      fun e within => builds_ownComplexType steady ih within general e,
      fun e within => builds_particle steady ih within e⟩

/-! ## Documents -/

section Documents

variable {supply : Supply} {depth : Nat} {read : ReadIncluded}

/-- Documents that are included by one that has been read so far are read with all they hold. -/
def ReadIncluded.Builds (base : Assembly) (P : Assembly → Prop) (read : ReadIncluded) : Prop :=
  ∀ {a} (includer : Includer) document, base.Grows a →
    includer.document.index < a.registry.documents.size →
    Xsd.Builds P a (read includer document) fun _ _ => True

theorem builds_inclusion (stable : Stable base P) (hread : read.Builds base P)
    (within : s.Within base a) (e : Element) :
    Builds P a (inclusion supply depth read s e) fun _ _ => True := by
  have noted : ∀ {b : Assembly} (e : Error), Builds P b (Assemble.note e) fun _ _ => True :=
    fun e => .weaken (Assemble.builds_note stable.toSteady e) fun _ _ _ _ => trivial
  unfold inclusion
  split
  · exact .refuse
  · refine .getBind ?_
    split
    · exact .pure trivial
    · extract_lets fetch
      have hfetch : Builds P a (fetch ()) fun _ _ => True := by
        unfold fetch
        split
        · exact noted _
        · split
          · exact noted _
          · refine .tryCatch (.discard (hread _ _ within.grown within.known)) fun e b _ => ?_
            exact noted e
      split
      · exact .throwBind
      · exact hfetch

theorem builds_importation (stable : Stable base P)
    (late : base.registry.documents.size ≤ s.document.index) (e : Element) :
    Builds P a (importation s e) fun _ _ => True := by
  unfold importation
  extract_lets ns location
  split
  · exact .refuse
  · exact .modify (stable.importEdge _ _ late)
      (.ofRegistry (Registry.extends_addImport _ _ _)) trivial

/-- An element that declares something is read as part of its own document. -/
theorem builds_declaration (steady : Steady base P) (general : base.arena.Has (.type .anyType))
    (nested : inner.Builds base P s) (within : s.Within base a) {e : Element} {category : Category}
    (declares : topLevelCategory? e.localName = some category) :
    Builds P a (topLevel supply depth read inner s e) fun _ => Declared s e category := by
  refine .liftBind fun _ _ => ?_
  unfold topLevelCategory? at declares
  split at declares
  case h_1 word =>
    cases declares
    rw [word]
    exact builds_globalElement steady nested within e
  case h_2 word =>
    cases declares
    rw [word]
    refine .liftBind fun name hname => ?_
    refine .bind (builds_simpleType steady nested within _ e) fun id b _ entered => ?_
    exact builds_declared steady hname entered
  case h_3 word =>
    cases declares
    rw [word]
    refine .liftBind fun name hname => ?_
    refine .bind (builds_complexType steady nested within general _ e) fun id b _ entered => ?_
    exact builds_declared steady hname entered
  case h_4 word =>
    cases declares
    rw [word]
    exact builds_globalAttribute steady nested within e
  case h_5 word =>
    cases declares
    rw [word]
    exact builds_globalAttributeGroup steady nested within e
  case h_6 word =>
    cases declares
    rw [word]
    exact builds_globalGroup steady nested within e
  case h_7 => cases declares

theorem builds_topLevel (stable : Stable base P) (general : base.arena.Has (.type .anyType))
    (hread : read.Builds base P) (nested : inner.Builds base P s) (within : s.Within base a)
    (late : base.registry.documents.size ≤ s.document.index) (e : Element) :
    Builds P a (topLevel supply depth read inner s e) fun _ _ => True := by
  cases known : topLevelCategory? e.localName with
  | some category =>
    exact .weaken (builds_declaration stable.toSteady general nested within known)
      fun _ _ _ _ => trivial
  | none =>
    refine .liftBind fun _ _ => ?_
    split
    · exact .pure trivial
    · exact .pure trivial
    · exact builds_inclusion stable hread within e
    · exact builds_importation stable late e
    · exact .refuse
    all_goals
      first
      | exact .refuse
      | rename_i word
        rw [word] at known
        cases known

theorem builds_checkSize (limits : Limits) :
    Builds P a (checkSize limits) fun _ b => b.arena.size ≤ limits.schemaComponents := by
  refine .getBind ?_
  split
  · exact .throw _
  · rename_i within
    exact .pure (Limits.check_eq_ok_iff.mp within)

theorem target_of_targetNamespace {document : Document} {root : Element} {target : Namespace}
    {adopted : Bool} (h : targetNamespace document none root = .ok (target, adopted)) :
    target = root.attribute? "targetNamespace" := by
  unfold targetNamespace at h
  extract_lets declared at h
  split at h
  · cases h
  · exact (Prod.mk.inj (Except.ok.inj h)).1.symm

/-- The namespace that a document declares. -/
def declaredNamespace (document : Document) : Namespace :=
  document.root.bind fun root => root.attribute? "targetNamespace"

/-- A document that has been read is one of those whose namespaces have been loaded, and the
components are not too many, unless they were before. -/
theorem builds_readDocument (stable : Stable base P) (general : base.arena.Has (.type .anyType))
    (hread : read.Builds base P) (grown : base.Grows a) {includer : Option Includer}
    (known : ∀ i ∈ includer, i.document.index < a.registry.documents.size) (document : Document) :
    Builds P a (readDocument supply depth read includer document) fun _ b =>
      (includer = none → b.registry.isLoaded (declaredNamespace document)) ∧
        b.arena.size ≤ max supply.limits.schemaComponents a.arena.size := by
  refine .liftBind fun root hroot => .liftBind fun ⟨target, adopted⟩ htarget => ?_
  refine .liftBind fun elementsQualified _ => .liftBind fun attributesQualified _ => ?_
  extract_lets info
  have hincluder : ∀ d, info.includedBy = some d → d.index < a.registry.documents.size := by
    intro d hd
    obtain ⟨i, hi, rfl⟩ := Option.map_eq_some_iff.mp hd
    exact known i hi
  have declared : includer = none → target = declaredNamespace document := by
    rintro rfl
    rw [target_of_targetNamespace htarget, declaredNamespace]
    unfold schemaRoot at hroot
    split at hroot
    · cases hroot
    · rename_i found
      split at hroot
      · cases hroot
        rw [found]
        rfl
      · cases hroot
  have entered : Builds P a (modifyGet fun a : Assembly =>
      ((a.registry.addDocument info).1, { a with registry := (a.registry.addDocument info).2 }))
      fun id b => (id.index = a.registry.documents.size ∧ id.index < b.registry.documents.size) ∧
        b.registry.isLoaded target ∧ b.arena = a.arena := by
    refine fun hP => ⟨stable.document info hincluder hP, ?_, ?_⟩
    · exact .ofRegistry (Registry.extends_addDocument _ info)
    · rintro _ ⟨⟩
      refine ⟨?_, Registry.isLoaded_addDocument a.registry info, rfl⟩
      change _ ∧ _ < (a.registry.addDocument info).2.documents.size
      rw [Registry.id_addDocument, Registry.documents_addDocument, Array.size_push]
      exact ⟨rfl, Nat.lt_succ_self _⟩
  refine .bind entered ?_
  rintro id b grows ⟨⟨number, known⟩, loaded, sameArena⟩
  have late : base.registry.documents.size ≤ id.index := by
    rw [number]
    exact grown.documents
  have within : (⟨id, document.location, target, adopted, elementsQualified,
      attributesQualified⟩ : Setting).Within base b := ⟨grown.trans grows, known⟩
  refine .bind (.forM (fun b => b.arena.size ≤ max supply.limits.schemaComponents a.arena.size)
    (fun e b' grows' _ => ?_) _ (by rw [sameArena]; exact le_max_right _ _)) ?_
  · refine .bind (builds_topLevel stable general hread (builds_nested stable.toSteady general _ _)
      (within.mono grows') late e) fun _ b'' _ _ => ?_
    exact .weaken (builds_checkSize supply.limits) fun _ _ _ h => le_max_of_le_left h
  · intro _ b' grows' small
    exact .pure ⟨fun h => declared h ▸ grows'.loaded loaded, small⟩

theorem builds_readIncluded (stable : Stable base P) (general : base.arena.Has (.type .anyType))
    (depth room : Nat) : (readIncluded supply depth room).Builds base P := by
  induction room generalizing depth with
  | zero =>
    intro a includer document grown known
    refine .weaken (builds_readDocument stable general (fun _ _ _ _ => .throw _) grown ?_ document)
      fun _ _ _ _ => trivial
    rintro _ ⟨⟩
    exact known
  | succ room ih =>
    intro a includer document grown known
    refine .weaken (builds_readDocument stable general (ih (depth + 1)) grown ?_ document)
      fun _ _ _ _ => trivial
    rintro _ ⟨⟩
    exact known

theorem builds_readAt (stable : Stable base P) (general : base.arena.Has (.type .anyType))
    (grown : base.Grows a) (depth : Nat) (document : Document) :
    Builds P a (readAt supply depth document) fun _ b =>
      b.registry.isLoaded (declaredNamespace document) ∧
        b.arena.size ≤ max supply.limits.schemaComponents a.arena.size :=
  .weaken (builds_readDocument stable general (builds_readIncluded stable general _ _) grown
    (by rintro _ ⟨⟩) document) fun _ _ _ h => ⟨h.1 rfl, h.2⟩

/-- A document that is imported for a namespace declares just that. -/
theorem builds_buildImported (stable : Stable base P) (general : base.arena.Has (.type .anyType))
    (grown : base.Grows a) (ns : Namespace) (document : Document) :
    Builds P a (buildImported supply ns document) fun _ b =>
      b.registry.isLoaded ns ∧
        b.arena.size ≤ max supply.limits.schemaComponents a.arena.size := by
  unfold buildImported
  extract_lets declared
  split
  · rename_i same
    exact .weaken (builds_readAt stable general grown 1 document) fun _ _ _ h =>
      ⟨same ▸ h.1, h.2⟩
  · exact .throw _

end Documents

end Schema

end Xsd
