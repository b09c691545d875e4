import Xsd.Proofs.Automaton.Language
import Xsd.Proofs.Steps
import Xsd.Resolution

/-!
# The shape of what is read

Whatever is read into an arena is of the shape that later stages rely on: at every depth bounds are
in order, and an `all` group, which has elements only, each at most once, stands by itself as the
content of a type or in the definition of a group. It is checked where a group is read, before
anything that holds it is entered, so it does not matter where the reading stops.
-/

namespace Xsd

variable {ε σ α β : Type}

/-! ## Bounds -/

theorem Occurs.proper_of_parse {min max : Option String} {o : Occurs}
    (h : parse min max = .ok o) : o.Proper := by
  unfold parse at h
  extract_lets bounded at h
  have proper : ∀ low, bounded low = .ok o → o.Proper := by
    intro low h high bound
    unfold bounded at h
    split at h
    · cases h
      cases bound
    · split at h
      · cases h
      · split at h
        · cases h
        · rename_i inOrder
          cases h
          cases bound
          exact Nat.le_of_not_lt inOrder
    · split at h
      · cases h
      · rename_i inOrder
        cases h
        cases bound
        exact Nat.le_of_not_lt inOrder
  split at h
  · exact proper _ h
  · split at h
    · exact proper _ h
    · cases h

/-- A compositor goes by its name only. -/
theorem Compositor.name_of_ofName? {text : String} {compositor : Compositor}
    (h : ofName? text = some compositor) : text = compositor.name := by
  unfold ofName? at h
  split at h <;> cases h <;> rfl

/-! ## Shapes -/

namespace Particle

mutual

/-- The particle and all that is inside it. -/
def nodes : Particle → List Particle
  | .element o d => [.element o d]
  | .wildcard o w => [.wildcard o w]
  | .group o c members => .group o c members :: nodesOf members
  | .groupUse o r => [.groupUse o r]

def nodesOf : List Particle → List Particle
  | [] => []
  | p :: ps => p.nodes ++ nodesOf ps

end

def IsAll : Particle → Prop
  | .group _ .all _ => True
  | _ => False

/-- An element that occurs at most once. -/
def IsSingleElement : Particle → Prop
  | .element o _ => ∃ max ≤ 1, o.max = some max
  | _ => False

theorem mem_nodesOf_iff {p : Particle} {ps : List Particle} :
    p ∈ nodesOf ps ↔ ∃ q ∈ ps, p ∈ q.nodes := by
  induction ps with
  | nil => simp [nodesOf]
  | cons q qs ih => simp [nodesOf, ih]

end Particle

/-- Inside the group bounds are in order and there is no `all` group. If it is one itself, it has
elements only, each at most once. -/
structure ModelGroup.IsShaped (g : ModelGroup) : Prop where
  inside : ∀ p ∈ Particle.nodesOf g.particles, p.occurs.Proper ∧ ¬ p.IsAll
  members : g.compositor = .all → ∀ p ∈ g.particles, p.IsSingleElement

/-- The bounds are in order, and so is what is inside; an `all` group occurs once, or may be left
out. -/
structure Particle.IsShaped (p : Particle) : Prop where
  occurs : p.occurs.Proper
  group : ∀ {o c members}, p = .group o c members → ModelGroup.IsShaped ⟨c, members⟩
  all : ∀ {o members}, p = .group o .all members → o.min ≤ 1 ∧ o.max = some 1

/-- The particle that a type has as its content, if it has one. -/
def ComplexTypeDef.particle? (t : ComplexTypeDef) : Option Particle :=
  match t.content with
  | .particle p => p
  | .simple _ => none

/-- The content of the type, if it has any, is shaped. -/
def TypeDefinition.IsShaped : TypeDefinition → Prop
  | .simple _ => True
  | .complex t => ∀ p ∈ t.particle?, p.IsShaped

/-- The types and groups that the first arena does not have are shaped. -/
structure Arena.ShapedSince (base a : Arena) : Prop where
  types : ∀ {id t}, a.type? id = some t → base.type? id = none → t.IsShaped
  groups : ∀ {id g}, a.group? id = some g → base.group? id = none → g.group.IsShaped

/-- At every depth of a shaped particle bounds are in order, and there are no `all` groups below its
root. -/
theorem Particle.IsShaped.nodes {p q : Particle} (h : p.IsShaped) (mem : q ∈ p.nodes) :
    q.occurs.Proper ∧ (q.IsAll → q = p) := by
  cases p with
  | group o c members =>
    rcases List.mem_cons.mp mem with rfl | mem
    · exact ⟨h.occurs, fun _ => rfl⟩
    · exact (h.group rfl).inside q mem |>.imp_right fun none all => absurd all none
  | _ =>
    cases List.mem_singleton.mp mem
    exact ⟨h.occurs, fun _ => rfl⟩

namespace Arena.ShapedSince

variable {base a b : Arena}

theorem refl (a : Arena) : a.ShapedSince a where
  types known missing := by
    rw [known] at missing
    cases missing
  groups known missing := by
    rw [known] at missing
    cases missing

theorem of_same (h : base.ShapedSince a) (types : b.types = a.types)
    (groups : b.groups = a.groups) : base.ShapedSince b where
  types known := h.types (by rwa [type?, ← types])
  groups known := h.groups (by rwa [group?, ← groups])

theorem addType (h : base.ShapedSince a) {t : TypeDefinition} (shaped : t.IsShaped) :
    base.ShapedSince (a.addType t).2 where
  types {id u} known missing := by
    change (a.types.push t)[id.index]? = some u at known
    rw [Array.getElem?_push] at known
    split at known
    · cases known
      exact shaped
    · exact h.types known missing
  groups := h.groups

theorem addGroup (h : base.ShapedSince a) {g : GroupDef} (shaped : g.group.IsShaped) :
    base.ShapedSince (a.addGroup g).2 where
  types := h.types
  groups {id u} known missing := by
    change (a.groups.push g)[id.index]? = some u at known
    rw [Array.getElem?_push] at known
    split at known
    · cases known
      exact shaped
    · exact h.groups known missing

end Arena.ShapedSince

/-! ## Computations with results of a kind -/

/-- The property is kept, and if there is a result, that is as it should be. -/
def Makes (P : σ → Prop) (x : ExceptT ε (StateM σ) α) (post : α → Prop) : Prop :=
  ∀ s, P s → P (x.run.run s).2 ∧ ∀ v, (x.run.run s).1 = .ok v → post v

namespace Makes

variable {P : σ → Prop} {x : ExceptT ε (StateM σ) α} {post : α → Prop}

theorem upholds (h : Makes P x post) : Upholds P x := fun s hs => (h s hs).1

theorem pure {v : α} (h : post v) : Makes P (Pure.pure v : ExceptT ε (StateM σ) α) post := by
  refine fun s hs => ⟨hs, ?_⟩
  rintro _ ⟨⟩
  exact h

theorem lift {x : Except ε α} (h : ∀ v, x = .ok v → post v) :
    Makes P (liftM x : ExceptT ε (StateM σ) α) post :=
  fun _ hs => ⟨hs, h⟩

/-- A failure that does not depend on the state. -/
theorem error (e : ε) : Makes P (liftM (.error e : Except ε α) : ExceptT ε (StateM σ) α) post := by
  refine lift ?_
  rintro _ ⟨⟩

theorem weaken {post' : α → Prop} (hx : Makes P x post) (h : ∀ v, post v → post' v) :
    Makes P x post' :=
  fun s hs => ⟨(hx s hs).1, fun v hv => h v ((hx s hs).2 v hv)⟩

theorem bind {f : α → ExceptT ε (StateM σ) β} {post' : β → Prop} (hx : Makes P x post)
    (hf : ∀ v, post v → Makes P (f v) post') : Makes P (x >>= f) post' := by
  intro s hs
  obtain ⟨kept, result⟩ := hx s hs
  rw [ExceptT.run_bind, StateT.run_bind]
  generalize x.run.run s = outcome at kept result
  obtain ⟨r, t⟩ := outcome
  cases r with
  | error e =>
    refine ⟨kept, ?_⟩
    rintro _ ⟨⟩
  | ok v => exact hf v (result v rfl) t kept

/-- Nothing is known of the result. -/
theorem ofUpholds (h : Upholds P x) : Makes P x fun _ => True :=
  fun s hs => ⟨h s hs, fun _ _ => trivial⟩

/-- What is known of the result of the first step, the second can go by. -/
theorem upholds_bind {f : α → ExceptT ε (StateM σ) β} (hx : Makes P x post)
    (hf : ∀ v, post v → Upholds P (f v)) : Upholds P (x >>= f) :=
  (bind hx fun v hv => ofUpholds (hf v hv)).upholds

/-- What is known of the result of the first step does not matter. -/
theorem upholdsBind {f : α → ExceptT ε (StateM σ) β} {post' : β → Prop} (hx : Upholds P x)
    (hf : ∀ v, Makes P (f v) post') : Makes P (x >>= f) post' :=
  bind (ofUpholds hx) fun v _ => hf v

theorem liftBind {x : Except ε α} {f : α → ExceptT ε (StateM σ) β} {post' : β → Prop}
    (hf : ∀ v, x = .ok v → Makes P (f v) post') :
    Makes P ((liftM x : ExceptT ε (StateM σ) α) >>= f) post' :=
  bind (lift fun _ h => h) hf

/-- What holds of the first value of an accumulator and is kept by each step holds of the last. -/
theorem foldlM {f : β → α → ExceptT ε (StateM σ) β} {I : β → Prop}
    (hf : ∀ b, I b → ∀ x, Makes P (f b x) I) (xs : List α) {b : β} (h : I b) :
    Makes P (xs.foldlM f b) I := by
  induction xs generalizing b with
  | nil => exact pure h
  | cons x xs ih => exact bind (hf b h x) fun b' h' => ih h'

end Makes

/-! ## Reading -/

/-- Nothing that is added makes the property fail, if the types and groups among that are shaped. -/
class Receptive (P : Assembly → Prop) : Prop where
  note : ∀ {a} e, P a → P { a with errors := a.errors ++ [e] }
  registry : ∀ {a} r, P a → P { a with registry := r }
  type : ∀ {a} {t : TypeDefinition}, t.IsShaped → P a → P { a with arena := (a.arena.addType t).2 }
  element : ∀ {a} e, P a → P { a with arena := (a.arena.addElement e).2 }
  attributeDecl : ∀ {a} d, P a → P { a with arena := (a.arena.addAttribute d).2 }
  group : ∀ {a} {g : GroupDef}, g.group.IsShaped → P a →
    P { a with arena := (a.arena.addGroup g).2 }
  attributeGroup : ∀ {a} g, P a → P { a with arena := (a.arena.addAttributeGroup g).2 }

/-- All that is nested in a declaration keeps the property, and particles are shaped. An `all` group
is called one. -/
structure Nested.Shapes (P : Assembly → Prop) (inner : Nested) : Prop where
  simpleType : ∀ e, Upholds P (inner.simpleType e)
  complexType : ∀ e, Upholds P (inner.complexType e)
  particle : ∀ e, Makes P (inner.particle e) fun p =>
    p.IsShaped ∧ (p.IsAll → e.localName = "all")

namespace Assemble

variable {P : Assembly → Prop}

theorem upholds_enter {insert : Arena → α × Arena}
    (h : ∀ a, P a → P { a with arena := (insert a.arena).2 }) : Upholds P (enter insert) :=
  .modifyGet h

variable [Receptive P]

theorem upholds_note (e : Error) : Upholds P (note e) := .modify fun _ h => Receptive.note e h

theorem upholds_declare (name : QName) (id : ComponentId) :
    Upholds P (declare name id) := by
  refine .bind .get fun a => ?_
  split
  · exact .modify fun _ h => Receptive.registry _ h
  · exact upholds_note _

end Assemble

namespace Schema

variable {P : Assembly → Prop} {inner : Nested} {s : Setting}

/-! ### Parts of declarations -/

theorem upholds_restrictionChild (nested : inner.Shapes P) (owner : Element)
    (parts : RestrictionParts) (c : Element) :
    Upholds P (restrictionChild inner s owner parts c) := by
  refine .bind (.lift _) fun _ => ?_
  split
  · exact .pure _
  · split
    · exact .lift _
    · exact .bind (nested.simpleType c) fun _ => .pure _
  · split
    · exact .bind (.lift _) fun _ => .pure _
    · exact .lift _

theorem upholds_restriction (nested : inner.Shapes P) (e : Element) :
    Upholds P (restriction inner s e) := by
  refine .bind (.lift _) fun named => ?_
  refine .bind (.foldlM (upholds_restrictionChild nested e)) fun parts => ?_
  split
  · exact .pure _
  · exact .lift _

theorem upholds_listChild (nested : inner.Shapes P) (owner : Element) (item : Option TypeUse)
    (c : Element) : Upholds P (listChild inner s owner item c) := by
  refine .bind (.lift _) fun _ => ?_
  split
  · exact .pure _
  · exact .bind (nested.simpleType c) fun _ => .pure _
  · exact .lift _

theorem upholds_list (nested : inner.Shapes P) (e : Element) :
    Upholds P (list inner s e) := by
  refine .bind (.lift _) fun item => .bind (.foldlM (upholds_listChild nested e)) fun item => ?_
  split
  · exact .pure _
  · exact .lift _

theorem upholds_unionChild (nested : inner.Shapes P) (members : List TypeUse) (c : Element) :
    Upholds P (unionChild inner s members c) := by
  refine .bind (.lift _) fun _ => ?_
  split
  · exact .pure _
  · exact .bind (nested.simpleType c) fun _ => .pure _
  · exact .lift _

theorem upholds_union (nested : inner.Shapes P) (e : Element) :
    Upholds P (union inner s e) := by
  refine .bind (.lift _) fun named => .bind (.foldlM (upholds_unionChild nested)) fun members => ?_
  split
  · exact .lift _
  · exact .pure _

theorem upholds_simpleTypeChild (nested : inner.Shapes P) (owner : Element)
    (parts : ComponentInfo × Option SimpleVariety) (c : Element) :
    Upholds P (simpleTypeChild inner s owner parts c) := by
  refine .bind (.lift _) fun _ => ?_
  obtain ⟨info, variety⟩ := parts
  dsimp -zeta only
  extract_lets first
  have hfirst : ∀ read, Upholds P read → Upholds P (first read) := by
    intro read hread
    unfold first
    split
    · exact .lift _
    · exact .bind hread fun _ => .pure _
  split
  · exact .pure _
  · exact hfirst _ (upholds_restriction nested c)
  · exact hfirst _ (upholds_list nested c)
  · exact hfirst _ (upholds_union nested c)
  · exact .lift _

theorem upholds_attributeChild (nested : inner.Shapes P)
    (parts : ComponentInfo × Option TypeId) (c : Element) :
    Upholds P (attributeChild inner s parts c) := by
  refine .bind (.lift _) fun _ => ?_
  obtain ⟨info, own⟩ := parts
  dsimp only
  split
  · exact .pure _
  · exact .bind (nested.simpleType c) fun _ => .pure _
  · exact .lift _

theorem upholds_attributeDecl (nested : inner.Shapes P) (info : ComponentInfo) (e : Element) :
    Upholds P (attributeDecl inner s info e) := by
  refine .bind (.foldlM (upholds_attributeChild nested)) fun parts => ?_
  exact .bind (.lift _) fun type => .bind (.lift _) fun constraint => .pure _

theorem upholds_elementChild (nested : inner.Shapes P) (owner : Element) (parts : ElementParts)
    (c : Element) : Upholds P (elementChild inner s owner parts c) := by
  refine .bind (.lift _) fun _ => ?_
  extract_lets first
  have hfirst : ∀ read, Upholds P read → Upholds P (first read) := by
    intro read hread
    unfold first
    split
    · exact .lift _
    · exact .bind hread fun _ => .pure _
  split
  · exact .pure _
  · exact hfirst _ (nested.simpleType c)
  · exact hfirst _ (nested.complexType c)
  · exact .pure _
  · exact .pure _
  · exact .pure _
  · exact .lift _

theorem upholds_elementDecl (nested : inner.Shapes P) (info : ComponentInfo) (e : Element) :
    Upholds P (elementDecl inner s info e) := by
  refine .bind (.foldlM (upholds_elementChild nested e)) fun parts => ?_
  exact .bind (.lift _) fun type => .bind (.lift _) fun constraint =>
    .bind (.lift _) fun nillable => .pure _

/-! ### Types and attributes -/

variable [Receptive P]

theorem upholds_simpleType (nested : inner.Shapes P) (name : Option QName) (e : Element) :
    Upholds P (simpleType inner s name e) := by
  refine .bind (.foldlM (upholds_simpleTypeChild nested e)) fun ⟨info, variety⟩ => ?_
  dsimp only
  split
  · exact Assemble.upholds_enter fun _ => Receptive.type trivial
  · exact .lift _

theorem upholds_ownSimpleType (nested : inner.Shapes P) (e : Element) :
    Upholds P (ownSimpleType inner s e) :=
  .bind (.lift _) fun _ => upholds_simpleType nested none e

theorem upholds_globalAttribute (nested : inner.Shapes P) (e : Element) :
    Upholds P (globalAttribute inner s e) := by
  refine .bind (.lift _) fun _ => .bind (.lift _) fun name => ?_
  refine .bind (upholds_attributeDecl nested _ e) fun decl => ?_
  exact .bind (Assemble.upholds_enter fun _ => Receptive.attributeDecl _) fun id =>
    Assemble.upholds_declare _ _

theorem upholds_localAttribute (nested : inner.Shapes P) (e : Element) :
    Upholds P (localAttribute inner s e) := by
  refine .bind (.lift _) fun ⟨use, constraint⟩ => ?_
  dsimp only
  split
  · exact .bind (.lift _) fun _ => .bind (.lift _) fun _ => .bind (.lift _) fun name => .pure _
  · refine .bind (.lift _) fun name => .bind (upholds_attributeDecl nested _ e) fun decl => ?_
    exact .bind (Assemble.upholds_enter fun _ => Receptive.attributeDecl _) fun id => .pure _

theorem upholds_attributeItem (nested : inner.Shapes P) (decls : AttributeDecls) (e : Element) :
    Upholds P (attributeItem inner s decls e) := by
  unfold attributeItem
  split
  · exact .bind (.lift _) fun _ => .pure _
  · exact .bind (.lift _) fun _ => .bind (.lift _) fun _ => .pure _
  · exact .bind (upholds_localAttribute nested e) fun _ => .pure _

theorem upholds_attributeGroupChild (nested : inner.Shapes P)
    (parts : ComponentInfo × AttributeDecls) (c : Element) :
    Upholds P (attributeGroupChild inner s parts c) := by
  refine .bind (.lift _) fun _ => ?_
  obtain ⟨info, decls⟩ := parts
  dsimp only
  split
  · exact .pure _
  · split
    · split
      · exact .lift _
      · exact .bind (upholds_attributeItem nested decls c) fun _ => .pure _
    · exact .lift _

theorem upholds_globalAttributeGroup (nested : inner.Shapes P) (e : Element) :
    Upholds P (globalAttributeGroup inner s e) := by
  refine .bind (.lift _) fun _ => .bind (.lift _) fun name => ?_
  refine .bind (.foldlM (upholds_attributeGroupChild nested)) fun parts => ?_
  exact .bind (Assemble.upholds_enter fun _ => Receptive.attributeGroup _) fun id =>
    Assemble.upholds_declare _ _

theorem upholds_typeAttribute (nested : inner.Shapes P) (decls : AttributeDecls) (c : Element) :
    Upholds P (typeAttribute inner s decls c) := by
  refine .bind (upholds_attributeItem nested decls c) fun extended => ?_
  split
  · exact .lift _
  · exact .pure _

theorem upholds_globalElement (nested : inner.Shapes P) (e : Element) :
    Upholds P (globalElement inner s e) := by
  refine .bind (.lift _) fun _ => .bind (.lift _) fun name => ?_
  refine .bind (upholds_elementDecl nested _ e) fun decl => ?_
  extract_lets declare
  have hdeclare : ∀ head, Upholds P (declare head) := by
    intro head
    refine .bind (.lift _) fun isAbstract => ?_
    exact .bind (Assemble.upholds_enter fun _ => Receptive.element _) fun id =>
      Assemble.upholds_declare _ _
  split
  · exact .bind (.lift _) fun head => hdeclare _
  · exact hdeclare none

/-! ### Particles -/

theorem proper_of_occurs {e : Element} {o : Occurs} (h : s.occurs e = .ok o) : o.Proper := by
  unfold Setting.occurs at h
  split at h
  · cases h
  · rename_i parsed
    cases h
    exact Occurs.proper_of_parse parsed

theorem makes_elementParticle (nested : inner.Shapes P) (e : Element) :
    Makes P (elementParticle inner s e) fun p =>
      ∃ o d, p = .element o d ∧ o.Proper := by
  refine .liftBind fun occurs ho => ?_
  have proper := proper_of_occurs ho
  split
  · refine .liftBind fun _ _ => ?_
    split
    · exact .error _
    · exact .liftBind fun name _ => .pure ⟨_, _, rfl, proper⟩
  · refine .liftBind fun _ _ => .liftBind fun name _ => ?_
    refine .upholdsBind (upholds_elementDecl nested _ e) fun decl => ?_
    exact .upholdsBind (Assemble.upholds_enter fun _ => Receptive.element _) fun id =>
      .pure ⟨_, _, rfl, proper⟩

/-- What may stand in a group. -/
structure Fits (compositor : Compositor) (p : Particle) : Prop where
  shaped : p.IsShaped
  notAll : ¬ p.IsAll
  member : compositor = .all → p.IsSingleElement

theorem isShaped_of_fits {g : ModelGroup} (h : ∀ p ∈ g.particles, Fits g.compositor p) :
    g.IsShaped where
  inside q mem := by
    obtain ⟨p, hp, inside⟩ := Particle.mem_nodesOf_iff.mp mem
    obtain ⟨proper, root⟩ := (h p hp).shaped.nodes inside
    exact ⟨proper, fun all => (h p hp).notAll (root all ▸ all)⟩
  members all p hp := (h p hp).member all

theorem fits_element {o : Occurs} {d : ElementUse} (proper : o.Proper) {compositor : Compositor}
    (fine : compositor = .all → fitsAll (.element o d) = true) :
    Fits compositor (.element o d) where
  shaped := ⟨proper, by rintro _ _ _ ⟨⟩, by rintro _ _ ⟨⟩⟩
  notAll := id
  member all := by
    have fine := fine all
    unfold fitsAll at fine
    split at fine
    · rename_i max bound
      exact ⟨max, of_decide_eq_true fine, bound⟩
    · cases fine

theorem makes_groupChild (nested : inner.Shapes P) (compositor : Compositor)
    (members : List Particle) (h : ∀ p ∈ members, Fits compositor p) (c : Element) :
    Makes P (groupChild inner s compositor members c) fun members =>
      ∀ p ∈ members, Fits compositor p := by
  have more : ∀ p, Fits compositor p → ∀ q ∈ members ++ [p], Fits compositor q := by
    intro p hp q mem
    rcases List.mem_append.mp mem with mem | mem
    · exact h q mem
    · exact List.mem_singleton.mp mem ▸ hp
  refine .liftBind fun _ _ => ?_
  split
  · exact .pure h
  · refine .bind (makes_elementParticle nested c) ?_
    rintro _ ⟨o, d, rfl, proper⟩
    split
    · exact .error _
    · rename_i fine
      refine .pure (more _ (fits_element proper fun all => ?_))
      simpa [all] using fine
  · exact .error _
  · rename_i notAll
    split
    · rename_i admitted
      refine .bind (nested.particle c) fun p hp => .pure (more p ?_)
      refine ⟨hp.1, fun all => ?_, fun all => ?_⟩
      · exact notAll (hp.2 all)
      · simp [all] at admitted
    · exact .error _

theorem makes_modelGroup (nested : inner.Shapes P) (compositor : Compositor) (e : Element) :
    Makes P (modelGroup inner s compositor e) fun g =>
      g.compositor = compositor ∧ g.IsShaped := by
  refine .bind (.foldlM (makes_groupChild nested compositor) _ ?_) fun members fit => ?_
  · intro p mem
    cases mem
  · exact .pure ⟨rfl, isShaped_of_fits fit⟩

theorem makes_groupParticle (nested : inner.Shapes P) (compositor : Compositor) (e : Element) :
    Makes P (groupParticle inner s compositor e) fun p =>
      p.IsShaped ∧ (p.IsAll → compositor = .all) := by
  refine .liftBind fun occurs ho => .bind (makes_modelGroup nested compositor e) fun group hg => ?_
  obtain ⟨own, members⟩ := group
  obtain ⟨same, shaped⟩ := hg
  change own = compositor at same
  subst same
  dsimp only
  split
  · rename_i admitted
    refine .pure ⟨⟨proper_of_occurs ho, ?_, ?_⟩, fun all => ?_⟩
    · rintro _ _ _ ⟨⟩
      exact shaped
    · rintro _ _ ⟨⟩
      simpa [admitsOccurs] using admitted
    · cases own with
      | all => rfl
      | _ => exact all.elim
  · exact .error _

theorem makes_particle (nested : inner.Shapes P) (e : Element) :
    Makes P (particle inner s e) fun p =>
      p.IsShaped ∧ (p.IsAll → e.localName = "all") := by
  unfold particle
  split
  · refine .lift fun p h => ?_
    obtain ⟨o, ho, h⟩ := bind_eq_ok_iff.mp h
    obtain ⟨-, -, h⟩ := bind_eq_ok_iff.mp h
    obtain ⟨w, -, h⟩ := bind_eq_ok_iff.mp h
    cases h
    exact ⟨⟨proper_of_occurs ho, by rintro _ _ _ ⟨⟩, by rintro _ _ ⟨⟩⟩, False.elim⟩
  · refine .lift fun p h => ?_
    unfold groupUse at h
    split at h
    · cases h
    · obtain ⟨-, -, h⟩ := bind_eq_ok_iff.mp h
      obtain ⟨-, -, h⟩ := bind_eq_ok_iff.mp h
      obtain ⟨o, ho, h⟩ := bind_eq_ok_iff.mp h
      obtain ⟨name, -, h⟩ := bind_eq_ok_iff.mp h
      cases h
      exact ⟨⟨proper_of_occurs ho, by rintro _ _ _ ⟨⟩, by rintro _ _ ⟨⟩⟩, False.elim⟩
  · split
    · rename_i compositor found
      refine .weaken (makes_groupParticle nested compositor e) fun p hp =>
        ⟨hp.1, fun all => Compositor.name_of_ofName? (hp.2 all ▸ found)⟩
    · exact .error _

theorem makes_globalGroupChild (nested : inner.Shapes P) (owner : Element)
    (parts : ComponentInfo × Option ModelGroup) (h : ∀ g, parts.2 = some g → g.IsShaped)
    (c : Element) :
    Makes P (globalGroupChild inner s owner parts c) fun parts =>
      ∀ g, parts.2 = some g → g.IsShaped := by
  refine .liftBind fun _ _ => ?_
  obtain ⟨info, group⟩ := parts
  dsimp only
  split
  · exact .pure h
  · split
    · refine .liftBind fun _ _ => .bind (makes_modelGroup nested _ c) fun g hg => .pure ?_
      rintro _ ⟨⟩
      exact hg.2
    · exact .error _

theorem upholds_globalGroup (nested : inner.Shapes P) (e : Element) :
    Upholds P (globalGroup inner s e) := by
  refine .bind (.lift _) fun _ => .bind (.lift _) fun name => ?_
  refine Makes.upholds_bind (.foldlM (makes_globalGroupChild nested e) _ ?_) fun parts hparts => ?_
  · rintro _ ⟨⟩
  · obtain ⟨info, group⟩ := parts
    dsimp only
    split
    · exact .lift _
    · rename_i g
      refine .bind (Assemble.upholds_enter fun _ => Receptive.group (hparts g rfl)) fun id => ?_
      exact Assemble.upholds_declare _ _

/-! ### Complex types -/

/-- The complex type is shaped. -/
abbrev HasShape (t : ComplexTypeDef) : Prop := (TypeDefinition.complex t).IsShaped

theorem upholds_simpleContentChild (nested : inner.Shapes P) (method : DerivationMethod)
    (parts : AttributeDecls × List FacetDecl) (c : Element) :
    Upholds P (simpleContentChild inner s method parts c) := by
  refine .bind (.lift _) fun _ => ?_
  obtain ⟨decls, facets⟩ := parts
  dsimp only
  split
  · exact .pure _
  · split
    · exact .bind (upholds_typeAttribute nested decls c) fun _ => .pure _
    · split
      · exact .lift _
      · split
        · exact .bind (.lift _) fun _ => .pure _
        · exact .lift _

theorem makes_simpleContent (nested : inner.Shapes P) (t : ComplexTypeDef) (e : Element) :
    Makes P (simpleContent inner s t e) HasShape := by
  refine .liftBind fun ⟨c, method⟩ _ => .liftBind fun b _ => ?_
  refine .upholdsBind (.foldlM (upholds_simpleContentChild nested method)) fun parts => .pure ?_
  rintro _ ⟨⟩

theorem makes_complexContentChild (nested : inner.Shapes P) (owner : Element)
    (parts : AttributeDecls × Option Particle) (h : ∀ p, parts.2 = some p → p.IsShaped)
    (c : Element) :
    Makes P (complexContentChild inner s owner parts c) fun parts =>
      ∀ p, parts.2 = some p → p.IsShaped := by
  refine .liftBind fun _ _ => ?_
  obtain ⟨decls, content⟩ := parts
  dsimp only
  split
  · exact .pure h
  · split
    · split
      · exact .error _
      · refine .bind (makes_particle nested c) fun p hp => .pure ?_
        rintro _ ⟨⟩
        exact hp.1
    · split
      · exact .upholdsBind (upholds_typeAttribute nested decls c) fun _ => .pure h
      · exact .error _

theorem makes_complexContent (nested : inner.Shapes P) (t : ComplexTypeDef) (e : Element) :
    Makes P (complexContent inner s t e) HasShape := by
  refine .liftBind fun mixed _ => .liftBind fun ⟨c, method⟩ _ => .liftBind fun b _ => ?_
  refine .bind (.foldlM (makes_complexContentChild nested c) _ ?_) fun parts hparts => .pure ?_
  · rintro _ ⟨⟩
  · exact fun p hp => hparts p hp

theorem makes_complexTypeChild (nested : inner.Shapes P) (owner : Element)
    (parts : ComplexTypeParts) (h : HasShape parts.definition) (c : Element) :
    Makes P (complexTypeChild inner s owner parts c) fun parts =>
      HasShape parts.definition := by
  refine .liftBind fun _ _ => ?_
  extract_lets t first
  have hfirst : ∀ derived read, Makes P read HasShape →
      Makes P (first derived read) fun parts => HasShape parts.definition := by
    intro derived read hread
    unfold first
    split
    · exact .error _
    · exact .bind hread fun t ht => .pure ht
  split
  · exact .pure h
  · split
    · exact hfirst _ _ (makes_simpleContent nested t c)
    · split
      · exact hfirst _ _ (makes_complexContent nested t c)
      · split
        · refine hfirst _ _ (.bind (makes_particle nested c) fun p hp => .pure ?_)
          rintro _ ⟨⟩
          exact hp.1
        · split
          · split
            · exact .error _
            · exact .upholdsBind (upholds_typeAttribute nested _ c) fun _ => .pure h
          · exact .error _

theorem upholds_complexType (nested : inner.Shapes P) (name : Option QName) (e : Element) :
    Upholds P (complexType inner s name e) := by
  refine .bind (.lift _) fun mixed => .bind (.lift _) fun isAbstract => ?_
  refine Makes.upholds_bind (.foldlM (makes_complexTypeChild nested e) _ ?_) fun parts shaped => ?_
  · rintro _ ⟨⟩
  · exact Assemble.upholds_enter fun _ => Receptive.type shaped

/-- By induction on the height: what is nested in an element is less high. -/
theorem shapes_nested (s : Setting) (height : Nat) : (nested s height).Shapes P := by
  induction height with
  | zero => exact ⟨fun _ => .lift _, fun _ => .lift _, fun _ => .error _⟩
  | succ height ih =>
    refine ⟨upholds_ownSimpleType ih, fun e => ?_, makes_particle ih⟩
    exact .bind (.lift _) fun _ => upholds_complexType ih none e

/-! ### Documents -/

variable {supply : Supply} {depth : Nat} {read : ReadIncluded}

theorem upholds_inclusion (hread : ∀ includer document, Upholds P (read includer document))
    (e : Element) : Upholds P (inclusion supply depth read s e) := by
  unfold inclusion
  split
  · exact .lift _
  · refine .bind .get fun a => ?_
    split
    · exact .pure _
    · extract_lets fetch
      have hfetch : Upholds P (fetch ()) := by
        unfold fetch
        split
        · exact Assemble.upholds_note _
        · split
          · exact Assemble.upholds_note _
          · exact .tryCatch (.discard (hread _ _)) Assemble.upholds_note
      split
      · exact .bind (.throw _) fun _ => hfetch
      · exact hfetch

theorem upholds_importation (e : Element) : Upholds P (importation s e) := by
  unfold importation
  extract_lets ns location
  split
  · exact .lift _
  · exact .modify fun _ h => Receptive.registry _ h

theorem upholds_topLevel (hread : ∀ includer document, Upholds P (read includer document))
    (nested : inner.Shapes P) (e : Element) :
    Upholds P (topLevel supply depth read inner s e) := by
  refine .bind (.lift _) fun _ => ?_
  split
  · exact .pure _
  · exact .pure _
  · exact upholds_inclusion hread e
  · exact upholds_importation e
  · exact .lift _
  · exact upholds_globalElement nested e
  · refine .bind (.lift _) fun name => ?_
    exact .bind (upholds_simpleType nested _ e) fun id => Assemble.upholds_declare _ _
  · refine .bind (.lift _) fun name => ?_
    exact .bind (upholds_complexType nested _ e) fun id => Assemble.upholds_declare _ _
  · exact upholds_globalAttribute nested e
  · exact upholds_globalAttributeGroup nested e
  · exact upholds_globalGroup nested e
  · exact .lift _

omit [Receptive P] in
theorem upholds_checkSize (limits : Limits) : Upholds P (checkSize limits) := by
  refine .bind .get fun a => ?_
  split
  · exact .throw _
  · exact .pure _

theorem upholds_readDocument
    (hread : ∀ includer document, Upholds P (read includer document))
    (includer : Option Includer) (document : Document) :
    Upholds P (readDocument supply depth read includer document) := by
  refine .bind (.lift _) fun root => .bind (.lift _) fun ⟨target, adopted⟩ => ?_
  refine .bind (.lift _) fun elementsQualified => .bind (.lift _) fun attributesQualified => ?_
  refine .bind (.modifyGet fun _ h => Receptive.registry _ h) fun id => ?_
  refine .bind (.forM fun e => ?_) fun _ => .pure _
  exact .bind (upholds_topLevel hread (shapes_nested _ _) e) fun _ => upholds_checkSize _

/-- By induction on the number of documents that may include each other. -/
theorem upholds_readIncluded (depth room : Nat) (includer : Includer) (document : Document) :
    Upholds P (readIncluded supply depth room includer document) := by
  induction room generalizing depth includer document with
  | zero => exact upholds_readDocument (fun _ _ => .throw _) _ _
  | succ room ih => exact upholds_readDocument (fun _ _ => ih _ _ _) _ _

theorem upholds_readAt (depth : Nat) (document : Document) :
    Upholds P (readAt supply depth document) :=
  upholds_readDocument (upholds_readIncluded _ _) _ _

theorem upholds_buildImported (ns : Namespace) (document : Document) :
    Upholds P (buildImported supply ns document) := by
  unfold buildImported
  extract_lets declared
  split
  · exact upholds_readAt 1 document
  · exact .throw _

/-- What has been entered since is shaped. -/
abbrev Since (base : Arena) (a : Assembly) : Prop := base.ShapedSince a.arena

instance (base : Arena) : Receptive (Since base) where
  note _ h := h
  registry _ h := h
  type shaped h := h.addType shaped
  element _ h := h.of_same rfl rfl
  attributeDecl _ h := h.of_same rfl rfl
  group shaped h := h.addGroup shaped
  attributeGroup _ h := h.of_same rfl rfl

/-- All types and groups that the reading of a document enters, in whatever it ends, are shaped. -/
theorem shapedSince_of_read (supply : Supply) (document : Document) (a : Assembly) :
    (∀ depth, a.arena.ShapedSince ((readAt supply depth document).run.run a).2.arena) ∧
      ∀ ns, a.arena.ShapedSince ((buildImported supply ns document).run.run a).2.arena :=
  ⟨fun depth => upholds_readAt (P := Since a.arena) depth document a (.refl _),
    fun ns => upholds_buildImported (P := Since a.arena) ns document a (.refl _)⟩

end Schema

/-! ## Imports -/

namespace Resolution

open Schema

variable {P : Assembly → Prop} [Receptive P]

theorem upholds_importNamespace (supply : Supply) (ns : Namespace) :
    Upholds P (importNamespace supply ns) := by
  unfold importNamespace
  split
  · exact .throw _
  · refine .bind .get fun a => ?_
    extract_lets request
    split
    · exact .throw _
    · exact .discard (upholds_buildImported ns _)

theorem keeps_tryImport (supply : Supply) (imports : Imports) (ns : Namespace) :
    Keeps P (tryImport supply imports ns) := by
  refine .bind .get fun a => ?_
  split
  · exact .pure imports
  · refine .bind (upholds_importNamespace supply ns) fun r => ?_
    split
    · exact .pure _
    · exact .bind (.modify fun _ h => Receptive.note _ h) fun _ => .pure _

end Resolution

end Xsd
