import Xsd.Proofs.Schema.Broken

/-!
# The cells of an arena

All that resolution writes to are the states of components and the targets of their references. An
arena is given by these cells and by its skeleton, which is all the rest.
-/

namespace Xsd

/-! ## Parts that are alike up to their bindings, and mention the same, are the same -/

section Alike

variable {b : Binder}

theorem Mention.eq_of_bindWith {ms ns : List Mention}
    (alike : ms.map (·.bindWith b) = ns.map (·.bindWith b))
    (names : Mention.references ms = Mention.references ns) : ms = ns := by
  induction ms generalizing ns with
  | nil => exact (List.map_eq_nil_iff.mp alike.symm).symm
  | cons m ms ih =>
    cases ns with
    | nil => cases alike
    | cons n ns =>
      obtain ⟨head, tail⟩ := List.cons.inj alike
      cases m with
      | own id =>
        cases n with
        | own id' =>
          cases head
          rw [ih tail names]
        | named r => cases head
      | named r =>
        cases n with
        | own id => cases head
        | named r' =>
          have both : r :: Mention.references ms = r' :: Mention.references ns := names
          obtain ⟨rfl, rest⟩ := List.cons.inj both
          rw [ih tail rest]

/-- Two parts one after the other, of which the first are alike. -/
theorem Mention.split {ms ms' ns ns' : List Mention}
    (alike : ms.map (·.bindWith b) = ms'.map (·.bindWith b)) (same : ms ++ ns = ms' ++ ns') :
    ms = ms' ∧ ns = ns' :=
  List.append_inj same (by simpa using congrArg List.length alike)

theorem eq_of_map_eq {α β γ : Type} {f : α → β} {g : α → γ} {xs ys : List α}
    (ext : ∀ {x y}, f x = f y → g x = g y → x = y) (hf : xs.map f = ys.map f)
    (hg : xs.map g = ys.map g) : xs = ys := by
  induction xs generalizing ys with
  | nil => exact (List.map_eq_nil_iff.mp hf.symm).symm
  | cons x xs ih =>
    cases ys with
    | nil => cases hf
    | cons y ys =>
      obtain ⟨head, tail⟩ := List.cons.inj hf
      obtain ⟨head', tail'⟩ := List.cons.inj hg
      rw [ext head head', ih tail tail']

theorem TypeUse.eq_of_mention {u v : TypeUse} (same : u.mention = v.mention) : u = v := by
  cases u <;> cases v <;> cases same <;> rfl

mutual

theorem Particle.eq_of_bindWith {p q : Particle} (alike : p.bindWith b = q.bindWith b)
    (same : p.mentions = q.mentions) : p = q := by
  cases p with
  | element o use =>
    cases q with
    | element o' use' =>
      cases use <;> cases use' <;> cases same <;>
        (obtain ⟨rfl, -⟩ := Particle.element.inj alike; rfl)
    | wildcard o' w => cases use <;> cases alike
    | group o' c ps => cases use <;> cases alike
    | groupUse o' r => cases use <;> cases alike
  | wildcard o w =>
    cases q with
    | element o' use => cases use <;> cases alike
    | wildcard o' w' =>
      cases alike
      rfl
    | group o' c ps => cases alike
    | groupUse o' r => cases alike
  | group o c ps =>
    cases q with
    | element o' use => cases use <;> cases alike
    | wildcard o' w => cases alike
    | group o' c' ps' =>
      have alike : Particle.group o c (Particle.bindAllWith b ps) =
        .group o' c' (Particle.bindAllWith b ps') := alike
      obtain ⟨rfl, rfl, members⟩ := Particle.group.inj alike
      rw [Particle.all_eq_of_bindWith members same]
    | groupUse o' r => cases alike
  | groupUse o r =>
    cases q with
    | element o' use => cases use <;> cases alike
    | wildcard o' w => cases alike
    | group o' c ps => cases alike
    | groupUse o' r' =>
      cases same
      obtain ⟨rfl, -⟩ := Particle.groupUse.inj alike
      rfl

theorem Particle.all_eq_of_bindWith {ps qs : List Particle}
    (alike : Particle.bindAllWith b ps = Particle.bindAllWith b qs)
    (same : Particle.allMentions ps = Particle.allMentions qs) : ps = qs := by
  cases ps with
  | nil =>
    cases qs with
    | nil => rfl
    | cons q qs => cases alike
  | cons p ps =>
    cases qs with
    | nil => cases alike
    | cons q qs =>
      obtain ⟨head, tail⟩ := List.cons.inj alike
      obtain ⟨first, rest⟩ := Mention.split (by
        rw [← Particle.mentions_bindWith, ← Particle.mentions_bindWith, head]) same
      rw [Particle.eq_of_bindWith head first, Particle.all_eq_of_bindWith tail rest]

end

theorem AttributeUseDecl.eq_of_bindWith {u v : AttributeUseDecl}
    (alike : u.bindWith b = v.bindWith b) (same : u.source.mention = v.source.mention) : u = v := by
  obtain ⟨source, use, constraint⟩ := u
  obtain ⟨source', use', constraint'⟩ := v
  cases source <;> cases source' <;> cases same <;> cases alike <;> rfl

theorem AttributeDecls.eq_of_bindWith {d e : AttributeDecls} (alike : d.bindWith b = e.bindWith b)
    (same : d.mentions = e.mentions) : d = e := by
  obtain ⟨uses, groups, wildcard⟩ := d
  obtain ⟨uses', groups', wildcard'⟩ := e
  obtain ⟨hu, hg, hw⟩ := AttributeDecls.mk.inj alike
  have hw : wildcard = wildcard' := hw
  subst hw
  obtain ⟨first, rest⟩ := List.append_inj same (by simpa using congrArg List.length hu)
  have sameUses : uses = uses' := eq_of_map_eq AttributeUseDecl.eq_of_bindWith hu first
  have sameGroups : groups = groups' := eq_of_map_eq (fun h _ => by cases h; rfl) rest rest
  rw [sameUses, sameGroups]

theorem SimpleVariety.eq_of_bindWith {v w : SimpleVariety} (alike : v.bindWith b = w.bindWith b)
    (same : v.mentions = w.mentions) : v = w := by
  cases v with
  | restriction base facets =>
    cases w with
    | restriction base' facets' =>
      obtain ⟨-, rfl⟩ := SimpleVariety.restriction.inj alike
      rw [TypeUse.eq_of_mention (List.cons.inj same).1]
    | list item => cases alike
    | union members => cases alike
  | list item =>
    cases w with
    | restriction base facets => cases alike
    | list item' => rw [TypeUse.eq_of_mention (List.cons.inj same).1]
    | union members => cases alike
  | union members =>
    cases w with
    | restriction base facets => cases alike
    | list item => cases alike
    | union members' =>
      rw [eq_of_map_eq (fun h _ => TypeUse.eq_of_mention h) same same]

theorem ContentDecl.eq_of_bindWith {c d : ContentDecl}
    (alike : (match c with
      | .particle p => ContentDecl.particle (p.map (Particle.bindWith b))
      | .simple facets => .simple facets) =
        match d with
        | .particle p => .particle (p.map (Particle.bindWith b))
        | .simple facets => .simple facets)
    (same : c.mentions = d.mentions) : c = d := by
  cases c with
  | simple facets =>
    cases d with
    | simple facets' =>
      cases alike
      rfl
    | particle p => cases alike
  | particle p =>
    cases d with
    | simple facets => cases alike
    | particle q =>
      have alike := ContentDecl.particle.inj alike
      cases p with
      | none =>
        cases q with
        | none => rfl
        | some q => cases alike
      | some p =>
        cases q with
        | none => cases alike
        | some q =>
          have same : p.mentions ++ [] = q.mentions ++ [] := same
          rw [List.append_nil, List.append_nil] at same
          rw [Particle.eq_of_bindWith (Option.some.inj alike) same]

theorem TypeUse.eq_of_mentions {u v : Option TypeUse}
    (same : u.toList.map (·.mention) = v.toList.map (·.mention)) : u = v := by
  cases u <;> cases v <;> first | rfl | cases same | skip
  rw [TypeUse.eq_of_mention (List.cons.inj same).1]

theorem ComplexTypeDef.eq_of_bindWith {t u : ComplexTypeDef} (alike : t.bindWith b = u.bindWith b)
    (same : t.mentions = u.mentions) : t = u := by
  obtain ⟨info, base, derivation, content, mixed, isAbstract, attributes⟩ := t
  obtain ⟨info', base', derivation', content', mixed', isAbstract', attributes'⟩ := u
  obtain ⟨hi, hb, hd, hc, hm, hs, ha⟩ := ComplexTypeDef.mk.inj alike
  obtain ⟨front, last⟩ := List.append_inj' same (by
    have := congrArg (·.mentions.length) ha
    simpa [AttributeDecls.mentions_bindWith] using this)
  obtain ⟨first, middle⟩ := List.append_inj front (by
    have := congrArg (·.toList.length) hb
    cases base <;> cases base' <;> first | rfl | cases hb)
  have sameBase : base = base' := TypeUse.eq_of_mentions first
  have sameContent : content = content' := ContentDecl.eq_of_bindWith hc middle
  have sameAttributes : attributes = attributes' := AttributeDecls.eq_of_bindWith ha last
  cases hi
  cases hd
  cases hm
  cases hs
  rw [sameBase, sameContent, sameAttributes]

theorem ElementDecl.eq_of_bindWith {d e : ElementDecl} (alike : d.bindWith b = e.bindWith b)
    (same : d.mentions = e.mentions) : d = e := by
  obtain ⟨info, type, head, constraint, nillable, isAbstract⟩ := d
  obtain ⟨info', type', head', constraint', nillable', isAbstract'⟩ := e
  obtain ⟨hi, ht, hh, hc, hn, hs⟩ := ElementDecl.mk.inj alike
  obtain ⟨first, last⟩ := List.append_inj same (by
    cases type <;> cases type' <;> first | rfl | cases ht)
  have sameType : type = type' := TypeUse.eq_of_mentions first
  have sameHead : head = head' := by
    cases head <;> cases head' <;> first | rfl | cases last
    rfl
  cases hi
  cases hc
  cases hn
  cases hs
  rw [sameType, sameHead]

end Alike

/-! ## Skeletons -/

/-- Forget what references are bound to. -/
def Binder.forget : Binder where
  typeRef r := .unbound r.name
  elementRef r := .unbound r.name
  attributeRef r := .unbound r.name
  groupRef r := .unbound r.name
  attributeGroupRef r := .unbound r.name

/-- References are bound under the names that they have. -/
structure Binder.KeepsNames (b : Binder) : Prop where
  typeRef : ∀ r, (b.typeRef r).name = r.name
  elementRef : ∀ r, (b.elementRef r).name = r.name
  attributeRef : ∀ r, (b.attributeRef r).name = r.name
  groupRef : ∀ r, (b.groupRef r).name = r.name
  attributeGroupRef : ∀ r, (b.attributeGroupRef r).name = r.name

/-- All of a component but its state. -/
def ComponentInfo.skeleton (info : ComponentInfo) : ComponentInfo :=
  { info with state := .unresolved }

def TypeDefinition.skeleton (t : TypeDefinition) : TypeDefinition :=
  (t.bindWith .forget).setState .unresolved

def ElementDecl.skeleton (e : ElementDecl) : ElementDecl :=
  { e.bindWith .forget with info := e.info.skeleton }

def AttributeDecl.skeleton (d : AttributeDecl) : AttributeDecl :=
  { d.bindWith .forget with info := d.info.skeleton }

def GroupDef.skeleton (g : GroupDef) : GroupDef := ⟨g.info.skeleton, g.group.bindWith .forget⟩

def AttributeGroupDef.skeleton (g : AttributeGroupDef) : AttributeGroupDef :=
  ⟨g.info.skeleton, g.attributes.bindWith .forget⟩

/-- All of an arena but its cells: no component is resolved, and no reference bound. -/
def Arena.skeleton (a : Arena) : Arena where
  types := a.types.map (·.skeleton)
  elements := a.elements.map (·.skeleton)
  attributes := a.attributes.map (·.skeleton)
  groups := a.groups.map (·.skeleton)
  attributeGroups := a.attributeGroups.map (·.skeleton)

/-! ### The skeleton and the cells give the component -/

theorem ComponentInfo.eq_of_skeleton {i j : ComponentInfo} (alike : i.skeleton = j.skeleton)
    (state : i.state = j.state) : i = j := by
  obtain ⟨name, isGlobal, document, state, annotation⟩ := i
  obtain ⟨name', isGlobal', document', state', annotation'⟩ := j
  cases alike
  cases state
  rfl

theorem TypeDefinition.eq_of_skeleton {t u : TypeDefinition} (alike : t.skeleton = u.skeleton)
    (state : t.info.state = u.info.state) (same : t.mentions = u.mentions) : t = u := by
  cases t with
  | simple t =>
    cases u with
    | complex u => cases alike
    | simple u =>
      obtain ⟨info, variety, builtin⟩ := t
      obtain ⟨info', variety', builtin'⟩ := u
      obtain ⟨hi, hv, hb⟩ := SimpleTypeDef.mk.inj (TypeDefinition.simple.inj alike)
      cases hb
      have sameInfo : info = info' := ComponentInfo.eq_of_skeleton hi state
      have sameVariety : variety = variety' := SimpleVariety.eq_of_bindWith hv same
      rw [sameInfo, sameVariety]
  | complex t =>
    cases u with
    | simple u => cases alike
    | complex u =>
      obtain ⟨info, base, derivation, content, mixed, isAbstract, attributes⟩ := t
      obtain ⟨info', base', derivation', content', mixed', isAbstract', attributes'⟩ := u
      obtain ⟨hi, hb, hd, hc, hm, hs, ha⟩ :=
        ComplexTypeDef.mk.inj (TypeDefinition.complex.inj alike)
      have sameInfo : info = info' := ComponentInfo.eq_of_skeleton hi state
      cases sameInfo
      refine congrArg TypeDefinition.complex (ComplexTypeDef.eq_of_bindWith (b := .forget) ?_ same)
      exact ComplexTypeDef.mk.injEq .. ▸ ⟨rfl, hb, hd, hc, hm, hs, ha⟩

theorem ElementDecl.eq_of_skeleton {d e : ElementDecl} (alike : d.skeleton = e.skeleton)
    (state : d.info.state = e.info.state) (same : d.mentions = e.mentions) : d = e := by
  obtain ⟨info, type, head, constraint, nillable, isAbstract⟩ := d
  obtain ⟨info', type', head', constraint', nillable', isAbstract'⟩ := e
  obtain ⟨hi, ht, hh, hc, hn, hs⟩ := ElementDecl.mk.inj alike
  cases (ComponentInfo.eq_of_skeleton hi state : info = info')
  refine ElementDecl.eq_of_bindWith (b := .forget) ?_ same
  exact ElementDecl.mk.injEq .. ▸ ⟨rfl, ht, hh, hc, hn, hs⟩

theorem AttributeDecl.eq_of_skeleton {d e : AttributeDecl} (alike : d.skeleton = e.skeleton)
    (state : d.info.state = e.info.state) (same : d.mentions = e.mentions) : d = e := by
  obtain ⟨info, type, constraint⟩ := d
  obtain ⟨info', type', constraint'⟩ := e
  obtain ⟨hi, -, hc⟩ := AttributeDecl.mk.inj alike
  cases hc
  have sameInfo : info = info' := ComponentInfo.eq_of_skeleton hi state
  have sameType : type = type' := TypeUse.eq_of_mentions same
  rw [sameInfo, sameType]

theorem GroupDef.eq_of_skeleton {g h : GroupDef} (alike : g.skeleton = h.skeleton)
    (state : g.info.state = h.info.state) (same : g.group.mentions = h.group.mentions) : g = h := by
  obtain ⟨info, compositor, particles⟩ := g
  obtain ⟨info', compositor', particles'⟩ := h
  obtain ⟨hi, hg⟩ := GroupDef.mk.inj alike
  obtain ⟨hc, hp⟩ := ModelGroup.mk.inj hg
  cases hc
  have sameInfo : info = info' := ComponentInfo.eq_of_skeleton hi state
  have sameParticles : particles = particles' := Particle.all_eq_of_bindWith hp same
  rw [sameInfo, sameParticles]

theorem AttributeGroupDef.eq_of_skeleton {g h : AttributeGroupDef} (alike : g.skeleton = h.skeleton)
    (state : g.info.state = h.info.state) (same : g.attributes.mentions = h.attributes.mentions) :
    g = h := by
  obtain ⟨info, attributes⟩ := g
  obtain ⟨info', attributes'⟩ := h
  obtain ⟨hi, ha⟩ := AttributeGroupDef.mk.inj alike
  have sameInfo : info = info' := ComponentInfo.eq_of_skeleton hi state
  have sameAttributes : attributes = attributes' := AttributeDecls.eq_of_bindWith ha same
  rw [sameInfo, sameAttributes]

/-! ### What resolution does leaves the skeleton -/

theorem map_modify {α : Type} (xs : Array α) {f g : α → α} (i : Nat) (same : ∀ x, g (f x) = g x) :
    (xs.modify i f).map g = xs.map g := by
  refine Array.ext_getElem? fun j => ?_
  rw [Array.getElem?_map, Array.getElem?_map, Array.getElem?_modify]
  split
  · rw [Option.map_map]
    exact congrArg (Option.map · _) (funext same)
  · rfl

section Forget

variable {b : Binder}

mutual

theorem Particle.forget_bindWith (keeps : b.KeepsNames) (p : Particle) :
    (p.bindWith b).bindWith .forget = p.bindWith .forget := by
  cases p with
  | element o use =>
    cases use with
    | named r =>
      exact congrArg (fun name => Particle.element o (.named (.unbound name))) (keeps.elementRef r)
    | own id => rfl
  | wildcard o w => rfl
  | group o c ps => exact congrArg (Particle.group o c) (Particle.forget_bindAllWith keeps ps)
  | groupUse o r =>
    exact congrArg (fun name => Particle.groupUse o (.unbound name)) (keeps.groupRef r)

theorem Particle.forget_bindAllWith (keeps : b.KeepsNames) (ps : List Particle) :
    Particle.bindAllWith .forget (Particle.bindAllWith b ps) = Particle.bindAllWith .forget ps := by
  cases ps with
  | nil => rfl
  | cons p ps =>
    exact congrArg₂ List.cons (Particle.forget_bindWith keeps p) (Particle.forget_bindAllWith keeps ps)

end

variable (keeps : b.KeepsNames)

include keeps

theorem TypeUse.forget_bindWith (u : TypeUse) :
    (u.bindWith b).bindWith .forget = u.bindWith .forget := by
  cases u with
  | named r => exact congrArg (TypeUse.named <| .unbound ·) (keeps.typeRef r)
  | own id => rfl

theorem AttributeUseDecl.forget_bindWith (u : AttributeUseDecl) :
    (u.bindWith b).bindWith .forget = u.bindWith .forget := by
  obtain ⟨source, use, constraint⟩ := u
  cases source with
  | own id => rfl
  | named r =>
    exact congrArg (fun name => AttributeUseDecl.mk (.named (.unbound name)) use constraint)
      (keeps.attributeRef r)

theorem AttributeDecls.forget_bindWith (d : AttributeDecls) :
    (d.bindWith b).bindWith .forget = d.bindWith .forget := by
  obtain ⟨uses, groups, wildcard⟩ := d
  simp only [bindWith, List.map_map]
  congr 1
  · exact List.map_congr_left fun u _ => u.forget_bindWith keeps
  · exact List.map_congr_left fun r _ => congrArg (Reference.unbound ·) (keeps.attributeGroupRef r)

theorem SimpleVariety.forget_bindWith (v : SimpleVariety) :
    (v.bindWith b).bindWith .forget = v.bindWith .forget := by
  cases v with
  | restriction base facets =>
    exact congrArg (SimpleVariety.restriction · facets) (base.forget_bindWith keeps)
  | list item => exact congrArg SimpleVariety.list (item.forget_bindWith keeps)
  | union members =>
    refine congrArg SimpleVariety.union ?_
    rw [List.map_map]
    exact List.map_congr_left fun u _ => u.forget_bindWith keeps

theorem ComplexTypeDef.forget_bindWith (t : ComplexTypeDef) :
    (t.bindWith b).bindWith .forget = t.bindWith .forget := by
  obtain ⟨info, base, derivation, content, mixed, isAbstract, attributes⟩ := t
  simp only [bindWith, attributes.forget_bindWith keeps]
  congr 1
  · cases base with
    | none => rfl
    | some u => exact congrArg some (u.forget_bindWith keeps)
  · cases content with
    | simple facets => rfl
    | particle p =>
      cases p with
      | none => rfl
      | some p => exact congrArg (fun p => ContentDecl.particle (some p)) (Particle.forget_bindWith keeps p)

theorem TypeDefinition.skeleton_bindWith (t : TypeDefinition) :
    (t.bindWith b).skeleton = t.skeleton := by
  cases t with
  | simple t =>
    obtain ⟨info, variety, builtin⟩ := t
    exact congrArg (fun v => TypeDefinition.simple ⟨info.skeleton, v, builtin⟩)
      (variety.forget_bindWith keeps)
  | complex t =>
    exact congrArg (fun u => (TypeDefinition.complex u).setState .unresolved)
      (t.forget_bindWith keeps)

theorem ElementDecl.skeleton_bindWith (e : ElementDecl) :
    (e.bindWith b).skeleton = e.skeleton := by
  obtain ⟨info, type, head, constraint, nillable, isAbstract⟩ := e
  simp only [skeleton, bindWith, Option.map_map]
  congr 1
  · cases type with
    | none => rfl
    | some u => exact congrArg some (u.forget_bindWith keeps)
  · cases head with
    | none => rfl
    | some r => exact congrArg (some <| Reference.unbound ·) (keeps.elementRef r)

theorem AttributeDecl.skeleton_bindWith (d : AttributeDecl) :
    (d.bindWith b).skeleton = d.skeleton := by
  obtain ⟨info, type, constraint⟩ := d
  cases type with
  | none => rfl
  | some u =>
    exact congrArg (fun u => AttributeDecl.mk info.skeleton (some u) constraint)
      (u.forget_bindWith keeps)

theorem GroupDef.skeleton_bindWith (g : GroupDef) :
    ({ g with group := g.group.bindWith b } : GroupDef).skeleton = g.skeleton :=
  congrArg (fun ps => GroupDef.mk g.info.skeleton ⟨g.group.compositor, ps⟩)
    (Particle.forget_bindAllWith keeps g.group.particles)

theorem AttributeGroupDef.skeleton_bindWith (g : AttributeGroupDef) :
    ({ g with attributes := g.attributes.bindWith b } : AttributeGroupDef).skeleton = g.skeleton :=
  congrArg (AttributeGroupDef.mk g.info.skeleton) (g.attributes.forget_bindWith keeps)

theorem Arena.skeleton_bindWith (a : Arena) (id : ComponentId) :
    (a.bindWith b id).skeleton = a.skeleton := by
  cases id <;> simp only [bindWith, skeleton] <;> rw [map_modify]
  case type => exact fun t => t.skeleton_bindWith keeps
  case element => exact fun e => e.skeleton_bindWith keeps
  case «attribute» => exact fun d => d.skeleton_bindWith keeps
  case group => exact fun g => g.skeleton_bindWith keeps
  case attributeGroup => exact fun g => g.skeleton_bindWith keeps

end Forget

theorem Arena.skeleton_setState (a : Arena) (state : ResolutionState) (id : ComponentId) :
    (a.setState state id).skeleton = a.skeleton := by
  cases id <;> simp only [setState, skeleton] <;> rw [map_modify]
  case type =>
    intro t
    cases t <;> rfl
  all_goals exact fun _ => rfl

/-! ## Cells -/

/-- The states of components and their references, in document order. -/
@[ext] structure Cells where
  state : ComponentId → Option ResolutionState
  references : ComponentId → List AnyReference

namespace Arena

variable {a b : Arena}

def cells (a : Arena) : Cells := ⟨fun id => (a.info? id).map (·.state), a.references⟩

theorem info?_skeleton (a : Arena) (id : ComponentId) :
    a.skeleton.info? id = (a.info? id).map (·.skeleton) := by
  have kept : ∀ {α : Type} (xs : Array α) {f : α → α} {info : α → ComponentInfo} (i : Nat),
      (∀ x, info (f x) = (info x).skeleton) →
        ((xs.map f)[i]?).map info = ((xs[i]?).map info).map (·.skeleton) := by
    intro α xs f info i same
    rw [Array.getElem?_map, Option.map_map, Option.map_map]
    exact congrArg (Option.map · _) (funext same)
  cases id with
  | type id => exact kept a.types id.index fun t => by cases t <;> rfl
  | element id => exact kept a.elements id.index fun e => rfl
  | «attribute» id => exact kept a.attributes id.index fun d => rfl
  | group id => exact kept a.groups id.index fun g => rfl
  | attributeGroup id => exact kept a.attributeGroups id.index fun g => rfl

theorem mentions_skeleton (a : Arena) (id : ComponentId) :
    a.skeleton.mentions id = (a.mentions id).map (·.bindWith .forget) := by
  have kept : ∀ {α : Type} (xs : Array α) {f : α → α} {mentions : α → List Mention} (i : Nat),
      (∀ x, mentions (f x) = (mentions x).map (·.bindWith .forget)) →
        (((xs.map f)[i]?).map mentions).getD [] =
          (((xs[i]?).map mentions).getD []).map (·.bindWith .forget) := by
    intro α xs f mentions i same
    rw [Array.getElem?_map, Option.map_map]
    cases xs[i]? with
    | none => rfl
    | some x => exact same x
  cases id with
  | type id =>
    refine kept a.types id.index fun t => ?_
    rw [← t.mentions_bindWith .forget]
    cases t <;> rfl
  | element id => exact kept a.elements id.index fun e => e.mentions_bindWith .forget
  | «attribute» id => exact kept a.attributes id.index fun d => d.mentions_bindWith .forget
  | group id =>
    exact kept a.groups id.index fun g => Particle.allMentions_bindAllWith .forget g.group.particles
  | attributeGroup id =>
    exact kept a.attributeGroups id.index fun g => g.attributes.mentions_bindWith .forget

theorem mentions_eq_of_cells (alike : a.skeleton = b.skeleton) (same : a.cells = b.cells)
    (id : ComponentId) : a.mentions id = b.mentions id := by
  refine Mention.eq_of_bindWith (b := .forget) ?_ ?_
  · rw [← mentions_skeleton, ← mentions_skeleton, alike]
  · rw [← references_eq, ← references_eq]
    exact congrFun (congrArg Cells.references same) id

/-- The skeleton and the cells give the arena. -/
theorem eq_of_cells (alike : a.skeleton = b.skeleton) (same : a.cells = b.cells) : a = b := by
  have mentions := mentions_eq_of_cells alike same
  have states : ∀ id, (a.info? id).map (·.state) = (b.info? id).map (·.state) :=
    congrFun (congrArg Cells.state same)
  have ext : ∀ {α : Type} {xs ys : Array α} {skeleton : α → α} {info : α → ComponentInfo}
      {mentions : α → List Mention},
      (∀ {x y}, skeleton x = skeleton y → (info x).state = (info y).state →
        mentions x = mentions y → x = y) →
      xs.map skeleton = ys.map skeleton →
      (∀ i : Nat, ((xs[i]?).map info).map (·.state) = ((ys[i]?).map info).map (·.state)) →
      (∀ i : Nat, ((xs[i]?).map mentions).getD [] = ((ys[i]?).map mentions).getD []) →
      xs = ys := by
    intro α xs ys skeleton info mentions ext alike states same
    refine Array.ext_getElem? fun i => ?_
    have alike := congrArg (·[i]?) alike
    have states := states i
    have same := same i
    simp only [Array.getElem?_map] at alike
    cases hx : xs[i]? with
    | none =>
      rw [hx] at alike
      cases hy : ys[i]? with
      | none => rfl
      | some y =>
        rw [hy] at alike
        cases alike
    | some x =>
      cases hy : ys[i]? with
      | none =>
        rw [hx, hy] at alike
        cases alike
      | some y =>
        rw [hx, hy] at alike states same
        rw [ext (Option.some.inj alike) (Option.some.inj states) same]
  have types : a.types = b.types :=
    ext TypeDefinition.eq_of_skeleton (congrArg Arena.types alike)
      (fun i => states (.type ⟨i⟩)) fun i => mentions (.type ⟨i⟩)
  have elements : a.elements = b.elements :=
    ext ElementDecl.eq_of_skeleton (congrArg Arena.elements alike)
      (fun i => states (.element ⟨i⟩)) fun i => mentions (.element ⟨i⟩)
  have attributes : a.attributes = b.attributes :=
    ext AttributeDecl.eq_of_skeleton (congrArg Arena.attributes alike)
      (fun i => states (.attribute ⟨i⟩)) fun i => mentions (.attribute ⟨i⟩)
  have groups : a.groups = b.groups :=
    ext GroupDef.eq_of_skeleton (congrArg Arena.groups alike)
      (fun i => states (.group ⟨i⟩)) fun i => mentions (.group ⟨i⟩)
  have attributeGroups : a.attributeGroups = b.attributeGroups :=
    ext AttributeGroupDef.eq_of_skeleton (congrArg Arena.attributeGroups alike)
      (fun i => states (.attributeGroup ⟨i⟩)) fun i => mentions (.attributeGroup ⟨i⟩)
  obtain ⟨⟩ := a
  obtain ⟨⟩ := b
  cases types
  cases elements
  cases attributes
  cases groups
  cases attributeGroups
  rfl

/-- The document in which a component is declared. -/
def documentOf (a : Arena) (id : ComponentId) : DocumentId :=
  ((a.info? id).map (·.document)).getD Registry.builtinDocument

theorem documentOf_eq (alike : a.skeleton = b.skeleton) (id : ComponentId) :
    a.documentOf id = b.documentOf id := by
  have same := congrArg (fun c => ((c.info? id).map (·.document)).getD Registry.builtinDocument) alike
  simp only [info?_skeleton, Option.map_map] at same
  exact same

end Arena

/-! ## Changes of the cells -/

/-- The cells with those of one component replaced. -/
def Cells.put (c : Cells) (id : ComponentId) (state : Option ResolutionState)
    (references : List AnyReference) : Cells :=
  ⟨Function.update c.state id state, Function.update c.references id references⟩

namespace Cells

variable (c : Cells) (id : ComponentId) (state : Option ResolutionState)
  (references : List AnyReference)

@[simp] theorem state_put_self : (c.put id state references).state id = state :=
  Function.update_self ..

@[simp] theorem references_put_self : (c.put id state references).references id = references :=
  Function.update_self ..

theorem state_put_of_ne {other : ComponentId} (ne : other ≠ id) :
    (c.put id state references).state other = c.state other :=
  Function.update_of_ne ne ..

theorem references_put_of_ne {other : ComponentId} (ne : other ≠ id) :
    (c.put id state references).references other = c.references other :=
  Function.update_of_ne ne ..

theorem put_comm {other : ComponentId} (ne : other ≠ id) (state' : Option ResolutionState)
    (references' : List AnyReference) :
    (c.put id state references).put other state' references' =
      (c.put other state' references').put id state references :=
  Cells.ext (Function.update_comm ne.symm ..) (Function.update_comm ne.symm ..)

end Cells

theorem Arena.cells_bindWith_setState (a : Arena) (b : Binder) (state : ResolutionState)
    (id : ComponentId) {info : ComponentInfo} (hi : a.info? id = some info) :
    ((a.bindWith b id).setState state id).cells =
      a.cells.put id (some state) ((a.references id).map (·.bindWith b)) := by
  ext1 <;> funext other
  · change ((Arena.info? _ other).map (·.state)) = _
    rw [info?_setState, info?_bindWith, info?_bindWith]
    by_cases same : other = id
    · subst same
      rw [if_pos rfl, hi, Cells.state_put_self]
      rfl
    · rw [if_neg same, Cells.state_put_of_ne _ _ _ _ same]
      rfl
  · change Arena.references _ other = _
    rw [references_setState, references_bindWith]
    by_cases same : other = id
    · subst same
      rw [if_pos rfl, Cells.references_put_self]
    · rw [if_neg same, Cells.references_put_of_ne _ _ _ _ same]
      rfl

end Xsd
