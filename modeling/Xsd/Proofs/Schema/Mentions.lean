import Mathlib
import Xsd.Arena

/-!
# What components mention

A component mentions others: those that are defined in its place, by their numbers, and those that
are defined elsewhere, by their names. Binding touches the names only.
-/

namespace Xsd

/-- Another component as a component speaks of it. -/
inductive Mention where
  | own (id : ComponentId)
  | named (reference : AnyReference)

def AnyReference.bindWith (b : Binder) : AnyReference → AnyReference
  | .type r => .type (b.typeRef r)
  | .element r => .element (b.elementRef r)
  | .attribute r => .attribute (b.attributeRef r)
  | .group r => .group (b.groupRef r)
  | .attributeGroup r => .attributeGroup (b.attributeGroupRef r)

namespace Mention

def target : Mention → Option ComponentId
  | .own id => some id
  | .named r => r.target

def reference? : Mention → Option AnyReference
  | .own _ => none
  | .named r => some r

def bindWith (b : Binder) : Mention → Mention
  | .own id => .own id
  | .named r => .named (r.bindWith b)

end Mention

/-! ## Parts of components -/

def TypeUse.mention : TypeUse → Mention
  | .own id => .own (.type id)
  | .named r => .named (.type r)

def ElementUse.mention : ElementUse → Mention
  | .own id => .own (.element id)
  | .named r => .named (.element r)

def AttributeSource.mention : AttributeSource → Mention
  | .own id => .own (.attribute id)
  | .named r => .named (.attribute r)

namespace Particle

mutual

def mentions : Particle → List Mention
  | .element _ use => [use.mention]
  | .wildcard _ _ => []
  | .group _ _ particles => allMentions particles
  | .groupUse _ r => [.named (.group r)]

def allMentions : List Particle → List Mention
  | [] => []
  | p :: ps => p.mentions ++ allMentions ps

end

theorem allMentions_append (ps qs : List Particle) :
    allMentions (ps ++ qs) = allMentions ps ++ allMentions qs := by
  induction ps with
  | nil => rfl
  | cons p ps ih => rw [List.cons_append, allMentions, allMentions, ih, List.append_assoc]

end Particle

def AttributeDecls.mentions (a : AttributeDecls) : List Mention :=
  a.uses.map (·.source.mention) ++ a.groups.map fun r => .named (.attributeGroup r)

def SimpleVariety.mentions : SimpleVariety → List Mention
  | .restriction base _ => [base.mention]
  | .list item => [item.mention]
  | .union members => members.map (·.mention)

def ContentDecl.mentions : ContentDecl → List Mention
  | .particle p => p.toList.flatMap (·.mentions)
  | .simple _ => []

def ComplexTypeDef.mentions (t : ComplexTypeDef) : List Mention :=
  t.base.toList.map (·.mention) ++ t.content.mentions ++ t.attributes.mentions

def TypeDefinition.mentions : TypeDefinition → List Mention
  | .simple t => t.variety.mentions
  | .complex t => t.mentions

def ElementDecl.mentions (e : ElementDecl) : List Mention :=
  e.type.toList.map (·.mention) ++ e.head.toList.map fun r => .named (.element r)

def AttributeDecl.mentions (d : AttributeDecl) : List Mention := d.type.toList.map (·.mention)

def ModelGroup.mentions (g : ModelGroup) : List Mention := Particle.allMentions g.particles

/-! ## Targets -/

theorem TypeUse.target_mention (u : TypeUse) : u.mention.target = u.target.map .type := by
  cases u <;> rfl

theorem ElementUse.target_mention (u : ElementUse) : u.mention.target = u.target.map .element := by
  cases u <;> rfl

theorem AttributeSource.target_mention (s : AttributeSource) :
    s.mention.target = s.target.map .attribute := by
  cases s <;> rfl

/-! ## References -/

namespace Mention

/-- The names among what is mentioned. -/
def references (ms : List Mention) : List AnyReference := ms.filterMap (·.reference?)

theorem references_append (ms ns : List Mention) :
    references (ms ++ ns) = references ms ++ references ns :=
  List.filterMap_append

/-- What is defined in place has a target, and so have the names if all of them are bound. -/
theorem isSome_target {ms : List Mention} (h : ∀ r ∈ references ms, r.isBound) {m : Mention}
    (hm : m ∈ ms) : m.target.isSome := by
  cases m with
  | own id => rfl
  | named r => exact h r (List.mem_filterMap.mpr ⟨_, hm, rfl⟩)

theorem isBound_of_isSome_target {ms : List Mention} (h : ∀ m ∈ ms, m.target.isSome)
    {r : AnyReference} (hr : r ∈ references ms) : r.isBound := by
  obtain ⟨m, hm, same⟩ := List.mem_filterMap.mp hr
  cases m with
  | own id => cases same
  | named r' =>
    cases same
    exact h _ hm

end Mention

theorem TypeUse.references_eq (u : TypeUse) : u.references = Mention.references [u.mention] := by
  cases u <;> rfl

mutual

theorem Particle.references_eq (p : Particle) : p.references = Mention.references p.mentions := by
  cases p with
  | element o use => cases use <;> rfl
  | wildcard o w => rfl
  | group o c particles => exact Particle.allReferences_eq particles
  | groupUse o r => rfl

theorem Particle.allReferences_eq (ps : List Particle) :
    Particle.allReferences ps = Mention.references (Particle.allMentions ps) := by
  cases ps with
  | nil => rfl
  | cons p ps =>
    rw [Particle.allReferences, Particle.allMentions, Mention.references_append,
      Particle.references_eq p, Particle.allReferences_eq ps]

end

theorem TypeUse.flatMap_references (us : List TypeUse) :
    us.flatMap (·.references) = Mention.references (us.map (·.mention)) := by
  induction us with
  | nil => rfl
  | cons u us ih =>
    rw [List.flatMap_cons, ih, TypeUse.references_eq, ← Mention.references_append]
    rfl

theorem AttributeDecls.references_eq (a : AttributeDecls) :
    a.references = Mention.references a.mentions := by
  have uses : ∀ us : List AttributeUseDecl, us.flatMap (·.references) =
      Mention.references (us.map (·.source.mention)) := by
    intro us
    induction us with
    | nil => rfl
    | cons u us ih =>
      obtain ⟨source, use, constraint⟩ := u
      rw [List.flatMap_cons, ih]
      cases source <;> rfl
  have groups : ∀ rs : List (Reference AttributeGroupId), rs.map AnyReference.attributeGroup =
      Mention.references (rs.map fun r => .named (.attributeGroup r)) := by
    intro rs
    induction rs with
    | nil => rfl
    | cons r rs ih => rw [List.map_cons, ih]; rfl
  rw [references, mentions, Mention.references_append, uses, groups]

theorem SimpleVariety.references_eq (v : SimpleVariety) :
    v.references = Mention.references v.mentions := by
  cases v with
  | restriction base facets => exact base.references_eq
  | list item => exact item.references_eq
  | union members => exact TypeUse.flatMap_references members

theorem ComplexTypeDef.references_eq (t : ComplexTypeDef) :
    t.references = Mention.references t.mentions := by
  obtain ⟨info, base, derivation, content, mixed, isAbstract, attributes⟩ := t
  rw [references, mentions, Mention.references_append, Mention.references_append, attributes.references_eq]
  congr 2
  · cases base with
    | none => rfl
    | some base => exact base.references_eq
  · cases content with
    | simple facets => rfl
    | particle p =>
      cases p with
      | none => rfl
      | some p =>
        change p.references = Mention.references (p.mentions ++ [])
        rw [List.append_nil, p.references_eq]

theorem TypeDefinition.references_eq (t : TypeDefinition) :
    t.references = Mention.references t.mentions := by
  cases t with
  | simple t => exact t.variety.references_eq
  | complex t => exact t.references_eq

theorem ElementDecl.references_eq (e : ElementDecl) : e.references = Mention.references e.mentions := by
  obtain ⟨info, type, head, constraint, nillable, isAbstract⟩ := e
  rw [references, mentions, Mention.references_append]
  congr 1
  · cases type with
    | none => rfl
    | some type => exact type.references_eq
  · cases head <;> rfl

theorem AttributeDecl.references_eq (d : AttributeDecl) :
    d.references = Mention.references d.mentions := by
  obtain ⟨info, type, constraint⟩ := d
  cases type with
  | none => rfl
  | some type => exact type.references_eq

/-! ## Binding -/

section Binding

variable (b : Binder)

theorem TypeUse.mention_bindWith (u : TypeUse) :
    (u.bindWith b).mention = u.mention.bindWith b := by
  cases u <;> rfl

mutual

theorem Particle.mentions_bindWith (p : Particle) :
    (p.bindWith b).mentions = p.mentions.map (·.bindWith b) := by
  cases p with
  | element o use => cases use <;> rfl
  | wildcard o w => rfl
  | group o c particles => exact Particle.allMentions_bindAllWith particles
  | groupUse o r => rfl

theorem Particle.allMentions_bindAllWith (ps : List Particle) :
    Particle.allMentions (Particle.bindAllWith b ps) =
      (Particle.allMentions ps).map (·.bindWith b) := by
  cases ps with
  | nil => rfl
  | cons p ps =>
    rw [Particle.bindAllWith, Particle.allMentions, Particle.allMentions, List.map_append,
      Particle.mentions_bindWith p, Particle.allMentions_bindAllWith ps]

end

theorem AttributeDecls.mentions_bindWith (a : AttributeDecls) :
    (a.bindWith b).mentions = a.mentions.map (·.bindWith b) := by
  have source : ∀ u : AttributeUseDecl,
      (u.bindWith b).source.mention = u.source.mention.bindWith b := by
    rintro ⟨source, use, constraint⟩
    cases source <;> rfl
  rw [mentions, mentions, List.map_append, List.map_map, List.map_map, bindWith, List.map_map,
    List.map_map]
  congr 1
  exact List.map_congr_left fun u _ => source u

theorem SimpleVariety.mentions_bindWith (v : SimpleVariety) :
    (v.bindWith b).mentions = v.mentions.map (·.bindWith b) := by
  cases v with
  | restriction base facets => exact congrArg ([·]) (base.mention_bindWith b)
  | list item => exact congrArg ([·]) (item.mention_bindWith b)
  | union members =>
    change (members.map (·.bindWith b)).map (·.mention) = (members.map (·.mention)).map _
    rw [List.map_map, List.map_map]
    exact List.map_congr_left fun u _ => u.mention_bindWith b

theorem ComplexTypeDef.mentions_bindWith (t : ComplexTypeDef) :
    (t.bindWith b).mentions = t.mentions.map (·.bindWith b) := by
  obtain ⟨info, base, derivation, content, mixed, isAbstract, attributes⟩ := t
  rw [mentions, mentions, List.map_append, List.map_append, ← attributes.mentions_bindWith]
  congr 2
  · cases base with
    | none => rfl
    | some base => exact congrArg ([·]) (base.mention_bindWith b)
  · cases content with
    | simple facets => rfl
    | particle p =>
      cases p with
      | none => rfl
      | some p =>
        change (p.bindWith b).mentions ++ [] = (p.mentions ++ []).map _
        rw [List.append_nil, List.append_nil, p.mentions_bindWith]

theorem TypeDefinition.mentions_bindWith (t : TypeDefinition) :
    (t.bindWith b).mentions = t.mentions.map (·.bindWith b) := by
  cases t with
  | simple t => exact t.variety.mentions_bindWith b
  | complex t => exact t.mentions_bindWith b

theorem ElementDecl.mentions_bindWith (e : ElementDecl) :
    (e.bindWith b).mentions = e.mentions.map (·.bindWith b) := by
  obtain ⟨info, type, head, constraint, nillable, isAbstract⟩ := e
  rw [mentions, mentions, List.map_append]
  congr 1
  · cases type with
    | none => rfl
    | some type => exact congrArg ([·]) (type.mention_bindWith b)
  · cases head <;> rfl

theorem AttributeDecl.mentions_bindWith (d : AttributeDecl) :
    (d.bindWith b).mentions = d.mentions.map (·.bindWith b) := by
  obtain ⟨info, type, constraint⟩ := d
  cases type with
  | none => rfl
  | some type => exact congrArg ([·]) (type.mention_bindWith b)

end Binding

end Xsd
