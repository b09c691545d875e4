import Xsd.Proofs.Derivation.Inheritance

/-!
# Attributes in use

What a complex type declares to use, itself or through attribute groups inside each other, it has in
the end, with the type and the value of the declaration. Only a use that is prohibited comes to
nothing.
-/

namespace Xsd

/-- The type of the values of an attribute. Where none is named all values will do. -/
def AttributeDecl.valueTypeId (d : AttributeDecl) : TypeId :=
  (d.type.bind (·.target)).getD .anySimpleType

/-- The attribute is that of the declaration which is used, with its type, and with its value unless
the use has one of its own. -/
structure EffectiveAttribute.IsUse (a : Arena) (u : AttributeUseDecl) (x : EffectiveAttribute) :
    Prop where
  target : u.source.target = some x.declaration
  use : x.use = u.use
  declared : ∃ d, a.attribute? x.declaration = some d ∧ x.type = d.valueTypeId ∧
    x.constraint = (u.constraint <|> d.constraint)

namespace AttributeTable

variable {s t u : AttributeTable} {x : EffectiveAttribute} {a : Arena} {use : AttributeUseDecl}

/-- Attributes stand under their own names, each of them once. -/
structure Indexed (t : AttributeTable) : Prop where
  keys : t.keys = t.values.map (·.name)
  nodup : t.keys.Nodup

theorem indexed_empty : Indexed .empty := ⟨rfl, List.nodup_nil⟩

theorem Indexed.insert (h : t.Indexed) (new : ¬ t.contains x.name) :
    Indexed (Table.insert t x.name x) := by
  have entries := Table.entries_insert_of_new (v := x) new
  constructor
  case keys =>
    have keys := h.keys
    unfold Table.keys Table.values at keys ⊢
    rw [entries]
    simp [keys]
  case nodup =>
    unfold Table.keys
    rw [entries, List.map_append, List.nodup_append]
    refine ⟨h.nodup, List.nodup_singleton _, fun name mem other mem' => ?_⟩
    cases List.mem_singleton.mp mem'
    rintro rfl
    exact new (Table.contains_of_mem_keys mem)

/-- Attributes have been added, and none has been changed. -/
structure Grows (t u : AttributeTable) : Prop where
  extends' : u.Extends t
  indexed : t.Indexed → u.Indexed

theorem Grows.refl (t : AttributeTable) : t.Grows t := ⟨fun _ _ h => h, fun h => h⟩

theorem Grows.trans (h : s.Grows t) (h' : t.Grows u) : s.Grows u :=
  ⟨fun name x hx => h'.extends' name x (h.extends' name x hx), fun hs => h'.indexed (h.indexed hs)⟩

theorem Grows.insert (new : ¬ t.contains x.name) : t.Grows (Table.insert t x.name x) where
  indexed h := h.insert new
  extends' name y hy := by
    have other : name ≠ x.name := by
      rintro rfl
      exact new (Option.isSome_of_eq_some hy)
    simpa [other] using hy

/-- The attribute that is used is there, under its name. -/
def HasUse (a : Arena) (u : AttributeUseDecl) (t : AttributeTable) : Prop :=
  ∃ x, x.IsUse a u ∧ t.get? x.name = some x

theorem HasUse.mono (h : t.HasUse a use) (grows : t.Grows u) : u.HasUse a use := by
  obtain ⟨x, isUse, hx⟩ := h
  exact ⟨x, isUse, grows.extends' _ _ hx⟩

end AttributeTable

namespace Derivation

variable {a : Arena} {need : Need} {owner : String} {s t : DerivationState}
  {x : EffectiveAttribute} {table : AttributeTable}

/-- Steps that take something in one after the other: what one has taken in the later ones keep. -/
theorem yields_foldlM {ε σ α β : Type} {f : β → α → ExceptT ε (StateM σ) β} {G : β → β → Prop}
    {Q : α → β → Prop} {xs : List α} {s t : σ} {b c : β} (refl : ∀ b, G b b)
    (trans : ∀ {b c d}, G b c → G c d → G b d) (keeps : ∀ {x b c}, G b c → Q x b → Q x c)
    (step : ∀ x ∈ xs, ∀ {b s c t}, Yields (f b x) s c t → G b c ∧ Q x c)
    (h : Yields (xs.foldlM f b) s c t) : G b c ∧ ∀ x ∈ xs, Q x c := by
  induction xs generalizing b s with
  | nil =>
    obtain ⟨rfl, -⟩ := yields_pure_iff.mp h
    exact ⟨refl b, by simp⟩
  | cons x xs ih =>
    rw [List.foldlM_cons] at h
    obtain ⟨d, u, hx, h⟩ := yields_bind_iff.mp h
    obtain ⟨first, taken⟩ := step x List.mem_cons_self hx
    obtain ⟨rest, all⟩ := ih (fun y mem => step y (List.mem_cons_of_mem x mem)) h
    exact ⟨trans first rest, List.forall_mem_cons.mpr ⟨keeps rest taken, all⟩⟩

/-! ## Declared attributes -/

theorem yields_attributeUse {u : AttributeUseDecl} (h : Yields (attributeUse a need u) s x t) :
    x.IsUse a u := by
  obtain ⟨id, _, hid, h⟩ := yields_bind_iff.mp h
  obtain ⟨target, rfl⟩ := yields_expect_iff.mp hid
  obtain ⟨d, _, hd, h⟩ := yields_bind_iff.mp h
  obtain ⟨declared, rfl⟩ := yields_expect_iff.mp hd
  obtain ⟨name, _, hname, h⟩ := yields_bind_iff.mp h
  obtain ⟨-, rfl⟩ := yields_expect_iff.mp hname
  extract_lets finish at h
  have finished : ∀ {type v}, Yields (finish type) v x t → type = d.valueTypeId →
      x.IsUse a u := by
    intro type v h same
    obtain ⟨definition, _, -, h⟩ := yields_bind_iff.mp h
    split at h
    · obtain ⟨_, _, -, h⟩ := yields_bind_iff.mp h
      obtain ⟨rfl, -⟩ := yields_pure_iff.mp h
      exact ⟨target, rfl, d, declared, same, rfl⟩
    · exact absurd h not_yields_throw
  split at h
  · rename_i use hu
    obtain ⟨type, _, htype, h⟩ := yields_bind_iff.mp h
    obtain ⟨named, rfl⟩ := yields_expect_iff.mp htype
    exact finished h (by rw [AttributeDecl.valueTypeId, hu, Option.bind_some, named]; rfl)
  · rename_i none
    obtain ⟨type, _, htype, h⟩ := yields_bind_iff.mp h
    obtain ⟨rfl, rfl⟩ := yields_pure_iff.mp htype
    exact finished h (by rw [AttributeDecl.valueTypeId, none]; rfl)

theorem inert_addAttribute_grows : Inert (fun _ => True)
    (fun t => table.Grows t ∧ t.get? x.name = some x) (addAttribute owner table x) := by
  unfold addAttribute
  split
  · exact .throw trivial
  · rename_i new
    exact .pure ⟨.insert new, by simp⟩

theorem yields_addUse {u : AttributeUseDecl} {result : AttributeTable}
    (h : Yields (do addAttribute owner table (← attributeUse a need u)) s result t) :
    table.Grows result ∧ result.HasUse a u := by
  obtain ⟨x, _, hx, h⟩ := yields_bind_iff.mp h
  obtain ⟨grows, there⟩ := inert_addAttribute_grows.of_yields h
  exact ⟨grows, x, yields_attributeUse hx, there⟩

theorem yields_addGroup {sofar group result : AttributeSet}
    (h : Yields (addGroup owner sofar group) s result t) :
    sofar.attributes.Grows result.attributes ∧
      ∀ x ∈ group.attributes.values, result.attributes.get? x.name = some x := by
  obtain ⟨table, _, added, h⟩ := yields_bind_iff.mp h
  obtain ⟨rfl, -⟩ := yields_pure_iff.mp h
  exact yields_foldlM (G := AttributeTable.Grows) (Q := fun x t => t.get? x.name = some x) .refl
    .trans (fun grows hx => grows.extends' _ _ hx)
    (fun x _ {_ _ _ _} h => inert_addAttribute_grows.of_yields h) added

/-- All that the group referred to uses is there. -/
def HasGroup (a : Arena) (r : Reference AttributeGroupId) (set : AttributeSet) : Prop :=
  ∀ {id g u}, r.target = some id → a.attributeGroup? id = some g → a.Uses g.attributes u →
    set.attributes.HasUse a u

/-- By induction on the number of groups that can still be inside each other. -/
theorem yields_flatten {fuel : Nat} {stack : List AttributeGroupId} {decls : AttributeDecls}
    {own : AttributeSet} (h : Yields (flatten a need owner fuel stack decls) s own t) :
    own.attributes.Indexed ∧ ∀ u, a.Uses decls u → own.attributes.HasUse a u := by
  induction fuel generalizing stack decls own s t with
  | zero => exact absurd h not_yields_throw
  | succ fuel ih =>
    obtain ⟨used, v, hused, h⟩ := yields_bind_iff.mp h
    obtain ⟨usedGrows, ownUses⟩ :=
      yields_foldlM (G := AttributeTable.Grows) (Q := AttributeTable.HasUse a) .refl .trans
        (fun grows hu => hu.mono grows) (fun u _ {_ _ _ _} h => yields_addUse h) hused
    obtain ⟨groupsGrow, groupUses⟩ : used.Grows own.attributes ∧ ∀ r ∈ decls.groups,
        HasGroup a r own := by
      refine yields_foldlM (G := fun b c : AttributeSet => b.attributes.Grows c.attributes)
        (Q := HasGroup a) (fun b => .refl b.attributes) .trans
        (fun grows has _ _ _ target there hu => (has target there hu).mono grows) ?_ h
      intro r _ sofar _ result _ h
      obtain ⟨id, _, hid, h⟩ := yields_bind_iff.mp h
      obtain ⟨target, rfl⟩ := yields_expect_iff.mp hid
      split at h
      · exact absurd h not_yields_throw
      · obtain ⟨g, _, hg, h⟩ := yields_bind_iff.mp h
        obtain ⟨there, rfl⟩ := yields_expect_iff.mp hg
        obtain ⟨group, _, inside, h⟩ := yields_bind_iff.mp h
        obtain ⟨grows, added⟩ := yields_addGroup h
        refine ⟨grows, fun {id' g' u} target' there' hu => ?_⟩
        cases target.symm.trans target'
        cases there.symm.trans there'
        obtain ⟨x, isUse, hx⟩ := (ih inside).2 u hu
        exact ⟨x, isUse, added x (Table.mem_values_of_get? hx)⟩
    refine ⟨groupsGrow.indexed (usedGrows.indexed AttributeTable.indexed_empty), fun u hu => ?_⟩
    cases hu with
    | own mem => exact (ownUses u mem).mono groupsGrow
    | group mem target there inside => exact groupUses _ mem target there inside

/-! ## Attributes of the base -/

/-- Steps that each put an attribute under its name, if it counts, and leave other names alone. -/
theorem yields_foldlM_put {f : AttributeTable → EffectiveAttribute → Derive AttributeTable}
    {xs : List EffectiveAttribute} {result : AttributeTable} {counts : EffectiveAttribute → Prop}
    (step : ∀ table x, Inert (fun _ => True)
      (fun t => (counts x → t.get? x.name = some x) ∧
        ∀ name ≠ x.name, t.get? name = table.get? name) (f table x))
    (distinct : (xs.map (·.name)).Nodup) (h : Yields (xs.foldlM f table) s result t) :
    (∀ x ∈ xs, counts x → result.get? x.name = some x) ∧
      ∀ name ∉ xs.map (·.name), result.get? name = table.get? name := by
  induction xs generalizing table s with
  | nil =>
    obtain ⟨rfl, -⟩ := yields_pure_iff.mp h
    exact ⟨by simp, fun _ _ => rfl⟩
  | cons x xs ih =>
    rw [List.foldlM_cons] at h
    obtain ⟨next, u, hx, h⟩ := yields_bind_iff.mp h
    obtain ⟨own, others⟩ := (step table x).of_yields hx
    obtain ⟨new, distinct⟩ := List.nodup_cons.mp distinct
    obtain ⟨put, kept⟩ := ih distinct h
    refine ⟨List.forall_mem_cons.mpr ⟨fun hx => (kept _ new).trans (own hx), put⟩, ?_⟩
    intro name hname
    obtain ⟨other, hname⟩ := not_or.mp (mt List.mem_cons.mpr hname)
    exact (kept name hname).trans (others name other)

theorem inert_extendAttribute_put : Inert (fun _ => True)
    (fun t => (x.use ≠ .prohibited → t.get? x.name = some x) ∧
      ∀ name ≠ x.name, t.get? name = table.get? name) (extendAttribute owner table x) := by
  unfold extendAttribute
  split
  · exact .throw trivial
  · split
    · rename_i prohibited
      exact .pure ⟨fun used => absurd prohibited used, fun _ _ => rfl⟩
    · exact .pure ⟨fun _ => by simp, fun name other => by simp [other]⟩

theorem inert_restrictAttribute_put {d : DerivedTypes} {base : AttributeSet} :
    Inert (fun _ => True)
      (fun t => (x.use ≠ .prohibited → t.get? x.name = some x) ∧
        ∀ name ≠ x.name, t.get? name = table.get? name)
      (restrictAttribute a d owner base table x) := by
  have put : (x.use ≠ .prohibited → (table.insert x.name x).get? x.name = some x) ∧
      ∀ name ≠ x.name, (table.insert x.name x).get? name = table.get? name :=
    ⟨fun _ => by simp, fun name other => by simp [other]⟩
  unfold restrictAttribute
  extract_lets refuse
  split
  · split
    · rename_i prohibited
      exact .pure ⟨fun used => absurd prohibited used, fun _ _ => rfl⟩
    · split
      · exact .pure put
      · exact .throw trivial
  · split
    · rename_i prohibited
      split
      · exact .throw trivial
      · refine .pure ⟨fun used => absurd prohibited used, fun name other => ?_⟩
        simp [Table.get?_erase, other]
    · split
      · exact .throw trivial
      · exact .pure put

/-- Whatever the base has, an own attribute that may be used is there in the end. -/
theorem yields_merge_own {method : DerivationMethod} {base own merged : AttributeSet}
    (indexed : own.attributes.Indexed) (h : Yields (merge a owner method base own) s merged t) :
    ∀ x ∈ own.attributes.values, x.use ≠ .prohibited →
      merged.attributes.get? x.name = some x := by
  have distinct := indexed.keys ▸ indexed.nodup
  unfold merge at h
  split at h
  · obtain ⟨table, _, folded, h⟩ := yields_bind_iff.mp h
    obtain ⟨rfl, -⟩ := yields_pure_iff.mp h
    exact (yields_foldlM_put (fun _ _ => inert_extendAttribute_put) distinct folded).1
  · obtain ⟨_, _, hget, h⟩ := yields_bind_iff.mp h
    obtain ⟨rfl, rfl⟩ := yields_get_iff.mp hget
    obtain ⟨table, _, folded, h⟩ := yields_bind_iff.mp h
    obtain ⟨wildcard, _, -, h⟩ := yields_bind_iff.mp h
    obtain ⟨rfl, -⟩ := yields_pure_iff.mp h
    exact (yields_foldlM_put (fun _ _ => inert_restrictAttribute_put) distinct folded).1

/-! ## Complex types -/

/-- The derived type is abstract if the definition says so, and has the attributes that it uses. -/
structure Realizes (a : Arena) (definition : ComplexTypeDef) (c : ComplexType) : Prop where
  isAbstract : c.isAbstract = definition.isAbstract
  uses : ∀ u, a.Uses definition.attributes u → u.use ≠ .prohibited → c.attributes.HasUse a u

theorem yields_deriveComplex_realizes {claim : Claim} (hneed : need.IsSound claim)
    (sound : Sound claim s) {id : TypeId} {definition : ComplexTypeDef} {info : TypeInfo}
    (other : id ≠ .anyType) (h : Yields (deriveComplex a need id definition) s info t) :
    ∃ c, info.effective = .complex c ∧ Realizes a definition c := by
  obtain ⟨_, base, own, c, derives, merges⟩ := yields_deriveComplex_own hneed sound other h
  obtain ⟨_, _, _, hown⟩ := merges.declared
  obtain ⟨_, _, _, hmerge⟩ := merges.merged
  obtain ⟨indexed, declared⟩ := yields_flatten hown
  refine ⟨c, by rw [derives.eq], merges.isAbstract, fun u hu used => ?_⟩
  obtain ⟨x, isUse, hx⟩ := declared u hu
  exact ⟨x, isUse, yields_merge_own indexed hmerge x (Table.mem_values_of_get? hx)
    (isUse.use ▸ used)⟩

/-- A complex type, other than the most general type, is derived as its definition says. -/
def Realized (a : Arena) : Claim := fun _ id info =>
  ∀ {definition}, a.type? id = some (.complex definition) → id ≠ .anyType →
    ∃ c, info.effective = .complex c ∧ Realizes a definition c

theorem realized_isInductive (a : Arena) : Claim.IsInductive (Realized a) a where
  mono _ h := h
  made hd hneed sound h definition complex other := by
    cases hd.symm.trans complex
    exact yields_deriveComplex_realizes hneed sound other h

theorem realizes_anyType (grounded : a.Grounded) {definition : ComplexTypeDef}
    (complex : a.type? .anyType = some (.complex definition)) :
    ∃ c, anyType.effective = .complex c ∧ Realizes a definition c := by
  cases grounded.type?_anyType.symm.trans complex
  refine ⟨_, rfl, rfl, fun u hu _ => ?_⟩
  cases hu with
  | own mem => cases mem
  | group mem => cases mem

theorem deriveAll_realizes (grounded : a.Grounded) {id : TypeId} {definition : ComplexTypeDef}
    {info : TypeInfo} (entry : (deriveAll a).1.get? id = some info)
    (complex : a.type? id = some (.complex definition)) :
    ∃ c, info.effective = .complex c ∧ Realizes a definition c := by
  by_cases general : id = .anyType
  · subst general
    rw [(deriveAll_holds (restricts_isInductive grounded) entry).anyType rfl]
    exact realizes_anyType grounded complex
  · exact deriveAll_holds (realized_isInductive a) entry complex general

/-- What is derived as a complex type is defined as one. -/
def DefinedComplex (a : Arena) : Claim := fun _ id info =>
  ∀ {c}, info.effective = .complex c → ∃ definition, a.type? id = some (.complex definition)

theorem definedComplex_isInductive (a : Arena) : Claim.IsInductive (DefinedComplex a) a where
  mono _ h := h
  made {need id definition s info t} hd _ _ h c complex := by
    cases definition with
    | simple definition =>
      by_cases special : id = .anySimpleType
      · subst special
        obtain ⟨rfl, -⟩ := yields_pure_iff.mp h
        cases complex
      · cases yields_deriveSimple special h <;> cases complex
    | complex definition => exact ⟨definition, hd⟩

theorem exists_realizes (grounded : a.Grounded) {id : TypeId} {c : ComplexType}
    (complex : (deriveAll a).1.complex? id = some c) :
    ∃ definition, a.type? id = some (.complex definition) ∧ Realizes a definition c := by
  obtain ⟨base, method, entry⟩ := DerivedTypes.get?_of_complex? complex
  obtain ⟨definition, known⟩ := deriveAll_holds (definedComplex_isInductive a) entry rfl
  obtain ⟨_, ⟨⟩, realizes⟩ := deriveAll_realizes grounded entry known
  exact ⟨definition, known, realizes⟩

end Derivation

end Xsd
