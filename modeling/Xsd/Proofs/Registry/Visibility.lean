import Xsd.Proofs.Schema.Bindings

/-!
# Which namespaces can be seen

A document sees what it imports and what the documents import that it is included by, directly or over
others. They are looked through one after the other, and nothing counts them: the search ends because
a document is included by one that was there before it. All that is done to a registry keeps to that,
and takes from no document what it sees.
-/

namespace Xsd

namespace Registry

/-- The first document is included by the second one. -/
def IncludedBy (r : Registry) (document includer : DocumentId) : Prop :=
  ∃ info, r.document? document = some info ∧ info.includedBy = some includer

/-- The document itself imports the namespace. -/
def Imports (r : Registry) (document : DocumentId) (ns : Namespace) : Prop :=
  ∃ info, r.document? document = some info ∧ ∃ edge ∈ info.imports, edge.ns = ns

/-- The search for an import of the namespace, in a document and in those that it is included by. Nothing
bounds it. -/
inductive Looks (r : Registry) (ns : Namespace) : DocumentId → Bool → Prop
  | found {document} (imports : r.Imports document ns) : Looks r ns document true
  | last {document} (lacks : ¬ r.Imports document ns)
      (last : ∀ includer, ¬ r.IncludedBy document includer) : Looks r ns document false
  | onward {document includer answer} (lacks : ¬ r.Imports document ns)
      (included : r.IncludedBy document includer) (onward : Looks r ns includer answer) :
      Looks r ns document answer

/-- What can be done to a registry: a name is declared, an import is noted, or a document is added, which
is included by one of those that are there if by any. -/
inductive Registers : Registry → Registry → Prop
  | declare {r s name id} (declared : r.declare? name id = some s) : Registers r s
  | addDocument {r} (info : DocumentInfo)
      (included : ∀ d, info.includedBy = some d → d.index < r.documents.size) :
      Registers r (r.addDocument info).2
  | addImport {r} (document : DocumentId) (edge : ImportEdge) :
      Registers r (r.addImport document edge)

variable {r s : Registry} {ns : Namespace} {document includer : DocumentId} {info : DocumentInfo}
  {answer other : Bool}

/-! ## The search -/

theorem imports_iff (hi : r.document? document = some info) :
    r.Imports document ns ↔ info.imports.any (fun edge => edge.ns == ns) = true := by
  simp [Imports, hi, List.any_eq_true]

theorem includedBy_iff (hi : r.document? document = some info) :
    r.IncludedBy document includer ↔ info.includedBy = some includer := by
  simp [IncludedBy, hi]

theorem not_imports (absent : r.document? document = none) : ¬ r.Imports document ns := by
  simp [Imports, absent]

theorem not_includedBy (absent : r.document? document = none) :
    ¬ r.IncludedBy document includer := by
  simp [IncludedBy, absent]

/-- The number of documents bounds the search: each document that comes next is an earlier one. -/
theorem looks_importsFrom (ordered : r.IsOrdered) {fuel : Nat}
    (enough : (r.document? document).isSome → document.index < fuel) :
    r.Looks ns document (r.importsFrom ns fuel document) := by
  induction fuel generalizing document with
  | zero =>
    have absent : r.document? document = none := by
      rw [← Option.not_isSome_iff_eq_none]
      exact fun there => Nat.not_lt_zero _ (enough there)
    exact .last (not_imports absent) fun _ => not_includedBy absent
  | succ fuel ih =>
    rw [importsFrom]
    cases hi : r.document? document with
    | none => exact .last (not_imports hi) fun _ => not_includedBy hi
    | some info =>
      dsimp only
      cases own : info.imports.any fun edge => edge.ns == ns with
      | true => exact .found ((imports_iff hi).mpr own)
      | false =>
        have lacks : ¬ r.Imports document ns := by
          rw [imports_iff hi, own]
          exact Bool.false_ne_true
        cases hd : info.includedBy with
        | none =>
          refine .last lacks fun includer included => ?_
          rw [includedBy_iff hi, hd] at included
          cases included
        | some includer =>
          have earlier := ordered hi hd
          have := enough (Option.isSome_of_eq_some hi)
          exact .onward lacks ((includedBy_iff hi).mpr hd) (ih fun _ => by omega)

/-- What is found is an import of one of the documents that are reached, and none of them is missed. -/
theorem Looks.answer_iff (h : r.Looks ns document answer) :
    answer = true ↔
      ∃ d, Relation.ReflTransGen r.IncludedBy document d ∧ r.Imports d ns := by
  induction h with
  | @found document imports => exact ⟨fun _ => ⟨document, .refl, imports⟩, fun _ => rfl⟩
  | last lacks last =>
    refine ⟨nofun, ?_⟩
    rintro ⟨d, way, imports⟩
    rcases way.cases_head with rfl | ⟨includer, included, -⟩
    · exact absurd imports lacks
    · exact absurd included (last includer)
  | @onward document includer answer lacks included onward ih =>
    refine ih.trans ⟨fun ⟨d, way, imports⟩ => ⟨d, .head included way, imports⟩, ?_⟩
    rintro ⟨d, way, imports⟩
    rcases way.cases_head with rfl | ⟨other, included', way⟩
    · exact absurd imports lacks
    · obtain ⟨info, hi, hd⟩ := included
      rw [includedBy_iff hi, hd] at included'
      cases included'
      exact ⟨d, way, imports⟩

/-- One answer is found. -/
theorem Looks.unique (h : r.Looks ns document answer) (h' : r.Looks ns document other) :
    answer = other :=
  Bool.eq_iff_iff.mpr (h.answer_iff.trans h'.answer_iff.symm)

theorem looks_iff (ordered : r.IsOrdered) :
    r.Looks ns document answer ↔ r.importsFrom ns r.documents.size document = answer := by
  have looks : r.Looks ns document (r.importsFrom ns r.documents.size document) :=
    looks_importsFrom ordered fun there =>
      (Array.getElem?_eq_some_iff.mp (Option.eq_some_of_isSome there)).1
  exact ⟨looks.unique, fun same => same ▸ looks⟩

theorem isVisible_iff (ordered : r.IsOrdered) :
    r.isVisible document ns = true ↔
      ns = some QName.xsdNamespace ∨
        (∃ info, r.document? document = some info ∧ info.target = ns) ∨
        ∃ d, Relation.ReflTransGen r.IncludedBy document d ∧ r.Imports d ns := by
  have own : ((r.document? document).map fun info => info.target == ns).getD false = true ↔
      ∃ info, r.document? document = some info ∧ info.target = ns := by
    cases r.document? document <;> simp
  rw [isVisible, Bool.or_eq_true, Bool.or_eq_true, own, beq_iff_eq, or_assoc,
    ((looks_iff ordered).mpr rfl).answer_iff]

/-! ## Step by step -/

theorem Registers.isOrdered (step : Registers r s) (ordered : r.IsOrdered) : s.IsOrdered := by
  cases step with
  | declare declared => exact ordered.of_documents (declare?_spec declared).1
  | addDocument info included => exact ordered.addDocument included
  | addImport document edge => exact ordered.addImport document edge

theorem Registers.extends (step : Registers r s) : r.Extends s := by
  cases step with
  | declare declared => exact extends_declare? declared
  | addDocument info => exact extends_addDocument r info
  | addImport document edge => exact extends_addImport r document edge

theorem isOrdered_of_registers (steps : Relation.ReflTransGen Registers r s)
    (ordered : r.IsOrdered) : s.IsOrdered := by
  induction steps with
  | refl => exact ordered
  | tail _ step ih => exact step.isOrdered ih

theorem extends_of_registers (steps : Relation.ReflTransGen Registers r s) : r.Extends s := by
  induction steps with
  | refl => exact .refl r
  | tail _ step ih => exact ih.trans step.extends

theorem isOrdered_initial : initial.IsOrdered := fun _ _ _ => coherent_initial.included

end Registry

open Registry

/-! ## What reading and resolving do -/

theorem stable_registers (start : Registry) (base : Assembly) :
    Stable base fun a => Relation.ReflTransGen Registers start a.registry where
  note _ h := h
  document info included h := h.tail (.addDocument info included)
  importEdge d edge _ h := h.tail (.addImport d edge)
  declare _ _ declared h := h.tail (.declare declared)
  type _ _ _ h := h
  elementDecl _ h := h
  attributeDecl _ _ h := h
  groupDef _ h := h
  attributeGroupDef _ h := h

/-- Reading and resolving do to the registry what can be done to it, and nothing else. -/
theorem lasting_registers (start : Registry) : Resolution.Lasting fun a =>
    a.arena.Grounded ∧ Relation.ReflTransGen Registers start a.registry where
  stable base := (stable_grounded base).and (stable_registers start base)
  general h := h.1.has_anyType
  attempt attempt h := ⟨lasting_grounded.attempt attempt h.1, h.2⟩
  giveUp failed id := by
    have kept : Keeps (fun a => Relation.ReflTransGen Registers start a.registry)
        (Resolution.giveUp failed id) := by
      refine .modify fun a h => ?_
      split <;> exact h
    exact fun a h => ⟨lasting_grounded.giveUp failed id a h.1, kept a h.2⟩

theorem registers_build (supply : Schema.Supply) (documents : List Document) :
    Relation.ReflTransGen Registers initial
      ((Model.build supply documents).run .initial).2.registry :=
  (Model.keeps_build (lasting_registers initial) supply documents .initial
    ⟨Arena.grounded_initial, .refl⟩).2

theorem registers_resolve (supply : Schema.Supply) {a : Assembly} (grounded : a.arena.Grounded) :
    Relation.ReflTransGen Registers a.registry ((Resolution.resolve supply).run a).2.registry :=
  (Resolution.keeps_resolve (lasting_registers a.registry) supply a ⟨grounded, .refl⟩).2

namespace Registry

/-- In a registry whose documents are included by earlier ones, the search for an import ends, and
a namespace is seen from a document if and only if it is that of the schema language, its own, or imported
by it or by a document that is reached over those that include it. It goes on being seen whatever is
done to the registry. What reading and resolving do to one, from the start on, is of that kind. -/
theorem isVisible_exact :
    (∀ r : Registry, r.IsOrdered →
      (∀ document ns answer, r.Looks ns document answer ↔
        r.importsFrom ns r.documents.size document = answer) ∧
      (∀ document ns, r.isVisible document ns = true ↔
        ns = some QName.xsdNamespace ∨
          (∃ info, r.document? document = some info ∧ info.target = ns) ∨
          ∃ d, Relation.ReflTransGen r.IncludedBy document d ∧ r.Imports d ns) ∧
      ∀ s, Relation.ReflTransGen Registers r s → s.IsOrdered ∧
        ∀ document ns, r.isVisible document ns = true → s.isVisible document ns = true) ∧
    initial.IsOrdered ∧
    ∀ supply documents, ∃ read, read = ((Model.build supply documents).run .initial).2 ∧
      Relation.ReflTransGen Registers initial read.registry ∧
      ∀ supply', Relation.ReflTransGen Registers read.registry
        ((Resolution.resolve supply').run read).2.registry := by
  refine ⟨fun r ordered => ⟨fun _ _ _ => looks_iff ordered, fun _ _ => isVisible_iff ordered,
    fun s steps => ⟨isOrdered_of_registers steps ordered,
      fun _ _ => (extends_of_registers steps).isVisible⟩⟩, isOrdered_initial,
    fun supply documents => ?_⟩
  have grounded := Model.keeps_build lasting_grounded supply documents .initial
    Arena.grounded_initial
  exact ⟨_, rfl, registers_build supply documents, fun supply' => registers_resolve supply' grounded⟩

/-- A document, one that it includes, and one that is included by that. -/
def nested : Registry :=
  let part (includedBy : Option DocumentId) (imports : List ImportEdge) : DocumentInfo :=
    ⟨.memory "part", some "a", includedBy, imports⟩
  let first := (initial.addDocument (part none [⟨some "b", none⟩])).2
  let second := (first.addDocument (part (some ⟨1⟩) [])).2
  (second.addDocument (part (some ⟨2⟩) [])).2

/-- The last one sees what the first one imports, and what the second one does as soon as that is
noted. -/
theorem isVisible_nested : nested.IsOrdered ∧ nested.isVisible ⟨3⟩ (some "b") = true ∧
    nested.isVisible ⟨3⟩ (some "c") = false ∧
    (nested.addImport ⟨2⟩ ⟨some "c", none⟩).isVisible ⟨3⟩ (some "c") = true ∧
    (nested.addImport ⟨2⟩ ⟨some "c", none⟩).isVisible ⟨3⟩ (some "b") = true := by
  have ordered : nested.IsOrdered := by
    have first : ∀ d : DocumentId, none = some d → d.index < initial.documents.size := nofun
    refine ((isOrdered_initial.addDocument first).addDocument ?_).addDocument ?_ <;>
      · rintro d ⟨⟩
        decide
  obtain ⟨-, visible, later⟩ := isVisible_exact.1 nested ordered
  have way : Relation.ReflTransGen nested.IncludedBy ⟨3⟩ ⟨1⟩ :=
    .head (b := ⟨2⟩) ⟨_, rfl, rfl⟩ (.single ⟨_, rfl, rfl⟩)
  have seen := (visible ⟨3⟩ (some "b")).mpr (.inr (.inr ⟨⟨1⟩, way, _, rfl, _, .head _, rfl⟩))
  exact ⟨ordered, seen, by decide, by decide,
    (later _ (.single (.addImport ⟨2⟩ ⟨some "c", none⟩))).2 _ _ seen⟩

end Registry

end Xsd
