import Mathlib
import Xsd.Proofs.Validation.Findings

/-!
# Strict and lazy validation

A strict validation and a lazy one look at the same things in the same order. They part at the
first violation: it ends the strict one, and is the first that the lazy one collects. What either
finds is justified.
-/

namespace Xsd.Validation

variable {α β : Type} {m : Model} {e : Element}

/-- The second look comes to an end, whatever it finds. The first one ends in the same way if
nothing is found, and otherwise with the first violation of those that the second one adds. -/
def StopsAtFirst (strict lazy : ExceptT Violation (StateM (List Violation)) α) : Prop :=
  ∃ a found, ∀ vs, lazy.run.run vs = (.ok a, vs ++ found) ∧
    strict.run.run vs = match found with
      | [] => (.ok a, vs)
      | v :: _ => (.error v, vs)

/-- A look that is the same in both modes up to the first violation, and finds only what is
justified. -/
def InStep (m : Model) (look : Context → ExceptT Violation (StateM (List Violation)) α) : Prop :=
  ∀ path, ∃ a found, (∀ v ∈ found, Justified m v) ∧
    ∀ vs, (look ⟨.lazy, path⟩).run.run vs = (.ok a, vs ++ found) ∧
      (look ⟨.strict, path⟩).run.run vs = match found with
        | [] => (.ok a, vs)
        | v :: _ => (.error v, vs)

namespace InStep

theorem pure (a : α) : InStep m fun _ => Pure.pure a := by
  intro _
  refine ⟨a, [], fun v hv => ?_, fun vs => ⟨by rw [List.append_nil]; rfl, rfl⟩⟩
  cases hv

/-- Where the first part finds something, the strict look does not come to the second part. The
lazy one goes on, but what it adds comes after. -/
theorem bind {x : Context → ExceptT Violation (StateM (List Violation)) α}
    {f : α → Context → ExceptT Violation (StateM (List Violation)) β} (hx : InStep m x)
    (hf : ∀ a, InStep m (f a)) : InStep m fun c => x c >>= fun a => f a c := by
  intro path
  obtain ⟨a, found, justified, first⟩ := hx path
  obtain ⟨b, more, likewise, second⟩ := hf a path
  refine ⟨b, found ++ more, List.forall_mem_append.mpr ⟨justified, likewise⟩, fun vs => ⟨?_, ?_⟩⟩
  · rw [ExceptT.run_bind, StateT.run_bind, (first vs).1]
    refine ((second (vs ++ found)).1).trans ?_
    rw [List.append_assoc]
  · rw [ExceptT.run_bind, StateT.run_bind, (first vs).2]
    cases found with
    | nil => exact (second vs).2
    | cons v rest => rfl

theorem enter {look : Context → ExceptT Violation (StateM (List Violation)) α}
    (h : InStep m look) (name : QName) : InStep m fun c => look (c.enter name) :=
  fun path => h (path ++ [name.clark])

/-- Up to the first violation. -/
theorem stopsAtFirst {look : Context → ExceptT Violation (StateM (List Violation)) α}
    (h : InStep m look) (path : List String) :
    StopsAtFirst (look ⟨.strict, path⟩) (look ⟨.lazy, path⟩) := by
  obtain ⟨a, found, _, runs⟩ := h path
  exact ⟨a, found, runs⟩

theorem raise {v : Violation} (h : Justified m v) : InStep m fun c => c.raise v :=
  fun path => ⟨(), [{ v with path := some (v.path.getD (Context.pathText ⟨.lazy, path⟩)) }],
    List.forall_mem_singleton.mpr h, fun _ => ⟨rfl, rfl⟩⟩

/-- A violation of another kind than those that say that something is not known. -/
theorem raiseKind {v : Violation} (h : (v.kind != .unknownComponent) = true) :
    InStep m fun c => c.raise v :=
  .raise (.of_kind (bne_iff_ne.mp h))

theorem raiseIfError {x : Except Violation α}
    (h : ∀ v, x = .error v → (v.kind != .unknownComponent) = true) :
    InStep m fun c => c.raiseIfError x := by
  cases x with
  | ok a => exact .pure ()
  | error v => exact .raiseKind (h v rfl)

theorem forM {xs : List β} {f : β → Context → Look} (hf : ∀ x ∈ xs, InStep m (f x)) :
    InStep m fun c => xs.forM fun x => f x c := by
  induction xs with
  | nil => exact .pure ()
  | cons x xs ih =>
    exact .bind (hf x List.mem_cons_self) fun _ => ih fun y hy => hf y (List.mem_cons_of_mem x hy)

end InStep

/-! ## Attributes -/

theorem inStep_checkAttributeValue (name : QName) (value : String) (type : TypeId)
    (constraint : Option ValueConstraint) :
    InStep m fun c => checkAttributeValue m c name value type constraint := by
  unfold checkAttributeValue
  split
  · exact .raiseKind rfl
  · split
    · exact .pure ()
    · split
      · exact .pure ()
      · exact .raiseKind rfl

theorem inStep_checkMatchedAttribute (process : ProcessContents) (name : QName) (value : String) :
    InStep m fun c => checkMatchedAttribute m c process name value := by
  unfold checkMatchedAttribute
  split
  · exact .pure ()
  · split
    · exact inStep_checkAttributeValue _ _ _ _
    · split
      · exact .raise (.of_message (getLast?_append _ rfl) (by decide))
      · exact .pure ()

theorem inStep_checkAttribute (t : ComplexType) (name : QName) (value : String) :
    InStep m fun c => checkAttribute m c t name value := by
  unfold checkAttribute
  split
  · exact .pure ()
  · split
    · exact inStep_checkAttributeValue _ _ _ _
    · split
      · exact inStep_checkMatchedAttribute _ _ _
      · exact .raiseKind rfl

theorem inStep_checkAttributes (t : ComplexType) : InStep m fun c => checkAttributes m c e t := by
  refine .bind (.forM fun a _ => inStep_checkAttribute t a.1 a.2) fun _ => .forM fun a _ => ?_
  dsimp only
  split
  · exact .raiseKind rfl
  · exact .pure ()

theorem inStep_forbidAttributes : InStep m fun c => forbidAttributes c e := by
  refine .forM fun name _ => ?_
  split
  · exact .pure ()
  · exact .raiseKind rfl

/-! ## Elements -/

theorem inStep_checkNothing (reason : String) : InStep m fun c => checkNothing c e reason := by
  unfold checkNothing
  split
  · exact .raiseKind rfl
  · split
    · exact .raiseKind rfl
    · exact .pure ()

theorem inStep_checkText (type : TypeId) (constraint : Option ValueConstraint) :
    InStep m fun c => checkText m c e type constraint := by
  unfold checkText
  extract_lets own text
  split
  · rename_i v refused
    exact .raise (.of_checkValue refused)
  · split
    · exact .pure ()
    · split
      · exact .pure ()
      · exact .raiseKind rfl

theorem inStep_checkFixedText (constraint : Option ValueConstraint) :
    InStep m fun c => checkFixedText c e constraint := by
  unfold checkFixedText
  split
  · exact .pure ()
  · split
    · exact .raiseKind rfl
    · exact .pure ()

/-- Both ways to look at a child are in step. -/
def Child.AreInStep (m : Model) : Child → Prop
  | .text _ => True
  | .element _ declared matched =>
    (∀ id, InStep m fun c => declared c id) ∧ ∀ process, InStep m fun c => matched c process

theorem kind_of_text {r : ContentRun} {text : String} {v : Violation}
    (h : r.text text = .error v) : v.kind = .unexpectedText := by
  unfold ContentRun.text at h
  split at h <;> cases h
  rfl

theorem kind_of_element {r : ContentRun} {name : QName} {v : Violation}
    (h : r.element name = .error v) : v.kind = .unexpectedElement := by
  unfold ContentRun.element at h
  split at h <;> cases h
  rfl

theorem kind_of_finish {r : ContentRun} {v : Violation} (h : r.finish = .error v) :
    v.kind = .incompleteContent := by
  unfold ContentRun.finish at h
  split at h <;> cases h
  rfl

/-- The automaton is in the same state in both modes as long as nothing has been found. -/
theorem inStep_checkChildren {children : List Child} (h : ∀ c ∈ children, c.AreInStep m)
    (r : ContentRun) : InStep m fun c => checkChildren c r children := by
  induction children generalizing r with
  | nil => exact .pure r
  | cons first rest ih =>
    have ih := ih fun c hc => h c (List.mem_cons_of_mem first hc)
    cases first with
    | text content =>
      exact .bind (.raiseIfError fun v refused => by rw [kind_of_text refused]; rfl) fun _ => ih r
    | element e declared matched =>
      obtain ⟨asDeclared, asMatched⟩ := h _ List.mem_cons_self
      simp only [checkChildren]
      split
      · rename_i v refused
        have kind : (v.kind != .unknownComponent) = true := by
          rw [kind_of_element refused]
          rfl
        exact .bind (.enter (.raiseKind kind) e.name) fun _ => ih r
      · rename_i symbol next _
        cases symbol with
        | element name id => exact .bind (.enter (asDeclared id) e.name) fun _ => ih next
        | wildcard w => exact .bind (.enter (asMatched w.process) e.name) fun _ => ih next

theorem inStep_checkTyped {children : List Child} (h : ∀ c ∈ children, c.AreInStep m)
    {id : ElementId} (known : (m.arena.element? id).isSome) (constraint : Option ValueConstraint) :
    InStep m fun c => checkTyped m e children c (m.elementType id) constraint := by
  unfold checkTyped
  split
  · rename_i missing
    exact .raise (.notCompiled known missing _)
  · rename_i content _
    dsimp only
    split
    case' h_1 => refine .bind (inStep_checkAttributes _) fun _ => ?_
    case' h_2 => refine .bind inStep_forbidAttributes fun _ => ?_
    -- The content is looked at in the same way whatever the attributes are.
    all_goals
      cases content with
      | empty => exact inStep_checkNothing _
      | simple valueType =>
        dsimp only
        split
        · exact .raiseKind rfl
        · exact inStep_checkText _ _
      | elements automaton mixed =>
        refine .bind (inStep_checkChildren h _) fun r => ?_
        refine .bind (.raiseIfError fun v refused => ?_) fun _ => ?_
        · rw [kind_of_finish refused]
          rfl
        split
        · exact inStep_checkFixedText _
        · exact .pure ()

theorem inStep_checkNil (type : TypeId) : InStep m fun c => checkNil m e c type := by
  refine .bind (inStep_checkNothing _) fun _ => ?_
  split
  · exact inStep_checkAttributes _
  · exact .pure ()

theorem inStep_checkDeclared {children : List Child} (h : ∀ c ∈ children, c.AreInStep m)
    (id : ElementId) : InStep m fun c => checkDeclared m e children c id := by
  unfold checkDeclared
  split
  · exact .pure ()
  · rename_i decl declared
    have typed := inStep_checkTyped (e := e) h (Option.isSome_of_eq_some declared) decl.constraint
    dsimp only
    split
    · exact typed
    · split
      · split
        · exact inStep_checkNil _
        · exact .bind (.raiseKind rfl) fun _ => typed
      · split
        · exact .bind (.raiseKind rfl) fun _ => typed
        · exact typed

theorem inStep_checkMatched {children : List Child} (h : ∀ c ∈ children, c.AreInStep m)
    (process : ProcessContents) : InStep m fun c => checkMatched m e children c process := by
  unfold checkMatched
  split
  · exact .pure ()
  · split
    · exact inStep_checkDeclared h _
    · split
      · exact .raise (.of_message (getLast?_append _ rfl) (by decide))
      · refine .forM fun child hc => ?_
        cases child with
        | text content => exact .pure ()
        | element inner declared matched => exact .enter ((h _ hc).2 .lax) inner.name

mutual

/-- By induction on the tree: what is inside an element is in step before the element is. -/
theorem areInStep_child (m : Model) (n : Node) : (child m n).AreInStep m := by
  cases n with
  | text content => exact trivial
  | element tag nodes =>
    have inside := areInStep_childrenOf m nodes
    exact ⟨inStep_checkDeclared inside, inStep_checkMatched inside⟩

theorem areInStep_childrenOf (m : Model) (ns : List Node) :
    ∀ c ∈ childrenOf m ns, c.AreInStep m := by
  cases ns with
  | nil => simp [childrenOf]
  | cons n ns =>
    intro c hc
    rcases List.mem_cons.mp hc with rfl | hc
    · exact areInStep_child m n
    · exact areInStep_childrenOf m ns c hc

end

/-- Only the mode tells a strict look at a document from a lazy one. -/
theorem inStep_checkDocument (m : Model) (document : Document) :
    ∃ look, InStep m look ∧ ∀ mode, checkDocument m mode document = look ⟨mode, []⟩ := by
  unfold checkDocument
  split
  · exact ⟨_, .raiseKind rfl, fun _ => rfl⟩
  · rename_i root _
    dsimp only
    split
    · refine ⟨_, .enter (.raise ?_) root.name, fun _ => rfl⟩
      exact .of_message (getLast?_append _ rfl) (by decide)
    · split
      · exact ⟨_, .enter (.raiseKind rfl) root.name, fun _ => rfl⟩
      · exact ⟨_, (inStep_checkDeclared (areInStep_childrenOf m root.nodes) _).enter root.name,
          fun _ => rfl⟩

theorem stopsAtFirst_checkDocument (m : Model) (document : Document) :
    StopsAtFirst (checkDocument m .strict document) (checkDocument m .lazy document) := by
  obtain ⟨look, inStep, same⟩ := inStep_checkDocument m document
  rw [same, same]
  exact inStep.stopsAtFirst []

/-- Whatever a validation finds is justified. -/
theorem justified_of_mem_violations {m : Model} {document : Document} {v : Violation}
    (h : v ∈ violations m document) : Justified m v := by
  obtain ⟨look, inStep, same⟩ := inStep_checkDocument m document
  obtain ⟨⟨⟩, found, justified, runs⟩ := inStep []
  have collected : result (checkDocument m .lazy document) = .ok found := by
    rw [result, same, (runs []).1, List.nil_append]
  rw [violations, collected] at h
  exact justified v h

/-- A lazy validation always comes to an end. A strict one fails exactly if the lazy one finds
something, with the first violation that it finds; and just then the document is not valid. -/
theorem strict_fails_with_first (m : Model) (document : Document) :
    result (checkDocument m .lazy document) = .ok (violations m document) ∧
      (result (checkDocument m .strict document) = match violations m document with
        | [] => .ok []
        | v :: _ => .error v) ∧
      (isValid m document = true ↔ violations m document = []) := by
  obtain ⟨⟨⟩, found, runs⟩ := stopsAtFirst_checkDocument m document
  obtain ⟨lazily, strictly⟩ := runs []
  have collected : result (checkDocument m .lazy document) = .ok found := by
    rw [result, lazily, List.nil_append]
  have same : violations m document = found := by rw [violations, collected]
  refine ⟨same ▸ collected, ?_, ?_⟩
  · rw [same, result, strictly]
    cases found <;> rfl
  · rw [same, isValid, checkStrictly, result, strictly]
    cases found <;> simp [Except.map, Except.isOk, Except.toBool]

end Xsd.Validation
