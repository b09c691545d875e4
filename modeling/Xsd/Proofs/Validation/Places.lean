import Mathlib
import Xsd.Proofs.Validation.Findings

/-!
# Where violations are found

A violation that a lazy validation collects carries a path: the names on the way from the root to
some element of the document. What is found while an element is looked at is found there or further
inside.
-/

namespace Xsd

/-- The names on the way from an element to one that it contains or is, their own included. -/
inductive Element.Way : Element → List QName → Element → Prop
  | here (e : Element) : Way e [e.name] e
  | inside {e child inner : Element} {names : List QName} (contained : child ∈ e.children)
      (way : Way child names inner) : Way e (e.name :: names) inner

namespace Validation

variable {α β : Type} {m : Model} {e : Element} {c : Context} {P Q : Violation → Prop}

/-! ## What a lazy look adds -/

/-- The look comes to an end, and it collects only violations of this kind. -/
def Adds (P : Violation → Prop) (look : ExceptT Violation (StateM (List Violation)) α) : Prop :=
  ∀ vs, ∃ a found, look.run.run vs = (.ok a, vs ++ found) ∧ ∀ v ∈ found, P v

namespace Adds

theorem pure (a : α) : Adds P (Pure.pure a) := by
  intro vs
  refine ⟨a, [], by rw [List.append_nil]; rfl, fun v hv => ?_⟩
  cases hv

theorem bind {x : ExceptT Violation (StateM (List Violation)) α}
    {f : α → ExceptT Violation (StateM (List Violation)) β} (hx : Adds P x)
    (hf : ∀ a, Adds P (f a)) : Adds P (x >>= f) := by
  intro vs
  obtain ⟨a, found, first, those⟩ := hx vs
  obtain ⟨b, more, second, others⟩ := hf a (vs ++ found)
  refine ⟨b, found ++ more, ?_, List.forall_mem_append.mpr ⟨those, others⟩⟩
  rw [ExceptT.run_bind, StateT.run_bind, first, ← List.append_assoc]
  exact second

theorem mono {x : ExceptT Violation (StateM (List Violation)) α} (h : Adds P x)
    (weaker : ∀ v, P v → Q v) : Adds Q x := by
  intro vs
  obtain ⟨a, found, runs, those⟩ := h vs
  exact ⟨a, found, runs, fun v hv => weaker v (those v hv)⟩

theorem forM {xs : List β} {f : β → Look} (hf : ∀ x ∈ xs, Adds P (f x)) :
    Adds P (xs.forM f) := by
  induction xs with
  | nil => exact .pure ()
  | cons x xs ih =>
    exact .bind (hf x List.mem_cons_self) fun _ => ih fun y hy => hf y (List.mem_cons_of_mem x hy)

end Adds

/-! ## Violations without a place -/

theorem path_of_checkValue {type : TypeId} {text : String} {v : Violation}
    (h : m.derived.checkValue type text = .error v) : v.path = none := by
  unfold DerivedTypes.checkValue at h
  split at h
  · exact (ValueType.refuses_check _ _ v h).2
  · cases h
    rfl

theorem path_of_text {r : ContentRun} {text : String} {v : Violation}
    (h : r.text text = .error v) : v.path = none := by
  unfold ContentRun.text at h
  split at h <;> cases h
  rfl

theorem path_of_element {r : ContentRun} {name : QName} {v : Violation}
    (h : r.element name = .error v) : v.path = none := by
  unfold ContentRun.element at h
  split at h <;> cases h
  rfl

theorem path_of_finish {r : ContentRun} {v : Violation} (h : r.finish = .error v) :
    v.path = none := by
  unfold ContentRun.finish at h
  split at h <;> cases h
  rfl

/-- The violation is said to be at this place. -/
def IsAt (c : Context) (v : Violation) : Prop := v.path = some c.pathText

section

variable (lazily : c.mode = .lazy)

include lazily

theorem adds_raise {v : Violation} (nowhere : v.path = none) : Adds (IsAt c) (c.raise v) := by
  intro vs
  refine ⟨(), [{ v with path := some (v.path.getD c.pathText) }], ?_, ?_⟩
  · unfold Context.raise
    rw [lazily]
    rfl
  · rw [List.forall_mem_singleton, IsAt, nowhere]
    rfl

theorem adds_raiseIfError {x : Except Violation α} (nowhere : ∀ v, x = .error v → v.path = none) :
    Adds (IsAt c) (c.raiseIfError x) := by
  cases x with
  | ok a => exact .pure ()
  | error v => exact adds_raise lazily (nowhere v rfl)

/-! ## Looks that do not go inside -/

theorem adds_checkAttributeValue (name : QName) (value : String) (type : TypeId)
    (constraint : Option ValueConstraint) :
    Adds (IsAt c) (checkAttributeValue m c name value type constraint) := by
  unfold checkAttributeValue
  split
  · exact adds_raise lazily rfl
  · split
    · exact .pure ()
    · split
      · exact .pure ()
      · exact adds_raise lazily rfl

theorem adds_checkAttribute (t : ComplexType) (name : QName) (value : String) :
    Adds (IsAt c) (checkAttribute m c t name value) := by
  unfold checkAttribute
  split
  · exact .pure ()
  · split
    · exact adds_checkAttributeValue lazily _ _ _ _
    · split
      · unfold checkMatchedAttribute
        split
        · exact .pure ()
        · split
          · exact adds_checkAttributeValue lazily _ _ _ _
          · split
            · exact adds_raise lazily rfl
            · exact .pure ()
      · exact adds_raise lazily rfl

theorem adds_checkAttributes (t : ComplexType) : Adds (IsAt c) (checkAttributes m c e t) := by
  refine .bind (.forM fun a _ => adds_checkAttribute lazily t a.1 a.2) fun _ => .forM fun a _ => ?_
  dsimp only
  split
  · exact adds_raise lazily rfl
  · exact .pure ()

theorem adds_forbidAttributes : Adds (IsAt c) (forbidAttributes c e) := by
  refine .forM fun name _ => ?_
  split
  · exact .pure ()
  · exact adds_raise lazily rfl

theorem adds_checkNothing (reason : String) : Adds (IsAt c) (checkNothing c e reason) := by
  unfold checkNothing
  split
  · exact adds_raise lazily rfl
  · split
    · exact adds_raise lazily rfl
    · exact .pure ()

theorem adds_checkText (type : TypeId) (constraint : Option ValueConstraint) :
    Adds (IsAt c) (checkText m c e type constraint) := by
  unfold checkText
  extract_lets own text
  split
  · rename_i v refused
    exact adds_raise lazily (path_of_checkValue refused)
  · split
    · exact .pure ()
    · split
      · exact .pure ()
      · exact adds_raise lazily rfl

theorem adds_checkFixedText (constraint : Option ValueConstraint) :
    Adds (IsAt c) (checkFixedText c e constraint) := by
  unfold checkFixedText
  split
  · exact .pure ()
  · split
    · exact adds_raise lazily rfl
    · exact .pure ()

theorem adds_checkNil (type : TypeId) : Adds (IsAt c) (checkNil m e c type) := by
  refine .bind (adds_checkNothing lazily _) fun _ => ?_
  split
  · exact adds_checkAttributes lazily _
  · exact .pure ()

end

/-! ## Elements -/

/-- The context in which a lazy validation looks at an element that stands inside of others. -/
def Context.of (around : List QName) (e : Element) : Context :=
  Context.enter ⟨.lazy, around.map (·.clark)⟩ e.name

theorem Context.of_cons (around : List QName) (e child : Element) :
    (Context.of around e).enter child.name = Context.of (around ++ [e.name]) child := by
  simp [Context.of, Context.enter]

/-- The violation is at the element or at one inside of it, if the element itself stands inside of
elements of these names. -/
def IsWithin (around : List QName) (e : Element) (v : Violation) : Prop :=
  ∃ names inner, e.Way names inner ∧
    v.path = some (Context.pathText ⟨.lazy, (around ++ names).map (·.clark)⟩)

variable {around : List QName}

theorem isWithin_of_isAt {v : Violation} (h : IsAt (.of around e) v) : IsWithin around e v := by
  refine ⟨[e.name], e, .here e, ?_⟩
  rw [h]
  simp [Context.of, Context.enter]

theorem isWithin_of_child {child : Element} (contained : child ∈ e.children) {v : Violation}
    (h : IsWithin (around ++ [e.name]) child v) : IsWithin around e v := by
  obtain ⟨names, inner, way, path⟩ := h
  refine ⟨e.name :: names, inner, .inside contained way, ?_⟩
  rw [path, List.append_assoc]
  rfl

/-- It is a child of the element, and however it is looked at, what is found is found there or
further inside. -/
def Child.IsWithin (around : List QName) (e : Element) : Child → Prop
  | .text _ => True
  | .element child declared matched => child ∈ e.children ∧
    (∀ id, Adds (Validation.IsWithin (around ++ [e.name]) child)
      (declared (.of (around ++ [e.name]) child) id)) ∧
    ∀ process, Adds (Validation.IsWithin (around ++ [e.name]) child)
      (matched (.of (around ++ [e.name]) child) process)

theorem adds_here {look : Context → ExceptT Violation (StateM (List Violation)) α}
    (h : ∀ {c : Context}, c.mode = .lazy → Adds (IsAt c) (look c)) :
    Adds (IsWithin around e) (look (.of around e)) :=
  (h rfl).mono fun _ => isWithin_of_isAt

theorem adds_checkChildren {children : List Child}
    (within : ∀ child ∈ children, child.IsWithin around e) (r : ContentRun) :
    Adds (IsWithin around e) (checkChildren (.of around e) r children) := by
  induction children generalizing r with
  | nil => exact .pure r
  | cons first rest ih =>
    have ih := ih fun child hc => within child (List.mem_cons_of_mem first hc)
    cases first with
    | text content =>
      refine .bind (adds_here fun lazily => adds_raiseIfError lazily ?_) fun _ => ih r
      exact fun v refused => path_of_text refused
    | element child declared matched =>
      obtain ⟨contained, asDeclared, asMatched⟩ := within _ List.mem_cons_self
      have inside {look : Look} (h : Adds (IsWithin (around ++ [e.name]) child) look) :
          Adds (IsWithin around e) look := h.mono fun _ => isWithin_of_child contained
      simp only [checkChildren, Context.of_cons]
      split
      · rename_i v refused
        refine .bind (inside (adds_here fun lazily => adds_raise lazily ?_)) fun _ => ih r
        exact path_of_element refused
      · rename_i symbol next _
        cases symbol with
        | element name id => exact .bind (inside (asDeclared id)) fun _ => ih next
        | wildcard w => exact .bind (inside (asMatched w.process)) fun _ => ih next

theorem adds_checkTyped {children : List Child}
    (within : ∀ child ∈ children, child.IsWithin around e) (type : TypeId)
    (constraint : Option ValueConstraint) :
    Adds (IsWithin around e) (checkTyped m e children (.of around e) type constraint) := by
  unfold checkTyped
  split
  · exact adds_here fun lazily => adds_raise lazily rfl
  · rename_i content _
    dsimp only
    split
    case' h_1 =>
      refine .bind (adds_here fun lazily => adds_checkAttributes lazily _) fun _ => ?_
    case' h_2 => refine .bind (adds_here fun lazily => adds_forbidAttributes lazily) fun _ => ?_
    -- The content is looked at in the same way whatever the attributes are.
    all_goals
      cases content with
      | empty => exact adds_here fun lazily => adds_checkNothing lazily _
      | simple valueType =>
        dsimp only
        split
        · exact adds_here fun lazily => adds_raise lazily rfl
        · exact adds_here fun lazily => adds_checkText lazily _ _
      | elements automaton mixed =>
        refine .bind (adds_checkChildren within _) fun r => ?_
        refine .bind (adds_here fun lazily => adds_raiseIfError lazily ?_) fun _ => ?_
        · exact fun v refused => path_of_finish refused
        split
        · exact adds_here fun lazily => adds_checkFixedText lazily _
        · exact .pure ()

theorem adds_checkDeclared {children : List Child}
    (within : ∀ child ∈ children, child.IsWithin around e) (id : ElementId) :
    Adds (IsWithin around e) (checkDeclared m e children (.of around e) id) := by
  unfold checkDeclared
  split
  · exact .pure ()
  · rename_i decl declared
    have typed := adds_checkTyped (m := m) within (m.elementType id) decl.constraint
    have raise {v : Violation} (nowhere : v.path = none) :
        Adds (IsWithin around e) ((Context.of around e).raise v) :=
      adds_here fun lazily => adds_raise lazily nowhere
    dsimp only
    split
    · exact typed
    · split
      · split
        · exact adds_here fun lazily => adds_checkNil lazily _
        · exact .bind (raise rfl) fun _ => typed
      · split
        · exact .bind (raise rfl) fun _ => typed
        · exact typed

theorem adds_checkMatched {children : List Child}
    (within : ∀ child ∈ children, child.IsWithin around e) (process : ProcessContents) :
    Adds (IsWithin around e) (checkMatched m e children (.of around e) process) := by
  unfold checkMatched
  split
  · exact .pure ()
  · split
    · exact adds_checkDeclared within _
    · split
      · exact adds_here fun lazily => adds_raise lazily rfl
      · refine .forM fun child hc => ?_
        cases child with
        | text content => exact .pure ()
        | element inner declared matched =>
          obtain ⟨contained, -, asMatched⟩ := within _ hc
          dsimp only
          rw [Context.of_cons]
          exact (asMatched .lax).mono fun _ => isWithin_of_child contained

mutual

/-- By induction on the tree: what is found inside an element is found before the rest is looked
at. -/
theorem isWithin_child {e : Element} (m : Model) (n : Node) (there : n ∈ e.nodes)
    (around : List QName) :
    (child m n).IsWithin around e := by
  cases n with
  | text content => exact trivial
  | element tag nodes =>
    have inside := isWithin_childrenOf (e := ⟨tag, nodes⟩) m nodes (List.Subset.refl nodes)
      (around ++ [e.name])
    exact ⟨List.mem_filterMap.mpr ⟨_, there, rfl⟩, adds_checkDeclared inside,
      adds_checkMatched inside⟩

theorem isWithin_childrenOf {e : Element} (m : Model) (ns : List Node) (there : ns ⊆ e.nodes)
    (around : List QName) : ∀ child ∈ childrenOf m ns, child.IsWithin around e := by
  cases ns with
  | nil => simp [childrenOf]
  | cons n ns =>
    obtain ⟨first, rest⟩ := List.cons_subset.mp there
    exact List.forall_mem_cons.mpr
      ⟨isWithin_child m n first around, isWithin_childrenOf m ns rest around⟩

end

/-- What a lazy validation finds is found at some element of the document. -/
theorem isWithin_of_mem_violations {document : Document} {root : Element}
    (there : document.root = some root) {v : Violation} (found : v ∈ violations m document) :
    IsWithin [] root v := by
  have look : Adds (IsWithin [] root) (checkDocument m .lazy document) := by
    unfold checkDocument
    rw [there]
    dsimp only
    split
    · exact adds_here fun lazily => adds_raise lazily rfl
    · split
      · exact adds_here fun lazily => adds_raise lazily rfl
      · exact adds_checkDeclared (isWithin_childrenOf m root.nodes (List.Subset.refl _) []) _
  obtain ⟨⟨⟩, collected, runs, within⟩ := look []
  have same : violations m document = collected := by
    rw [violations, result, runs, List.nil_append]
  exact within v (same ▸ found)

end Validation

end Xsd
