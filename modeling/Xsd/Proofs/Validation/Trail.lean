import Xsd.Proofs.Validation.Abstract
import Xsd.Proofs.Validation.Places

/-!
# The trail of a validation

A validation can keep the names of the open elements as a stack that it changes as it goes: it puts
a name on the stack before it looks at an element and takes one away after that. This comes to the
same as telling each look its place. Whatever happens inside an element, the stack is afterwards as
it was before.
-/

namespace Xsd.Validation

variable {α β : Type} {m : Model} {mode : ValidationMode} {e : Element}

/-- The names of the elements that are open, the innermost last, and what has been collected. -/
structure Trail where
  path : List String
  collected : List Violation

/-- A look that changes the trail as it goes. -/
abbrev Walk (α : Type) : Type := ExceptT Violation (StateM Trail) α

/-- Look at the place to which the trail leads, without going inside. -/
def here (mode : ValidationMode)
    (look : Context → ExceptT Violation (StateM (List Violation)) α) : Walk α :=
  ExceptT.mk fun t =>
    let (a, collected) := (look ⟨mode, t.path⟩).run.run t.collected
    (a, ⟨t.path, collected⟩)

/-- Put a name on the stack. -/
def push (name : QName) : Walk Unit :=
  modify fun t => { t with path := t.path ++ [name.clark] }

/-- Take the last name from the stack. -/
def pop : Walk Unit := modify fun t => { t with path := t.path.dropLast }

/-- Go inside an element and come back. A violation that ends the walk keeps it from coming
back. -/
def inside (name : QName) (walk : Walk α) : Walk α := do
  push name
  let a ← walk
  pop
  return a

/-- Walk through an element of the type. -/
def walkTyped (m : Model) (mode : ValidationMode) (e : Element)
    (content : ContentRun → Walk ContentRun) (type : TypeId)
    (constraint : Option ValueConstraint) : Walk Unit := do
  match m.contentModel? type with
  | none => here mode fun c => c.raise (notCompiled m type)
  | some model =>
    match m.derived.complex? type with
    | some t => here mode fun c => checkAttributes m c e t
    | none => here mode fun c => forbidAttributes c e
    match model with
    | .empty => here mode fun c => checkNothing c e emptyContent
    | .simple _ =>
      match e.children with
      | child :: _ => here mode fun c => c.raise (unexpectedElement child.name simpleContent)
      | [] => here mode fun c => checkText m c e type constraint
    | .elements automaton mixed =>
      let r ← content (.start automaton mixed)
      here mode fun c => c.raiseIfError r.finish
      if mixed then here mode fun c => checkFixedText c e constraint

/-- Walk through an element that the declaration describes. -/
def walkDeclared (m : Model) (mode : ValidationMode) (e : Element)
    (content : ContentRun → Walk ContentRun) (id : ElementId) : Walk Unit := do
  match m.arena.element? id with
  | none => return ()
  | some decl =>
    let type := m.elementType id
    let typed := walkTyped m mode e content type decl.constraint
    match nilText? e with
    | none => typed
    | some word =>
      if word == "true" || word == "1" then
        if decl.nillable then here mode fun c => checkNil m e c type
        else
          here mode fun c =>
            c.raise (.of .invalidValue s!"Element '{e.name.clark}' is not nillable")
          typed
      else
        if !(word == "false" || word == "0") then
          here mode fun c => c.raise (.of .invalidValue s!"Invalid xsi:nil value '{word}'")
        typed

/-- Walk through an element that a wildcard admits. -/
def walkMatched (m : Model) (mode : ValidationMode) (e : Element)
    (content : ContentRun → Walk ContentRun) (unknown : Walk Unit) (process : ProcessContents) :
    Walk Unit :=
  if process = .skip then return ()
  else
    match m.globalElement? e.name with
    | some id => walkDeclared m mode e content id
    | none =>
      if process = .strict then
        here mode fun c => c.raise (.of .unknownComponent
          s!"No global declaration for element '{e.name.clark}' matched by a strict wildcard")
      else unknown

mutual

/-- Walk through what an element contains while an automaton reads it. -/
def walkContent (m : Model) (mode : ValidationMode) : List Node → ContentRun → Walk ContentRun
  | [], r => return r
  | .text content :: ns, r => do
    here mode fun c => c.raiseIfError (r.text content)
    walkContent m mode ns r
  | .element tag nodes :: ns, r => do
    let next ← inside tag.name do
      match r.element tag.name with
      | .error v =>
        here mode fun c => c.raise v
        return r
      | .ok (.element _ id, next) =>
        walkDeclared m mode ⟨tag, nodes⟩ (walkContent m mode nodes) id
        return next
      | .ok (.wildcard w, next) =>
        walkMatched m mode ⟨tag, nodes⟩ (walkContent m mode nodes) (walkUnknown m mode nodes)
          w.process
        return next
    walkContent m mode ns next

/-- Walk through what is inside an element of which nothing is known. -/
def walkUnknown (m : Model) (mode : ValidationMode) : List Node → Walk Unit
  | [] => return ()
  | .text _ :: ns => walkUnknown m mode ns
  | .element tag nodes :: ns => do
    inside tag.name (walkMatched m mode ⟨tag, nodes⟩ (walkContent m mode nodes)
      (walkUnknown m mode nodes) .lax)
    walkUnknown m mode ns

end

/-- Walk through a document. The root stays open. -/
def walkDocument (m : Model) (mode : ValidationMode) (document : Document) : Walk Unit := do
  match document.root with
  | none => here mode fun c => c.raise (.of .incompleteContent "Document has no root element")
  | some root =>
    push root.name
    match m.globalElement? root.name with
    | none =>
      here mode fun c => c.raise (.of .unknownComponent
        s!"No global element declaration for root element '{root.name.clark}'")
    | some id =>
      if ((m.arena.element? id).map (·.isAbstract)).getD false then
        here mode fun c =>
          c.raise (.of .unexpectedElement s!"Root element '{root.name.clark}' is declared abstract")
      else walkDeclared m mode root (walkContent m mode root.nodes) id

/-! ## Walks and looks -/

/-- From anywhere the walk gets to its end, and then the stack is what it was. -/
def ComesBack (walk : Walk α) : Prop :=
  ∀ t, ∃ a found, walk.run.run t = (.ok a, ⟨t.path, t.collected ++ found⟩)

/-- If the walk gets to its end, then the stack is what it was. -/
def Restores (walk : Walk α) : Prop :=
  ∀ t a t', walk.run.run t = (.ok a, t') → t'.path = t.path

/-- From any place the walk does what the look does there, and if it gets to its end, the stack is
what it was. -/
def Follows (mode : ValidationMode) (walk : Walk α)
    (look : Context → ExceptT Violation (StateM (List Violation)) α) : Prop :=
  ∀ path collected, ∃ last,
    walk.run.run ⟨path, collected⟩ =
      (((look ⟨mode, path⟩).run.run collected).1,
        ⟨last, ((look ⟨mode, path⟩).run.run collected).2⟩) ∧
    ∀ a, ((look ⟨mode, path⟩).run.run collected).1 = .ok a → last = path

namespace Follows

variable {walk : Walk α} {look : Context → ExceptT Violation (StateM (List Violation)) α}

theorem here (look : Context → ExceptT Violation (StateM (List Violation)) α) :
    Follows mode (here mode look) look :=
  fun path _ => ⟨path, rfl, fun _ _ => rfl⟩

theorem pure (a : α) : Follows mode (Pure.pure a) fun _ => Pure.pure a :=
  fun path _ => ⟨path, rfl, fun _ _ => rfl⟩

/-- Where the first part ends the walk, so it ends the look. -/
theorem bind (h : Follows mode walk look) {more : α → Walk β}
    {next : α → Context → ExceptT Violation (StateM (List Violation)) β}
    (follows : ∀ a, Follows mode (more a) (next a)) :
    Follows mode (walk >>= more) fun c => look c >>= fun a => next a c := by
  intro path collected
  obtain ⟨last, runs, back⟩ := h path collected
  rw [ExceptT.run_bind, StateT.run_bind, runs, ExceptT.run_bind, StateT.run_bind]
  rcases found : (look ⟨mode, path⟩).run.run collected with ⟨v | a, vs⟩
  · exact ⟨last, rfl, fun a ended => by cases ended⟩
  · rw [found] at back
    obtain rfl := back a rfl
    exact follows a _ vs

/-- The name that has been put on the stack is taken away again. -/
theorem inside (h : Follows mode walk look) (name : QName) :
    Follows mode (inside name walk) fun c => look (c.enter name) := by
  intro path collected
  obtain ⟨last, runs, back⟩ := h (path ++ [name.clark]) collected
  have opened : (Validation.inside name walk).run.run ⟨path, collected⟩ =
      (walk >>= fun a => pop >>= fun _ => Pure.pure a).run.run ⟨path ++ [name.clark], collected⟩ :=
    rfl
  rw [opened, ExceptT.run_bind, StateT.run_bind, runs]
  simp only [Context.enter]
  rcases found : (look ⟨mode, path ++ [name.clark]⟩).run.run collected with ⟨v | a, vs⟩
  · exact ⟨last, rfl, fun a ended => by cases ended⟩
  · rw [found] at back
    obtain rfl := back a rfl
    exact ⟨(path ++ [name.clark]).dropLast, rfl, fun _ _ => List.dropLast_concat⟩

/-- In lazy mode the look gets to its end, and so does the walk. -/
theorem comesBack (h : Follows .lazy walk look) (lazily : InStep m look) : ComesBack walk := by
  intro t
  obtain ⟨last, runs, back⟩ := h t.path t.collected
  obtain ⟨a, found, -, ends⟩ := lazily t.path
  rw [(ends t.collected).1] at runs back
  rw [back a rfl] at runs
  exact ⟨a, found, runs⟩

theorem restores (h : Follows mode walk look) : Restores walk := by
  intro t a t' ended
  obtain ⟨last, runs, back⟩ := h t.path t.collected
  obtain ⟨result, rfl⟩ := Prod.mk.inj (runs.symm.trans ended)
  exact back a result

end Follows

section

variable {content : ContentRun → Walk ContentRun} {children : List Child}

theorem follows_walkTyped
    (follows : ∀ r, Follows mode (content r) fun c => checkChildren c r children) (type : TypeId)
    (constraint : Option ValueConstraint) :
    Follows mode (walkTyped m mode e content type constraint)
      fun c => checkTyped m e children c type constraint := by
  unfold walkTyped checkTyped
  cases m.contentModel? type with
  | none => exact .here _
  | some model =>
    dsimp only
    cases m.derived.complex? type
    case' some t => refine .bind (.here _) fun _ => ?_
    case' none => refine .bind (.here _) fun _ => ?_
    -- The walk goes on in the same way whatever the attributes are.
    all_goals
      cases model with
      | empty => exact .here _
      | simple valueType => cases e.children <;> exact .here _
      | elements automaton mixed =>
        refine .bind (follows _) fun r => .bind (.here _) fun _ => ?_
        split
        · exact .here _
        · exact .pure ()

theorem follows_walkDeclared
    (follows : ∀ r, Follows mode (content r) fun c => checkChildren c r children)
    (id : ElementId) :
    Follows mode (walkDeclared m mode e content id) fun c => checkDeclared m e children c id := by
  unfold walkDeclared checkDeclared
  cases m.arena.element? id with
  | none => exact .pure ()
  | some decl =>
    have typed := follows_walkTyped (m := m) (e := e) follows (m.elementType id) decl.constraint
    dsimp only
    cases nilText? e with
    | none => exact typed
    | some word =>
      dsimp only
      split
      · split
        · exact .here _
        · exact .bind (.here _) fun _ => typed
      · split
        · exact .bind (.here _) fun _ => typed
        · exact typed

theorem follows_walkMatched {unknown : Walk Unit}
    (follows : ∀ r, Follows mode (content r) fun c => checkChildren c r children)
    (inner : Follows mode unknown fun c => children.forM fun
      | .text _ => return ()
      | .element inner _ matched => matched (c.enter inner.name) .lax)
    (process : ProcessContents) :
    Follows mode (walkMatched m mode e content unknown process)
      fun c => checkMatched m e children c process := by
  unfold walkMatched checkMatched
  split
  · exact .pure ()
  · cases m.globalElement? e.name with
    | some id => exact follows_walkDeclared follows id
    | none =>
      dsimp only
      split
      · exact .here _
      · exact inner

end

mutual

/-- By induction on the tree: the walk through the content of an element uses that the walks
through the elements inside restore the stack. -/
theorem follows_walkContent (m : Model) (mode : ValidationMode) (ns : List Node) (r : ContentRun) :
    Follows mode (walkContent m mode ns r) fun c => checkChildren c r (childrenOf m ns) := by
  cases ns with
  | nil =>
    simp only [walkContent, childrenOf, checkChildren]
    exact .pure r
  | cons n ns =>
    have rest := follows_walkContent m mode ns
    cases n with
    | text content =>
      simp only [walkContent, childrenOf, child, checkChildren]
      exact .bind (.here _) fun _ => rest r
    | element tag nodes =>
      have content := follows_walkContent m mode nodes
      simp only [walkContent, childrenOf, child, checkChildren, Element.name]
      have comeBack {walk : Walk Unit} {look : Context → Look} (h : Follows mode walk look)
          (next : ContentRun) :
          Follows mode
            (inside tag.name (walk >>= fun _ => pure next) >>= fun r => walkContent m mode ns r)
            fun c => look (c.enter tag.name) >>= fun _ =>
              checkChildren c next (childrenOf m ns) := by
        simpa only [bind_assoc, pure_bind] using
          ((h.bind fun _ => .pure next).inside tag.name).bind rest
      cases r.element tag.name with
      | error v => exact comeBack (.here _) r
      | ok read =>
        obtain ⟨symbol, next⟩ := read
        cases symbol with
        | element name id => exact comeBack (follows_walkDeclared content id) next
        | wildcard w =>
          exact comeBack
            (follows_walkMatched content (follows_walkUnknown m mode nodes) w.process) next

theorem follows_walkUnknown (m : Model) (mode : ValidationMode) (ns : List Node) :
    Follows mode (walkUnknown m mode ns) fun c => (childrenOf m ns).forM fun
      | .text _ => return ()
      | .element inner _ matched => matched (c.enter inner.name) .lax := by
  cases ns with
  | nil =>
    simp only [walkUnknown, childrenOf]
    exact .pure ()
  | cons n ns =>
    have rest := follows_walkUnknown m mode ns
    cases n with
    | text content =>
      simp only [walkUnknown, childrenOf, child]
      exact .bind (.pure ()) fun _ => rest
    | element tag nodes =>
      have matched := follows_walkMatched (m := m) (e := ⟨tag, nodes⟩)
        (follows_walkContent m mode nodes) (follows_walkUnknown m mode nodes) .lax
      simp only [walkUnknown, childrenOf, child]
      exact .bind (matched.inside tag.name) fun _ => rest

end

/-- Walk through an element by way of a declaration. -/
abbrev walkElement (m : Model) (mode : ValidationMode) (e : Element) (id : ElementId) : Walk Unit :=
  walkDeclared m mode e (walkContent m mode e.nodes) id

/-- Walk through an element by way of a wildcard. -/
abbrev walkWildcard (m : Model) (mode : ValidationMode) (e : Element) (process : ProcessContents) :
    Walk Unit :=
  walkMatched m mode e (walkContent m mode e.nodes) (walkUnknown m mode e.nodes) process

theorem follows_walkElement (m : Model) (mode : ValidationMode) (e : Element) (id : ElementId) :
    Follows mode (walkElement m mode e id)
      fun c => checkDeclared m e (childrenOf m e.nodes) c id :=
  follows_walkDeclared (follows_walkContent m mode e.nodes) id

theorem follows_walkWildcard (m : Model) (mode : ValidationMode) (e : Element)
    (process : ProcessContents) :
    Follows mode (walkWildcard m mode e process)
      fun c => checkMatched m e (childrenOf m e.nodes) c process :=
  follows_walkMatched (follows_walkContent m mode e.nodes) (follows_walkUnknown m mode e.nodes)
    process

/-- The walk through a document does what the look at it does. Only the root is still open when it
has got to its end. -/
theorem walkDocument_eq (m : Model) (mode : ValidationMode) {document : Document} {root : Element}
    (there : document.root = some root) (collected : List Violation) :
    ∃ last, (walkDocument m mode document).run.run ⟨[], collected⟩ =
      (((checkDocument m mode document).run.run collected).1,
        ⟨last, ((checkDocument m mode document).run.run collected).2⟩) ∧
      ∀ a, ((checkDocument m mode document).run.run collected).1 = .ok a →
        last = [root.name.clark] := by
  have opened (walk : Walk Unit) : (push root.name >>= fun _ => walk).run.run ⟨[], collected⟩ =
      walk.run.run ⟨[root.name.clark], collected⟩ := rfl
  simp only [walkDocument, checkDocument, there, opened]
  cases m.globalElement? root.name with
  | none => exact Follows.here _ _ _
  | some id =>
    dsimp only
    split
    · exact Follows.here _ _ _
    · exact follows_walkElement m mode root id _ _

/-- All violations of a document with a root are found at elements of it, and the walk that keeps a
stack finds the same. Whatever it finds inside of an element, it comes back with the stack that it
went there with. -/
theorem lazy_trail (m : Model) {document : Document} {root : Element}
    (there : document.root = some root) :
    (∀ v ∈ violations m document, ∃ names inner, root.Way names inner ∧
      v.path = some (Context.pathText ⟨.lazy, names.map (·.clark)⟩)) ∧
    (walkDocument m .lazy document).run.run ⟨[], []⟩ =
      (.ok (), ⟨[root.name.clark], violations m document⟩) ∧
    (∀ e id, ComesBack (walkElement m .lazy e id)) ∧
    (∀ e process, ComesBack (walkWildcard m .lazy e process)) ∧
    (∀ mode e id, Restores (walkElement m mode e id)) ∧
    ∀ mode e process, Restores (walkWildcard m mode e process) := by
  refine ⟨fun v found => ?_, ?_, fun e id => ?_, fun e process => ?_, fun mode e id => ?_,
    fun mode e process => ?_⟩
  · exact isWithin_of_mem_violations there found
  · obtain ⟨last, runs, back⟩ := walkDocument_eq m .lazy there []
    obtain ⟨look, inStep, same⟩ := inStep_checkDocument m document
    obtain ⟨⟨⟩, found, -, ends⟩ := inStep []
    have looked : (checkDocument m .lazy document).run.run [] = (.ok (), found) := by
      rw [same, (ends []).1, List.nil_append]
    have collected : violations m document = found := by rw [violations, result, looked]
    rw [looked] at runs back
    rw [runs, back () rfl, collected]
  · exact (follows_walkElement m .lazy e id).comesBack
      (inStep_checkDeclared (areInStep_childrenOf m e.nodes) id)
  · exact (follows_walkWildcard m .lazy e process).comesBack
      (inStep_checkMatched (areInStep_childrenOf m e.nodes) process)
  · exact (follows_walkElement m mode e id).restores
  · exact (follows_walkWildcard m mode e process).restores

/-- A drawing of a circle that has a shape in it, and then of a shape. -/
def sketch : Document :=
  ⟨.memory "sketch.xml",
    some ⟨bareTag "drawing", [bare "circle" [bare "shape" []], bare "shape" []]⟩⟩

/-- Nothing may be in a circle. -/
theorem violations_sketch (isDrawings : m.IsDrawings)
    (content : m.contentModel? ⟨48⟩ = some (.elements Model.drawingAutomaton false)) :
    violations m sketch = [{ unexpectedElement (Model.drawingName "shape") emptyContent with
      path := some "/drawing/circle" }] := by
  obtain ⟨global, -, -, root⟩ := isDrawings.globalElement?
  obtain ⟨shapeType, circleType, -, type⟩ := isDrawings.elementType
  obtain ⟨shapeDecl, circleDecl, -, decl⟩ := isDrawings.element?
  obtain ⟨⟨t, shapeTyped, -, shapeBare⟩, ⟨t', circleTyped, -, circleRadius⟩, t'', typed, -,
    drawingBare⟩ := isDrawings.complex?
  obtain ⟨shapeEmpty, circleEmpty⟩ := isDrawings.contentModel?
  obtain ⟨first, second⟩ := element_drawingAutomaton
  rw [← type] at content typed
  rw [← shapeType] at shapeEmpty shapeTyped
  rw [← circleType] at circleEmpty circleTyped
  have shape (c : Context) :
      checkMatched m ⟨bareTag "shape", []⟩ [] c Wildcard.anyLax.process = return () := by
    rw [checkMatched, if_neg (by decide), Element.name, bareTag_name, global]
    exact checkDeclared_of_empty shapeDecl shapeTyped (by simp [shapeBare, Table.empty]) shapeEmpty
      "shape" [] [] c
  have circle := checkDeclared_of_empty circleDecl circleTyped
    (by simp [circleRadius, Model.radius]) circleEmpty "circle" [.element (bareTag "shape") []]
  have drawing := checkDeclared_of_elementOnly decl typed (by simp [drawingBare, Table.empty])
    content "drawing"
  simp only [violations, checkDocument, sketch, Element.name, bareTag_name, root, decl, drawing,
    bare, childrenOf, child, checkChildren, first, second, circle, shape]
  rfl

/-- What is wrong with the circle is found at the circle. The walk comes back from it, goes on to the
shape, and ends at the drawing. -/
theorem lazy_trail_sketch : ∃ m, Model.compile ⟨none, .standard⟩ [Model.drawings] = .ok m ∧
    (∃ v ∈ violations m sketch, v.path = some "/drawing/circle") ∧
    ∃ root, sketch.root = some root ∧
      (∀ v ∈ violations m sketch, ∃ names inner, root.Way names inner ∧
        v.path = some (Context.pathText ⟨.lazy, names.map (·.clark)⟩)) ∧
      (walkDocument m .lazy sketch).run.run ⟨[], []⟩ =
        (.ok (), ⟨["drawing"], violations m sketch⟩) := by
  obtain ⟨m, compiled, isDrawings, content⟩ := Model.exists_drawings
  obtain ⟨root, there⟩ : ∃ root, sketch.root = some root := ⟨_, rfl⟩
  obtain ⟨places, walk, -⟩ := lazy_trail m there
  cases there
  refine ⟨m, compiled, ?_, _, rfl, places, walk⟩
  rw [violations_sketch isDrawings content]
  exact ⟨_, List.mem_cons_self, rfl⟩

end Xsd.Validation
