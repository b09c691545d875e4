import Xsd.Proofs.Validation.EmptyElement

/-!
# Events and elements

The content of an element can be looked at by itself, as a sequence of events, or together with the
element in a document. What a lazy look at an element finds is told apart by what it concerns: what
the element says about being nil, its attributes, its own content, or an element inside. Nothing is
wrong with the events just if nothing found concerns the own content.
-/

namespace Xsd

/-- A piece of content as an event. Of an element only the name counts. -/
def Node.event : Node → Validation.ContentEvent
  | .text content => .text content
  | .element tag _ => .element tag.name

namespace Validation

variable {α β : Type} {m : Model} {e : Element} {path : List String}

/-! ## What a lazy look collects -/

def collected (look : ExceptT Violation (StateM (List Violation)) α) : List Violation :=
  (look.run.run []).2

theorem InStep.collects {look : Context → ExceptT Violation (StateM (List Violation)) α}
    (h : InStep m look) (path : List String) : ∃ a, ∀ vs,
      (look ⟨.lazy, path⟩).run.run vs = (.ok a, vs ++ collected (look ⟨.lazy, path⟩)) := by
  obtain ⟨a, found, -, runs⟩ := h path
  have same : collected (look ⟨.lazy, path⟩) = found := by
    rw [collected, (runs []).1, List.nil_append]
  exact ⟨a, fun vs => same ▸ (runs vs).1⟩

theorem InStep.result_eq {look : Context → Look} (h : InStep m look) (path : List String) :
    result (look ⟨.lazy, path⟩) = .ok (collected (look ⟨.lazy, path⟩)) := by
  obtain ⟨⟨⟩, runs⟩ := h.collects path
  rw [result, runs, List.nil_append]

/-- What the second part finds comes after what the first one does. -/
theorem collected_then {x : Context → Look}
    {y : Context → ExceptT Violation (StateM (List Violation)) β} (hx : InStep m x)
    (hy : InStep m y) : collected (x ⟨.lazy, path⟩ >>= fun _ => y ⟨.lazy, path⟩) =
      collected (x ⟨.lazy, path⟩) ++ collected (y ⟨.lazy, path⟩) := by
  obtain ⟨⟨⟩, first⟩ := hx.collects path
  obtain ⟨b, second⟩ := hy.collects path
  conv_lhs => rw [collected, ExceptT.run_bind, StateT.run_bind, first]
  exact congrArg Prod.snd (second _)

theorem collected_raise (v : Violation) : collected (Context.raise ⟨.lazy, path⟩ v) =
    [{ v with path := some (v.path.getD (Context.pathText ⟨.lazy, path⟩)) }] := rfl

theorem collected_raise_ne_nil (v : Violation) :
    collected (Context.raise ⟨.lazy, path⟩ v) ≠ [] := by
  rw [collected_raise]
  exact List.cons_ne_nil _ _

theorem collected_raiseIfError {x : Except Violation Unit} :
    collected (Context.raiseIfError ⟨.lazy, path⟩ x) = [] ↔ x = .ok () := by
  cases x with
  | ok a => exact iff_of_true rfl rfl
  | error v => exact iff_of_false (collected_raise_ne_nil v) nofun

/-! ## What it concerns -/

/-- What a violation that is found with an element concerns. -/
inductive Concern where
  | nil
  | attributes
  | content
  /-- Some element inside. -/
  | inside
deriving DecidableEq, Repr

structure Finding where
  concern : Concern
  violation : Violation

/-- What a part of a look finds. -/
def Concern.findings (k : Concern) (look : Look) : List Finding :=
  (collected look).map (Finding.mk k)

/-- Look at content that is a simple value. -/
def checkSimple (m : Model) (e : Element) (c : Context) (type : TypeId)
    (constraint : Option ValueConstraint) : Look :=
  match e.children with
  | child :: _ => c.raise (unexpectedElement child.name simpleContent)
  | [] => checkText m c e type constraint

/-- What is found while an automaton reads what an element contains. An element that it can read is
looked at, and what is found with that one is found inside. -/
def readFindings (m : Model) (path : List String) (r : ContentRun) : List Node → List Finding
  | [] => Concern.content.findings (Context.raiseIfError ⟨.lazy, path⟩ r.finish)
  | .text content :: rest =>
    Concern.content.findings (Context.raiseIfError ⟨.lazy, path⟩ (r.text content)) ++
      readFindings m path r rest
  | .element tag nodes :: rest =>
    let inside := Context.enter ⟨.lazy, path⟩ tag.name
    match r.element tag.name with
    | .error v => Concern.content.findings (inside.raise v) ++ readFindings m path r rest
    | .ok (symbol, next) =>
      Concern.inside.findings
          (match symbol with
          | .element _ id => checkDeclared m ⟨tag, nodes⟩ (childrenOf m nodes) inside id
          | .wildcard w =>
            checkMatched m ⟨tag, nodes⟩ (childrenOf m nodes) inside w.process) ++
        readFindings m path next rest

/-- What a lazy look at an element that is not nil finds, in the order in which it does. -/
def findings (m : Model) (path : List String) (e : Element) (type : TypeId)
    (constraint : Option ValueConstraint) : List Finding :=
  let c : Context := ⟨.lazy, path⟩
  Concern.nil.findings (checkNilWord c e) ++
    match m.contentModel? type with
    | none => Concern.content.findings (c.raise (notCompiled m type))
    | some content =>
      Concern.attributes.findings (checkOutside m c e type) ++
        match content with
        | .empty => Concern.content.findings (checkNothing c e emptyContent)
        | .simple _ => Concern.content.findings (checkSimple m e c type constraint)
        | .elements automaton mixed =>
          readFindings m path (.start automaton mixed) e.nodes ++
            Concern.content.findings (if mixed then checkFixedText c e constraint else return ())

@[simp] theorem Concern.map_violation_findings (k : Concern) (look : Look) :
    (k.findings look).map (·.violation) = collected look := by
  rw [Concern.findings, List.map_map]
  exact List.map_id _

/-- Let an automaton read what an element contains, up to its end. -/
def readContent (c : Context) (r : ContentRun) (children : List Child) : Look := do
  let r ← checkChildren c r children
  c.raiseIfError r.finish

theorem inStep_finish (r : ContentRun) : InStep m fun c => c.raiseIfError r.finish :=
  .raiseIfError fun v refused => by
    rw [kind_of_finish refused]
    rfl

theorem inStep_text (r : ContentRun) (content : String) :
    InStep m fun c => c.raiseIfError (r.text content) :=
  .raiseIfError fun v refused => by
    rw [kind_of_text refused]
    rfl

theorem inStep_readContent {children : List Child} (h : ∀ c ∈ children, c.AreInStep m)
    (r : ContentRun) : InStep m fun c => readContent c r children :=
  .bind (inStep_checkChildren h r) fun r => inStep_finish r

/-- By induction on what the element contains, the automaton being in the same state. -/
theorem map_violation_readFindings (nodes : List Node) (r : ContentRun) :
    (readFindings m path r nodes).map (·.violation) =
      collected (readContent ⟨.lazy, path⟩ r (childrenOf m nodes)) := by
  induction nodes generalizing r with
  | nil =>
    rw [readFindings, Concern.map_violation_findings]
    rfl
  | cons n ns ih =>
    have rest := areInStep_childrenOf m ns
    cases n with
    | text content =>
      rw [readFindings, List.map_append, Concern.map_violation_findings, ih]
      refine (collected_then (inStep_text r content) (inStep_readContent rest r)).symm.trans ?_
      rw [readContent, readContent, childrenOf, child, checkChildren, bind_assoc]
    | element tag nodes =>
      have inside := areInStep_childrenOf m nodes
      rw [readContent, childrenOf, child, checkChildren]
      simp only [readFindings, Element.name]
      cases read : r.element tag.name with
      | error v =>
        have kind : (v.kind != .unknownComponent) = true := by
          rw [kind_of_element read]
          rfl
        dsimp only
        rw [List.map_append, Concern.map_violation_findings, ih, bind_assoc]
        exact (collected_then ((InStep.raiseKind kind).enter tag.name)
          (inStep_readContent rest r)).symm
      | ok result =>
        obtain ⟨symbol, next⟩ := result
        dsimp only
        rw [List.map_append, Concern.map_violation_findings, ih]
        cases symbol with
        | element name id =>
          dsimp only
          rw [bind_assoc]
          exact (collected_then ((inStep_checkDeclared inside id).enter tag.name)
            (inStep_readContent rest next)).symm
        | wildcard w =>
          dsimp only
          rw [bind_assoc]
          exact (collected_then ((inStep_checkMatched inside w.process).enter tag.name)
            (inStep_readContent rest next)).symm

theorem inStep_checkOutside (type : TypeId) : InStep m fun c => checkOutside m c e type := by
  unfold checkOutside
  split
  · exact inStep_checkAttributes _
  · exact inStep_forbidAttributes

theorem inStep_checkNilWord : InStep m fun c => checkNilWord c e := by
  unfold checkNilWord
  split
  · exact .pure ()
  · split
    · exact .raiseKind rfl
    · split
      · exact .raiseKind rfl
      · exact .pure ()

/-- Look at what an element contains. -/
def checkContent (m : Model) (e : Element) (children : List Child) (c : Context) (type : TypeId)
    (constraint : Option ValueConstraint) : ContentModel → Look
  | .empty => checkNothing c e emptyContent
  | .simple _ => checkSimple m e c type constraint
  | .elements automaton mixed => do
    readContent c (.start automaton mixed) children
    if mixed then checkFixedText c e constraint else return ()

theorem checkTyped_of_contentModel? {type : TypeId} {content : ContentModel}
    (h : m.contentModel? type = some content) (children : List Child) (c : Context)
    (constraint : Option ValueConstraint) :
    checkTyped m e children c type constraint = (do
      checkOutside m c e type
      checkContent m e children c type constraint content) := by
  rw [checkTyped, h, checkOutside]
  cases m.derived.complex? type <;> cases content <;> dsimp only [checkContent]
  case none.simple => unfold checkSimple; cases e.children <;> rfl
  case some.simple => unfold checkSimple; cases e.children <;> rfl
  all_goals simp only [readContent, bind_assoc]

theorem inStep_checkSimple (type : TypeId) (constraint : Option ValueConstraint) :
    InStep m fun c => checkSimple m e c type constraint := by
  unfold checkSimple
  split
  · exact .raiseKind rfl
  · exact inStep_checkText _ _

theorem inStep_checkMixed (mixed : Bool) (constraint : Option ValueConstraint) :
    InStep m fun c => if mixed then checkFixedText c e constraint else return () := by
  split
  · exact inStep_checkFixedText _
  · exact .pure ()

theorem inStep_checkContent {children : List Child} (h : ∀ c ∈ children, c.AreInStep m)
    (type : TypeId) (constraint : Option ValueConstraint) (content : ContentModel) :
    InStep m fun c => checkContent m e children c type constraint content := by
  cases content with
  | empty => exact inStep_checkNothing _
  | simple valueType => exact inStep_checkSimple type constraint
  | elements automaton mixed =>
    exact .bind (inStep_readContent h _) fun _ => inStep_checkMixed mixed constraint

/-- A lazy look at an element that is not nil collects these findings. -/
theorem map_violation_findings {id : ElementId} {decl : ElementDecl}
    (declared : m.arena.element? id = some decl) (notNil : isNil e decl = false) :
    (findings m path e (m.elementType id) decl.constraint).map (·.violation) =
      collected (checkDeclared m e (childrenOf m e.nodes) ⟨.lazy, path⟩ id) := by
  have known := Option.isSome_of_eq_some declared
  have inside := areInStep_childrenOf m e.nodes
  have typed := inStep_checkTyped (e := e) inside known decl.constraint
  rw [checkDeclared_of_not_isNil declared notNil,
    collected_then inStep_checkNilWord typed, findings, List.map_append,
    Concern.map_violation_findings]
  congr 1
  cases content : m.contentModel? (m.elementType id) with
  | none =>
    dsimp only
    rw [Concern.map_violation_findings, checkTyped, content]
  | some model =>
    have within := inStep_checkContent (e := e) inside (m.elementType id) decl.constraint model
    dsimp only
    rw [checkTyped_of_contentModel? content, collected_then (inStep_checkOutside _) within,
      List.map_append, Concern.map_violation_findings]
    congr 1
    cases model with
    | empty => exact Concern.map_violation_findings _ _
    | simple valueType => exact Concern.map_violation_findings _ _
    | elements automaton mixed =>
      rw [List.map_append, map_violation_readFindings, Concern.map_violation_findings]
      exact (collected_then (inStep_readContent inside _) (inStep_checkMixed mixed _)).symm

/-! ## The content by itself -/

theorem forall_content_iff (look : Look) :
    (∀ f ∈ Concern.content.findings look, f.concern ≠ .content) ↔ collected look = [] := by
  unfold Concern.findings
  cases collected look <;> simp

theorem forall_other {k : Concern} (other : k ≠ .content) (look : Look) :
    ∀ f ∈ k.findings look, f.concern ≠ .content := by
  intro f hf
  obtain ⟨v, -, rfl⟩ := List.mem_map.mp hf
  exact other

/-- Events end at the first one that cannot be read. The look goes on in the same state, but then
something has been found. -/
theorem runEvents_eq_ok_iff (nodes : List Node) (r : ContentRun) :
    runEvents r (nodes.map Node.event) = .ok () ↔
      ∀ f ∈ readFindings m path r nodes, f.concern ≠ .content := by
  induction nodes generalizing r with
  | nil =>
    rw [readFindings, forall_content_iff, collected_raiseIfError]
    rfl
  | cons n ns ih =>
    cases n with
    | text content =>
      rw [readFindings, List.forall_mem_append, forall_content_iff, collected_raiseIfError,
        ← ih, List.map_cons, Node.event, runEvents, then_eq_ok_iff]
    | element tag nodes =>
      rw [List.map_cons, Node.event, runEvents, readFindings]
      cases read : r.element tag.name with
      | error v =>
        dsimp only
        rw [List.forall_mem_append, forall_content_iff]
        refine iff_of_false (fun h => ?_) fun h => collected_raise_ne_nil v h.1
        cases h
      | ok result =>
        obtain ⟨symbol, next⟩ := result
        dsimp only
        rw [List.forall_mem_append, and_iff_right (forall_other (by decide) _), ← ih]
        rfl

theorem children_cons_text (tag : Tag) (content : String) (ns : List Node) :
    (Element.mk tag (.text content :: ns)).children = (Element.mk tag ns).children := rfl

theorem text_cons_text (tag : Tag) (content : String) (ns : List Node) :
    (Element.mk tag (.text content :: ns)).text = content ++ (Element.mk tag ns).text :=
  String.join_cons

theorem valueOf_eq_ok_iff (tag : Tag) (nodes : List Node) (sofar value : String) :
    valueOf sofar (nodes.map Node.event) = .ok value ↔
      (Element.mk tag nodes).children = [] ∧ value = sofar ++ (Element.mk tag nodes).text := by
  induction nodes generalizing sofar with
  | nil => simp [valueOf, Element.children, Element.text, eq_comm]
  | cons n ns ih =>
    cases n with
    | text content =>
      rw [List.map_cons, Node.event, valueOf, ih, children_cons_text, text_cons_text,
        String.append_assoc]
    | element tag' nodes =>
      rw [List.map_cons, Node.event, valueOf]
      exact iff_of_false nofun fun h => by cases h.1

/-- Without a value constraint the text is looked at as it is. -/
theorem collected_checkText {type : TypeId} :
    collected (checkText m ⟨.lazy, path⟩ e type none) = [] ↔
      ∃ literal, m.derived.checkValue type e.text = .ok literal := by
  unfold checkText
  dsimp only [Option.map_none, Option.getD_none]
  rw [ite_self]
  cases m.derived.checkValue type e.text with
  | error v => exact iff_of_false (collected_raise_ne_nil v) nofun
  | ok literal => exact iff_of_true rfl ⟨literal, rfl⟩

theorem checkSimple_iff (type : TypeId) :
    (valueOf "" (e.nodes.map Node.event) >>= fun value =>
        discard (m.derived.checkValue type value)) = .ok () ↔
      collected (checkSimple m e ⟨.lazy, path⟩ type none) = [] := by
  obtain ⟨tag, nodes⟩ := e
  simp only [bind_eq_ok_iff, valueOf_eq_ok_iff tag, discard_eq_ok_iff]
  unfold checkSimple
  cases children : (Element.mk tag nodes).children with
  | cons child rest =>
    exact iff_of_false (by simp) (collected_raise_ne_nil _)
  | nil =>
    simp only [true_and, String.empty_append, exists_eq_left]
    exact collected_checkText.symm

theorem collected_checkNothing (reason : String) :
    collected (checkNothing ⟨.lazy, path⟩ e reason) = [] ↔
      e.children = [] ∧ e.hasText = false := by
  unfold checkNothing
  cases e.children with
  | cons child rest => exact iff_of_false (collected_raise_ne_nil _) (by simp)
  | nil =>
    cases e.hasText with
    | true => exact iff_of_false (collected_raise_ne_nil _) (by simp)
    | false => exact iff_of_true rfl ⟨rfl, rfl⟩

theorem checkEmpty_iff :
    (e.nodes.map Node.event).forM checkEmpty = .ok () ↔
      collected (checkNothing ⟨.lazy, path⟩ e emptyContent) = [] := by
  rw [forM_eq_ok_iff, List.forall_mem_map, collected_checkNothing, Element.children,
    List.filterMap_eq_nil_iff, Element.hasText, List.any_eq_false, ← forall₂_and]
  refine forall₂_congr fun n _ => ?_
  cases n with
  | text content => simp [Node.event, checkEmpty]
  | element tag nodes => simp [Node.event, checkEmpty]

theorem checkEvents_iff_findings (type : TypeId) :
    checkEvents m type (e.nodes.map Node.event) = .ok () ↔
      ∀ f ∈ findings m path e type none, f.concern ≠ .content := by
  rw [checkEvents, findings, List.forall_mem_append,
    and_iff_right (forall_other (by decide) _)]
  cases m.contentModel? type with
  | none =>
    dsimp only
    rw [forall_content_iff]
    exact iff_of_false nofun (collected_raise_ne_nil _)
  | some content =>
    dsimp only
    rw [List.forall_mem_append, and_iff_right (forall_other (by decide) _)]
    cases content with
    | empty => exact checkEmpty_iff.trans (forall_content_iff _).symm
    | simple valueType => exact (checkSimple_iff type).trans (forall_content_iff _).symm
    | elements automaton mixed =>
      have unfixed : collected (if mixed then checkFixedText ⟨.lazy, path⟩ e none
          else return ()) = [] := by
        cases mixed <;> rfl
      rw [List.forall_mem_append, forall_content_iff, and_iff_left unfixed]
      exact runEvents_eq_ok_iff e.nodes _

/-! ## Elements in a document -/

/-- The look at the element of a visit and at all that is inside. -/
def Visit.whole (m : Model) (v : Visit) : Look :=
  checkDeclared m v.element (childrenOf m v.element.nodes) ⟨.lazy, v.path⟩ v.declaration

/-- What the visits to a piece of content and inside find is found there in one piece each. -/
def Encloses (m : Model) : Node → Prop
  | .text _ => True
  | .element tag nodes =>
    (∀ route path id, ∀ v ∈ visitDeclared m route path id (.element tag nodes),
      collected (v.whole m) <:+: collected (checkDeclared m ⟨tag, nodes⟩ (childrenOf m nodes)
        (Context.enter ⟨.lazy, path⟩ tag.name) id)) ∧
    ∀ process path, ∀ v ∈ visitMatched m process path (.element tag nodes),
      collected (v.whole m) <:+: collected (checkMatched m ⟨tag, nodes⟩ (childrenOf m nodes)
        (Context.enter ⟨.lazy, path⟩ tag.name) process)

theorem infix_append_left {l k : List α} (h : l <:+: k) (before : List α) : l <:+: before ++ k :=
  h.trans (List.suffix_append before k).isInfix

theorem infix_append_right {l k : List α} (h : l <:+: k) (after : List α) : l <:+: k ++ after :=
  h.trans (List.prefix_append k after).isInfix

variable {nodes : List Node}

theorem infix_readFindings (inside : ∀ n ∈ nodes, Encloses m n) (r : ContentRun) :
    ∀ v ∈ visitChildren m path r nodes,
      collected (v.whole m) <:+: (readFindings m path r nodes).map (·.violation) := by
  induction nodes generalizing r with
  | nil => simp [visitChildren]
  | cons n ns ih =>
    have rest := fun r => ih (fun n hn => inside n (List.mem_cons_of_mem _ hn)) r
    cases n with
    | text content =>
      intro v hv
      rw [readFindings, List.map_append]
      exact infix_append_left (rest r v hv) _
    | element tag nodes =>
      obtain ⟨declared, matched⟩ := inside _ List.mem_cons_self
      rw [visitChildren, readFindings]
      simp only [Node.name?]
      cases read : r.element tag.name with
      | error fault =>
        intro v hv
        dsimp only
        rw [List.map_append]
        exact infix_append_left (rest r v hv) _
      | ok result =>
        obtain ⟨symbol, next⟩ := result
        dsimp only
        simp only [List.map_append, Concern.map_violation_findings]
        cases symbol with
        | element name id =>
          intro v hv
          rcases List.mem_append.mp hv with hv | hv
          · exact infix_append_right (declared .symbol path id v hv) _
          · exact infix_append_left (rest next v hv) _
        | wildcard w =>
          intro v hv
          rcases List.mem_append.mp hv with hv | hv
          · exact infix_append_right (matched w.process path v hv) _
          · exact infix_append_left (rest next v hv) _

/-- Of an element of which nothing is known only what is inside is looked at. -/
theorem infix_unknown (inside : ∀ n ∈ nodes, Encloses m n) :
    ∀ v ∈ visitUnknown m path nodes, collected (v.whole m) <:+:
      collected ((childrenOf m nodes).forM fun
        | .text _ => return ()
        | .element inner _ matched => matched (Context.enter ⟨.lazy, path⟩ inner.name) .lax) := by
  induction nodes with
  | nil => simp [visitUnknown]
  | cons n ns ih =>
    have rest := ih fun n hn => inside n (List.mem_cons_of_mem _ hn)
    cases n with
    | text content =>
      rw [visitUnknown, visitMatched, List.nil_append]
      exact rest
    | element tag nodes =>
      obtain ⟨-, matched⟩ := inside _ List.mem_cons_self
      have within := areInStep_childrenOf m nodes
      have after : InStep m fun c => (childrenOf m ns).forM fun
          | .text _ => return ()
          | .element inner _ matched => matched (c.enter inner.name) .lax := by
        refine .forM fun other hc => ?_
        cases other with
        | text content => exact .pure ()
        | element inner declared matched =>
          exact .enter ((areInStep_childrenOf m ns _ hc).2 .lax) inner.name
      simp only [childrenOf, child, List.forM, visitUnknown]
      have look := (inStep_checkMatched (e := ⟨tag, nodes⟩) within .lax).enter tag.name
      rw [Element.name, collected_then look after]
      intro v hv
      rcases List.mem_append.mp hv with hv | hv
      · exact infix_append_right (matched .lax path v hv) _
      · exact infix_append_left (rest v hv) _

/-- Where an automaton reads what an element contains. -/
theorem infix_findings {id : ElementId} {decl : ElementDecl} {r : ContentRun}
    (declared : m.arena.element? id = some decl) (run : contentRun? m e id = some r) :
    isNil e decl = false ∧
      readFindings m path r e.nodes <:+: findings m path e (m.elementType id) decl.constraint := by
  unfold contentRun? at run
  simp only [declared, Option.bind_eq_bind, Option.bind_some] at run
  split at run
  · cases run
  · rename_i notNil
    refine ⟨Bool.eq_false_iff.mpr notNil, ?_⟩
    unfold elementsRun? at run
    split at run
    · rename_i automaton mixed content
      cases run
      rw [findings, content]
      exact infix_append_left (infix_append_left (infix_append_right List.infix_rfl _) _) _
    · cases run

theorem infix_contentRun {id : ElementId} (inside : ∀ n ∈ e.nodes, Encloses m n) {r : ContentRun}
    (run : contentRun? m e id = some r) : ∀ v ∈ visitChildren m path r e.nodes,
      collected (v.whole m) <:+:
        collected (checkDeclared m e (childrenOf m e.nodes) ⟨.lazy, path⟩ id) := by
  intro v hv
  cases declared : m.arena.element? id with
  | none =>
    rw [contentRun?, declared] at run
    cases run
  | some decl =>
    obtain ⟨notNil, within⟩ := infix_findings declared run
    rw [← map_violation_findings declared notNil]
    exact (infix_readFindings inside r v hv).trans (within.map _)

mutual

/-- By induction on the tree. -/
theorem encloses (m : Model) (n : Node) : Encloses m n := by
  cases n with
  | text content => exact trivial
  | element tag nodes =>
    have inside := encloseAll m nodes
    have declared : ∀ route path id, ∀ v ∈ visitDeclared m route path id (.element tag nodes),
        collected (v.whole m) <:+: collected (checkDeclared m ⟨tag, nodes⟩ (childrenOf m nodes)
          (Context.enter ⟨.lazy, path⟩ tag.name) id) := by
      intro route path id
      rw [visitDeclared, List.forall_mem_cons]
      refine ⟨List.infix_rfl, ?_⟩
      cases run : contentRun? m ⟨tag, nodes⟩ id with
      | none => simp
      | some r => exact infix_contentRun (e := ⟨tag, nodes⟩) inside run
    refine ⟨declared, fun process path => ?_⟩
    by_cases skip : process = .skip
    · rw [skip, visitMatched_skip]
      simp
    · cases global : m.globalElement? tag.name with
      | some id =>
        rw [checkMatched_of_global skip global, visitMatched_of_global skip global]
        exact declared (.matched process) path id
      | none =>
        cases process with
        | strict =>
          rw [visitMatched_strict global]
          simp
        | lax =>
          rw [checkMatched_lax global, visitMatched_lax global]
          exact infix_unknown inside
        | skip => exact absurd rfl skip

theorem encloseAll (m : Model) (ns : List Node) : ∀ n ∈ ns, Encloses m n := by
  cases ns with
  | nil => simp
  | cons n ns =>
    exact List.forall_mem_cons.mpr ⟨encloses m n, encloseAll m ns⟩

end

theorem violations_of_root {document : Document} {root : Element} {id : ElementId}
    (found : document.root = some root) (declared : rootDeclaration? m document = some id) :
    violations m document = collected (checkDeclared m root (childrenOf m root.nodes)
      (Context.enter ⟨.lazy, []⟩ root.name) id) := by
  unfold rootDeclaration? at declared
  rw [found, Option.bind_eq_bind, Option.bind_some] at declared
  cases global : m.globalElement? root.name with
  | none => rw [global] at declared; cases declared
  | some other =>
    rw [global, Option.bind_eq_bind, Option.bind_some] at declared
    split at declared
    · cases declared
    · rename_i concrete
      cases declared
      have look := inStep_checkDeclared (e := root) (areInStep_childrenOf m root.nodes) id
      rw [violations, checkDocument, found]
      simp only [global, if_neg concrete]
      rw [(look.enter root.name).result_eq]

/-- What is found at a visit is found in one piece. -/
theorem infix_violations {document : Document} {v : Visit} (visited : v ∈ visits m document) :
    collected (v.whole m) <:+: violations m document := by
  unfold visits at visited
  split at visited
  · rename_i root id found declared
    rw [violations_of_root found declared]
    exact (encloses m (.element root.tag root.nodes)).1 .root [] id v visited
  · cases visited

/-! ## Nothing wrong with the content -/

/-- For an element of a type that is not nil and has no value constraint: a lazy look collects the
violations of the findings, nothing is wrong with the events of what it contains just if no finding
concerns its own content, and a document in which it is visited has all of these violations, one
after the other. -/
theorem checkEvents_eq_ok_iff {id : ElementId} {decl : ElementDecl}
    (declared : m.arena.element? id = some decl) (free : decl.constraint = none)
    (notNil : isNil e decl = false) :
    result (checkDeclared m e (childrenOf m e.nodes) ⟨.lazy, path⟩ id) =
        .ok ((findings m path e (m.elementType id) none).map (·.violation)) ∧
      (checkEvents m (m.elementType id) (e.nodes.map Node.event) = .ok () ↔
        ∀ f ∈ findings m path e (m.elementType id) none, f.concern ≠ .content) ∧
      ∀ document route, ⟨path, e, id, route⟩ ∈ visits m document →
        (findings m path e (m.elementType id) none).map (·.violation) <:+:
          violations m document := by
  have whole : (findings m path e _ _).map _ = _ := map_violation_findings declared notNil
  rw [free] at whole
  have look := inStep_checkDeclared (e := e) (areInStep_childrenOf m e.nodes) id
  refine ⟨?_, checkEvents_iff_findings _, fun document route visited => ?_⟩
  · rw [whole, look.result_eq]
  · rw [whole]
    exact infix_violations visited

/-- Nothing is wrong with what the scene contains. -/
theorem checkEvents_scene : ∃ m, Model.compile ⟨none, .standard⟩ [Model.drawings] = .ok m ∧
    m.arena.element? ⟨3⟩ = some Model.drawingDecl ∧ Model.drawingDecl.constraint = none ∧
    isNil sceneVisit.element Model.drawingDecl = false ∧ sceneVisit ∈ visits m scene ∧
    (∀ f ∈ findings m ["drawing"] sceneVisit.element (m.elementType ⟨3⟩) none,
      f.concern ≠ .content) ∧
    (findings m ["drawing"] sceneVisit.element (m.elementType ⟨3⟩) none).map (·.violation) <:+:
      violations m scene := by
  obtain ⟨m, compiled, isDrawings, content⟩ := Model.exists_drawings
  obtain ⟨-, -, -, declared⟩ := isDrawings.element?
  obtain ⟨-, -, -, type⟩ := isDrawings.elementType
  have visited : sceneVisit ∈ visits m scene := by
    rw [visits_scene isDrawings content]
    exact List.mem_cons_self
  have events : checkEvents m (m.elementType ⟨3⟩) (sceneVisit.element.nodes.map Node.event) =
      .ok () := by
    rw [checkEvents, type, content]
    cbv
  obtain ⟨-, iff, placed⟩ := checkEvents_eq_ok_iff (e := sceneVisit.element) declared rfl rfl
  exact ⟨m, compiled, declared, rfl, rfl, visited, iff.mp events, placed scene .root visited⟩

end Validation

end Xsd
