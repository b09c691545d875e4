import Xsd.Proofs.Validation.Events

/-!
# Skipped elements

Of an element that a wildcard admits and skips a validation reads no more than the name. If all that
such elements have and contain is covered, at whatever depth, a validation finds the same as before;
so documents that differ in nothing else cannot be told apart. Where in the text an element stands,
and in which scope, is not read of any element.
-/

namespace Xsd

def Tag.unplaced (tag : Tag) : Tag := { tag with scope := default, position := 0 }

mutual

/-- The content without the places where it was found. -/
def Node.unplaced : Node → Node
  | .text content => .text content
  | .element tag nodes => .element tag.unplaced (Node.allUnplaced nodes)

def Node.allUnplaced : List Node → List Node
  | [] => []
  | n :: ns => n.unplaced :: Node.allUnplaced ns

end

namespace Validation

/-- A tag of which only the name is left. -/
def coveredTag (tag : Tag) : Tag := ⟨tag.name, .empty, default, 0⟩

mutual

/-- An element that is looked at as one that the declaration describes, with what is skipped inside
covered. -/
def coverDeclared (m : Model) (id : ElementId) : Node → Node
  | .text content => .text content
  | .element tag nodes =>
    .element tag.unplaced
      (match contentRun? m ⟨tag, nodes⟩ id with
      | none => Node.allUnplaced nodes
      | some r => coverChildren m r nodes)

/-- An element that a wildcard admits. If it skips it, the element is covered. -/
def coverMatched (m : Model) (process : ProcessContents) : Node → Node
  | .text content => .text content
  | .element tag nodes =>
    if process = .skip then .element (coveredTag tag) []
    else
      .element tag.unplaced
        (match m.globalElement? tag.name with
        | some id =>
          match contentRun? m ⟨tag, nodes⟩ id with
          | none => Node.allUnplaced nodes
          | some r => coverChildren m r nodes
        | none => if process = .strict then Node.allUnplaced nodes else coverUnknown m nodes)

/-- What an automaton reads. -/
def coverChildren (m : Model) (r : ContentRun) : List Node → List Node
  | [] => []
  | n :: ns =>
    match n.name? with
    | none => n.unplaced :: coverChildren m r ns
    | some name =>
      match r.element name with
      | .error _ => n.unplaced :: coverChildren m r ns
      | .ok (.element _ id, next) => coverDeclared m id n :: coverChildren m next ns
      | .ok (.wildcard w, next) => coverMatched m w.process n :: coverChildren m next ns

/-- What is inside an element of which nothing is known. -/
def coverUnknown (m : Model) : List Node → List Node
  | [] => []
  | n :: ns => coverMatched m .lax n :: coverUnknown m ns

end

/-- The root of a document, with all that is skipped covered. -/
def coverRoot? (m : Model) (document : Document) : Option Node :=
  document.root.map fun root =>
    match rootDeclaration? m document with
    | some id => coverDeclared m id (.element root.tag root.nodes)
    | none => Node.unplaced (.element root.tag root.nodes)

variable {m : Model} {e e' : Element} {nodes : List Node}

/-! ## What a look reads -/

@[simp] theorem event_unplaced (n : Node) : n.unplaced.event = n.event := by
  cases n <;> simp only [Node.unplaced, Node.event, Tag.unplaced]

@[simp] theorem map_event_allUnplaced (nodes : List Node) :
    (Node.allUnplaced nodes).map Node.event = nodes.map Node.event := by
  induction nodes with
  | nil => rfl
  | cons n ns ih => simp only [Node.allUnplaced, List.map_cons, event_unplaced, ih]

@[simp] theorem event_coverDeclared (id : ElementId) (n : Node) :
    (coverDeclared m id n).event = n.event := by
  cases n <;> simp only [coverDeclared, Node.event, Tag.unplaced]

@[simp] theorem event_coverMatched (process : ProcessContents) (n : Node) :
    (coverMatched m process n).event = n.event := by
  cases n with
  | text content => simp only [coverMatched, Node.event]
  | element tag nodes =>
    rw [coverMatched]
    split <;> rfl

@[simp] theorem map_event_coverChildren (r : ContentRun) (nodes : List Node) :
    (coverChildren m r nodes).map Node.event = nodes.map Node.event := by
  induction nodes generalizing r with
  | nil => rw [coverChildren]
  | cons n ns ih =>
    rw [coverChildren]
    split
    · simp only [List.map_cons, event_unplaced, ih]
    · split <;>
        simp only [List.map_cons, event_unplaced, event_coverDeclared, event_coverMatched, ih]

/-- The elements are the same as far as a look reads them without going inside. -/
structure Alike (e e' : Element) : Prop where
  name : e.tag.name = e'.tag.name
  attributes : e.tag.attributes = e'.tag.attributes
  events : e.nodes.map Node.event = e'.nodes.map Node.event

theorem children_eq_events (e : Element) : e.children.map Element.name =
    (e.nodes.map Node.event).filterMap fun
      | .element name => some name
      | .text _ => none := by
  rw [Element.children, List.map_filterMap, List.filterMap_map]
  refine List.filterMap_congr fun n _ => ?_
  cases n <;> rfl

theorem text_eq_events (e : Element) : e.text =
    String.join ((e.nodes.map Node.event).filterMap fun
      | .text content => some content
      | .element _ => none) := by
  rw [Element.text, List.filterMap_map]
  refine congrArg String.join (List.filterMap_congr fun n _ => ?_)
  cases n <;> rfl

theorem hasText_eq_events (e : Element) : e.hasText =
    (e.nodes.map Node.event).any fun
      | .text content => !Text.isAllBlank content
      | .element _ => false := by
  rw [Element.hasText, List.any_map]
  refine List.any_congr rfl fun n => ?_
  cases n <;> rfl

namespace Alike

variable (h : Alike e e') (c : Context)

include h

theorem children : e.children.map Element.name = e'.children.map Element.name := by
  rw [children_eq_events, children_eq_events, h.events]

/-- Either has elements inside or neither, and the first ones have the same name. -/
theorem first : (e.children = [] ∧ e'.children = []) ∨ ∃ first rest first' rest',
    e.children = first :: rest ∧ e'.children = first' :: rest' ∧ first.name = first'.name := by
  have names := h.children
  cases inside : e.children <;> cases inside' : e'.children <;> rw [inside, inside'] at names
  · exact Or.inl ⟨rfl, rfl⟩
  · cases names
  · cases names
  · exact Or.inr ⟨_, _, _, _, rfl, rfl, (List.cons.inj names).1⟩

theorem text : e.text = e'.text := by
  rw [text_eq_events, text_eq_events, h.events]

theorem hasText : e.hasText = e'.hasText := by
  rw [hasText_eq_events, hasText_eq_events, h.events]

theorem isNil (decl : ElementDecl) : isNil e decl = Validation.isNil e' decl := by
  rw [Validation.isNil, Validation.isNil, nilText?, nilText?, h.attributes]

theorem checkNothing (reason : String) :
    checkNothing c e reason = Validation.checkNothing c e' reason := by
  unfold Validation.checkNothing
  rw [h.text, h.hasText]
  rcases h.first with ⟨none, none'⟩ | ⟨_, _, _, _, some, some', name⟩
  · rw [none, none']
  · rw [some, some']
    exact congrArg (fun name => c.raise (unexpectedElement name reason)) name

theorem checkOutside (type : TypeId) :
    checkOutside m c e type = Validation.checkOutside m c e' type := by
  unfold Validation.checkOutside checkAttributes forbidAttributes
  rw [h.attributes]

theorem checkSimple (type : TypeId) (constraint : Option ValueConstraint) :
    checkSimple m e c type constraint = Validation.checkSimple m e' c type constraint := by
  unfold Validation.checkSimple checkText
  rw [h.text]
  rcases h.first with ⟨none, none'⟩ | ⟨_, _, _, _, some, some', name⟩
  · rw [none, none']
  · rw [some, some']
    exact congrArg (fun name => c.raise (unexpectedElement name simpleContent)) name

theorem checkFixedText (constraint : Option ValueConstraint) :
    checkFixedText c e constraint = Validation.checkFixedText c e' constraint := by
  have none : e.children.isEmpty = e'.children.isEmpty := by
    rw [← List.isEmpty_map, h.children, List.isEmpty_map]
  unfold Validation.checkFixedText
  rw [h.text, none]

theorem checkNil (type : TypeId) : checkNil m e c type = Validation.checkNil m e' c type := by
  unfold Validation.checkNil checkAttributes
  rw [h.checkNothing, h.attributes]

end Alike

theorem checkTyped_congr (h : Alike e e') {children children' : List Child} {c : Context}
    {type : TypeId} (inside : ∀ r, elementsRun? m type = some r →
      checkChildren c r children = checkChildren c r children')
    (constraint : Option ValueConstraint) :
    checkTyped m e children c type constraint = checkTyped m e' children' c type constraint := by
  unfold elementsRun? at inside
  cases content : m.contentModel? type with
  | none => rw [checkTyped, checkTyped, content]
  | some model =>
    rw [checkTyped_of_contentModel? content, checkTyped_of_contentModel? content,
      h.checkOutside]
    cases model with
    | empty => rw [checkContent, checkContent, h.checkNothing]
    | simple valueType => rw [checkContent, checkContent, h.checkSimple]
    | elements automaton mixed =>
      rw [content] at inside
      rw [checkContent, checkContent, h.checkFixedText, readContent, readContent, inside _ rfl]

theorem checkDeclared_of_isNil {children : List Child} {c : Context} {id : ElementId}
    {decl : ElementDecl} (declared : m.arena.element? id = some decl)
    (nil : isNil e decl = true) :
    checkDeclared m e children c id = checkNil m e c (m.elementType id) := by
  unfold isNil at nil
  rw [Bool.and_eq_true] at nil
  obtain ⟨nillable, stated⟩ := nil
  cases said : nilText? e with
  | none => rw [said] at stated; cases stated
  | some word =>
    rw [said, Option.map_some, Option.getD_some] at stated
    unfold checkDeclared
    rw [declared, said]
    dsimp only
    rw [if_pos stated, if_pos nillable]

/-- A look at an element goes inside only where an automaton reads what it contains. -/
theorem checkDeclared_congr (h : Alike e e') {children children' : List Child} {c : Context}
    {id : ElementId} (inside : ∀ r, contentRun? m e id = some r →
      checkChildren c r children = checkChildren c r children') :
    checkDeclared m e children c id = checkDeclared m e' children' c id := by
  unfold contentRun? at inside
  have said : nilText? e = nilText? e' := by rw [nilText?, nilText?, h.attributes]
  have name : e.name = e'.name := h.name
  cases declared : m.arena.element? id with
  | none => rw [checkDeclared, checkDeclared, declared]
  | some decl =>
    simp only [declared, Option.bind_eq_bind, Option.bind_some] at inside
    cases nil : isNil e decl with
    | false =>
      rw [nil] at inside
      rw [checkDeclared_of_not_isNil declared nil,
        checkDeclared_of_not_isNil declared ((h.isNil decl).symm.trans nil),
        checkTyped_congr h inside, checkNilWord, checkNilWord, said, name]
    | true =>
      rw [checkDeclared_of_isNil declared nil,
        checkDeclared_of_isNil declared ((h.isNil decl).symm.trans nil), h.checkNil]

/-! ## What is covered is not read -/

/-- Looks at a piece of content, if it is an element, as one that a declaration describes. -/
def declaredLook (m : Model) (c : Context) (id : ElementId) : Node → Look
  | .text _ => return ()
  | .element tag nodes => checkDeclared m ⟨tag, nodes⟩ (childrenOf m nodes) c id

/-- Looks at a piece of content, if it is an element, as one that a wildcard admits. -/
def matchedLook (m : Model) (c : Context) (process : ProcessContents) : Node → Look
  | .text _ => return ()
  | .element tag nodes => checkMatched m ⟨tag, nodes⟩ (childrenOf m nodes) c process

theorem name?_of_event {n n' : Node} (h : n.event = n'.event) : n.name? = n'.name? := by
  cases n <;> cases n' <;> simp_all [Node.event, Node.name?]

/-- An automaton reads the name of an element. -/
theorem checkChildren_cons {n : Node} {name : QName} (named : n.name? = some name) (c : Context)
    (r : ContentRun) (ns : List Node) :
    checkChildren c r (childrenOf m (n :: ns)) =
      match r.element name with
      | .error v => (c.enter name).raise v >>= fun _ => checkChildren c r (childrenOf m ns)
      | .ok (.element _ id, next) => declaredLook m (c.enter name) id n >>= fun _ =>
          checkChildren c next (childrenOf m ns)
      | .ok (.wildcard w, next) => matchedLook m (c.enter name) w.process n >>= fun _ =>
          checkChildren c next (childrenOf m ns) := by
  cases n with
  | text content => cases named
  | element tag nodes =>
    cases named
    rw [childrenOf, child, checkChildren]
    simp only [Element.name]
    cases r.element tag.name with
    | error v => rfl
    | ok result =>
      obtain ⟨symbol, next⟩ := result
      cases symbol <;> rfl

/-- To look at the covered content is to look at the content. -/
def IsCovered (m : Model) (n : Node) : Prop :=
  (∀ c id, declaredLook m c id (coverDeclared m id n) = declaredLook m c id n) ∧
    ∀ c process, matchedLook m c process (coverMatched m process n) = matchedLook m c process n

/-- By induction on what an element contains; the automaton reads the same names. -/
theorem checkChildren_cover (covered : ∀ n ∈ nodes, IsCovered m n) (c : Context) (r : ContentRun) :
    checkChildren c r (childrenOf m (coverChildren m r nodes)) =
      checkChildren c r (childrenOf m nodes) := by
  induction nodes generalizing r with
  | nil => rw [coverChildren]
  | cons n ns ih =>
    have ih := fun r => ih (fun n hn => covered n (List.mem_cons_of_mem _ hn)) r
    obtain ⟨declared, matched⟩ := covered n List.mem_cons_self
    have same {n' : Node} {name : QName} (event : n'.event = n.event)
        (named : n.name? = some name) : n'.name? = some name := (name?_of_event event).trans named
    rw [coverChildren]
    cases named : n.name? with
    | none =>
      cases n with
      | text content => simp only [Node.unplaced, childrenOf, child, checkChildren, ih]
      | element tag nodes => cases named
    | some name =>
      rw [checkChildren_cons named]
      simp only
      cases read : r.element name with
      | error v =>
        simp only
        rw [checkChildren_cons (same (event_unplaced n) named)]
        simp only [read, ih]
      | ok result =>
        obtain ⟨symbol, next⟩ := result
        cases symbol with
        | element own id =>
          simp only
          rw [checkChildren_cons (same (event_coverDeclared id n) named)]
          simp only [read, declared, ih]
        | wildcard w =>
          simp only
          rw [checkChildren_cons (same (event_coverMatched w.process n) named)]
          simp only [read, matched, ih]

/-- What is inside an element of which nothing is known. -/
theorem forM_cover (covered : ∀ n ∈ nodes, IsCovered m n) (c : Context) :
    ((childrenOf m (coverUnknown m nodes)).forM fun
        | .text _ => return ()
        | .element inner _ matched => matched (c.enter inner.name) .lax) =
      (childrenOf m nodes).forM fun
        | .text _ => return ()
        | .element inner _ matched => matched (c.enter inner.name) .lax := by
  induction nodes with
  | nil => rw [coverUnknown]
  | cons n ns ih =>
    have ih := ih fun n hn => covered n (List.mem_cons_of_mem _ hn)
    obtain ⟨-, matched⟩ := covered n List.mem_cons_self
    rw [coverUnknown, childrenOf, childrenOf, List.forM, List.forM, ih]
    cases n with
    | text content => simp only [coverMatched]
    | element tag nodes =>
      have same := matched (c.enter tag.name) .lax
      rw [coverMatched, if_neg (by decide)] at same ⊢
      exact congrArg (· >>= _) same

section

variable {tag : Tag} {c : Context}

theorem coverMatched_skip :
    coverMatched m .skip (.element tag nodes) = .element (coveredTag tag) [] := by
  rw [coverMatched, if_pos rfl]

theorem coverMatched_of_global {process : ProcessContents} (skip : process ≠ .skip) {id : ElementId}
    (h : m.globalElement? tag.name = some id) :
    coverMatched m process (.element tag nodes) = coverDeclared m id (.element tag nodes) := by
  rw [coverMatched, if_neg skip, h, coverDeclared]

theorem coverMatched_strict (h : m.globalElement? tag.name = none) :
    coverMatched m .strict (.element tag nodes) =
      .element tag.unplaced (Node.allUnplaced nodes) := by
  rw [coverMatched, h]
  rfl

theorem coverMatched_lax (h : m.globalElement? tag.name = none) :
    coverMatched m .lax (.element tag nodes) = .element tag.unplaced (coverUnknown m nodes) := by
  rw [coverMatched, h]
  rfl

theorem checkDeclared_unplaced {ns : List Node} {id : ElementId}
    (events : ns.map Node.event = nodes.map Node.event)
    (inside : ∀ r, contentRun? m ⟨tag, nodes⟩ id = some r →
      checkChildren c r (childrenOf m ns) = checkChildren c r (childrenOf m nodes)) :
    checkDeclared m ⟨tag.unplaced, ns⟩ (childrenOf m ns) c id =
      checkDeclared m ⟨tag, nodes⟩ (childrenOf m nodes) c id := by
  have alike : Alike ⟨tag, nodes⟩ ⟨tag.unplaced, ns⟩ := ⟨rfl, rfl, events.symm⟩
  exact (checkDeclared_congr alike fun r run => (inside r run).symm).symm

theorem declaredLook_cover (covered : ∀ n ∈ nodes, IsCovered m n) (id : ElementId) :
    declaredLook m c id (coverDeclared m id (.element tag nodes)) =
      declaredLook m c id (.element tag nodes) := by
  rw [coverDeclared, declaredLook, declaredLook]
  cases run : contentRun? m ⟨tag, nodes⟩ id with
  | none =>
    refine checkDeclared_unplaced (map_event_allUnplaced nodes) fun r some => ?_
    rw [run] at some
    cases some
  | some r =>
    refine checkDeclared_unplaced (map_event_coverChildren r nodes) fun r' some => ?_
    rw [run] at some
    cases some
    exact checkChildren_cover covered c r

theorem matchedLook_cover (covered : ∀ n ∈ nodes, IsCovered m n) (process : ProcessContents) :
    matchedLook m c process (coverMatched m process (.element tag nodes)) =
      matchedLook m c process (.element tag nodes) := by
  by_cases skip : process = .skip
  · rw [skip, coverMatched_skip, matchedLook, matchedLook, checkMatched_skip, checkMatched_skip]
  · cases global : m.globalElement? tag.name with
    | some id =>
      have same : declaredLook m c id (coverDeclared m id (.element tag nodes)) = _ :=
        declaredLook_cover covered id
      rw [coverMatched_of_global skip global]
      rw [coverDeclared, declaredLook, declaredLook] at same
      rw [coverDeclared, matchedLook, matchedLook, checkMatched_of_global skip global,
        checkMatched_of_global skip global, same]
    | none =>
      cases process with
      | skip => exact absurd rfl skip
      | strict =>
        rw [coverMatched_strict global, matchedLook, matchedLook, checkMatched_strict global,
          checkMatched_strict global]
        rfl
      | lax =>
        rw [coverMatched_lax global, matchedLook, matchedLook, checkMatched_lax global,
          checkMatched_lax global]
        exact forM_cover covered c

end

mutual

/-- By induction on the tree. -/
theorem isCovered (m : Model) (n : Node) : IsCovered m n := by
  cases n with
  | text content => exact ⟨fun _ _ => by rw [coverDeclared], fun _ _ => by rw [coverMatched]⟩
  | element tag nodes =>
    have covered := areCovered m nodes
    exact ⟨fun _ id => declaredLook_cover covered id,
      fun _ process => matchedLook_cover covered process⟩

theorem areCovered (m : Model) (ns : List Node) : ∀ n ∈ ns, IsCovered m n := by
  cases ns with
  | nil => simp
  | cons n ns =>
    exact List.forall_mem_cons.mpr ⟨isCovered m n, areCovered m ns⟩

end

/-! ## Documents -/

/-- What is wrong with a root that has no declaration, or an abstract one. -/
def rejectRoot (m : Model) (c : Context) (name : QName) : Look :=
  if (m.globalElement? name).isSome then
    c.raise (.of .unexpectedElement s!"Root element '{name.clark}' is declared abstract")
  else
    c.raise (.of .unknownComponent
      s!"No global element declaration for root element '{name.clark}'")

variable {d d' : Document} {root root' : Element}

theorem checkDocument_of_root (found : d.root = some root) (mode : ValidationMode) :
    checkDocument m mode d = match rootDeclaration? m d with
      | some id => declaredLook m (Context.enter ⟨mode, []⟩ root.name) id
          (.element root.tag root.nodes)
      | none => rejectRoot m (Context.enter ⟨mode, []⟩ root.name) root.name := by
  rw [checkDocument, rootDeclaration?, found, Option.bind_eq_bind, Option.bind_some]
  dsimp only
  cases global : m.globalElement? root.name with
  | none => simp [rejectRoot, global]
  | some id =>
    rw [Option.bind_eq_bind, Option.bind_some]
    dsimp only
    split
    · simp [rejectRoot, global]
    · rfl

theorem rootDeclaration?_of_name (found : d.root = some root) (found' : d'.root = some root')
    (name : root.name = root'.name) : rootDeclaration? m d = rootDeclaration? m d' := by
  rw [rootDeclaration?, rootDeclaration?, found, found']
  simp only [Option.bind_eq_bind, Option.bind_some, name]

/-- The covered root has the name of the root. -/
theorem event_of_coverRoot? {n : Node} (found : d.root = some root)
    (covered : coverRoot? m d = some n) : n.event = .element root.name := by
  rw [coverRoot?, found, Option.map_some, Option.some.injEq] at covered
  subst covered
  split
  · exact event_coverDeclared _ _
  · exact event_unplaced _

theorem checkDocument_of_coverRoot? (same : coverRoot? m d = coverRoot? m d')
    (mode : ValidationMode) : checkDocument m mode d = checkDocument m mode d' := by
  cases found : d.root <;> cases found' : d'.root
  case none.none => rw [checkDocument, checkDocument, found, found']
  case some.some root root' =>
    obtain ⟨n, covered⟩ : ∃ n, coverRoot? m d = some n := ⟨_, by rw [coverRoot?, found]; rfl⟩
    have name : root.name = root'.name := by
      have event := event_of_coverRoot? found covered
      rw [event_of_coverRoot? found' (same ▸ covered)] at event
      exact (ContentEvent.element.inj event).symm
    rw [checkDocument_of_root found, checkDocument_of_root found',
      rootDeclaration?_of_name found found' name, name]
    rw [coverRoot?, coverRoot?, found, found', rootDeclaration?_of_name found found' name] at same
    cases declared : rootDeclaration? m d' with
    | none => rfl
    | some id =>
      rw [declared, Option.map_some, Option.map_some, Option.some.injEq] at same
      dsimp only at same ⊢
      rw [← (isCovered m _).1, same, (isCovered m _).1]
  all_goals
    rw [coverRoot?, coverRoot?, found, found'] at same
    cases same

/-- Documents in which only that differs which elements have and contain that are skipped have the
same violations. -/
theorem violations_eq_of_covered (same : coverRoot? m d = coverRoot? m d') :
    violations m d = violations m d' := by
  rw [violations, violations, checkDocument_of_coverRoot? same]

end Validation

/-! ## A schema of boxes -/

namespace Model

variable {m : Model} {report : ResolutionReport} {a : Assembly}

/-- A box holds one thing, which can be anything. -/
def boxes : Document :=
  ⟨.memory "boxes.xsd", some ⟨⟨.xsd "schema", .empty, default, 0⟩,
    [schemaNode "element" [("name", "box")]
      [schemaNode "complexType" []
        [schemaNode "sequence" []
          [schemaNode "any" [("processContents", "skip")] []]]]]⟩⟩

def boxContent : Content := .group .once .sequence [.wildcard .once ⟨.any, .skip⟩]

def boxAutomaton : Automaton :=
  ⟨#[.wildcard ⟨.any, .skip⟩], #[⟨false, [⟨0, 1, none⟩]⟩, ⟨true, []⟩], 0⟩

theorem automatonOf_boxContent (arena : Arena) (substitutions : SubstitutionGroups)
    (owner : String) :
    ContentModel.automatonOf ⟨arena, substitutions, .standard, owner⟩ (some boxContent) =
      .ok boxAutomaton := by
  cbv

/-- The content is that of boxes. -/
def isBoxContent : Option Content → Bool
  | some (.group ⟨1, some 1⟩ .sequence [.wildcard ⟨1, some 1⟩ ⟨.any, .skip⟩]) => true
  | _ => false

theorem eq_boxContent {content : Option Content} (h : isBoxContent content = true) :
    content = some boxContent := by
  unfold isBoxContent at h
  split at h
  · rfl
  · cases h

def boxDecl : ElementDecl := drawingElement "box" (.own ⟨46⟩) none false

/-- What the schema is compiled to, as far as it matters and apart from the automaton. -/
structure IsBoxes (m : Model) : Prop where
  elements : m.arena.elements = #[boxDecl]
  global : m.globalElement? (drawingName "box") = some ⟨0⟩
  elementType : m.elementType ⟨0⟩ = ⟨46⟩
  boxType : (m.derived.complex? ⟨46⟩).map (fun t => (t.label, isBoxContent t.content, t.mixed)) =
    some (.elementOnly, true, false)

instance (m : Model) : Decidable (IsBoxes m) :=
  decidable_of_iff (_ ∧ _ ∧ _ ∧ _)
    ⟨fun ⟨a, b, c, d⟩ => ⟨a, b, c, d⟩, fun ⟨a, b, c, d⟩ => ⟨a, b, c, d⟩⟩

/-- The automaton is made from what can be computed. -/
private theorem contentOf_box (computed : IsBoxes (made a report .standard)) :
    contentOf a.arena .standard ⟨46⟩ = .ok (.elements boxAutomaton false) := by
  obtain ⟨t, complex, same⟩ := Option.map_eq_some_iff.mp computed.boxType
  simp only [Prod.mk.injEq] at same
  obtain ⟨label, content, mixed⟩ := same
  have automaton := automatonOf_boxContent a.arena (.ofArena a.arena) (a.arena.typeName ⟨46⟩)
  rw [← eq_boxContent content] at automaton
  exact mixed ▸ contentOf_eq_elements complex (Or.inl label) automaton

/-- What can be computed of the schema. -/
private theorem boxes_computed :
    (assembled ⟨none, .standard⟩ [boxes]).isOk = true ∧
      IsSound (readAll [boxes]).2.arena [⟨46⟩] ∧
      IsBoxes (made (readAll [boxes]).2 (readAll [boxes]).1 .standard) ∧
      (readAll [boxes]).2.arena.types.size = 47 := by
  decide +kernel

theorem exists_boxes : ∃ m, compile ⟨none, .standard⟩ [boxes] = .ok m ∧ IsBoxes m ∧
    m.contentModel? ⟨46⟩ = some (.elements boxAutomaton false) := by
  obtain ⟨isOk, sound, isBoxes, size⟩ := boxes_computed
  have box := contentOf_box isBoxes
  refine ⟨_, compile_of_isSound isOk sound ?_, isBoxes, ?_⟩
  · exact fun id mem => ⟨_, List.mem_singleton.mp mem ▸ box⟩
  · rw [contentModel?_made (by rw [size]; decide), box]
    rfl

end Model

namespace Validation

/-- A thing in a box. -/
def boxed (thing : Node) : Document :=
  ⟨.memory "box.xml", some ⟨bareTag "box", [thing]⟩⟩

/-- A box in the box, with text and an attribute that no box has. -/
def fullBox : Node :=
  .element ⟨Model.drawingName "box", ⟨[(Model.drawingName "lid", "open")]⟩, default, 5⟩
    [.text "full"]

/-- What is in the box in the box is not looked at. -/
theorem violations_boxed : ∃ m, Model.compile ⟨none, .standard⟩ [Model.boxes] = .ok m ∧
    coverRoot? m (boxed (bare "box" [])) = coverRoot? m (boxed fullBox) ∧
    violations m (boxed (bare "box" [])) = violations m (boxed fullBox) := by
  obtain ⟨m, compiled, isBoxes, content⟩ := Model.exists_boxes
  have declared : m.arena.element? ⟨0⟩ = some Model.boxDecl := by
    unfold Arena.element?
    rw [isBoxes.elements]
    rfl
  have root : ∀ thing, rootDeclaration? m (boxed thing) = some ⟨0⟩ := by
    simp [rootDeclaration?, boxed, Element.name, bareTag_name, isBoxes.global, declared,
      Model.boxDecl, Model.drawingElement]
  have run : ∀ nodes,
      contentRun? m ⟨bareTag "box", nodes⟩ ⟨0⟩ = some (.start Model.boxAutomaton false) := by
    simp [contentRun?, declared, isNil, Model.boxDecl, Model.drawingElement, isBoxes.elementType,
      elementsRun?, content]
  have read : (ContentRun.start Model.boxAutomaton false).element (Model.drawingName "box") =
      .ok (.wildcard ⟨.any, .skip⟩, ⟨Model.boxAutomaton, false, 1⟩) := by
    cbv
  have covered : ∀ tag nodes, tag.name = Model.drawingName "box" →
      coverRoot? m (boxed (.element tag nodes)) =
        some (.element (bareTag "box") [.element (bareTag "box") []]) := by
    intro tag nodes name
    rw [coverRoot?, root]
    simp only [boxed, Option.map_some, coverDeclared, run, coverChildren, Node.name?, name, read,
      coverMatched_skip, coveredTag]
    rfl
  have same : coverRoot? m (boxed (bare "box" [])) = coverRoot? m (boxed fullBox) :=
    (covered _ _ rfl).trans (covered _ _ rfl).symm
  exact ⟨m, compiled, same, violations_eq_of_covered same⟩

end Validation

end Xsd
