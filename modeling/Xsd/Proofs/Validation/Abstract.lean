import Xsd.Proofs.Automaton.Readers
import Xsd.Proofs.Validation.Visits
import Xsd.Proofs.ValueConstraint

/-!
# Abstract declarations and types

The root of a document is refused if its declaration is abstract, and an abstract declaration has no
symbol in an automaton. A wildcard does not ask: what it admits is looked at by the declaration of
its name, abstract or not. Nobody asks of a type whether it is abstract; it is kept out of a
validation only where the declarations that have it are. Both are said of the visits on which
validity depends (`isValid_iff_visits`).
-/

namespace Xsd

/-- The declaration is not an abstract one. -/
def Arena.IsConcrete (a : Arena) (id : ElementId) : Prop :=
  ∀ e, a.element? id = some e → e.isAbstract = false

/-- If the type of an element is declared abstract, so is the element. -/
def Arena.Guards (a : Arena) (id : ElementId) : Prop :=
  ∀ definition, a.type? (a.elementType id) = some (.complex definition) →
    definition.isAbstract = true → ∃ e, a.element? id = some e ∧ e.isAbstract = true

theorem Arena.IsConcrete.of_mem {a : Arena} {id : ElementId} {name : QName}
    (h : name ∈ Content.concreteNames a id) : a.IsConcrete id := by
  obtain ⟨e, known, concrete, -⟩ := h
  intro e' known'
  cases known.symm.trans known'
  exact concrete

namespace Validation

variable {m : Model} {document : Document}

/-! ## How visits come to their declarations -/

/-- No symbol of the automaton is that of an abstract declaration. -/
def ContentRun.IsConcrete (m : Model) (r : ContentRun) : Prop :=
  ∀ name id, .element name id ∈ r.automaton.alphabet → m.arena.IsConcrete id

theorem ContentRun.mem_of_element {r next : ContentRun} {name : QName} {symbol : Symbol}
    (h : r.element name = .ok (symbol, next)) :
    symbol ∈ r.automaton.alphabet ∧ next.automaton = r.automaton := by
  unfold ContentRun.element at h
  split at h <;> cases h
  rename_i target step
  obtain ⟨s, -, step⟩ := Option.bind_eq_some_iff.mp step
  obtain ⟨t, -, step⟩ := Option.bind_eq_some_iff.mp step
  obtain ⟨reader, found, ⟨⟩⟩ := Option.bind_eq_some_iff.mp step
  exact ⟨Array.mem_of_getElem? found, rfl⟩

/-- A wildcard that does not skip comes to the declaration of the name. Otherwise the declaration is
not abstract. -/
def Visit.IsRouted (m : Model) (v : Visit) : Prop :=
  match v.route with
  | .matched process => process ≠ .skip ∧ m.globalElement? v.element.name = some v.declaration
  | _ => m.arena.IsConcrete v.declaration

theorem Visit.IsRouted.isConcrete {v : Visit} (h : v.IsRouted m)
    (admitted : ∀ process, v.route = .matched process → m.arena.IsConcrete v.declaration) :
    m.arena.IsConcrete v.declaration := by
  unfold Visit.IsRouted at h
  split at h
  · rename_i process matched
    exact admitted process matched
  · exact h

/-- The visits to a piece of content and inside are routed, if the first one is. -/
def AreRouted (m : Model) : Node → Prop
  | .text _ => True
  | .element tag nodes =>
    (∀ route path id, Visit.IsRouted m ⟨path ++ [tag.name.clark], ⟨tag, nodes⟩, id, route⟩ →
      ∀ v ∈ visitDeclared m route path id (.element tag nodes), v.IsRouted m) ∧
    ∀ process path, ∀ v ∈ visitMatched m process path (.element tag nodes), v.IsRouted m

variable {nodes : List Node}

theorem isRouted_children (inside : ∀ n ∈ nodes, AreRouted m n) {r : ContentRun}
    (concrete : r.IsConcrete m) (path : List String) :
    ∀ v ∈ visitChildren m path r nodes, v.IsRouted m := by
  induction nodes generalizing r with
  | nil => simp [visitChildren]
  | cons n ns ih =>
    have rest := fun r => ih (fun n hn => inside n (List.mem_cons_of_mem _ hn)) (r := r)
    cases n with
    | text content => exact rest r concrete
    | element tag nodes =>
      obtain ⟨declared, matched⟩ := inside _ List.mem_cons_self
      rw [visitChildren]
      simp only [Node.name?]
      cases read : r.element tag.name with
      | error v => exact rest r concrete
      | ok result =>
        obtain ⟨symbol, next⟩ := result
        obtain ⟨mem, same⟩ := ContentRun.mem_of_element read
        have further : next.IsConcrete m := by
          unfold ContentRun.IsConcrete
          rw [same]
          exact concrete
        cases symbol with
        | element name id =>
          exact List.forall_mem_append.mpr
            ⟨declared .symbol path id (concrete name id mem), rest next further⟩
        | wildcard w =>
          exact List.forall_mem_append.mpr ⟨matched w.process path, rest next further⟩

theorem isRouted_unknown (inside : ∀ n ∈ nodes, AreRouted m n) (path : List String) :
    ∀ v ∈ visitUnknown m path nodes, v.IsRouted m := by
  induction nodes with
  | nil => simp [visitUnknown]
  | cons n ns ih =>
    have rest := ih fun n hn => inside n (List.mem_cons_of_mem _ hn)
    cases n with
    | text content =>
      rw [visitUnknown, visitMatched]
      exact rest
    | element tag nodes =>
      rw [visitUnknown]
      exact List.forall_mem_append.mpr ⟨(inside _ List.mem_cons_self).2 .lax path, rest⟩

mutual

/-- By induction on the tree, for any automata without symbols of abstract declarations. -/
theorem areRouted (automata : ∀ type r, elementsRun? m type = some r → r.IsConcrete m) (n : Node) :
    AreRouted m n := by
  cases n with
  | text content => exact trivial
  | element tag nodes =>
    have inside := areAllRouted automata nodes
    have declared : ∀ route path id,
        Visit.IsRouted m ⟨path ++ [tag.name.clark], ⟨tag, nodes⟩, id, route⟩ →
          ∀ v ∈ visitDeclared m route path id (.element tag nodes), v.IsRouted m := by
      intro route path id first
      rw [visitDeclared]
      refine List.forall_mem_cons.mpr ⟨first, ?_⟩
      cases run : contentRun? m ⟨tag, nodes⟩ id with
      | none => simp
      | some r =>
        obtain ⟨decl, -, run⟩ := Option.bind_eq_some_iff.mp run
        rw [Option.ite_none_left_eq_some] at run
        exact isRouted_children inside (automata _ r run.2) _
    refine ⟨declared, fun process path => ?_⟩
    cases global : m.globalElement? tag.name with
    | some id =>
      by_cases skip : process = .skip
      · simp [skip, visitMatched_skip]
      · rw [visitMatched_of_global skip global]
        exact declared (.matched process) path id ⟨skip, global⟩
    | none =>
      cases process with
      | strict => simp [visitMatched_strict global]
      | lax =>
        rw [visitMatched_lax global]
        exact isRouted_unknown inside _
      | skip => simp [visitMatched_skip]

theorem areAllRouted (automata : ∀ type r, elementsRun? m type = some r → r.IsConcrete m)
    (ns : List Node) : ∀ n ∈ ns, AreRouted m n := by
  cases ns with
  | nil => simp
  | cons n ns => exact List.forall_mem_cons.mpr ⟨areRouted automata n, areAllRouted automata ns⟩

end

theorem isConcrete_rootDeclaration {id : ElementId} (h : rootDeclaration? m document = some id) :
    m.arena.IsConcrete id := by
  obtain ⟨root, -, h⟩ := Option.bind_eq_some_iff.mp h
  obtain ⟨id', -, h⟩ := Option.bind_eq_some_iff.mp h
  obtain ⟨concrete, ⟨⟩⟩ := Option.ite_none_left_eq_some.mp h
  intro e known
  simpa [known] using concrete

/-- All visits are routed where no automaton has a symbol of an abstract declaration. -/
theorem isRouted_of_mem_visits
    (automata : ∀ type r, elementsRun? m type = some r → r.IsConcrete m) {v : Visit}
    (visited : v ∈ visits m document) : v.IsRouted m := by
  unfold visits at visited
  split at visited
  · rename_i root id _ declared
    exact (areRouted automata (.element root.tag root.nodes)).1 .root [] id
      (isConcrete_rootDeclaration declared) v visited
  · cases visited

/-! ## Drawings -/

/-- A tag without attributes. -/
def bareTag (name : String) : Tag := ⟨Model.drawingName name, .empty, default, 0⟩

def bare (name : String) (nodes : List Node) : Node := .element (bareTag name) nodes

theorem bareTag_name (name : String) : (bareTag name).name = Model.drawingName name := rfl

/-- A circle in place of the shape, and then a shape that the wildcard admits. -/
def scene : Document :=
  ⟨.memory "scene.xml", some ⟨bareTag "drawing", [bare "circle" [], bare "shape" []]⟩⟩

def sceneVisit : Visit :=
  ⟨["drawing"], ⟨bareTag "drawing", [bare "circle" [], bare "shape" []]⟩, ⟨3⟩, .root⟩

def circleVisit : Visit := ⟨["drawing", "circle"], ⟨bareTag "circle", []⟩, ⟨1⟩, .symbol⟩

def shapeVisit : Visit := ⟨["drawing", "shape"], ⟨bareTag "shape", []⟩, ⟨0⟩, .matched .lax⟩

/-- A blob, whose type is abstract. -/
def blot : Document := ⟨.memory "blot.xml", some ⟨bareTag "blob", []⟩⟩

def blotVisit : Visit := ⟨["blob"], ⟨bareTag "blob", []⟩, ⟨2⟩, .root⟩

theorem element_drawingAutomaton :
    (ContentRun.start Model.drawingAutomaton false).element (Model.drawingName "circle") =
        .ok (.element (Model.drawingName "circle") ⟨1⟩, ⟨Model.drawingAutomaton, false, 1⟩) ∧
      (ContentRun.mk Model.drawingAutomaton false 1).element (Model.drawingName "shape") =
        .ok (.wildcard .anyLax, ⟨Model.drawingAutomaton, false, 2⟩) := by
  constructor <;> cbv

theorem contentRun?_of_empty {id : ElementId}
    (empty : m.contentModel? (m.elementType id) = some .empty) (e : Element) :
    contentRun? m e id = none := by
  simp [contentRun?, elementsRun?, empty]

/-- Nothing is wrong with having no attributes if none is required. -/
theorem checkAttributes_bareTag {t : ComplexType}
    (optional : ∀ x ∈ t.attributes.entries, x.2.use ≠ .required) (c : Context) (name : String)
    (nodes : List Node) : checkAttributes m c ⟨bareTag name, nodes⟩ t = return () := by
  unfold checkAttributes
  refine (pure_bind _ _).trans ?_
  generalize t.attributes.entries = entries at optional
  induction entries with
  | nil => rfl
  | cons x entries ih =>
    obtain ⟨first, rest⟩ := List.forall_mem_cons.mp optional
    rw [List.forM, ih rest]
    simp [first]

section

variable {id : ElementId} {decl : ElementDecl} {t : ComplexType}
  (declared : m.arena.element? id = some decl)
  (typed : m.derived.complex? (m.elementType id) = some t)
  (optional : ∀ x ∈ t.attributes.entries, x.2.use ≠ .required)

include declared typed optional

/-- There is nothing else to look at than that an element without attributes is empty. -/
theorem checkDeclared_of_empty (empty : m.contentModel? (m.elementType id) = some .empty)
    (name : String) (nodes : List Node) (children : List Child) (c : Context) :
    checkDeclared m ⟨bareTag name, nodes⟩ children c id =
      checkNothing c ⟨bareTag name, nodes⟩ emptyContent := by
  have silent : nilText? ⟨bareTag name, nodes⟩ = none := rfl
  simp only [checkDeclared, declared, silent, checkTyped, empty, typed,
    checkAttributes_bareTag optional, pure_bind]

/-- Here it is what the automaton reads. -/
theorem checkDeclared_of_elementOnly {automaton : Automaton}
    (elements : m.contentModel? (m.elementType id) = some (.elements automaton false))
    (name : String) (nodes : List Node) (children : List Child) (c : Context) :
    checkDeclared m ⟨bareTag name, nodes⟩ children c id = (do
      let r ← checkChildren c (.start automaton false) children
      c.raiseIfError r.finish) := by
  have silent : nilText? ⟨bareTag name, nodes⟩ = none := rfl
  simp only [checkDeclared, declared, silent, checkTyped, elements, typed,
    checkAttributes_bareTag optional, pure_bind, Bool.false_eq_true, if_false, bind_pure_unit]

end

/-- An element with nothing in it passes if its type wants that. -/
theorem passes_bareTag {v : Visit} {name : String} (element : v.element = ⟨bareTag name, []⟩)
    {decl : ElementDecl} (declared : m.arena.element? v.declaration = some decl)
    (empty : m.contentModel? (m.elementType v.declaration) = some .empty) {t : ComplexType}
    (typed : m.derived.complex? (m.elementType v.declaration) = some t)
    (optional : ∀ x ∈ t.attributes.entries, x.2.use ≠ .required) : Passes (v.look m) := by
  rw [Visit.look, element, checkDeclared_of_empty declared typed optional empty]
  rfl

section

variable (isDrawings : m.IsDrawings)
  (content : m.contentModel? ⟨48⟩ = some (.elements Model.drawingAutomaton false))

include isDrawings

theorem rootDeclaration?_blot : rootDeclaration? m blot = some ⟨2⟩ := by
  obtain ⟨-, -, global, -⟩ := isDrawings.globalElement?
  obtain ⟨-, -, blob, -⟩ := isDrawings.element?
  simp [rootDeclaration?, blot, Element.name, bareTag_name, global, blob, Model.blobDecl,
    Model.drawingElement]

theorem visits_blot : visits m blot = [blotVisit] := by
  obtain ⟨-, -, type, -⟩ := isDrawings.elementType
  obtain ⟨empty, -⟩ := isDrawings.contentModel?
  rw [visits, rootDeclaration?_blot isDrawings]
  simp only [blot, visitDeclared, contentRun?_of_empty, type, empty]
  rfl

/-- The blob passes, although its type is abstract. -/
theorem isValid_blot : isValid m blot = true := by
  obtain ⟨-, -, type, -⟩ := isDrawings.elementType
  obtain ⟨-, -, blob, -⟩ := isDrawings.element?
  obtain ⟨⟨t, typed, -, attributes⟩, -, -⟩ := isDrawings.complex?
  obtain ⟨empty, -⟩ := isDrawings.contentModel?
  rw [isValid_iff_visits, visits_blot isDrawings, rootDeclaration?_blot isDrawings]
  refine ⟨rfl, List.forall_mem_singleton.mpr ?_⟩
  exact passes_bareTag rfl blob (type ▸ empty) (type ▸ typed) (by simp [attributes, Table.empty])

theorem rootDeclaration?_scene : rootDeclaration? m scene = some ⟨3⟩ := by
  obtain ⟨-, -, -, global⟩ := isDrawings.globalElement?
  obtain ⟨-, -, -, drawing⟩ := isDrawings.element?
  simp [rootDeclaration?, scene, Element.name, bareTag_name, global, drawing, Model.drawingDecl,
    Model.drawingElement]

include content

theorem visits_scene : visits m scene = [sceneVisit, circleVisit, shapeVisit] := by
  obtain ⟨global, -, -, -⟩ := isDrawings.globalElement?
  obtain ⟨shape, circle, -, drawing⟩ := isDrawings.elementType
  obtain ⟨-, -, -, decl⟩ := isDrawings.element?
  obtain ⟨shapeEmpty, circleEmpty⟩ := isDrawings.contentModel?
  obtain ⟨first, second⟩ := element_drawingAutomaton
  have run : ∀ nodes,
      contentRun? m ⟨bareTag "drawing", nodes⟩ ⟨3⟩ = some (.start Model.drawingAutomaton false) := by
    simp [contentRun?, decl, isNil, Model.drawingDecl, Model.drawingElement, drawing, elementsRun?,
      content]
  rw [visits, rootDeclaration?_scene isDrawings]
  simp only [scene, bare, visitDeclared, run, visitChildren, Node.name?, bareTag_name, first, second]
  rw [visitMatched_of_global (by decide) global]
  simp only [visitDeclared, contentRun?_of_empty, shape, circle, shapeEmpty, circleEmpty]
  rfl

theorem passes_sceneVisit : Passes (sceneVisit.look m) := by
  obtain ⟨global, -, -, -⟩ := isDrawings.globalElement?
  obtain ⟨-, -, -, type⟩ := isDrawings.elementType
  obtain ⟨-, -, -, decl⟩ := isDrawings.element?
  obtain ⟨-, -, t, typed, -, attributes⟩ := isDrawings.complex?
  obtain ⟨first, second⟩ := element_drawingAutomaton
  rw [← type] at content typed
  rw [Visit.look, sceneVisit,
    checkDeclared_of_elementOnly decl typed (by simp [attributes, Table.empty]) content]
  simp only [List.map_cons, List.map_nil, outline, bare, checkChildren, Element.name, bareTag_name,
    first, second, demand, global]
  rfl

/-- The shape passes, although it is abstract. -/
theorem isValid_scene : isValid m scene = true := by
  obtain ⟨shape, circle, -, -⟩ := isDrawings.elementType
  obtain ⟨shapeDecl, circleDecl, -, -⟩ := isDrawings.element?
  obtain ⟨⟨t, typed, -, attributes⟩, ⟨t', typed', -, attributes'⟩, -⟩ := isDrawings.complex?
  obtain ⟨shapeEmpty, circleEmpty⟩ := isDrawings.contentModel?
  rw [isValid_iff_visits, visits_scene isDrawings content, rootDeclaration?_scene isDrawings]
  refine ⟨rfl, ?_⟩
  simp only [List.forall_mem_cons, List.not_mem_nil, false_implies, implies_true, and_true]
  refine ⟨passes_sceneVisit isDrawings content, ?_, ?_⟩
  · exact passes_bareTag rfl circleDecl (circle ▸ circleEmpty) (circle ▸ typed')
      (by simp [attributes', Model.radius])
  · exact passes_bareTag rfl shapeDecl (shape ▸ shapeEmpty) (shape ▸ typed)
      (by simp [attributes, Table.empty])

end

/-! ## Abstract declarations -/

section

variable {supply : Schema.Supply} {documents : List Document}

/-- The automata of a compiled model have been made from the contents of its types. -/
theorem isConcrete_of_compile (compiled : Model.compile supply documents = .ok m) (type : TypeId)
    (r : ContentRun) (h : elementsRun? m type = some r) : r.IsConcrete m := by
  obtain ⟨report, a, -, -, rfl⟩ := Model.compile_eq_ok_iff.mp compiled
  unfold elementsRun? at h
  split at h <;> cases h
  rename_i automaton mixed content
  obtain ⟨own, built⟩ := Model.exists_automatonOf (Model.contentOf_of_contentModel? content)
  intro name id mem
  exact .of_mem (ContentModel.concrete_of_mem_alphabet built mem)

theorem isRouted_of_compile (compiled : Model.compile supply documents = .ok m) {v : Visit}
    (visited : v ∈ visits m document) : v.IsRouted m :=
  isRouted_of_mem_visits (isConcrete_of_compile compiled) visited

/-- A document is valid if its root has a declaration to be looked at by and all visits pass. No element
is looked at by an abstract declaration, unless a wildcard has come to it. -/
theorem concrete_of_visit (compiled : Model.compile supply documents = .ok m) :
    (isValid m document = true ↔
      (rootDeclaration? m document).isSome ∧ ∀ v ∈ visits m document, Passes (v.look m)) ∧
    ∀ v ∈ visits m document, (∀ process, v.route ≠ .matched process) →
      m.arena.IsConcrete v.declaration := by
  refine ⟨isValid_iff_visits m document, fun v visited direct => ?_⟩
  exact (isRouted_of_compile compiled visited).isConcrete fun process matched =>
    absurd matched (direct process)

theorem circle_concrete : ∃ m, Model.compile ⟨none, .standard⟩ [Model.drawings] = .ok m ∧
    isValid m scene = true ∧ circleVisit ∈ visits m scene ∧
    (∀ process, circleVisit.route ≠ .matched process) ∧
    m.arena.IsConcrete circleVisit.declaration := by
  obtain ⟨m, compiled, isDrawings, content⟩ := Model.exists_drawings
  have visited : circleVisit ∈ visits m scene := by
    rw [visits_scene isDrawings content]
    exact List.mem_cons_of_mem _ List.mem_cons_self
  have direct : ∀ process, circleVisit.route ≠ .matched process := by simp [circleVisit]
  exact ⟨m, compiled, isValid_scene isDrawings content, visited, direct,
    (concrete_of_visit compiled).2 _ visited direct⟩

/-- The second shape of the scene is looked at by the abstract declaration. -/
theorem not_concrete_of_visit : ¬ ∀ (supply : Schema.Supply) (documents : List Document) (m : Model)
    (document : Document) (v : Visit), Model.compile supply documents = .ok m →
      isValid m document = true → v ∈ visits m document → m.arena.IsConcrete v.declaration := by
  intro always
  obtain ⟨m, compiled, isDrawings, content⟩ := Model.exists_drawings
  have visited : shapeVisit ∈ visits m scene := by
    rw [visits_scene isDrawings content]
    exact List.mem_cons_of_mem _ (List.mem_cons_of_mem _ List.mem_cons_self)
  have concrete := always _ _ m _ _ compiled (isValid_scene isDrawings content) visited
  exact Bool.noConfusion (concrete _ isDrawings.element?.1)

/-- The type of an element is not abstract either, where only abstract declarations have types that
are declared abstract, and no wildcard has come to one of them. On the visits that this is said of
depends whether a document is valid. -/
theorem concreteType_of_visit (compiled : Model.compile supply documents = .ok m) :
    (isValid m document = true ↔
      (rootDeclaration? m document).isSome ∧ ∀ v ∈ visits m document, Passes (v.look m)) ∧
    ∀ v ∈ visits m document,
      (∀ process, v.route = .matched process → m.arena.IsConcrete v.declaration) →
      m.arena.Guards v.declaration →
      ∀ t, m.derived.complex? (m.elementType v.declaration) = some t → t.isAbstract = false := by
  refine ⟨isValid_iff_visits m document, fun v visited admitted guarded t typed => ?_⟩
  obtain ⟨grounded, derived⟩ := Model.grounded_of_compile compiled
  obtain ⟨definition, known, realizes⟩ := Derivation.exists_realizes grounded (derived ▸ typed)
  have concrete := (isRouted_of_compile compiled visited).isConcrete admitted
  rw [realizes.isAbstract, ← Bool.not_eq_true]
  intro abstract
  obtain ⟨e, declared, isAbstract⟩ := guarded definition known abstract
  exact Bool.false_ne_true ((concrete e declared).symm.trans isAbstract)

theorem circle_concreteType : ∃ m t, Model.compile ⟨none, .standard⟩ [Model.drawings] = .ok m ∧
    isValid m scene = true ∧ circleVisit ∈ visits m scene ∧
    (∀ process, circleVisit.route = .matched process →
      m.arena.IsConcrete circleVisit.declaration) ∧
    m.arena.Guards circleVisit.declaration ∧
    m.derived.complex? (m.elementType circleVisit.declaration) = some t ∧ t.isAbstract = false := by
  obtain ⟨m, compiled, isDrawings, content⟩ := Model.exists_drawings
  obtain ⟨-, ⟨t, typed, concrete, -⟩, -⟩ := isDrawings.complex?
  obtain ⟨-, circle, -, -⟩ := isDrawings.elementType
  rw [← circle] at typed
  have visited : circleVisit ∈ visits m scene := by
    rw [visits_scene isDrawings content]
    exact List.mem_cons_of_mem _ List.mem_cons_self
  have admitted : ∀ process, circleVisit.route = .matched process →
      m.arena.IsConcrete circleVisit.declaration := by
    rintro process ⟨⟩
  have guarded : m.arena.Guards circleVisit.declaration := by
    obtain ⟨grounded, derived⟩ := Model.grounded_of_compile compiled
    obtain ⟨own, known, realizes⟩ := Derivation.exists_realizes grounded (derived ▸ typed)
    intro definition known' abstract
    cases known.symm.trans known'
    rw [← realizes.isAbstract, concrete] at abstract
    cases abstract
  exact ⟨m, t, compiled, isValid_scene isDrawings content, visited, admitted, guarded, typed,
    (concreteType_of_visit compiled).2 _ visited admitted guarded t typed⟩

/-- The blob is of a type that is abstract. -/
theorem not_concreteType_of_visit : ¬ ∀ (supply : Schema.Supply) (documents : List Document)
    (m : Model) (document : Document) (v : Visit) (t : ComplexType),
      Model.compile supply documents = .ok m → isValid m document = true → v ∈ visits m document →
      m.derived.complex? (m.elementType v.declaration) = some t → t.isAbstract = false := by
  intro always
  obtain ⟨m, compiled, isDrawings, -⟩ := Model.exists_drawings
  obtain ⟨⟨t, typed, abstract, -⟩, -, -⟩ := isDrawings.complex?
  obtain ⟨-, -, blob, -⟩ := isDrawings.elementType
  rw [← blob] at typed
  have visited : blotVisit ∈ visits m blot := by
    rw [visits_blot isDrawings]
    exact List.mem_singleton_self _
  have concrete := always _ _ m _ _ t compiled (isValid_blot isDrawings) visited typed
  exact Bool.noConfusion (concrete.symm.trans abstract)

end

end Validation

end Xsd
