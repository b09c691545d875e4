import Xsd.Proofs.Validation.Modes

/-!
# Visits

Which elements of a document a validation looks at, each with the declaration by which it does, and
how it came to that one: as the root, by a symbol of an automaton, or by a wildcard. What a wildcard
admits and skips is not looked at, nor what an element holds that is nil. A document is valid
if each of its visits is in order, whatever is found further inside.
-/

namespace Xsd

/-- The name of a piece of content that is an element. -/
def Node.name? : Node → Option QName
  | .text _ => none
  | .element tag _ => some tag.name

namespace Validation

/-- How a declaration came to be that of an element. -/
inductive Route where
  | root
  | symbol
  | matched (process : ProcessContents)
deriving DecidableEq, Repr

/-- An element at its place, looked at as one that a declaration describes. -/
structure Visit where
  path : List String
  element : Element
  declaration : ElementId
  route : Route

/-- The element is nil, and may be. -/
def isNil (e : Element) (decl : ElementDecl) : Bool :=
  decl.nillable && ((nilText? e).map fun word => word == "true" || word == "1").getD false

/-- How what the elements of a type contain is read, if an automaton does. -/
def elementsRun? (m : Model) (type : TypeId) : Option ContentRun :=
  match m.contentModel? type with
  | some (.elements automaton mixed) => some (.start automaton mixed)
  | _ => none

/-- How what an element contains is read, if it is. -/
def contentRun? (m : Model) (e : Element) (id : ElementId) : Option ContentRun := do
  let decl ← m.arena.element? id
  if isNil e decl then none else elementsRun? m (m.elementType id)

mutual

/-- The visits from an element on that is looked at as one that the declaration describes. The path
is that of the element around it. -/
def visitDeclared (m : Model) (route : Route) (path : List String) (id : ElementId) :
    Node → List Visit
  | .text _ => []
  | .element tag nodes =>
    let path := path ++ [tag.name.clark]
    ⟨path, ⟨tag, nodes⟩, id, route⟩ ::
      match contentRun? m ⟨tag, nodes⟩ id with
      | none => []
      | some r => visitChildren m path r nodes

/-- The visits from an element on that a wildcard admits. -/
def visitMatched (m : Model) (process : ProcessContents) (path : List String) : Node → List Visit
  | .text _ => []
  | .element tag nodes =>
    let path := path ++ [tag.name.clark]
    if process = .skip then []
    else
      match m.globalElement? tag.name with
      | some id =>
        ⟨path, ⟨tag, nodes⟩, id, .matched process⟩ ::
          match contentRun? m ⟨tag, nodes⟩ id with
          | none => []
          | some r => visitChildren m path r nodes
      | none => if process = .strict then [] else visitUnknown m path nodes

/-- The visits to what an automaton reads. -/
def visitChildren (m : Model) (path : List String) (r : ContentRun) : List Node → List Visit
  | [] => []
  | n :: ns =>
    match n.name? with
    | none => visitChildren m path r ns
    | some name =>
      match r.element name with
      | .error _ => visitChildren m path r ns
      | .ok (.element _ id, next) =>
        visitDeclared m .symbol path id n ++ visitChildren m path next ns
      | .ok (.wildcard w, next) =>
        visitMatched m w.process path n ++ visitChildren m path next ns

/-- The visits to what is inside an element of which nothing is known. -/
def visitUnknown (m : Model) (path : List String) : List Node → List Visit
  | [] => []
  | n :: ns => visitMatched m .lax path n ++ visitUnknown m path ns

end

section

variable {m : Model} {path : List String} {tag : Tag} {nodes : List Node}

theorem visitMatched_skip : visitMatched m .skip path (.element tag nodes) = [] := by
  rw [visitMatched, if_pos rfl]

/-- A wildcard leads to the visits by the declaration of the name. -/
theorem visitMatched_of_global {process : ProcessContents} (skip : process ≠ .skip) {id : ElementId}
    (h : m.globalElement? tag.name = some id) :
    visitMatched m process path (.element tag nodes) =
      visitDeclared m (.matched process) path id (.element tag nodes) := by
  rw [visitMatched, if_neg skip, h, visitDeclared]

theorem visitMatched_strict (h : m.globalElement? tag.name = none) :
    visitMatched m .strict path (.element tag nodes) = [] := by
  rw [visitMatched, h]
  rfl

theorem visitMatched_lax (h : m.globalElement? tag.name = none) :
    visitMatched m .lax path (.element tag nodes) =
      visitUnknown m (path ++ [tag.name.clark]) nodes := by
  rw [visitMatched, h]
  rfl

end

/-- The declaration of the root of a document, if it has one that is not abstract. -/
def rootDeclaration? (m : Model) (document : Document) : Option ElementId := do
  let root ← document.root
  let id ← m.globalElement? root.name
  if ((m.arena.element? id).map (·.isAbstract)).getD false then none else some id

/-- The visits of a validation. -/
def visits (m : Model) (document : Document) : List Visit :=
  match document.root, rootDeclaration? m document with
  | some root, some id => visitDeclared m .root [] id (.element root.tag root.nodes)
  | _, _ => []

/-! ## What a look comes to -/

/-- What a look comes to by itself. -/
def outcome {α : Type} (look : ExceptT Violation (StateM (List Violation)) α) :
    Except Violation α :=
  (look.run.run []).1

variable {α β : Type} {m : Model} {e : Element} {path : List String}

/-- A strict look has collected nothing when it comes to its second part. -/
theorem outcome_bind {look : Context → ExceptT Violation (StateM (List Violation)) α}
    (h : InStep m look) (f : α → ExceptT Violation (StateM (List Violation)) β) :
    outcome (look ⟨.strict, path⟩ >>= f) =
      outcome (look ⟨.strict, path⟩) >>= fun a => outcome (f a) := by
  obtain ⟨a, found, -, runs⟩ := h path
  simp only [outcome, ExceptT.run_bind, StateT.run_bind, (runs []).2]
  cases found <;> rfl

/-- A strict look finds nothing. -/
def Passes (look : Look) : Prop := outcome look = .ok ()

theorem passes_bind {look : Context → ExceptT Violation (StateM (List Violation)) α}
    (h : InStep m look) {f : α → Look} :
    Passes (look ⟨.strict, path⟩ >>= f) ↔
      ∃ a, outcome (look ⟨.strict, path⟩) = .ok a ∧ Passes (f a) := by
  rw [Passes, outcome_bind h, bind_eq_ok_iff]
  rfl

theorem outcome_then {look : Context → Look} (h : InStep m look)
    {f : Unit → ExceptT Violation (StateM (List Violation)) β} {b : β} :
    outcome (look ⟨.strict, path⟩ >>= f) = .ok b ↔
      Passes (look ⟨.strict, path⟩) ∧ outcome (f ()) = .ok b := by
  rw [outcome_bind h, then_eq_ok_iff]
  rfl

theorem passes_then {look : Context → Look} (h : InStep m look) {f : Unit → Look} :
    Passes (look ⟨.strict, path⟩ >>= f) ↔ Passes (look ⟨.strict, path⟩) ∧ Passes (f ()) :=
  outcome_then h

theorem not_passes_raise (v : Violation) : ¬ Passes ((⟨.strict, path⟩ : Context).raise v) := by
  intro h
  cases h

/-- The look ends with the violation. -/
theorem not_passes_raise_then (v : Violation) (f : Unit → Look) :
    ¬ Passes ((⟨.strict, path⟩ : Context).raise v >>= f) := by
  intro h
  cases h

/-! ## Looks that do not go inside -/

/-- What a wildcard wants of an element if it does not go inside: that it is declared, where that
matters. -/
def demand (m : Model) (e : Element) (c : Context) (process : ProcessContents) : Look :=
  if (m.globalElement? e.name).isSome then return () else checkMatched m e [] c process

/-- What an element contains, with the elements not to be looked at. -/
def outline (m : Model) : Node → Child
  | .text content => .text content
  | .element tag nodes => .element ⟨tag, nodes⟩ (fun _ _ => return ()) (demand m ⟨tag, nodes⟩)

/-- The look at the element of a visit, without those inside. -/
def Visit.look (m : Model) (v : Visit) : Look :=
  checkDeclared m v.element (v.element.nodes.map (outline m)) ⟨.strict, v.path⟩ v.declaration

theorem inStep_demand (process : ProcessContents) : InStep m fun c => demand m e c process := by
  unfold demand
  split
  · exact .pure ()
  · exact inStep_checkMatched (by simp) process

theorem areInStep_outline (m : Model) (nodes : List Node) :
    ∀ c ∈ nodes.map (outline m), c.AreInStep m := by
  intro c hc
  obtain ⟨n, -, rfl⟩ := List.mem_map.mp hc
  cases n with
  | text content => exact trivial
  | element tag nodes =>
    exact ⟨fun id => .pure (), inStep_demand⟩

/-- Two ways to look at what an element contains differ in `P` only. -/
def Differ (P : Prop) (path : List String) (r : ContentRun) (whole outer : List Child) : Prop :=
  ∀ last, outcome (checkChildren ⟨.strict, path⟩ r whole) = .ok last ↔
    outcome (checkChildren ⟨.strict, path⟩ r outer) = .ok last ∧ P

theorem passes_checkTyped {P : Prop} {whole outer : List Child}
    (inWhole : ∀ c ∈ whole, c.AreInStep m) (inOuter : ∀ c ∈ outer, c.AreInStep m) {type : TypeId}
    {constraint : Option ValueConstraint} (outside : elementsRun? m type = none → P)
    (inside : ∀ r, elementsRun? m type = some r → Differ P path r whole outer) :
    Passes (checkTyped m e whole ⟨.strict, path⟩ type constraint) ↔
      Passes (checkTyped m e outer ⟨.strict, path⟩ type constraint) ∧ P := by
  unfold elementsRun? at outside inside
  unfold checkTyped
  split
  · exact iff_of_false (not_passes_raise _) fun h => not_passes_raise _ h.1
  · rename_i content known
    rw [known] at outside inside
    dsimp only
    split
    case' h_1 =>
      rw [passes_then (inStep_checkAttributes _), passes_then (inStep_checkAttributes _), and_assoc]
    case' h_2 =>
      rw [passes_then (inStep_forbidAttributes (m := m)),
        passes_then (inStep_forbidAttributes (m := m)), and_assoc]
    -- The content is looked at in the same way whatever the attributes are.
    all_goals
      refine and_congr_right fun _ => ?_
      cases content with
      | empty => exact (and_iff_left (outside rfl)).symm
      | simple valueType => exact (and_iff_left (outside rfl)).symm
      | elements automaton mixed =>
        dsimp only
        rw [passes_bind (inStep_checkChildren inWhole _),
          passes_bind (inStep_checkChildren inOuter _), ← exists_and_right]
        refine exists_congr fun last => ?_
        rw [inside _ rfl last, and_right_comm]

theorem passes_checkDeclared {P : Prop} {whole outer : List Child}
    (inWhole : ∀ c ∈ whole, c.AreInStep m) (inOuter : ∀ c ∈ outer, c.AreInStep m) {id : ElementId}
    (outside : contentRun? m e id = none → P)
    (inside : ∀ r, contentRun? m e id = some r → Differ P path r whole outer) :
    Passes (checkDeclared m e whole ⟨.strict, path⟩ id) ↔
      Passes (checkDeclared m e outer ⟨.strict, path⟩ id) ∧ P := by
  unfold contentRun? at outside inside
  unfold checkDeclared
  split
  · rename_i unknown
    exact (and_iff_left (outside (by rw [unknown]; rfl))).symm
  · rename_i decl known
    simp only [known, Option.bind_eq_bind, Option.bind_some] at outside inside
    dsimp only
    split
    · rename_i silent
      have notNil : isNil e decl = false := by simp [isNil, silent]
      rw [notNil] at outside inside
      exact passes_checkTyped inWhole inOuter outside inside
    · rename_i word said
      split
      · rename_i yes
        split
        · rename_i nillable
          have nil : isNil e decl = true := by simp [isNil, said, nillable, yes]
          rw [nil] at outside
          exact (and_iff_left (outside rfl)).symm
        · exact iff_of_false (not_passes_raise_then _ _) fun h => not_passes_raise_then _ _ h.1
      · rename_i no
        split
        · exact iff_of_false (not_passes_raise_then _ _) fun h => not_passes_raise_then _ _ h.1
        · have notNil : isNil e decl = false := by simp [isNil, said, no]
          rw [notNil] at outside inside
          exact passes_checkTyped inWhole inOuter outside inside

/-! ## Visits tell -/

/-- Whether a look at a piece of content finds anything is told by the visits there. A wildcard also
has a demand of its own, which is not about a visit. -/
def IsTold (m : Model) : Node → Prop
  | .text _ => True
  | .element tag nodes =>
    (∀ route path id,
      Passes (checkDeclared m ⟨tag, nodes⟩ (childrenOf m nodes)
          (Context.enter ⟨.strict, path⟩ tag.name) id) ↔
        ∀ v ∈ visitDeclared m route path id (.element tag nodes), Passes (v.look m)) ∧
    ∀ process path,
      Passes (checkMatched m ⟨tag, nodes⟩ (childrenOf m nodes)
          (Context.enter ⟨.strict, path⟩ tag.name) process) ↔
        Passes (demand m ⟨tag, nodes⟩ (Context.enter ⟨.strict, path⟩ tag.name) process) ∧
          ∀ v ∈ visitMatched m process path (.element tag nodes), Passes (v.look m)

variable {nodes : List Node}

/-- By induction on what an element contains; the automaton reads the same whether or not the
elements are looked at. -/
theorem differ_children (told : ∀ n ∈ nodes, IsTold m n) (r : ContentRun) :
    Differ (∀ v ∈ visitChildren m path r nodes, Passes (v.look m)) path r (childrenOf m nodes)
      (nodes.map (outline m)) := by
  induction nodes generalizing r with
  | nil =>
    intro last
    simp [visitChildren, childrenOf]
  | cons n ns ih =>
    intro last
    have ih := fun r => ih (fun n hn => told n (List.mem_cons_of_mem _ hn)) r last
    cases n with
    | text content =>
      have step : InStep m fun c => c.raiseIfError (r.text content) :=
        .raiseIfError fun v refused => by rw [kind_of_text refused]; rfl
      simp only [childrenOf, child, List.map_cons, outline, checkChildren, visitChildren, Node.name?]
      rw [outcome_then step, outcome_then step, ih r, and_assoc]
    | element tag nodes =>
      obtain ⟨declared, matched⟩ := told _ List.mem_cons_self
      have inside := areInStep_childrenOf m nodes
      simp only [childrenOf, child, List.map_cons, outline, checkChildren, visitChildren,
        Node.name?]
      cases read : r.element tag.name with
      | error v =>
        simp only [Element.name, read]
        refine iff_of_false (fun h => ?_) fun h => ?_
        · cases h
        · cases h.1
      | ok result =>
        obtain ⟨symbol, next⟩ := result
        cases symbol with
        | element name id =>
          simp only [Element.name, read, List.forall_mem_append]
          rw [outcome_then ((inStep_checkDeclared inside id).enter tag.name), pure_bind, ih next,
            declared .symbol path id, and_left_comm]
        | wildcard w =>
          simp only [Element.name, read, List.forall_mem_append]
          rw [outcome_then ((inStep_checkMatched inside w.process).enter tag.name),
            outcome_then ((inStep_demand w.process).enter tag.name), ih next,
            matched w.process path, and_and_and_comm]

section

variable {children : List Child} {c : Context}

theorem checkMatched_skip : checkMatched m e children c .skip = return () :=
  if_pos rfl

theorem checkMatched_of_global {process : ProcessContents} (skip : process ≠ .skip) {id : ElementId}
    (h : m.globalElement? e.name = some id) :
    checkMatched m e children c process = checkDeclared m e children c id := by
  rw [checkMatched, if_neg skip, h]

theorem checkMatched_strict (h : m.globalElement? e.name = none) :
    checkMatched m e children c .strict = c.raise (.of .unknownComponent
      s!"No global declaration for element '{e.name.clark}' matched by a strict wildcard") := by
  rw [checkMatched, if_neg (by decide), h]
  rfl

theorem checkMatched_lax (h : m.globalElement? e.name = none) :
    checkMatched m e children c .lax = children.forM fun
      | .text _ => return ()
      | .element inner _ matched => matched (c.enter inner.name) .lax := by
  rw [checkMatched, if_neg (by decide), h]
  rfl

theorem demand_of_global {process : ProcessContents} {id : ElementId}
    (h : m.globalElement? e.name = some id) : demand m e c process = return () := by
  rw [demand, h]
  rfl

theorem demand_of_unknown {process : ProcessContents} (h : m.globalElement? e.name = none) :
    demand m e c process = checkMatched m e [] c process := by
  rw [demand, h]
  rfl

theorem passes_demand_lax : Passes (demand m e c .lax) := by
  cases h : m.globalElement? e.name with
  | some id =>
    rw [demand_of_global h]
    rfl
  | none =>
    rw [demand_of_unknown h, checkMatched_lax h]
    rfl

end

/-- Of an element of which nothing is known only what is inside is looked at. -/
theorem passes_unknown (told : ∀ n ∈ nodes, IsTold m n) :
    Passes ((childrenOf m nodes).forM fun
        | .text _ => return ()
        | .element inner _ matched => matched (Context.enter ⟨.strict, path⟩ inner.name) .lax) ↔
      ∀ v ∈ visitUnknown m path nodes, Passes (v.look m) := by
  induction nodes with
  | nil => exact iff_of_true rfl (by simp [visitUnknown])
  | cons n ns ih =>
    have ih := ih fun n hn => told n (List.mem_cons_of_mem _ hn)
    cases n with
    | text content =>
      rw [visitUnknown, visitMatched, List.nil_append]
      exact ih
    | element tag nodes =>
      obtain ⟨-, matched⟩ := told _ List.mem_cons_self
      have inside := areInStep_childrenOf m nodes
      simp only [childrenOf, child, List.forM, visitUnknown, List.forall_mem_append, Element.name]
      rw [passes_then ((inStep_checkMatched inside .lax).enter tag.name), matched .lax path,
        and_iff_right passes_demand_lax]
      exact and_congr_right fun _ => ih

mutual

/-- By induction on the tree: what is inside an element is told before the element is. -/
theorem isTold (m : Model) (n : Node) : IsTold m n := by
  cases n with
  | text content => exact trivial
  | element tag nodes =>
    have told := areTold m nodes
    have inWhole := areInStep_childrenOf m nodes
    have inOuter := areInStep_outline m nodes
    have declared : ∀ route path id,
        Passes (checkDeclared m ⟨tag, nodes⟩ (childrenOf m nodes)
            (Context.enter ⟨.strict, path⟩ tag.name) id) ↔
          ∀ v ∈ visitDeclared m route path id (.element tag nodes), Passes (v.look m) := by
      intro route path id
      rw [visitDeclared, List.forall_mem_cons]
      refine passes_checkDeclared inWhole inOuter (fun none => ?_) fun r some => ?_
      · simp [none]
      · simp only [some]
        exact differ_children told r
    refine ⟨declared, fun process path => ?_⟩
    cases global : m.globalElement? tag.name with
    | some id =>
      rw [demand_of_global global]
      refine Iff.trans ?_ (and_iff_right rfl).symm
      by_cases skip : process = .skip
      · rw [skip, checkMatched_skip, visitMatched_skip]
        exact iff_of_true rfl (by simp)
      · rw [checkMatched_of_global skip global, visitMatched_of_global skip global]
        exact declared (.matched process) path id
    | none =>
      rw [demand_of_unknown global]
      cases process with
      | strict =>
        rw [checkMatched_strict global, checkMatched_strict global]
        exact iff_of_false (not_passes_raise _) fun h => not_passes_raise _ h.1
      | lax =>
        rw [checkMatched_lax global, checkMatched_lax global, visitMatched_lax global]
        exact (passes_unknown told).trans (and_iff_right rfl).symm
      | skip =>
        rw [checkMatched_skip, checkMatched_skip, visitMatched_skip]
        exact iff_of_true rfl ⟨rfl, by simp⟩

theorem areTold (m : Model) (ns : List Node) : ∀ n ∈ ns, IsTold m n := by
  cases ns with
  | nil => simp
  | cons n ns =>
    exact List.forall_mem_cons.mpr ⟨isTold m n, areTold m ns⟩

end

theorem isValid_iff_passes (m : Model) (document : Document) :
    isValid m document = true ↔ Passes (checkDocument m .strict document) := by
  unfold isValid checkStrictly result Passes outcome
  split <;> rename_i h <;> simp [h, Except.map, Except.isOk, Except.toBool]

/-- A document is valid if there is a declaration for its root and each of the visits passes by
itself. -/
theorem isValid_iff_visits (m : Model) (document : Document) :
    isValid m document = true ↔
      (rootDeclaration? m document).isSome ∧ ∀ v ∈ visits m document, Passes (v.look m) := by
  rw [isValid_iff_passes, checkDocument, visits, rootDeclaration?]
  cases document.root with
  | none => exact iff_of_false (not_passes_raise _) fun h => by cases h.1
  | some root =>
    cases global : m.globalElement? root.name with
    | none =>
      simp only [global, Option.bind_eq_bind, Option.bind_some, Option.bind_none]
      exact iff_of_false (not_passes_raise _) fun h => by cases h.1
    | some id =>
      simp only [global, Option.bind_eq_bind, Option.bind_some]
      split
      · exact iff_of_false (not_passes_raise _) fun h => by cases h.1
      · rw [Option.isSome_some, and_iff_right rfl]
        exact (isTold m (.element root.tag root.nodes)).1 .root [] id

end Validation

end Xsd
