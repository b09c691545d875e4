import Xsd.Proofs.Schema.Cells

/-!
# Schedules of a pass

The components of a pass can be gone over in any order, or by workers at the same time. Each of them
writes to the cells of its own component only, and the registry does not change meanwhile; so a pass
comes to the same in all schedules, and so does the resolution.
-/

namespace Xsd

namespace Resolution

/-! ## One component -/

/-- What comes of an attempt at a component. -/
inductive Outcome where
  | skipped
  | resolved
  | pending (needed : List Namespace)
deriving DecidableEq

def Outcome.needed : Outcome → List Namespace
  | .pending needed => needed
  | _ => []

/-- What comes of an attempt at a component, and the cells that it leaves. -/
structure Settlement where
  outcome : Outcome
  state : Option ResolutionState
  references : List AnyReference

/-- References in a document, bound as far as they can be. -/
def bindAll (registry : Registry) (document : DocumentId) (references : List AnyReference) :
    List AnyReference :=
  references.map (·.bindWith (binder registry document))

/-- The attempt at a component that finds the given cells. -/
def settle (registry : Registry) (document : DocumentId) (state : Option ResolutionState)
    (references : List AnyReference) : Settlement :=
  if state ≠ some .unresolved then ⟨.skipped, state, references⟩
  else
    let bound := bindAll registry document references
    if bound.all (·.isBound) then ⟨.resolved, some .resolved, bound⟩
    else ⟨.pending (bound.filterMap (missing? registry document)), some .unresolved, bound⟩

/-- The attempt at a component of an arena. -/
def settlement (registry : Registry) (a : Arena) (id : ComponentId) : Settlement :=
  settle registry (a.documentOf id) (a.cells.state id) (a.cells.references id)

/-- Add namespaces to those in order. -/
def addNeeded (added needed : List Namespace) : List Namespace :=
  added.foldl (fun ns n => Namespace.insertSorted n ns) needed

/-- What a pass has come to after one more component. -/
structure Settled (registry : Registry) (p : Pass) (id : ComponentId) (q : Pass) : Prop where
  skeleton : q.arena.skeleton = p.arena.skeleton
  cells : q.arena.cells = p.arena.cells.put id (settlement registry p.arena id).state
    (settlement registry p.arena id).references
  resolved : q.resolved =
    p.resolved + if (settlement registry p.arena id).outcome = .resolved then 1 else 0
  needed : q.needed = addNeeded (settlement registry p.arena id).outcome.needed p.needed

variable {registry : Registry} {a : Arena} {p q : Pass} {id other : ComponentId}

theorem name_bindReference {α : Type} [DecidableEq α] (document : DocumentId) (category : Category)
    (ofId : ComponentId → Option α) (r : Reference α) :
    (bindReference registry document category ofId r).name = r.name := by
  unfold bindReference
  split
  · rfl
  · split
    · rename_i target _
      unfold Reference.bind?
      split
      · rfl
      · split <;> rfl
    · rfl

theorem keepsNames_binder (registry : Registry) (document : DocumentId) :
    (binder registry document).KeepsNames :=
  ⟨name_bindReference _ _ _, name_bindReference _ _ _, name_bindReference _ _ _,
    name_bindReference _ _ _, name_bindReference _ _ _⟩

theorem settle_unresolved (registry : Registry) (document : DocumentId)
    (references : List AnyReference) :
    settle registry document (some .unresolved) references =
      if (bindAll registry document references).all (·.isBound) then
        ⟨.resolved, some .resolved, bindAll registry document references⟩
      else
        ⟨.pending ((bindAll registry document references).filterMap (missing? registry document)),
          some .unresolved, bindAll registry document references⟩ :=
  if_neg fun other => other rfl

theorem settlement_of_open {info : ComponentInfo} (hi : a.info? id = some info)
    (unresolved : info.state = .unresolved) :
    settlement registry a id =
      settle registry info.document (some .unresolved) (a.references id) := by
  have state : a.cells.state id = some .unresolved := by
    change (a.info? id).map (·.state) = _
    rw [hi, Option.map_some, unresolved]
  have document : a.documentOf id = info.document := by
    rw [Arena.documentOf, hi]
    rfl
  rw [settlement, state, document]
  rfl

theorem settled_resolveComponent (registry : Registry) (p : Pass) (id : ComponentId) :
    Settled registry p id (resolveComponent registry p id) := by
  have bound : ∀ {info : ComponentInfo},
      (p.arena.bindWith (binder registry info.document) id).references id =
        bindAll registry info.document (p.arena.references id) := by
    intro info
    rw [Arena.references_bindWith, if_pos rfl]
    rfl
  have attempt := attempt_resolveComponent registry p id
  generalize resolveComponent registry p id = q at attempt ⊢
  cases attempt with
  | idle closed =>
    have skipped : settlement registry p.arena id =
        ⟨.skipped, p.arena.cells.state id, p.arena.cells.references id⟩ := by
      refine if_pos fun unresolved => ?_
      obtain ⟨info, hi, state⟩ := Option.map_eq_some_iff.mp unresolved
      exact closed hi state
    constructor <;> simp [skipped, Cells.put, addNeeded, Outcome.needed]
  | @complete info arena hi unresolved same all =>
    have done : settlement registry p.arena id = ⟨.resolved, some .resolved,
        bindAll registry info.document (p.arena.references id)⟩ := by
      rw [settlement_of_open hi unresolved, settle_unresolved]
      refine if_pos (List.all_eq_true.mpr ?_)
      rwa [same, bound] at all
    subst same
    constructor
    · rw [Arena.skeleton_setState, Arena.skeleton_bindWith (keepsNames_binder ..)]
    · rw [done, Arena.cells_bindWith_setState _ _ _ _ hi]
      rfl
    · rw [done]
      rfl
    · rw [done]
      rfl
  | @release info arena hi unresolved same some =>
    have done : settlement registry p.arena id = ⟨.pending
        ((bindAll registry info.document (p.arena.references id)).filterMap
          (missing? registry info.document)), Option.some .unresolved,
        bindAll registry info.document (p.arena.references id)⟩ := by
      rw [settlement_of_open hi unresolved, settle_unresolved]
      refine if_neg fun all => ?_
      obtain ⟨r, hr, free⟩ := some
      rw [same, bound] at hr
      exact free (List.all_eq_true.mp all r hr)
    subst same
    constructor
    · rw [Arena.skeleton_setState, Arena.skeleton_bindWith (keepsNames_binder ..)]
    · rw [done, Arena.cells_bindWith_setState _ _ _ _ hi]
      rfl
    · rw [done]
      rfl
    · rw [done, bound]
      rfl

/-- An attempt at one component does not make a difference to another. -/
theorem Settled.settlement_of_ne (h : Settled registry p id q) (ne : other ≠ id) :
    settlement registry q.arena other = settlement registry p.arena other := by
  rw [settlement, settlement, Arena.documentOf_eq h.skeleton, h.cells,
    Cells.state_put_of_ne _ _ _ _ ne, Cells.references_put_of_ne _ _ _ _ ne]

/-! ## Orders -/

theorem insertSorted_comm_of_lt {m n : Namespace} (h : compare m n = .lt) (ns : List Namespace) :
    Namespace.insertSorted m (Namespace.insertSorted n ns) =
      Namespace.insertSorted n (Namespace.insertSorted m ns) := by
  have h' : compare n m = .gt := Std.OrientedCmp.gt_of_lt h
  induction ns with
  | nil => simp [Namespace.insertSorted, h, h']
  | cons k ns ih =>
    cases hn : compare n k with
    | lt =>
      have hm : compare m k = .lt := Std.TransCmp.lt_trans h hn
      simp [Namespace.insertSorted, h, h', hm, hn]
    | eq =>
      cases Std.LawfulEqCmp.eq_of_compare hn
      simp [Namespace.insertSorted, h, h']
    | gt =>
      cases hm : compare m k with
      | lt => simp [Namespace.insertSorted, h', hm, hn]
      | eq => simp [Namespace.insertSorted, hm, hn]
      | gt => simp [Namespace.insertSorted, hm, hn, ih]

theorem insertSorted_comm (m n : Namespace) (ns : List Namespace) :
    Namespace.insertSorted m (Namespace.insertSorted n ns) =
      Namespace.insertSorted n (Namespace.insertSorted m ns) := by
  cases h : compare m n with
  | lt => exact insertSorted_comm_of_lt h ns
  | eq =>
    cases Std.LawfulEqCmp.eq_of_compare h
    rfl
  | gt => exact (insertSorted_comm_of_lt (Std.OrientedCmp.lt_of_gt h) ns).symm

theorem addNeeded_append (xs ys needed : List Namespace) :
    addNeeded (xs ++ ys) needed = addNeeded ys (addNeeded xs needed) :=
  List.foldl_append

theorem addNeeded_comm (xs ys needed : List Namespace) :
    addNeeded xs (addNeeded ys needed) = addNeeded ys (addNeeded xs needed) := by
  have : RightCommutative fun (ns : List Namespace) n => Namespace.insertSorted n ns :=
    ⟨fun ns m n => insertSorted_comm n m ns⟩
  rw [← addNeeded_append, ← addNeeded_append]
  exact List.perm_append_comm.foldl_eq needed

/-- Two passes are the same if their arenas have the same skeleton and the same cells. -/
theorem pass_eq (skeleton : p.arena.skeleton = q.arena.skeleton)
    (cells : p.arena.cells = q.arena.cells) (resolved : p.resolved = q.resolved)
    (needed : p.needed = q.needed) : p = q := by
  have arena := Arena.eq_of_cells skeleton cells
  obtain ⟨⟩ := p
  obtain ⟨⟩ := q
  cases arena
  cases resolved
  cases needed
  rfl

/-- Attempts at two components can be made in either order. -/
theorem resolveComponent_comm (registry : Registry) (p : Pass) (id other : ComponentId) :
    resolveComponent registry (resolveComponent registry p id) other =
      resolveComponent registry (resolveComponent registry p other) id := by
  by_cases same : other = id
  · rw [same]
  · have first := settled_resolveComponent registry p id
    have first' := settled_resolveComponent registry p other
    have second := settled_resolveComponent registry (resolveComponent registry p id) other
    have second' := settled_resolveComponent registry (resolveComponent registry p other) id
    have apart := first.settlement_of_ne same
    have apart' := first'.settlement_of_ne (Ne.symm same)
    apply pass_eq
    · rw [second.skeleton, first.skeleton, second'.skeleton, first'.skeleton]
    · rw [second.cells, first.cells, second'.cells, first'.cells, apart, apart']
      exact Cells.put_comm _ _ _ _ same _ _
    · rw [second.resolved, first.resolved, second'.resolved, first'.resolved, apart, apart']
      exact Nat.add_right_comm ..
    · rw [second.needed, first.needed, second'.needed, first'.needed, apart, apart']
      exact addNeeded_comm ..

/-- The order in which the components are gone over makes no difference. -/
theorem pass_perm (registry : Registry) (a : Arena) {todo order : List ComponentId}
    (perm : order.Perm todo) : pass registry a order = pass registry a todo := by
  have : RightCommutative (resolveComponent registry) := ⟨resolveComponent_comm registry⟩
  exact perm.foldl_eq _

/-! ## What a pass comes to -/

/-- What the attempts at different components come to, each in the cells that are there at the
start. -/
structure Concludes (registry : Registry) (a : Arena) (todo : List ComponentId) (cells : Cells)
    (resolved : Nat) (needed : List Namespace) : Prop where
  state : ∀ id, cells.state id =
    if id ∈ todo then (settlement registry a id).state else a.cells.state id
  references : ∀ id, cells.references id =
    if id ∈ todo then (settlement registry a id).references else a.cells.references id
  resolved : resolved = todo.countP fun id => (settlement registry a id).outcome = .resolved
  needed : needed = addNeeded (todo.flatMap fun id => (settlement registry a id).outcome.needed) []

theorem Concludes.cells_eq {todo : List ComponentId} {cells cells' : Cells} {resolved resolved' : Nat}
    {needed needed' : List Namespace} (h : Concludes registry a todo cells resolved needed)
    (h' : Concludes registry a todo cells' resolved' needed') : cells = cells' :=
  Cells.ext (funext fun id => (h.state id).trans (h'.state id).symm)
    (funext fun id => (h.references id).trans (h'.references id).symm)

theorem skeleton_pass (registry : Registry) (a : Arena) (todo : List ComponentId) :
    (pass registry a todo).arena.skeleton = a.skeleton := by
  induction todo using List.reverseRecOn with
  | nil => rfl
  | append_singleton todo id ih =>
    rw [pass, List.foldl_append]
    exact (settled_resolveComponent registry (pass registry a todo) id).skeleton.trans ih

theorem concludes_pass (registry : Registry) (a : Arena) {todo : List ComponentId}
    (nodup : todo.Nodup) :
    Concludes registry a todo (pass registry a todo).arena.cells (pass registry a todo).resolved
      (pass registry a todo).needed := by
  induction todo using List.reverseRecOn with
  | nil => exact ⟨fun id => by simp [pass], fun id => by simp [pass], rfl, rfl⟩
  | append_singleton todo id ih =>
    obtain ⟨nodup, -, fresh⟩ := List.nodup_append.mp nodup
    have h := ih nodup
    have new : id ∉ todo := fun mem => fresh id mem id (List.mem_singleton_self id) rfl
    have step : pass registry a (todo ++ [id]) =
        resolveComponent registry (pass registry a todo) id := by
      rw [pass, List.foldl_append]
      rfl
    have last := settled_resolveComponent registry (pass registry a todo) id
    have same : settlement registry (pass registry a todo).arena id = settlement registry a id := by
      rw [settlement, settlement, Arena.documentOf_eq (skeleton_pass registry a todo), h.state,
        h.references, if_neg new, if_neg new]
    rw [step]
    constructor
    · intro other
      rw [last.cells, same]
      by_cases eq : other = id
      · simp [eq]
      · rw [Cells.state_put_of_ne _ _ _ _ eq, h.state]
        simp [eq]
    · intro other
      rw [last.cells, same]
      by_cases eq : other = id
      · simp [eq]
      · rw [Cells.references_put_of_ne _ _ _ _ eq, h.references]
        simp [eq]
    · rw [last.resolved, same, h.resolved, List.countP_append, List.countP_singleton]
      simp
    · rw [last.needed, same, h.needed, List.flatMap_append, addNeeded_append]
      simp

/-! ## Workers -/

/-- How far a worker has got with its component: it has not begun; it has looked at so many of the
references, all of which are bound or not, and has noted the namespaces that are missing; or it is
through. -/
inductive Stage where
  | waiting
  | binding (next : Nat) (complete : Bool) (needed : List Namespace)
  | done (outcome : Outcome)

/-- A worker, with its component and the document in which that is declared. -/
structure Worker where
  id : ComponentId
  document : DocumentId
  stage : Stage

/-- A step of a worker, in which no other worker takes part: it claims its component or finds that
it is not up for resolving, looks at the next reference, or completes or releases the component. -/
inductive Acts (registry : Registry) (c : Cells) : Worker → Cells → Worker → Prop
  | claim {id : ComponentId} {document : DocumentId} {before claimed : ResolutionState} :
    c.state id = some before → before.claim = some claimed →
      Acts registry c ⟨id, document, .waiting⟩ (c.put id (some claimed) (c.references id))
        ⟨id, document, .binding 0 true []⟩
  | skip {id : ComponentId} {document : DocumentId} :
    (∀ before, c.state id = some before → before.claim = none) →
      Acts registry c ⟨id, document, .waiting⟩ c ⟨id, document, .done .skipped⟩
  | look {id : ComponentId} {document : DocumentId} {next : Nat} {complete : Bool}
    {needed : List Namespace} {r s : AnyReference} :
    (c.references id)[next]? = some r → s = r.bindWith (binder registry document) →
      Acts registry c ⟨id, document, .binding next complete needed⟩
        (c.put id (c.state id) ((c.references id).set next s))
        ⟨id, document, .binding (next + 1) (complete && s.isBound)
          (needed ++ (missing? registry document s).toList)⟩
  | complete {id : ComponentId} {document : DocumentId} {next : Nat} {needed : List Namespace} :
    (c.references id)[next]? = none →
      Acts registry c ⟨id, document, .binding next true needed⟩
        (c.put id ((c.state id).map fun s => s.complete.getD s) (c.references id))
        ⟨id, document, .done .resolved⟩
  | release {id : ComponentId} {document : DocumentId} {next : Nat} {needed : List Namespace} :
    (c.references id)[next]? = none →
      Acts registry c ⟨id, document, .binding next false needed⟩
        (c.put id ((c.state id).map fun s => s.release.getD s) (c.references id))
        ⟨id, document, .done (.pending needed)⟩

/-- A worker keeps its component, and leaves the cells of others alone. -/
structure StaysWith (c : Cells) (w : Worker) (c' : Cells) (w' : Worker) : Prop where
  id : w'.id = w.id
  document : w'.document = w.document
  state : ∀ other, other ≠ w.id → c'.state other = c.state other
  references : ∀ other, other ≠ w.id → c'.references other = c.references other

theorem StaysWith.put (c : Cells) (w : Worker) (stage : Stage) (state : Option ResolutionState)
    (references : List AnyReference) :
    StaysWith c w (c.put w.id state references) ⟨w.id, w.document, stage⟩ :=
  ⟨rfl, rfl, fun _ => Cells.state_put_of_ne _ _ _ _, fun _ => Cells.references_put_of_ne _ _ _ _⟩

theorem Acts.staysWith {c c' : Cells} {w w' : Worker} (h : Acts registry c w c' w') :
    StaysWith c w c' w' := by
  cases h with
  | skip => exact ⟨rfl, rfl, fun _ _ => rfl, fun _ _ => rfl⟩
  | claim => exact .put c ⟨_, _, .waiting⟩ _ _ _
  | look => exact .put c ⟨_, _, .binding _ _ _⟩ _ _ _
  | complete => exact .put c ⟨_, _, .binding _ true _⟩ _ _ _
  | release => exact .put c ⟨_, _, .binding _ false _⟩ _ _ _

/-- What a worker that has begun has done to the cells that were there at the start: the first
references are bound, and it has noted what it has to know about them. -/
structure IsBinding (registry : Registry) (start c : Cells) (id : ComponentId)
    (document : DocumentId) (next : Nat) (complete : Bool) (needed : List Namespace) : Prop where
  unresolved : start.state id = some .unresolved
  resolving : c.state id = some .resolving
  references : ∀ i, (c.references id)[i]? =
    if i < next then (bindAll registry document (start.references id))[i]?
    else (start.references id)[i]?
  complete : complete =
    ((bindAll registry document (start.references id)).take next).all (·.isBound)
  needed : needed =
    ((bindAll registry document (start.references id)).take next).filterMap
      (missing? registry document)

/-- The cells of its component and what a worker knows fit the cells that were there at the
start. -/
inductive Fits (registry : Registry) (start c : Cells) (w : Worker) : Prop
  | waiting : w.stage = .waiting → c.state w.id = start.state w.id →
    c.references w.id = start.references w.id → Fits registry start c w
  | binding {next : Nat} {complete : Bool} {needed : List Namespace} :
    w.stage = .binding next complete needed →
      IsBinding registry start c w.id w.document next complete needed → Fits registry start c w
  | done {s : Settlement} :
    s = settle registry w.document (start.state w.id) (start.references w.id) →
      w.stage = .done s.outcome → c.state w.id = s.state → c.references w.id = s.references →
      Fits registry start c w

theorem Fits.congr {start c c' : Cells} {w : Worker} (h : Fits registry start c w)
    (state : c'.state w.id = c.state w.id) (references : c'.references w.id = c.references w.id) :
    Fits registry start c' w := by
  cases h with
  | waiting stage hs hr => exact .waiting stage (state.trans hs) (references.trans hr)
  | binding stage h =>
    exact .binding stage
      ⟨h.unresolved, state.trans h.resolving, references ▸ h.references, h.complete, h.needed⟩
  | done hs stage state' references' =>
    exact .done hs stage (state.trans state') (references.trans references')

section

variable {start c c' : Cells} {id : ComponentId} {document : DocumentId} {w w' : Worker} {next : Nat}
  {complete : Bool} {needed : List Namespace}

theorem IsBinding.look (h : IsBinding registry start c id document next complete needed)
    {r s : AnyReference} (hr : (c.references id)[next]? = some r)
    (hs : s = r.bindWith (binder registry document)) :
    IsBinding registry start (c.put id (c.state id) ((c.references id).set next s)) id document
      (next + 1) (complete && s.isBound) (needed ++ (missing? registry document s).toList) := by
  have found : (start.references id)[next]? = some r := by
    rw [← hr, h.references, if_neg (Nat.lt_irrefl next)]
  have bound : (bindAll registry document (start.references id))[next]? = some s := by
    rw [bindAll, List.getElem?_map, found, hs]
    rfl
  have more : (bindAll registry document (start.references id)).take (next + 1) =
      (bindAll registry document (start.references id)).take next ++ [s] := by
    rw [List.take_add_one, bound]
    rfl
  refine ⟨h.unresolved, ?_, fun i => ?_, ?_, ?_⟩
  · rw [Cells.state_put_self, h.resolving]
  · rw [Cells.references_put_self]
    by_cases same : next = i
    · subst same
      rw [List.getElem?_set_self (List.getElem?_eq_some_iff.mp hr).1, if_pos (Nat.lt_succ_self next),
        bound]
    · have iff : i < next + 1 ↔ i < next := by omega
      rw [List.getElem?_set_ne same, h.references]
      simp only [iff]
  · rw [more, List.all_append, h.complete]
    simp
  · rw [more, List.filterMap_append, h.needed]
    cases hm : missing? registry document s <;> simp [hm]

/-- A worker has looked at all references of its component. -/
theorem IsBinding.finish (h : IsBinding registry start c id document next complete needed)
    (last : (c.references id)[next]? = none) :
    c.references id = bindAll registry document (start.references id) ∧
      complete = (bindAll registry document (start.references id)).all (·.isBound) ∧
      needed = (bindAll registry document (start.references id)).filterMap
        (missing? registry document) := by
  have short : (bindAll registry document (start.references id)).length ≤ next := by
    rw [h.references, if_neg (Nat.lt_irrefl next)] at last
    rw [bindAll, List.length_map]
    exact List.getElem?_eq_none_iff.mp last
  have all := List.take_of_length_le short
  refine ⟨List.ext_getElem? fun i => ?_, all ▸ h.complete, all ▸ h.needed⟩
  rw [h.references]
  split
  · rfl
  · rename_i beyond
    rw [List.getElem?_eq_none (Nat.le_trans short (Nat.le_of_not_lt beyond)), List.getElem?_eq_none]
    rw [bindAll, List.length_map] at short
    exact Nat.le_trans short (Nat.le_of_not_lt beyond)

/-- What a worker does fits the cells that were there at the start. -/
theorem Acts.fits (h : Acts registry c w c' w') (fits : Fits registry start c w) :
    Fits registry start c' w' := by
  cases h with
  | @claim id document before claimed found can =>
    cases fits with
    | waiting _ state references =>
      obtain ⟨rfl, rfl⟩ := ResolutionState.step_eq_some_iff.mp can
      refine .binding rfl ⟨state.symm.trans found, Cells.state_put_self .., fun i => ?_, rfl, rfl⟩
      rw [Cells.references_put_self, references, if_neg (Nat.not_lt_zero i)]
    | binding stage => cases stage
    | done _ stage => cases stage
  | @skip id document cannot =>
    cases fits with
    | waiting _ state references =>
      have closed : start.state id ≠ some .unresolved := by
        intro unresolved
        cases cannot _ (state.trans unresolved)
      exact .done (if_pos closed).symm rfl state references
    | binding stage => cases stage
    | done _ stage => cases stage
  | @look id document next complete needed r s found same =>
    cases fits with
    | waiting stage => cases stage
    | binding stage h =>
      cases stage
      exact .binding rfl (h.look found same)
    | done _ stage => cases stage
  | @complete id document next needed last =>
    cases fits with
    | waiting stage => cases stage
    | binding stage h =>
      cases stage
      obtain ⟨references, all, -⟩ := h.finish last
      have settled := settle_unresolved registry document (start.references id)
      rw [← h.unresolved, if_pos all.symm] at settled
      refine .done settled.symm rfl ?_ ?_
      · rw [Cells.state_put_self, h.resolving]
        rfl
      · rw [Cells.references_put_self, references]
    | done _ stage => cases stage
  | @release id document next needed last =>
    cases fits with
    | waiting stage => cases stage
    | binding stage h =>
      cases stage
      obtain ⟨references, all, missing⟩ := h.finish last
      have settled := settle_unresolved registry document (start.references id)
      rw [← h.unresolved, if_neg (by rw [← all]; decide), ← missing] at settled
      refine .done settled.symm rfl ?_ ?_
      · rw [Cells.state_put_self, h.resolving, h.unresolved]
        rfl
      · rw [Cells.references_put_self, references]
    | done _ stage => cases stage

end

/-! ## Crews -/

/-- Workers at the same cells. -/
structure Crew where
  cells : Cells
  workers : List Worker

namespace Crew

/-- One of the workers takes a step. -/
inductive Step (registry : Registry) : Crew → Crew → Prop
  | act {c c' : Cells} {w w' : Worker} (front back : List Worker) : Acts registry c w c' w' →
    Step registry ⟨c, front ++ w :: back⟩ ⟨c', front ++ w' :: back⟩

/-- Workers take steps in any order. -/
def Runs (registry : Registry) : Crew → Crew → Prop := Relation.ReflTransGen (Step registry)

/-- A worker for each of the components, none of which has begun. -/
def start (a : Arena) (todo : List ComponentId) : Crew :=
  ⟨a.cells, todo.map fun id => ⟨id, a.documentOf id, .waiting⟩⟩

/-- All workers are through. -/
def IsDone (crew : Crew) : Prop := ∀ w ∈ crew.workers, ∃ outcome, w.stage = .done outcome

/-- How many components the workers have resolved. -/
def resolved (crew : Crew) : Nat :=
  crew.workers.countP fun w => match w.stage with
    | .done .resolved => true
    | _ => false

/-- The namespaces that the workers have found missing, in order. -/
def needed (crew : Crew) : List Namespace :=
  addNeeded (crew.workers.flatMap fun w => match w.stage with
    | .done outcome => outcome.needed
    | _ => []) []

end Crew

/-- What is true of a crew at any time. -/
structure CrewFits (registry : Registry) (a : Arena) (todo : List ComponentId) (crew : Crew) :
    Prop where
  members : crew.workers.map (fun w => (w.id, w.document)) = todo.map fun id => (id, a.documentOf id)
  workers : ∀ w ∈ crew.workers, Fits registry a.cells crew.cells w
  state : ∀ id ∉ todo, crew.cells.state id = a.cells.state id
  references : ∀ id ∉ todo, crew.cells.references id = a.cells.references id

section

variable {todo : List ComponentId} {crew crew' : Crew}

theorem crewFits_start (registry : Registry) (a : Arena) (todo : List ComponentId) :
    CrewFits registry a todo (Crew.start a todo) where
  members := by
    rw [Crew.start, List.map_map]
    rfl
  workers w mem := by
    obtain ⟨id, -, rfl⟩ := List.mem_map.mp mem
    exact .waiting rfl rfl rfl
  state _ _ := rfl
  references _ _ := rfl

theorem CrewFits.ids (h : CrewFits registry a todo crew) : crew.workers.map (·.id) = todo := by
  have ids := congrArg (List.map Prod.fst) h.members
  rw [List.map_map, List.map_map] at ids
  exact ids.trans (List.map_id' todo)

/-- A step of one worker leaves the cells of the other workers alone, as all have components of their
own. -/
theorem CrewFits.step (nodup : todo.Nodup) (h : CrewFits registry a todo crew)
    (step : Crew.Step registry crew crew') : CrewFits registry a todo crew' := by
  cases step with
  | @act c c' w w' front back acts =>
    have stays := acts.staysWith
    have ids := h.ids
    rw [← ids] at nodup
    rw [List.map_append, List.map_cons, List.nodup_middle] at nodup
    obtain ⟨alone, -⟩ := List.nodup_cons.mp nodup
    have apart : ∀ other, other ∈ front ∨ other ∈ back → other.id ≠ w.id := by
      intro other mem same
      refine alone (same ▸ ?_)
      rw [List.mem_append]
      exact mem.imp (List.mem_map_of_mem ·) (List.mem_map_of_mem ·)
    have kept : ∀ other, other ∈ front ∨ other ∈ back → Fits registry a.cells c' other := by
      intro other mem
      have ne := apart other mem
      refine (h.workers other ?_).congr (stays.state _ ne) (stays.references _ ne)
      simp only [List.mem_append, List.mem_cons]
      tauto
    have listed : w.id ∈ todo := by
      rw [← ids]
      simp
    constructor
    · have members := h.members
      rw [List.map_append, List.map_cons] at members ⊢
      rw [stays.id, stays.document, members]
    · intro other mem
      rcases List.mem_append.mp mem with mem | mem
      · exact kept other (Or.inl mem)
      · rcases List.mem_cons.mp mem with rfl | mem
        · exact acts.fits (h.workers w (by simp))
        · exact kept other (Or.inr mem)
    · intro id unlisted
      exact (stays.state id fun same => unlisted (same ▸ listed)).trans (h.state id unlisted)
    · intro id unlisted
      exact (stays.references id fun same => unlisted (same ▸ listed)).trans
        (h.references id unlisted)

theorem crewFits_of_runs (nodup : todo.Nodup) (runs : (Crew.start a todo).Runs registry crew) :
    CrewFits registry a todo crew := by
  induction runs with
  | refl => exact crewFits_start registry a todo
  | tail _ step ih => exact ih.step nodup step

/-- A worker that is through has come to what the attempt at its component comes to. -/
theorem CrewFits.done (h : CrewFits registry a todo crew) {w : Worker} (mem : w ∈ crew.workers)
    {outcome : Outcome} (through : w.stage = .done outcome) :
    outcome = (settlement registry a w.id).outcome ∧
      crew.cells.state w.id = (settlement registry a w.id).state ∧
      crew.cells.references w.id = (settlement registry a w.id).references := by
  have document : w.document = a.documentOf w.id := by
    have listed := List.mem_map_of_mem (f := fun w : Worker => (w.id, w.document)) mem
    rw [h.members] at listed
    obtain ⟨id, -, same⟩ := List.mem_map.mp listed
    obtain ⟨rfl, document⟩ := Prod.mk.inj same
    exact document.symm
  cases h.workers w mem with
  | waiting stage => cases through.symm.trans stage
  | binding stage => cases through.symm.trans stage
  | done settled stage state references =>
    cases through.symm.trans stage
    rw [document] at settled
    subst settled
    exact ⟨rfl, state, references⟩

/-- A crew whose workers are through has come to what the attempts come to. -/
theorem CrewFits.concludes (fits : CrewFits registry a todo crew) (through : crew.IsDone) :
    Concludes registry a todo crew.cells crew.resolved crew.needed := by
  have ids := fits.ids
  have member : ∀ id ∈ todo, ∃ w ∈ crew.workers, w.id = id := by
    intro id mem
    rw [← ids] at mem
    exact List.mem_map.mp mem
  constructor
  · intro id
    split
    · rename_i mem
      obtain ⟨w, hw, rfl⟩ := member id mem
      obtain ⟨outcome, stage⟩ := through w hw
      exact (fits.done hw stage).2.1
    · rename_i unlisted
      exact fits.state id unlisted
  · intro id
    split
    · rename_i mem
      obtain ⟨w, hw, rfl⟩ := member id mem
      obtain ⟨outcome, stage⟩ := through w hw
      exact (fits.done hw stage).2.2
    · rename_i unlisted
      exact fits.references id unlisted
  · rw [Crew.resolved, ← ids, List.countP_map]
    refine List.countP_congr fun w hw => ?_
    obtain ⟨outcome, stage⟩ := through w hw
    have same := (fits.done hw stage).1
    rw [stage, Function.comp_apply, ← same]
    cases outcome <;> simp
  · rw [Crew.needed, ← ids, List.flatMap_map]
    congr 1
    refine List.flatMap_congr fun w hw => ?_
    obtain ⟨outcome, stage⟩ := through w hw
    rw [stage, (fits.done hw stage).1]

/-! ## Every crew can get through -/

/-- A worker that has begun gets through: there are only so many references left to look at. -/
theorem exists_done_of_binding (registry : Registry) (c : Cells) (id : ComponentId)
    (document : DocumentId) (next : Nat) (complete : Bool) (needed : List Namespace) :
    ∃ c' outcome, Relation.ReflTransGen
      (fun x y : Cells × Worker => Acts registry x.1 x.2 y.1 y.2)
      (c, ⟨id, document, .binding next complete needed⟩) (c', ⟨id, document, .done outcome⟩) := by
  induction h : (c.references id).length - next generalizing c next complete needed with
  | zero =>
    have last : (c.references id)[next]? = none := List.getElem?_eq_none (by omega)
    cases complete with
    | true => exact ⟨_, _, .single (.complete last)⟩
    | false => exact ⟨_, _, .single (.release last)⟩
  | succ n ih =>
    have more : next < (c.references id).length := by omega
    have found := List.getElem?_eq_getElem more
    let s := (c.references id)[next].bindWith (binder registry document)
    obtain ⟨c', outcome, rest⟩ := ih (c.put id (c.state id) ((c.references id).set next s)) (next + 1)
      _ _ (by rw [Cells.references_put_self, List.length_set]; omega)
    exact ⟨c', outcome, .head (.look found rfl) rest⟩

theorem exists_done (registry : Registry) (c : Cells) (w : Worker) :
    ∃ c' w' outcome, Relation.ReflTransGen
      (fun x y : Cells × Worker => Acts registry x.1 x.2 y.1 y.2) (c, w) (c', w') ∧
        w'.stage = .done outcome := by
  obtain ⟨id, document, stage⟩ := w
  cases stage with
  | waiting =>
    cases hc : (c.state id).bind (·.claim) with
    | none =>
      refine ⟨c, ⟨id, document, .done .skipped⟩, _, .single (.skip fun before found => ?_), rfl⟩
      rwa [found] at hc
    | some claimed =>
      obtain ⟨before, found, can⟩ := Option.bind_eq_some_iff.mp hc
      obtain ⟨c', outcome, rest⟩ := exists_done_of_binding registry
        (c.put id (some claimed) (c.references id)) id document 0 true []
      exact ⟨c', _, outcome, .head (.claim found can) rest, rfl⟩
  | binding next complete needed =>
    obtain ⟨c', outcome, rest⟩ :=
      exists_done_of_binding registry c id document next complete needed
    exact ⟨c', _, outcome, rest, rfl⟩
  | done outcome => exact ⟨_, _, outcome, .refl, rfl⟩

/-- Workers get through one after the other. -/
theorem exists_runs_isDone (registry : Registry) (crew : Crew) :
    ∃ crew', crew.Runs registry crew' ∧ crew'.IsDone := by
  obtain ⟨c, workers⟩ := crew
  have remaining : ∀ (back : List Worker) (c : Cells) (front : List Worker),
      (∀ w ∈ front, ∃ outcome, w.stage = .done outcome) →
        ∃ crew', Crew.Runs registry ⟨c, front ++ back⟩ crew' ∧ crew'.IsDone := by
    intro back
    induction back with
    | nil =>
      intro c front through
      exact ⟨_, .refl, by rwa [List.append_nil]⟩
    | cons w back ih =>
      intro c front through
      obtain ⟨c', w', outcome, acts, stage⟩ := exists_done registry c w
      have runs : Crew.Runs registry ⟨c, front ++ w :: back⟩ ⟨c', front ++ w' :: back⟩ :=
        Relation.ReflTransGen.lift (p := Crew.Step registry)
          (fun x : Cells × Worker => ⟨x.1, front ++ x.2 :: back⟩)
          (fun _ _ step => .act front back step) _ _ acts
      obtain ⟨crew', rest, through'⟩ := ih c' (front ++ [w']) fun other mem => by
        rcases List.mem_append.mp mem with mem | mem
        · exact through other mem
        · cases List.mem_singleton.mp mem
          exact ⟨outcome, stage⟩
      rw [List.append_assoc, List.singleton_append] at rest
      exact ⟨crew', runs.trans rest, through'⟩
  exact remaining workers c [] fun w mem => by cases mem

/-- The pass is what a crew comes to whose workers are through; of the arena they change the cells
only. -/
def Performs (registry : Registry) (a : Arena) (todo : List ComponentId) (p : Pass) : Prop :=
  ∃ crew, (Crew.start a todo).Runs registry crew ∧ crew.IsDone ∧
    p.arena.skeleton = a.skeleton ∧ p.arena.cells = crew.cells ∧ p.resolved = crew.resolved ∧
      p.needed = crew.needed

/-- A pass over different components is what every crew comes to, whatever the order of its steps. -/
theorem performs_iff (registry : Registry) (a : Arena) (nodup : todo.Nodup) (p : Pass) :
    Performs registry a todo p ↔ p = pass registry a todo := by
  have concludes := concludes_pass registry a nodup
  have skeleton := skeleton_pass registry a todo
  constructor
  · rintro ⟨crew, runs, through, skeleton', cells, resolved, needed⟩
    have concludes' := (crewFits_of_runs nodup runs).concludes through
    exact pass_eq (skeleton'.trans skeleton.symm) (cells.trans (concludes'.cells_eq concludes))
      (resolved.trans (concludes'.resolved.trans concludes.resolved.symm))
      (needed.trans (concludes'.needed.trans concludes.needed.symm))
  · rintro rfl
    obtain ⟨crew, runs, through⟩ := exists_runs_isDone registry (Crew.start a todo)
    have concludes' := (crewFits_of_runs nodup runs).concludes through
    exact ⟨crew, runs, through, skeleton, concludes.cells_eq concludes',
      concludes.resolved.trans concludes'.resolved.symm,
      concludes.needed.trans concludes'.needed.symm⟩

end

/-! ## The resolution -/

/-- How a pass is made: by its number, from the registry, the arena and the components. -/
abbrev MakePass := Nat → Registry → Arena → List ComponentId → Pass

/-- Pass after pass, each of them made as is said. -/
def passesBy (make : MakePass) (supply : Schema.Supply) : (fuel : Nat) → (failed : List Namespace) →
    ResolutionReport → StateM Assembly ResolutionReport
  | 0, _, report => return report
  | fuel + 1, failed, report => do
    let a ← get
    let todo := pending a.arena
    if todo.isEmpty then return report
    let p := make report.passes a.registry a.arena todo
    set { a with arena := p.arena }
    let imports ← p.needed.foldlM (tryImport supply) ⟨failed, 0⟩
    let report : ResolutionReport :=
      ⟨report.passes + 1, report.resolved + p.resolved, report.importsLoaded + imports.loaded⟩
    if p.resolved = 0 && imports.loaded = 0 then
      todo.forM (giveUp imports.failed)
      return report
    else passesBy make supply fuel imports.failed report

/-- Resolve all references by passes that are made as is said. -/
def resolveBy (make : MakePass) (supply : Schema.Supply) : StateM Assembly ResolutionReport := do
  let components := supply.limits.schemaComponents + (← get).arena.size
  passesBy make supply ((supply.retriever.map (·.size)).getD 0 + 2 * components + 3) [] ⟨0, 0, 0⟩

theorem passesBy_eq {make : MakePass}
    (same : ∀ n registry a, make n registry a (pending a) = pass registry a (pending a))
    (supply : Schema.Supply) (fuel : Nat) (failed : List Namespace) (report : ResolutionReport) :
    passesBy make supply fuel failed report = passes supply fuel failed report := by
  induction fuel generalizing failed report with
  | zero => rfl
  | succ fuel ih =>
    rw [passesBy, passes_succ]
    simp only [same, ih]

/-- A pass does not depend on the order of its components, nor on how workers take turns if each
component is there once; and neither does the resolution, whose report, arena, registry and errors
are the same. -/
theorem pass_schedules (registry : Registry) (a : Arena) :
    (∀ todo order, order.Perm todo → pass registry a order = pass registry a todo) ∧
      (∀ todo, todo.Nodup → ∀ p, Performs registry a todo p ↔ p = pass registry a todo) ∧
      ∀ make supply,
        (∀ n registry a todo, todo.Nodup → Performs registry a todo (make n registry a todo)) →
          resolveBy make supply = resolve supply := by
  refine ⟨fun todo order => pass_perm registry a, fun todo nodup => performs_iff registry a nodup, ?_⟩
  intro make supply performs
  have same : ∀ n registry a, make n registry a (pending a) = pass registry a (pending a) := by
    intro n registry a
    have nodup : (pending a).Nodup := a.nodup_componentIds.filter _
    exact (performs_iff registry a nodup _).mp (performs n registry a _ nodup)
  unfold resolveBy resolve
  simp only [passesBy_eq same]

/-- A document that imports a namespace, where only the name `string` is declared. -/
def importing : Registry where
  namespaces := [some QName.xsdNamespace, none]
  declarations := ⟨[((.type, .xsd "string"), .type Builtin.string.typeId)]⟩
  documents := #[⟨.memory "main.xsd", none, none, [⟨some "urn:parts", none⟩]⟩]

/-- Two elements of that document, one of the type `string` and one of a type in the namespace. -/
def twoElements : Arena :=
  { Arena.empty with
    elements := #[
      { ElementDecl.plain (.ofGlobal ⟨none, "note"⟩ ⟨0⟩) with
        type := some (.named (.unbound (.xsd "string"))) },
      { ElementDecl.plain (.ofGlobal ⟨none, "part"⟩ ⟨0⟩) with
        type := some (.named (.unbound ⟨some "urn:parts", "Part"⟩)) }] }

/-- The second element first, and all passes backwards. -/
theorem pass_backwards :
    pass importing twoElements [.element ⟨1⟩, .element ⟨0⟩] =
        pass importing twoElements [.element ⟨0⟩, .element ⟨1⟩] ∧
      (pass importing twoElements [.element ⟨1⟩, .element ⟨0⟩]).resolved = 1 ∧
      (pass importing twoElements [.element ⟨1⟩, .element ⟨0⟩]).needed = [some "urn:parts"] ∧
      Performs importing twoElements [.element ⟨0⟩, .element ⟨1⟩]
        (pass importing twoElements [.element ⟨1⟩, .element ⟨0⟩]) ∧
      resolveBy (fun _ registry a todo => pass registry a todo.reverse) ⟨none, .standard⟩ =
        resolve ⟨none, .standard⟩ := by
  obtain ⟨orders, crews, resolutions⟩ := pass_schedules importing twoElements
  have swapped := orders [.element ⟨0⟩, .element ⟨1⟩] [.element ⟨1⟩, .element ⟨0⟩] (.swap ..)
  refine ⟨swapped, by decide +kernel, by decide +kernel, (crews _ (by decide) _).mpr swapped,
    resolutions _ _ ?_⟩
  intro n registry a todo nodup
  exact (performs_iff registry a nodup _).mpr (pass_perm registry a todo.reverse_perm)

end Resolution

end Xsd
