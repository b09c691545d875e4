import Xsd.Proofs.Schema.Growth
import Xsd.Proofs.Table

/-!
# What has been done to a registry

Names are declared, documents are added and imports are noted, in any order and from the empty
registry on. Such a history determines what the registry answers: a name stands for the component
of its first declaration, names are listed in the order of theirs, and a declaration that is
refused leaves no trace.
-/

namespace Xsd.Registry

variable {r : Registry} {name : QName} {category : Category} {id : ComponentId} {ns : Namespace}

/-- Declare a name, and say whether that can be done. Its namespace is noted before the name is
looked up, and so whatever comes of it. -/
def declare (r : Registry) (name : QName) (id : ComponentId) : Bool × Registry :=
  let r := r.mention name.ns
  match r.get? name id.category with
  | some other => (other = id, r)
  | none => (true, { r with declarations := r.declarations.insert (id.category, name) id })

/-- What can be done to a registry. -/
inductive Operation where
  | declare (name : QName) (id : ComponentId)
  | addDocument (info : DocumentInfo)
  | addImport (document : DocumentId) (edge : ImportEdge)

namespace Operation

def apply (r : Registry) : Operation → Registry
  | .declare name id => (r.declare name id).2
  | .addDocument info => (r.addDocument info).2
  | .addImport document edge => r.addImport document edge

/-- What the operation declares, if it is a declaration that can be made. -/
def declaration? (r : Registry) : Operation → Option (QName × ComponentId)
  | .declare name id => if (r.declare name id).1 then some (name, id) else none
  | _ => none

end Operation

/-- The registry after a history. -/
def after (ops : List Operation) : Registry := ops.foldl Operation.apply empty

/-- The declarations that are made in a history which starts from the registry. -/
def declaredFrom (r : Registry) : List Operation → List (QName × ComponentId)
  | [] => []
  | op :: ops => (op.declaration? r).toList ++ declaredFrom (op.apply r) ops

/-- The declarations that are made in a history. -/
def declared (ops : List Operation) : List (QName × ComponentId) := declaredFrom empty ops

theorem after_concat (ops : List Operation) (op : Operation) :
    after (ops ++ [op]) = op.apply (after ops) := by
  rw [after, List.foldl_append, after]
  rfl

theorem declared_concat (ops : List Operation) (op : Operation) :
    declared (ops ++ [op]) = declared ops ++ (op.declaration? (after ops)).toList := by
  have concat : ∀ r, declaredFrom r (ops ++ [op]) =
      declaredFrom r ops ++ (op.declaration? (ops.foldl Operation.apply r)).toList := by
    induction ops with
    | nil =>
      intro r
      simp [declaredFrom]
    | cons first ops ih =>
      intro r
      rw [List.cons_append, declaredFrom, ih, declaredFrom, List.append_assoc, List.foldl_cons]
  exact concat empty

/-! ## First declarations -/

/-- The first of its kind is kept when repetitions are left out. -/
theorem find?_eraseDups {α : Type} [BEq α] [LawfulBEq α] (p : α → Bool) (l : List α) :
    l.eraseDups.find? p = l.find? p := by
  induction h : l.length using Nat.strong_induction_on generalizing l with
  | _ n ih =>
    cases l with
    | nil => rfl
    | cons a l =>
      have shorter : (l.filter fun b => !b == a).length < n := by
        have := List.length_filter_le (fun b => !b == a) l
        rw [List.length_cons] at h
        omega
      rw [List.eraseDups_cons, List.find?_cons, List.find?_cons, ih _ shorter _ rfl,
        List.find?_filter]
      cases here : p a with
      | true => rfl
      | false =>
        dsimp only
        congr 1
        funext b
        by_cases same : b = a
        · simp [same, here]
        · simp [same]

/-- What is counted by a key is counted, if the keys are listed once each. -/
theorem countP_eq_sum {α β : Type} [DecidableEq β] {key : α → β} {p : α → Bool} {keys : List β}
    {l : List α} (nodup : keys.Nodup) (listed : ∀ a ∈ l, key a ∈ keys) :
    l.countP p = (keys.map fun k => l.countP fun a => p a && key a = k).sum := by
  induction l with
  | nil => simp
  | cons a l ih =>
    obtain ⟨here, listed⟩ := List.forall_mem_cons.mp listed
    have once : (keys.map fun k => if (p a && decide (key a = k)) = true then 1 else 0).sum =
        if p a = true then 1 else 0 := by
      cases p a with
      | false => simp
      | true =>
        have single := List.sum_map_eq_nsmul_single (l := keys) (key a)
          (fun k => if key a = k then 1 else 0) fun k other _ => if_neg (Ne.symm other)
        simpa [List.count_eq_one_of_mem nodup here] using single
    simp only [List.countP_cons, List.sum_map_add, once, ih listed]

/-- A declaration that is made, as an entry of the table of declarations. -/
def entry (d : QName × ComponentId) : (Category × QName) × ComponentId := ((d.2.category, d.1), d.2)

theorem lookup_map_entry (ds : List (QName × ComponentId)) :
    (ds.map entry).lookup (category, name) =
      (ds.find? fun d => d.1 = name && d.2.category = category).map (·.2) := by
  induction ds with
  | nil => rfl
  | cons d ds ih =>
    rw [List.map_cons, entry, List.lookup_cons, List.find?_cons, ih]
    by_cases same : d.1 = name ∧ d.2.category = category
    · simp [same.1, same.2]
    · have key : ((category, name) == (d.2.category, d.1)) = false := by
        rw [beq_eq_false_iff_ne]
        intro h
        obtain ⟨rfl, rfl⟩ := Prod.mk.inj h
        exact same ⟨rfl, rfl⟩
      rw [key]
      rcases not_and_or.mp same with other | other <;> simp [other]

/-- The registry holds the declarations, and each of its namespaces once. -/
structure Records (r : Registry) (ds : List (QName × ComponentId)) : Prop where
  entries : r.declarations.entries = ds.eraseDups.map entry
  keys : r.declarations.keys.Nodup
  noted : ∀ d ∈ ds, d.1.ns ∈ r.namespaces
  namespaces : r.namespaces.Nodup

theorem mem_mention (r : Registry) (ns : Namespace) : ns ∈ (r.mention ns).namespaces := by
  unfold mention
  split
  · rename_i there
    exact List.contains_iff_mem.mp there
  · simp

theorem subset_mention (r : Registry) (ns : Namespace) :
    r.namespaces ⊆ (r.mention ns).namespaces := by
  unfold mention
  split
  · exact List.Subset.refl _
  · exact List.subset_append_left _ _

theorem nodup_mention (h : r.namespaces.Nodup) : (r.mention ns).namespaces.Nodup := by
  unfold mention
  split
  · exact h
  · rename_i new
    refine h.append (List.nodup_singleton ns) ?_
    rw [List.disjoint_singleton]
    exact fun there => new (List.contains_iff_mem.mpr there)

theorem mention_of_mem (there : ns ∈ r.namespaces) : r.mention ns = r :=
  if_pos (List.contains_iff_mem.mpr there)

theorem get?_mention : (r.mention ns).get? name category = r.get? name category := by
  rw [get?, declarations_mention, get?]

namespace Records

variable {ds : List (QName × ComponentId)}

theorem empty : Records Registry.empty [] := by
  refine ⟨rfl, List.nodup_nil, fun d hd => ?_, List.nodup_nil⟩
  cases hd

/-- A name stands for the component of the first of its declarations. -/
theorem get?_eq (h : Records r ds) (name : QName) (category : Category) :
    r.get? name category =
      (ds.find? fun d => d.1 = name && d.2.category = category).map (·.2) := by
  rw [get?, Table.get?, h.entries, lookup_map_entry, find?_eraseDups]

theorem mem_of_get? (h : Records r ds) (found : r.get? name category = some id) :
    (name, id) ∈ ds ∧ id.category = category := by
  rw [h.get?_eq, Option.map_eq_some_iff] at found
  obtain ⟨d, first, rfl⟩ := found
  have fits := List.find?_some first
  rw [Bool.and_eq_true, decide_eq_true_iff, decide_eq_true_iff] at fits
  obtain ⟨rfl, rfl⟩ := fits
  exact ⟨List.mem_of_find?_eq_some first, rfl⟩

/-- The namespace of a name that stands for something has been noted. -/
theorem mention_of_get? (h : Records r ds) (found : r.get? name category = some id) :
    r.mention name.ns = r :=
  mention_of_mem (h.noted _ (h.mem_of_get? found).1)

/-- With its namespace noted before, a declaration comes to the same. -/
theorem declare_eq (h : Records r ds) (name : QName) (id : ComponentId) :
    r.declare name id = match r.get? name id.category with
      | some other => (other = id, r)
      | none => (true, { r.mention name.ns with
          declarations := r.declarations.insert (id.category, name) id }) := by
  unfold declare
  dsimp only
  rw [get?_mention]
  cases found : r.get? name id.category with
  | some other => rw [h.mention_of_get? found]
  | none => rw [declarations_mention]

/-- A declaration that is refused leaves no trace. -/
theorem declare_refused (h : Records r ds) (refused : (r.declare name id).1 = false) :
    (r.declare name id).2 = r := by
  rw [h.declare_eq] at refused ⊢
  split at refused
  · rfl
  · cases refused

/-- To look the name up first and to note its namespace only with a new name comes to the same. -/
theorem declare?_eq (h : Records r ds) (name : QName) (id : ComponentId) :
    r.declare? name id =
      if (r.declare name id).1 then some (r.declare name id).2 else none := by
  rw [h.declare_eq, declare?]
  cases found : r.get? name id.category with
  | some other => by_cases same : other = id <;> simp [same]
  | none => simp [declarations_mention]

/-! ## Step by step -/

theorem mention (h : Records r ds) (ns : Namespace) : Records (r.mention ns) ds where
  entries := by rw [declarations_mention, h.entries]
  keys := by
    rw [declarations_mention]
    exact h.keys
  noted d hd := subset_mention r ns (h.noted d hd)
  namespaces := nodup_mention h.namespaces

/-- What is declared again adds nothing. -/
theorem again (h : Records r ds) (found : r.get? name id.category = some id) :
    Records r (ds ++ [(name, id)]) := by
  have there := (h.mem_of_get? found).1
  refine ⟨?_, h.keys, List.forall_mem_append.mpr ⟨h.noted, by simpa using h.noted _ there⟩,
    h.namespaces⟩
  rw [h.entries, List.eraseDups_append]
  simp [List.removeAll, there]

/-- A new name is entered at the end. -/
theorem new (h : Records r ds) (free : r.get? name id.category = none) :
    Records { r.mention name.ns with
      declarations := r.declarations.insert (id.category, name) id } (ds ++ [(name, id)]) := by
  have absent : ¬ r.declarations.contains (id.category, name) := by
    rw [Table.contains, ← get?, free]
    simp
  have added := Table.entries_insert_of_new (v := id) absent
  have unheard : (name, id) ∉ ds := by
    intro there
    have first := h.get?_eq name id.category
    rw [free] at first
    have none := Option.map_eq_none_iff.mp first.symm
    rw [List.find?_eq_none] at none
    exact none _ there (by simp)
  refine ⟨?_, ?_, List.forall_mem_append.mpr ⟨?_, ?_⟩, nodup_mention h.namespaces⟩
  · have single : [(name, id)].eraseDups = [(name, id)] := rfl
    rw [added, h.entries, List.eraseDups_append, List.map_append]
    simp [List.removeAll, unheard, single, entry]
  · rw [Table.keys, added, List.map_append]
    refine h.keys.append (List.nodup_singleton _) ?_
    rw [List.map_singleton, List.disjoint_singleton]
    exact fun there => absent (Table.contains_of_mem_keys there)
  · exact fun d hd => subset_mention r _ (h.noted d hd)
  · simpa using mem_mention r name.ns

theorem apply (h : Records r ds) (op : Operation) :
    Records (op.apply r) (ds ++ (op.declaration? r).toList) := by
  cases op with
  | declare name id =>
    rw [Operation.apply, Operation.declaration?, h.declare_eq]
    cases found : r.get? name id.category with
    | none => exact h.new found
    | some other =>
      by_cases same : other = id
      · subst same
        simpa using h.again found
      · simpa [same] using h
  | addDocument info =>
    obtain ⟨entries, keys, noted, namespaces⟩ := h.mention info.target
    have idle : (Operation.addDocument info).declaration? r = none := rfl
    rw [idle, Option.toList_none, List.append_nil]
    exact ⟨entries, keys, noted, namespaces⟩
  | addImport document edge =>
    have idle : (Operation.addImport document edge).declaration? r = none := rfl
    rw [idle, Option.toList_none, List.append_nil]
    exact ⟨h.entries, h.keys, h.noted, h.namespaces⟩

/-! ## Listing and counting -/

theorem names_eq (h : Records r ds) (ns : Namespace) (category : Category) :
    r.names ns category =
      ds.eraseDups.filter fun d => d.1.ns = ns && d.2.category = category := by
  rw [names, h.entries, List.filterMap_map, ← List.filterMap_eq_filter]
  congr 1
  funext d
  by_cases same : d.1.ns = ns ∧ d.2.category = category
  · simp [entry, same.1, same.2, Option.guard]
  · rcases not_and_or.mp same with other | other <;> simp [entry, other, Option.guard]

theorem mem_names_iff (h : Records r ds) :
    (name, id) ∈ r.names ns category ↔ name.ns = ns ∧ r.get? name category = some id := by
  rw [h.names_eq, List.mem_filter, List.mem_eraseDups, Bool.and_eq_true, decide_eq_true_iff,
    decide_eq_true_iff]
  constructor
  · rintro ⟨there, rfl, rfl⟩
    refine ⟨rfl, Table.get?_of_mem_entries h.keys ?_⟩
    rw [h.entries]
    exact List.mem_map.mpr ⟨_, List.mem_eraseDups.mpr there, rfl⟩
  · rintro ⟨rfl, found⟩
    obtain ⟨there, same⟩ := h.mem_of_get? found
    exact ⟨there, rfl, same⟩

theorem nodup_names (h : Records r ds) (ns : Namespace) (category : Category) :
    ((r.names ns category).map (·.1)).Nodup := by
  have keys : (ds.eraseDups.map fun d => (d.2.category, d.1)).Nodup := by
    have nodup := h.keys
    rwa [Table.keys, h.entries, List.map_map] at nodup
  refine List.Nodup.of_map (fun name => (category, name)) ?_
  have same : ((r.names ns category).map (·.1)).map (fun name => (category, name)) =
      (r.names ns category).map fun d => (d.2.category, d.1) := by
    rw [List.map_map]
    refine List.map_congr_left fun d mem => ?_
    rw [h.names_eq, List.mem_filter, Bool.and_eq_true, decide_eq_true_iff, decide_eq_true_iff] at mem
    simp [mem.2.2]
  rw [same, h.names_eq]
  exact keys.sublist (List.filter_sublist.map _)

/-- Of each namespace the names are counted once. -/
theorem count_eq (h : Records r ds) (category : Category) :
    r.count category = (r.namespaces.map fun ns => (r.names ns category).length).sum := by
  have noted : ∀ d ∈ ds.eraseDups, d.1.ns ∈ r.namespaces :=
    fun d hd => h.noted d (List.mem_eraseDups.mp hd)
  rw [count, h.entries, List.countP_map]
  refine (countP_eq_sum h.namespaces noted).trans ?_
  refine congrArg List.sum (List.map_congr_left fun ns _ => ?_)
  rw [h.names_eq, ← List.countP_eq_length_filter]
  refine List.countP_congr fun d _ => ?_
  simp only [Function.comp_apply, Bool.and_eq_true, decide_eq_true_eq]
  exact and_comm

end Records

theorem records_after (ops : List Operation) : Records (after ops) (declared ops) := by
  induction ops using List.reverseRecOn with
  | nil => exact .empty
  | append_singleton ops op ih =>
    rw [after_concat, declared_concat]
    exact ih.apply op

/-- What a name stands for is not changed by anything that is done later. -/
theorem get?_after_append (ops more : List Operation)
    (found : (after ops).get? name category = some id) :
    (after (ops ++ more)).get? name category = some id := by
  induction more using List.reverseRecOn with
  | nil => rwa [List.append_nil]
  | append_singleton more op ih =>
    rw [← List.append_assoc, (records_after _).get?_eq, declared_concat]
    rw [(records_after _).get?_eq, Option.map_eq_some_iff] at ih
    obtain ⟨d, first, rfl⟩ := ih
    rw [List.find?_append, first]
    rfl

/-- What the registry answers after a history. -/
theorem after_answers (ops : List Operation) :
    (∀ name category, (after ops).get? name category =
      ((declared ops).find? fun d => d.1 = name && d.2.category = category).map (·.2)) ∧
    (∀ more name category id, (after ops).get? name category = some id →
      (after (ops ++ more)).get? name category = some id) ∧
    (∀ name id, ((after ops).declare name id).1 = false →
      ((after ops).declare name id).2 = after ops) ∧
    (∀ name id, (after ops).declare? name id =
      if ((after ops).declare name id).1 then some ((after ops).declare name id).2 else none) ∧
    (∀ ns category, (after ops).names ns category =
        (declared ops).eraseDups.filter (fun d => d.1.ns = ns && d.2.category = category) ∧
      (((after ops).names ns category).map (·.1)).Nodup ∧
      ∀ name id, (name, id) ∈ (after ops).names ns category ↔
        name.ns = ns ∧ (after ops).get? name category = some id) ∧
    ∀ category, (after ops).count category =
      ((after ops).namespaces.map fun ns => ((after ops).names ns category).length).sum := by
  have records := records_after ops
  exact ⟨records.get?_eq, fun more _ _ _ => get?_after_append ops more,
    fun _ _ => records.declare_refused, records.declare?_eq,
    fun ns category => ⟨records.names_eq ns category, records.nodup_names ns category,
      fun _ _ => records.mem_names_iff⟩, records.count_eq⟩

end Xsd.Registry
