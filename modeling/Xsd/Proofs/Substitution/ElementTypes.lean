import Xsd.Proofs.Substitution.Members

/-!
# Types along heads

An element without a type takes that of the nearest head that has one. The heads may lead in a circle,
through the element itself or beside it, so the search for one keeps the heads it has come to and ends
where it would come to one of them again. The element that it starts at is not among them, and may be
looked at twice. Still no type is missed: those that are seen again have none.
-/

namespace Xsd

theorem ElementId.index_injective : Function.Injective ElementId.index := by
  rintro ⟨n⟩ ⟨m⟩ same
  exact congrArg ElementId.mk same

namespace Arena

/-- The search for a type over the heads, as far as they are not among those seen. Nothing bounds it. -/
inductive Searches (a : Arena) : (seen : List ElementId) → ElementId → TypeId → Prop
  | own {seen id type} (own : a.ownType? id = some type) : Searches a seen id type
  | top {seen id} (untyped : a.ownType? id = none) (last : a.head? id = none) :
      Searches a seen id .anyType
  | again {seen id head} (untyped : a.ownType? id = none) (step : a.head? id = some head)
      (old : head ∈ seen) : Searches a seen id .anyType
  | up {seen id head type} (untyped : a.ownType? id = none) (step : a.head? id = some head)
      (new : head ∉ seen) (above : Searches a (head :: seen) head type) : Searches a seen id type

/-- The element that so many heads lead to: the first one itself, its head, the head of that one, and
so on. -/
def headAbove? (a : Arena) : Nat → ElementId → Option ElementId
  | 0, id => some id
  | n + 1, id => (a.head? id).bind (a.headAbove? n)

/-- The type that the element so many heads above says it has. -/
def typeAbove? (a : Arena) (n : Nat) (id : ElementId) : Option TypeId :=
  (a.headAbove? n id).bind a.ownType?

/-- The type is that of the first element on the way over the heads that has one, or the most general
one where none has. -/
def Takes (a : Arena) (id : ElementId) (type : TypeId) : Prop :=
  (∃ n, a.typeAbove? n id = some type ∧ ∀ m < n, a.typeAbove? m id = none) ∨
    (∀ n, a.typeAbove? n id = none) ∧ type = .anyType

/-! ## The way over the heads -/

variable {a : Arena} {id head : ElementId} {type other : TypeId} {seen : List ElementId} {n fuel : Nat}

theorem typeAbove?_succ (step : a.head? id = some head) :
    a.typeAbove? (n + 1) id = a.typeAbove? n head := by
  simp only [typeAbove?, headAbove?, step, Option.bind_some]

theorem typeAbove?_succ_of_last (last : a.head? id = none) : a.typeAbove? (n + 1) id = none := by
  simp only [typeAbove?, headAbove?, last, Option.bind_none]

theorem Takes.own (own : a.ownType? id = some type) : a.Takes id type :=
  Or.inl ⟨0, own, fun _ below => absurd below (Nat.not_lt_zero _)⟩

theorem Takes.top (untyped : a.ownType? id = none) (last : a.head? id = none) :
    a.Takes id .anyType := by
  refine Or.inr ⟨fun n => ?_, rfl⟩
  cases n with
  | zero => exact untyped
  | succ n => exact typeAbove?_succ_of_last last

/-- An element without a type takes the one that its head takes. -/
theorem Takes.up (untyped : a.ownType? id = none) (step : a.head? id = some head)
    (above : a.Takes head type) : a.Takes id type := by
  rcases above with ⟨n, typed, below⟩ | ⟨none, rfl⟩
  · refine Or.inl ⟨n + 1, (typeAbove?_succ step).trans typed, fun m hm => ?_⟩
    cases m with
    | zero => exact untyped
    | succ m => exact (typeAbove?_succ step).trans (below m (Nat.lt_of_succ_lt_succ hm))
  · refine Or.inr ⟨fun n => ?_, rfl⟩
    cases n with
    | zero => exact untyped
    | succ n => exact (typeAbove?_succ step).trans (none n)

/-- Where elements without types have their heads among themselves, none on the way has one. -/
theorem Takes.closed (ids : List ElementId)
    (closed : ∀ e ∈ ids, a.ownType? e = none ∧ ∃ head ∈ ids, a.head? e = some head)
    (mem : id ∈ ids) : a.Takes id .anyType := by
  refine Or.inr ⟨fun n => ?_, rfl⟩
  induction n generalizing id with
  | zero => exact (closed id mem).1
  | succ n ih =>
    obtain ⟨-, head, mem, step⟩ := closed id mem
    rw [typeAbove?_succ step]
    exact ih mem

theorem Takes.unique (h : a.Takes id type) (h' : a.Takes id other) : type = other := by
  rcases h with ⟨n, typed, below⟩ | ⟨none, rfl⟩ <;>
    rcases h' with ⟨m, typed', below'⟩ | ⟨none', rfl⟩
  · rcases Nat.lt_trichotomy n m with before | rfl | before
    · exact absurd typed (by rw [below' n before]; exact nofun)
    · exact Option.some.inj (typed.symm.trans typed')
    · exact absurd typed' (by rw [below m before]; exact nofun)
  · exact absurd typed (by rw [none' n]; exact nofun)
  · exact absurd typed' (by rw [none m]; exact nofun)
  · rfl

/-! ## The search -/

/-- The search finds what is there: the elements that were seen below have no types, and their heads
have been seen. -/
theorem Searches.takes (h : a.Searches seen id type)
    (passed : ∀ e ∈ seen, e ≠ id → a.ownType? e = none ∧ ∃ head ∈ seen, a.head? e = some head) :
    a.Takes id type := by
  induction h with
  | own own => exact .own own
  | top untyped last => exact .top untyped last
  | @again seen id head untyped step old =>
    -- The circle is closed: with the element that leads back, all that were seen have no types.
    refine .closed (id :: seen) (fun e mem => ?_) (List.mem_cons_self ..)
    by_cases same : e = id
    · subst same
      exact ⟨untyped, head, List.mem_cons_of_mem _ old, step⟩
    · obtain ⟨none, up, mem, step⟩ := passed e (List.mem_of_ne_of_mem same mem) same
      exact ⟨none, up, List.mem_cons_of_mem _ mem, step⟩
  | @up seen id head type untyped step new above ih =>
    refine .up untyped step (ih fun e mem other => ?_)
    by_cases same : e = id
    · subst same
      exact ⟨untyped, head, List.mem_cons_self .., step⟩
    · obtain ⟨none, up, mem, step⟩ := passed e (List.mem_of_ne_of_mem other mem) same
      exact ⟨none, up, List.mem_cons_of_mem _ mem, step⟩

/-- The fuel lasts. What has been seen are different elements of the arena, except that the last one
may be none of them, which has neither a type nor a head. -/
theorem searches_typeAlongHeads (nodup : seen.Nodup)
    (inside : ∀ e ∈ seen, e ≠ id → e ∈ a.elementIds)
    (enough : a.elements.size < fuel + seen.length) :
    a.Searches seen id (a.typeAlongHeads fuel seen id) := by
  induction fuel generalizing seen id with
  | zero =>
    have stranger : id ∉ a.elementIds := by
      intro known
      have all : ∀ e ∈ seen, e.index < a.elements.size := by
        intro e mem
        by_cases same : e = id
        · exact index_lt_of_mem_elementIds (same ▸ known)
        · exact index_lt_of_mem_elementIds (inside e mem same)
      have := length_le_of_index_lt ElementId.index_injective nodup all
      omega
    have absent : a.element? id = none := by
      rwa [mem_elementIds_iff, Option.not_isSome_iff_eq_none] at stranger
    exact .top (by rw [ownType?, absent]; rfl) (by rw [head?, absent]; rfl)
  | succ fuel ih =>
    unfold typeAlongHeads
    cases own : a.ownType? id with
    | some type => exact .own own
    | none =>
      cases step : a.head? id with
      | none => exact .top own step
      | some head =>
        simp only [List.contains_iff_mem]
        split_ifs with old
        · exact .again own step old
        · refine .up own step old (ih (List.nodup_cons.mpr ⟨old, nodup⟩) (fun e mem other => ?_) ?_)
          · by_cases same : e = id
            · exact same ▸ mem_elementIds_of_head? step
            · exact inside e (List.mem_of_ne_of_mem other mem) same
          · rw [List.length_cons]
            omega

/-- The search ends from every element, and what it finds is the type of the first element on the way
over the heads that has one, or the most general one where none has. -/
theorem elementType_exact (a : Arena) (id : ElementId) :
    (∀ type, a.Searches [] id type ↔ a.elementType id = type) ∧
      ∀ type, a.elementType id = type ↔
        (∃ n, a.typeAbove? n id = some type ∧ ∀ m < n, a.typeAbove? m id = none) ∨
          (∀ n, a.typeAbove? n id = none) ∧ type = .anyType := by
  have found : a.Searches [] id (a.elementType id) :=
    searches_typeAlongHeads .nil nofun (Nat.lt_succ_self _)
  have takes {type : TypeId} (h : a.Searches [] id type) : a.Takes id type := h.takes nofun
  refine ⟨fun type => ⟨fun h => (takes found).unique (takes h), fun same => same ▸ found⟩,
    fun type => ⟨fun same => same ▸ takes found, fun h => (takes found).unique h⟩⟩

/-- Where the heads lead in a circle, beside the element or through it, and none has a type. -/
example : SubstitutionGroups.circled.elementType ⟨3⟩ = .anyType ∧
    SubstitutionGroups.circled.elementType ⟨0⟩ = .anyType := by decide

end Arena

end Xsd
