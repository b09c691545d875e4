import Xsd.Markup.Document
import Xsd.Proofs.Steps
import Xsd.Proofs.Table

/-!
# What a document keeps of its events

A forest is spelled by the list of its elements, an element before what it contains, each with the
number of elements around it. A stream of events has such a list of tags as well, and building goes
through it tag by tag: the open elements and what has been closed always spell the tags read so far.
Two things are written over. Of several elements outside all others only the last one is kept, and of
several attributes of a tag whose names come to the same only the value of the last one.
-/

namespace Xsd

/-- An element in the outline of a document: how many elements are around it, the namespaces in
scope outside it, and its tag. -/
structure OutlineEntry where
  depth : Nat
  outer : Scope
  tag : Tag

namespace Node

mutual

/-- The elements of a piece of content, an element before what it contains. -/
def outline (depth : Nat) (outer : Scope) : Node → List OutlineEntry
  | .text _ => []
  | .element tag nodes => ⟨depth, outer, tag⟩ :: outlines (depth + 1) tag.scope nodes

/-- The elements of several pieces of content, in their order. -/
def outlines (depth : Nat) (outer : Scope) : List Node → List OutlineEntry
  | [] => []
  | n :: ns => n.outline depth outer ++ outlines depth outer ns

end

theorem outlines_append (depth : Nat) (outer : Scope) (ns ms : List Node) :
    outlines depth outer (ns ++ ms) = outlines depth outer ns ++ outlines depth outer ms := by
  induction ns with
  | nil => rfl
  | cons n ns ih => rw [List.cons_append, outlines, ih, outlines, List.append_assoc]

@[simp] theorem outlines_singleton (depth : Nat) (outer : Scope) (n : Node) :
    outlines depth outer [n] = n.outline depth outer := by
  rw [outlines, outlines, List.append_nil]

mutual

theorem le_depth_of_mem_outline {depth : Nat} {outer : Scope} {p : OutlineEntry} (n : Node)
    (h : p ∈ n.outline depth outer) : depth ≤ p.depth := by
  cases n with
  | text content => simp [outline] at h
  | element tag nodes =>
    rw [outline, List.mem_cons] at h
    obtain rfl | h := h
    · exact le_rfl
    · exact Nat.le_of_succ_le (le_depth_of_mem_outlines nodes h)

theorem le_depth_of_mem_outlines {depth : Nat} {outer : Scope} {p : OutlineEntry} (ns : List Node)
    (h : p ∈ outlines depth outer ns) : depth ≤ p.depth := by
  cases ns with
  | nil => simp [outlines] at h
  | cons n ns =>
    rw [outlines, List.mem_append] at h
    exact h.elim (le_depth_of_mem_outline n) (le_depth_of_mem_outlines ns)

end

end Node

namespace Markup

/-- A start tag, or a tag that is start and end in one, in a stream of events: how many elements are
open before it, where it stands and what is written in it. -/
structure Start where
  depth : Nat
  position : Nat
  raw : RawTag

/-- The start tags of a stream in whose beginning a number of elements are open. -/
def starts (depth : Nat) : List Event → List Start
  | [] => []
  | .start position raw :: rest => ⟨depth, position, raw⟩ :: starts (depth + 1) rest
  | .empty position raw :: rest => ⟨depth, position, raw⟩ :: starts depth rest
  | .finish :: rest => starts (depth - 1) rest
  | .text _ :: rest => starts depth rest
  | .cdata _ :: rest => starts depth rest
  | .other :: rest => starts depth rest
  | .broken _ :: rest => starts depth rest

/-- A start tag in a stream of events, and those that are open around it, the innermost first. -/
structure Place where
  around : List RawTag
  position : Nat
  raw : RawTag

/-- The start tags of a stream in whose beginning some tags are open. -/
def places (around : List RawTag) : List Event → List Place
  | [] => []
  | .start position raw :: rest => ⟨around, position, raw⟩ :: places (raw :: around) rest
  | .empty position raw :: rest => ⟨around, position, raw⟩ :: places around rest
  | .finish :: rest => places around.tail rest
  | .text _ :: rest => places around rest
  | .cdata _ :: rest => places around rest
  | .other :: rest => places around rest
  | .broken _ :: rest => places around rest

def Place.start (p : Place) : Start := ⟨p.around.length, p.position, p.raw⟩

theorem map_start_places (around : List RawTag) (events : List Event) :
    (places around events).map Place.start = starts around.length events := by
  induction events generalizing around with
  | nil => rfl
  | cons event events ih =>
    cases event with
    | start position raw => exact congrArg (_ :: ·) (ih (raw :: around))
    | empty position raw => exact congrArg (_ :: ·) (ih around)
    | finish => exact (ih around.tail).trans (by rw [List.length_tail, starts])
    | text content => exact ih around
    | cdata content => exact ih around
    | other => exact ih around
    | broken fault => exact ih around

/-- The name is one that declares a namespace. -/
def declares (name : String) : Bool := name == "xmlns" || (Text.after? "xmlns:" name).isSome

/-- An attribute as it is written, if it does not declare a namespace. -/
def plain? : Except Fault (String × String) → Option (String × String)
  | .ok (name, value) => if declares name then none else some (name, value)
  | .error _ => none

/-- The attributes of a tag that do not declare a namespace, as they are written. -/
def RawTag.plain (raw : RawTag) : List (String × String) := raw.attributes.filterMap plain?

/-- What is written is the attribute with its name resolved. -/
def Writes (scope : Scope) (written : String × String) (entry : QName × String) : Prop :=
  scope.resolveAttribute written.1 = .ok entry.1 ∧ written.2 = entry.2

/-- No names of two attributes come to the same. -/
def RawTag.IsApart (scope : Scope) (raw : RawTag) : Prop :=
  raw.plain.Pairwise fun a b => scope.resolveAttribute a.1 ≠ scope.resolveAttribute b.1

/-! ## Attributes of a tag -/

theorem plain_of_declare {raws : List (Except Fault (String × String))} :
    ∀ {scope inner : Scope} {others plain : List (String × String)},
      declare scope others raws = .ok (inner, plain) →
      plain = others.reverse ++ raws.filterMap plain? := by
  induction raws with
  | nil =>
    intro scope inner others plain h
    cases h
    simp
  | cons item raws ih =>
    intro scope inner others plain h
    match item with
    | .error fault => cases h
    | .ok (name, value) =>
      rw [declare] at h
      split at h
      case isTrue default =>
        rw [ih h]
        simp [plain?, declares, default]
      case isFalse named =>
        split at h
        · rename_i mark hmark
          rw [ih h]
          simp [plain?, declares, hmark]
        · rename_i hmark
          rw [ih h]
          simp [plain?, declares, named, hmark]

section

variable {scope : Scope} {table result : Table QName String} {plain : List (String × String)}

/-- The value under a name is that of the last attribute whose name comes to it. -/
theorem get?_resolveAttributes (h : resolveAttributes scope table plain = .ok result) (q : QName) :
    result.get? q = ((plain.reverse.find? fun a =>
      decide (scope.resolveAttribute a.1 = .ok q)).map (·.2)).or (table.get? q) := by
  induction plain generalizing table with
  | nil =>
    cases h
    rfl
  | cons a plain ih =>
    obtain ⟨name, value⟩ := a
    rw [resolveAttributes] at h
    split at h
    · cases h
    rename_i other hother
    rw [ih h, Table.get?_insert, List.reverse_cons, List.find?_append]
    by_cases same : q = other
    · cases plain.reverse.find? _ <;> simp [same, hother]
    · have differs : ¬ scope.resolveAttribute name = .ok q := by
        rw [hother]
        simpa using Ne.symm same
      cases plain.reverse.find? _ <;> simp [same, differs]

/-- Attributes with different names are entered one after the other. -/
theorem entries_resolveAttributes (h : resolveAttributes scope table plain = .ok result)
    (new : ∀ a ∈ plain, ∀ q, scope.resolveAttribute a.1 = .ok q → ¬ table.contains q)
    (apart : plain.Pairwise fun a b => scope.resolveAttribute a.1 ≠ scope.resolveAttribute b.1) :
    ∃ entries, result.entries = table.entries ++ entries ∧
      List.Forall₂ (Writes scope) plain entries := by
  induction plain generalizing table with
  | nil =>
    cases h
    exact ⟨[], by simp, .nil⟩
  | cons a plain ih =>
    obtain ⟨name, value⟩ := a
    rw [List.pairwise_cons] at apart
    rw [resolveAttributes] at h
    split at h
    · cases h
    rename_i q hq
    have entered := Table.entries_insert_of_new (v := value)
      (new (name, value) List.mem_cons_self q hq)
    have still : ∀ b ∈ plain, ∀ other, scope.resolveAttribute b.1 = .ok other →
        ¬ (table.insert q value).contains other := by
      intro b hb other hother
      have differs : other ≠ q := by
        rintro rfl
        exact apart.1 b hb (hq.trans hother.symm)
      have before := new b (List.mem_cons_of_mem _ hb) other hother
      simpa [Table.contains, differs] using before
    obtain ⟨entries, all, writes⟩ := ih h still apart.2
    refine ⟨(q, value) :: entries, ?_, .cons ⟨hq, rfl⟩ writes⟩
    rw [all, entered, List.append_assoc]
    rfl

end

/-! ## Elements of a document -/

/-- The start tag is that of the element. Its attributes are those that are written, in their order
and each with its value, unless the names of several come to the same: then the last one counts. -/
structure Start.Opens (s : Start) (e : OutlineEntry) : Prop where
  depth : e.depth = s.depth
  tag : resolveTag e.outer s.position s.raw = .ok e.tag
  attributes : s.raw.IsApart e.tag.scope →
    List.Forall₂ (Writes e.tag.scope) s.raw.plain e.tag.attributes.entries
  last : ∀ q, e.tag.attributes.get? q =
    (s.raw.plain.reverse.find? fun a => decide (e.tag.scope.resolveAttribute a.1 = .ok q)).map (·.2)

/-- What is behind a tag with its names resolved. -/
theorem exists_of_resolveTag {outer : Scope} {position : Nat} {raw : RawTag} {tag : Tag}
    (h : resolveTag outer position raw = .ok tag) :
    tag.position = position ∧ ∃ written others, raw.name = .ok written ∧
      declare outer [] raw.attributes = .ok (tag.scope, others) ∧
      tag.scope.resolveElement written = .ok tag.name ∧
      resolveAttributes tag.scope .empty others = .ok tag.attributes := by
  rw [resolveTag] at h
  split at h
  · cases h
  rename_i written named
  obtain ⟨written, ⟨⟩, h⟩ := bind_eq_ok_iff.mp h
  obtain ⟨⟨scope, others⟩, declared, h⟩ := bind_eq_ok_iff.mp h
  dsimp only at h
  split at h
  · cases h
  rename_i q resolved
  obtain ⟨q, ⟨⟩, h⟩ := bind_eq_ok_iff.mp h
  obtain ⟨attributes, entered, h⟩ := bind_eq_ok_iff.mp h
  cases h
  exact ⟨rfl, _, others, named, declared, resolved, entered⟩

theorem Start.Opens.of_resolveTag {depth position : Nat} {outer : Scope} {raw : RawTag} {tag : Tag}
    (h : resolveTag outer position raw = .ok tag) :
    Opens ⟨depth, position, raw⟩ ⟨depth, outer, tag⟩ := by
  obtain ⟨-, -, others, -, declared, -, resolved⟩ := exists_of_resolveTag h
  have plain : others = raw.plain := plain_of_declare declared
  subst plain
  constructor
  case depth => rfl
  case tag => exact h
  case attributes =>
    intro apart
    obtain ⟨entries, all, writes⟩ :=
      entries_resolveAttributes resolved (fun _ _ _ _ contained => by cases contained) apart
    rw [all]
    exact writes
  case last =>
    intro q
    rw [get?_resolveAttributes resolved, Table.get?_empty, Option.or_none]

/-- The scope inside of tags, the innermost first. -/
def scopeWithin (tags : List Tag) : Scope := (tags.head?.map (·.scope)).getD .initial

theorem scopeOf_eq (opened : List OpenElement) :
    scopeOf opened = scopeWithin (opened.map (·.tag)) := by
  cases opened <;> rfl

/-- Tags within one another, the innermost first, and what they are with their names resolved. -/
inductive AreNested : List RawTag → List Tag → Prop where
  | nil : AreNested [] []
  | cons {around : List RawTag} {outer : List Tag} {position : Nat} {raw : RawTag} {tag : Tag}
      (within : AreNested around outer)
      (resolved : resolveTag (scopeWithin outer) position raw = .ok tag) :
      AreNested (raw :: around) (tag :: outer)

theorem AreNested.length_eq {around : List RawTag} {outer : List Tag} (h : AreNested around outer) :
    around.length = outer.length := by
  induction h with
  | nil => rfl
  | cons _ _ ih => exact congrArg (· + 1) ih

/-- The start tag is that of the element, and the tags around it are those of the elements around
the element. -/
structure Place.Opens (p : Place) (e : OutlineEntry) : Prop where
  start : p.start.Opens e
  around : ∃ outer, AreNested p.around outer ∧ e.outer = scopeWithin outer

/-- What the open elements, innermost first, spell: each of them, and what it contains so far. -/
def spelled : List OpenElement → List OutlineEntry
  | [] => []
  | e :: around => spelled around ++
      ⟨around.length, scopeOf around, e.tag⟩ :: Node.outlines (around.length + 1) e.tag.scope
        e.nodes.reverse

/-- The outline of the elements of a document that are outside all others. -/
def forest (roots : List Element) : List OutlineEntry :=
  Node.outlines 0 .initial (roots.map fun e => .element e.tag e.nodes)

theorem outlines_addText (depth : Nat) (outer : Scope) (content : String) (nodes : List Node) :
    Node.outlines depth outer (addText content nodes).reverse =
      Node.outlines depth outer nodes.reverse := by
  match nodes with
  | [] => simp [addText, Node.outline, Node.outlines]
  | .text before :: rest => simp [addText, Node.outlines_append, Node.outline]
  | .element tag inside :: rest => simp [addText, Node.outlines_append, Node.outlines, Node.outline]

/-- Text is not in the outline. -/
theorem spelled_addText (e : OpenElement) (content : String) (around : List OpenElement) :
    spelled ({ e with nodes := addText content e.nodes } :: around) = spelled (e :: around) := by
  simp only [spelled, outlines_addText]

/-- A finished element is spelled where it is put: at the end of the content of the element around
it, or as the last of those outside all others. -/
theorem exists_close (e : Element) (opened : List OpenElement) (roots : List Element) :
    ∃ opened' roots', close e opened roots.getLast? = (opened', roots'.getLast?) ∧
      opened'.map (·.tag) = opened.map (·.tag) ∧
      forest roots' ++ spelled opened' = forest roots ++ spelled opened ++
        Node.outline opened.length (scopeOf opened) (.element e.tag e.nodes) := by
  cases opened with
  | nil =>
    refine ⟨[], roots ++ [e], by simp [close], rfl, ?_⟩
    simp [forest, spelled, Node.outlines_append, scopeOf]
  | cons parent around =>
    refine ⟨_, roots, rfl, rfl, ?_⟩
    simp [spelled, Node.outlines_append, scopeOf]

/-- Building reads tag by tag: what it ends with spells what was there before, and then the tags of
the stream. -/
theorem exists_forest_of_build {limits : Limits} {events : List Event} :
    ∀ {opened : List OpenElement} {roots : List Element} {root : Option Element}
      {around : List RawTag}, build limits opened roots.getLast? events = .ok root →
      AreNested around (opened.map (·.tag)) →
      ∃ roots' read, root = roots'.getLast? ∧
        forest roots' = forest roots ++ spelled opened ++ read ∧
        List.Forall₂ Place.Opens (places around events) read := by
  induction events with
  | nil =>
    intro opened roots root around h nested
    cases opened with
    | nil =>
      cases h
      exact ⟨roots, [], rfl, by simp [spelled], .nil⟩
    | cons e inside => cases h
  | cons event events ih =>
    intro opened roots root around h nested
    have first {position : Nat} {raw : RawTag} {tag : Tag}
        (resolved : resolveTag (scopeOf opened) position raw = .ok tag) :
        Place.Opens ⟨around, position, raw⟩ ⟨opened.length, scopeOf opened, tag⟩ := by
      refine ⟨?_, _, nested, scopeOf_eq opened⟩
      have depth : around.length = opened.length := by simpa using nested.length_eq
      rw [Place.start, depth]
      exact .of_resolveTag resolved
    cases event with
    | start position raw =>
      obtain ⟨tag, resolved, h⟩ := bind_eq_ok_iff.mp h
      obtain ⟨-, -, h⟩ := bind_eq_ok_iff.mp h
      obtain ⟨roots', read, last, all, opens⟩ := ih h (nested.cons (scopeOf_eq opened ▸ resolved))
      refine ⟨roots', ⟨opened.length, scopeOf opened, tag⟩ :: read, last, ?_,
        .cons (first resolved) opens⟩
      simpa [spelled, Node.outlines] using all
    | empty position raw =>
      obtain ⟨tag, resolved, h⟩ := bind_eq_ok_iff.mp h
      obtain ⟨-, -, h⟩ := bind_eq_ok_iff.mp h
      obtain ⟨opened', between, closed, same, put⟩ := exists_close ⟨tag, []⟩ opened roots
      rw [closed] at h
      obtain ⟨roots', read, last, all, opens⟩ := ih h (same ▸ nested)
      refine ⟨roots', ⟨opened.length, scopeOf opened, tag⟩ :: read, last, ?_,
        .cons (first resolved) opens⟩
      rw [all, put]
      simp [Node.outline, Node.outlines]
    | finish =>
      cases opened with
      | nil =>
        cases nested
        exact ih h .nil
      | cons e inside =>
        cases nested with | cons within resolved =>
        obtain ⟨opened', between, closed, same, put⟩ :=
          exists_close ⟨e.tag, e.nodes.reverse⟩ inside roots
        rw [build, closed] at h
        obtain ⟨roots', read, last, all, opens⟩ := ih h (same ▸ within)
        refine ⟨roots', read, last, ?_, opens⟩
        rw [all, put]
        simp [spelled, Node.outline]
    | text content =>
      cases opened with
      | nil => exact ih h nested
      | cons e inside =>
        cases content with
        | error fault => cases h
        | ok content =>
          obtain ⟨roots', read, last, all, opens⟩ := ih h nested
          rw [spelled_addText] at all
          exact ⟨roots', read, last, all, opens⟩
    | cdata content =>
      cases opened with
      | nil => exact ih h nested
      | cons e inside =>
        obtain ⟨roots', read, last, all, opens⟩ := ih h nested
        rw [spelled_addText] at all
        exact ⟨roots', read, last, all, opens⟩
    | other => exact ih h nested
    | broken fault => cases h

/-- The elements outside all others, of which a document keeps the last. -/
theorem exists_roots_of_build {limits : Limits} {events : List Event} {root : Option Element}
    (h : build limits [] none events = .ok root) :
    ∃ roots, root = roots.getLast? ∧
      List.Forall₂ Place.Opens (places [] events) (forest roots) := by
  have begun : build limits [] ([] : List Element).getLast? events = .ok root := h
  obtain ⟨roots, read, last, all, opens⟩ := exists_forest_of_build begun .nil
  refine ⟨roots, last, ?_⟩
  rw [all]
  exact opens

/-- As many elements are outside all others as tags are that stand there. -/
theorem countP_forest (roots : List Element) :
    (forest roots).countP (·.depth == 0) = roots.length := by
  induction roots with
  | nil => rfl
  | cons e roots ih =>
    have inside : (Node.outlines 1 e.tag.scope e.nodes).countP (·.depth == 0) = 0 := by
      rw [List.countP_eq_zero]
      intro p hp
      have deep := Node.le_depth_of_mem_outlines e.nodes hp
      simp only [beq_iff_eq]
      omega
    have rest : (Node.outlines 0 .initial (roots.map fun e => .element e.tag e.nodes)).countP
        (·.depth == 0) = roots.length := ih
    simp [forest, Node.outlines, Node.outline, inside, rest]

theorem countP_of_opens {tags : List Start} {entries : List OutlineEntry}
    (h : List.Forall₂ Start.Opens tags entries) :
    entries.countP (·.depth == 0) = tags.countP (·.depth == 0) := by
  induction h with
  | nil => rfl
  | cons opens _ ih => rw [List.countP_cons, List.countP_cons, ih, opens.depth]

/-- A document with no more than one element outside all others keeps every tag of its events, in
their order and nested as they are. -/
theorem opens_of_build {limits : Limits} {events : List Event} {root : Option Element}
    (h : build limits [] none events = .ok root)
    (single : (starts 0 events).countP (·.depth == 0) ≤ 1) :
    List.Forall₂ Start.Opens (starts 0 events) (forest root.toList) := by
  obtain ⟨roots, rfl, opens⟩ := exists_roots_of_build h
  have opened : List.Forall₂ Start.Opens (starts 0 events) (forest roots) := by
    rw [← List.length_nil, ← map_start_places, List.forall₂_map_left_iff]
    exact opens.imp fun _ _ opens => opens.start
  rw [← countP_of_opens opened, countP_forest] at single
  have alone : roots.getLast?.toList = roots := by
    match roots with
    | [] => rfl
    | [e] => rfl
    | _ :: _ :: _ => simp at single
  rw [alone]
  exact opened

/-- The events of a short text. -/
def eventsOf (text : String) : List Event := Scan.document text.toUTF8.toList

/-- The root of a short text, if it is a document. -/
def rootOf (text : String) : Option Element :=
  (build .standard [] none (eventsOf text)).toOption.join

theorem build_of_rootOf {text : String} {root : Element} (h : rootOf text = some root) :
    build .standard [] none (eventsOf text) = .ok (some root) := by
  unfold rootOf at h
  cases built : build .standard [] none (eventsOf text) with
  | error fault =>
    rw [built] at h
    cases h
  | ok result =>
    rw [built] at h
    exact congrArg Except.ok h

theorem opens_letter :
    ∃ root, rootOf "<l xmlns:a='u' a:x='1' x='2'>Dear <b/> and <c>more</c></l>" = some root ∧
      (root.tag.attributes.size, (forest [root]).map (·.depth)) = (2, [0, 1, 1]) ∧
      List.Forall₂ Start.Opens
        (starts 0 (eventsOf "<l xmlns:a='u' a:x='1' x='2'>Dear <b/> and <c>more</c></l>"))
        (forest [root]) := by
  have read : (rootOf "<l xmlns:a='u' a:x='1' x='2'>Dear <b/> and <c>more</c></l>").map
      (fun root => (root.tag.attributes.size, (forest [root]).map (·.depth))) =
        some (2, [0, 1, 1]) := by
    decide +kernel
  obtain ⟨root, found, outline⟩ := Option.map_eq_some_iff.mp read
  exact ⟨root, found, outline, opens_of_build (build_of_rootOf found) (by decide +kernel)⟩

/-- Of two elements outside all others the first one is lost, and of two attributes whose prefixes
stand for one namespace the value of the first one. -/
theorem not_opens_of_build :
    (∃ root, build .standard [] none (eventsOf "<a/><b/>") = .ok (some root) ∧
      (forest [root]).length < (starts 0 (eventsOf "<a/><b/>")).length) ∧
    ∃ root, build .standard [] none (eventsOf "<r xmlns:a='u' xmlns:b='u' a:x='1' b:x='2'/>") =
        .ok (some root) ∧
      ((forest [root]).map (·.tag.attributes.size)).sum <
        ((starts 0 (eventsOf "<r xmlns:a='u' xmlns:b='u' a:x='1' b:x='2'/>")).map
          (·.raw.plain.length)).sum := by
  constructor
  · have lost : (rootOf "<a/><b/>").map (fun root =>
        ((forest [root]).length, (starts 0 (eventsOf "<a/><b/>")).length)) = some (1, 2) := by
      decide +kernel
    obtain ⟨root, found, sizes⟩ := Option.map_eq_some_iff.mp lost
    obtain ⟨kept, written⟩ := Prod.mk.inj sizes
    exact ⟨root, build_of_rootOf found, by omega⟩
  · have lost : (rootOf "<r xmlns:a='u' xmlns:b='u' a:x='1' b:x='2'/>").map (fun root =>
        (((forest [root]).map (·.tag.attributes.size)).sum,
          ((starts 0 (eventsOf "<r xmlns:a='u' xmlns:b='u' a:x='1' b:x='2'/>")).map
            (·.raw.plain.length)).sum)) = some (1, 2) := by
      decide +kernel
    obtain ⟨root, found, sizes⟩ := Option.map_eq_some_iff.mp lost
    obtain ⟨kept, written⟩ := Prod.mk.inj sizes
    exact ⟨root, build_of_rootOf found, by omega⟩

end Markup

end Xsd
