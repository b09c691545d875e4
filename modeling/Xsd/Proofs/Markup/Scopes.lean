import Xsd.Proofs.Markup.Document
import Xsd.Proofs.Text.Utf8

/-!
# Namespaces in scope

What a prefix stands for in an element is said by the nearest of the tags around it that declares the
prefix, its own tag included; other tags do not matter, nor does the order within a tag, in which no
name stands twice. The name of the element and those of its attributes are read in this scope.
-/

namespace Xsd

/-! ## Texts -/

theorem Text.dropStart?_eq_some_iff {start cs rest : List Char} :
    Text.dropStart? start cs = some rest ↔ cs = start ++ rest := by
  induction start generalizing cs with
  | nil => simp [Text.dropStart?]
  | cons a start ih =>
    cases cs with
    | nil => simp [Text.dropStart?]
    | cons c cs =>
      by_cases h : a = c
      · simp [Text.dropStart?, h, ih]
      · simp [Text.dropStart?, h, Ne.symm h]

theorem Text.after?_eq_some_iff {start s rest : String} :
    Text.after? start s = some rest ↔ s = start ++ rest := by
  rw [Text.after?, Option.map_eq_some_iff]
  simp only [Text.dropStart?_eq_some_iff]
  constructor
  · rintro ⟨cs, h, rfl⟩
    rw [← String.toList_inj, h]
    simp
  · rintro rfl
    exact ⟨rest.toList, by simp, by simp⟩

/-- What is not blank is kept when blanks at the ends are left out. -/
theorem Text.mem_trimList {c : Char} (visible : Text.isBlank c = false) {cs : List Char} :
    c ∈ Text.trimList cs ↔ c ∈ cs := by
  have keep {cs : List Char} : c ∈ cs.dropWhile Text.isBlank ↔ c ∈ cs := by
    induction cs with
    | nil => rfl
    | cons d cs ih =>
      rw [List.dropWhile_cons]
      split
      · rename_i blank
        have differs : c ≠ d := by
          rintro rfl
          rw [visible] at blank
          cases blank
        simp [ih, differs]
      · rfl
  rw [Text.trimList, List.mem_reverse, keep, List.mem_reverse, keep]

namespace Markup

/-! ## What a name stands for -/

/-- What a written name stands for in a scope; `plain` is the namespace of names without a prefix.
With a prefix, blanks at the ends of a name do not count. -/
inductive Names (scope : Scope) (plain : Namespace) (written : String) : QName → Prop where
  | unprefixed (h : ':' ∉ written.toList) : Names scope plain written ⟨plain, written⟩
  | prefixed {mark localName uri : String} (h : Text.trim written = mark ++ ":" ++ localName)
      (first : ':' ∉ mark.toList) (bound : scope.lookup mark = some uri) :
      Names scope plain written ⟨some uri, localName⟩

theorem names_of_resolve {scope : Scope} {written : String} {plain : Namespace} {q : QName}
    (colon : ':' ∈ written.toList) (h : scope.resolve written = .ok q) :
    Names scope plain written q := by
  rw [Scope.resolve] at h
  split at h
  · rename_i mark localName cut
    obtain ⟨⟨before, after⟩, parts, same⟩ := Option.map_eq_some_iff.mp cut
    obtain ⟨rfl, rfl⟩ := Prod.mk.inj same
    obtain ⟨whole, first⟩ := Text.eq_append_of_cutList parts
    split at h
    · rename_i uri bound
      cases h
      refine .prefixed ?_ (by simpa using first) bound
      rw [← String.toList_inj, whole]
      simp
    · cases h
  · rename_i uncut
    rw [Text.cutAt, Option.map_eq_none_iff, Text.cutList_eq_none_iff, Text.trim,
      String.toList_ofList, Text.mem_trimList rfl] at uncut
    exact absurd colon uncut

/-- The name of an element. -/
theorem names_of_resolveElement {scope : Scope} {written : String} {q : QName}
    (h : scope.resolveElement written = .ok q) : Names scope scope.unprefixed written q := by
  rw [Scope.resolveElement] at h
  split at h
  · rename_i colon
    exact names_of_resolve (by simpa using colon) h
  · rename_i plain
    cases h
    exact .unprefixed (by simpa using plain)

/-- The name of an attribute. -/
theorem names_of_resolveAttribute {scope : Scope} {written : String} {q : QName}
    (h : scope.resolveAttribute written = .ok q) : Names scope none written q := by
  rw [Scope.resolveAttribute] at h
  split at h
  · rename_i colon
    exact names_of_resolve (by simpa using colon) h
  · rename_i plain
    cases h
    exact .unprefixed (by simpa using plain)

/-! ## Declarations -/

/-- The attribute that the tag has with a name, as both are written. -/
def RawTag.Says (raw : RawTag) (name value : String) : Prop :=
  .ok (name, value) ∈ raw.attributes

/-- No name stands twice in the tag. -/
def RawTag.IsDistinct (raw : RawTag) : Prop :=
  ∀ name v w, raw.Says name v → raw.Says name w → v = w

/-- What the nearest tag says that has the attribute, the innermost tag first. -/
inductive Nearest (name value : String) : List RawTag → Prop where
  | own {raw : RawTag} {around : List RawTag} (h : raw.Says name value) :
      Nearest name value (raw :: around)
  | around {raw : RawTag} {around : List RawTag} (silent : ∀ v, ¬ raw.Says name v)
      (h : Nearest name value around) : Nearest name value (raw :: around)

theorem nearest_cons_iff {name value : String} {raw : RawTag} {around : List RawTag} :
    Nearest name value (raw :: around) ↔
      raw.Says name value ∨ (∀ v, ¬ raw.Says name v) ∧ Nearest name value around := by
  constructor
  · rintro (said | ⟨silent, near⟩)
    · exact Or.inl said
    · exact Or.inr ⟨silent, near⟩
  · rintro (said | ⟨silent, near⟩)
    · exact .own said
    · exact .around silent near

theorem not_nearest_nil {name value : String} : ¬ Nearest name value [] := nofun

/-- The nearest tag says one thing. -/
theorem Nearest.unique {name v w : String} {tags : List RawTag}
    (distinct : ∀ raw ∈ tags, raw.IsDistinct) (hv : Nearest name v tags)
    (hw : Nearest name w tags) : v = w := by
  induction tags with
  | nil => cases hv
  | cons raw around ih =>
    have own := distinct raw List.mem_cons_self
    rcases hv with said | ⟨silent, near⟩ <;> rcases hw with said' | ⟨silent', near'⟩
    · exact own _ _ _ said said'
    · exact absurd said (silent' v)
    · exact absurd said' (silent w)
    · exact ih (fun raw mem => distinct raw (List.mem_cons_of_mem _ mem)) near near'

/-- The scope once an attribute of a tag has taken effect. -/
def declaration (scope : Scope) (name value : String) : Scope :=
  if name = "xmlns" then scope.setDefault value
  else
    match Text.after? "xmlns:" name with
    | some mark => scope.bind mark value
    | none => scope

/-- Something that a scope holds and that attributes of one name declare. -/
structure View where
  name : String
  /-- What a declaration brings about. -/
  told : String → Option String
  get : Scope → Option String
  get_declaration (scope : Scope) (written value : String) :
    get (declaration scope written value) = if written = name then told value else get scope

namespace View

/-- What a prefix stands for. -/
def ofMark (mark : String) : View where
  name := "xmlns:" ++ mark
  told := some
  get := fun scope => scope.lookup mark
  get_declaration scope written value := by
    unfold declaration
    split
    · rename_i default
      have other : written ≠ "xmlns:" ++ mark := by
        rw [default, Ne, ← String.toList_inj]
        simp
      rw [if_neg other, Scope.lookup_setDefault]
    · split
      · rename_i mark' prefixed
        rw [Text.after?_eq_some_iff] at prefixed
        subst prefixed
        by_cases same : mark = mark'
        · simp [same]
        · have other : "xmlns:" ++ mark' ≠ "xmlns:" ++ mark := by
            rw [Ne, String.append_right_inj]
            exact Ne.symm same
          simp [other, same]
      · rename_i plain
        have other : written ≠ "xmlns:" ++ mark := by
          intro prefixed
          rw [Text.after?_eq_some_iff.mpr prefixed] at plain
          cases plain
        rw [if_neg other]

/-- The namespace of names without a prefix. The empty name takes it away. -/
def ofDefault : View where
  name := "xmlns"
  told value := if value.isEmpty then none else some value
  get := Scope.unprefixed
  get_declaration scope written value := by
    unfold declaration
    split
    · rfl
    · split
      · rw [Scope.unprefixed_bind]
      · rfl

end View

theorem declare_cons (scope : Scope) (others : List (String × String)) (name value : String)
    (rest : List (Except Fault (String × String))) :
    declare scope others (.ok (name, value) :: rest) =
      declare (declaration scope name value)
        (if declares name then others else (name, value) :: others) rest := by
  unfold declaration
  rw [declare]
  by_cases default : name = "xmlns"
  · simp only [declares, default, beq_self_eq_true, Bool.true_or, if_true]
  · cases prefixed : Text.after? "xmlns:" name with
    | some mark => simp only [declares, default, prefixed, Option.isSome_some, Bool.or_true, if_true,
        if_false]
    | none => simp [declares, default, prefixed]

/-- What is declared in a tag counts, or else what was in force outside. -/
theorem View.get_of_declare (view : View) {raws : List (Except Fault (String × String))}
    {scope inner : Scope} {others plain : List (String × String)} {uri : String}
    (h : declare scope others raws = .ok (inner, plain))
    (distinct : ∀ v w, .ok (view.name, v) ∈ raws → .ok (view.name, w) ∈ raws → v = w) :
    view.get inner = some uri ↔
      (∃ value, .ok (view.name, value) ∈ raws ∧ view.told value = some uri) ∨
        (∀ value, .ok (view.name, value) ∉ raws) ∧ view.get scope = some uri := by
  induction raws generalizing scope others with
  | nil =>
    cases h
    simp
  | cons item raws ih =>
    match item with
    | .error fault => cases h
    | .ok (name, value) =>
      rw [declare_cons] at h
      rw [ih h fun v w hv hw => distinct v w (List.mem_cons_of_mem _ hv)
        (List.mem_cons_of_mem _ hw), view.get_declaration]
      by_cases same : name = view.name
      · have sole : ∀ v, .ok (view.name, v) ∈ raws → v = value := fun v hv =>
          distinct v value (List.mem_cons_of_mem _ hv) (same ▸ List.mem_cons_self)
        rw [if_pos same]
        constructor
        · rintro (⟨v, said, told⟩ | ⟨-, told⟩)
          · exact Or.inl ⟨v, List.mem_cons_of_mem _ said, told⟩
          · exact Or.inl ⟨value, same ▸ List.mem_cons_self, told⟩
        · rintro (⟨v, said, told⟩ | ⟨silent, -⟩)
          · rcases List.mem_cons.mp said with own | said
            · cases own
              by_cases again : .ok (view.name, value) ∈ raws
              · exact Or.inl ⟨value, again, told⟩
              · exact Or.inr ⟨fun w hw => again (sole w hw ▸ hw), told⟩
            · exact Or.inl ⟨v, said, told⟩
          · exact absurd (same ▸ List.mem_cons_self) (silent value)
      · simp [same, Ne.symm same]

theorem View.get_of_resolveTag (view : View) {outer : Scope} {position : Nat} {raw : RawTag}
    {tag : Tag} (h : resolveTag outer position raw = .ok tag) (distinct : raw.IsDistinct)
    {uri : String} : view.get tag.scope = some uri ↔
      (∃ value, raw.Says view.name value ∧ view.told value = some uri) ∨
        (∀ value, ¬ raw.Says view.name value) ∧ view.get outer = some uri := by
  obtain ⟨-, written, others, -, declared, -, -⟩ := exists_of_resolveTag h
  exact view.get_of_declare declared (distinct view.name)

/-- By induction on the tags, from the outermost one inwards. -/
theorem View.get_of_areNested (view : View) {tags : List RawTag} {resolved : List Tag}
    (nested : AreNested tags resolved) (distinct : ∀ raw ∈ tags, raw.IsDistinct) {uri : String} :
    view.get (scopeWithin resolved) = some uri ↔
      (∃ value, Nearest view.name value tags ∧ view.told value = some uri) ∨
        (∀ value, ¬ Nearest view.name value tags) ∧ view.get .initial = some uri := by
  induction nested with
  | nil => simp [scopeWithin, not_nearest_nil]
  | @cons around outer position raw tag within resolved ih =>
    have own : view.get tag.scope = some uri ↔ _ :=
      view.get_of_resolveTag resolved (distinct raw List.mem_cons_self)
    have outside := ih fun raw mem => distinct raw (List.mem_cons_of_mem _ mem)
    rw [outside] at own
    refine own.trans ?_
    simp only [nearest_cons_iff]
    by_cases said : ∃ value, raw.Says view.name value
    · obtain ⟨value, said⟩ := said
      have speaks : ¬ ∀ v, ¬ raw.Says view.name v := fun silent => silent value said
      simp [speaks]
    · rw [not_exists] at said
      simp [said]

/-! ## Tags as they are scanned -/

namespace Scan

/-- What is read from a name and a value. -/
theorem key_of_item {key : List UInt8} {name v : String} {value : Except Fault String}
    (h : (match Text.ofUtf8 key with
      | .error fault => (.error (.attributeName fault) : Except Fault (String × String))
      | .ok written => value.map fun v => (written, v)) = .ok (name, v)) :
    Text.ofUtf8 key = .ok name := by
  split at h
  · cases h
  · rename_i written read
    cases value with
    | error fault => cases h
    | ok w =>
      cases h
      exact read

theorem exists_key_of_mem {seen : List (List UInt8)} {fuel : Nat} {bytes : List UInt8}
    {name v : String} (h : .ok (name, v) ∈ attributes seen fuel bytes) :
    ∃ key, key ∉ seen ∧ Text.ofUtf8 key = .ok name := by
  induction fuel generalizing seen bytes with
  | zero => cases h
  | succ fuel ih =>
    rw [attributes] at h
    split at h
    · cases h
    · split at h
      · simp at h
      · rename_i key value rest _
        split at h
        · simp at h
        · rename_i new
          rcases List.mem_cons.mp h with own | h
          · exact ⟨key, by simpa using new, key_of_item own.symm⟩
          · obtain ⟨key', fresh, read⟩ := ih h
            exact ⟨key', fun seen => fresh (List.mem_cons_of_mem _ seen), read⟩

/-- A name that has been seen is refused, and different bytes are different names. -/
theorem eq_of_mem_attributes {seen : List (List UInt8)} {fuel : Nat} {bytes : List UInt8}
    {name v w : String} (hv : .ok (name, v) ∈ attributes seen fuel bytes)
    (hw : .ok (name, w) ∈ attributes seen fuel bytes) : v = w := by
  induction fuel generalizing seen bytes with
  | zero => cases hv
  | succ fuel ih =>
    rw [attributes] at hv hw
    split at hv
    · cases hv
    · split at hv
      · simp at hv
      · rename_i key value rest first
        simp only [first] at hw
        split at hv
        · simp at hv
        · rename_i new
          rw [if_neg new] at hw
          have later {u : String} (h : .ok (name, u) ∈ attributes (key :: seen) fuel rest) :
              Text.ofUtf8 key ≠ .ok name := by
            obtain ⟨key', fresh, read⟩ := exists_key_of_mem h
            intro same
            exact fresh (Text.eq_of_ofUtf8 read same ▸ List.mem_cons_self)
          rcases List.mem_cons.mp hv with own | hv <;> rcases List.mem_cons.mp hw with own' | hw
          · rw [← own] at own'
            cases own'
            rfl
          · exact absurd (key_of_item own.symm) (later hw)
          · exact absurd (key_of_item own'.symm) (later hv)
          · exact ih hv hw

theorem isDistinct_rawTag (bytes : List UInt8) : (rawTag bytes).2.IsDistinct :=
  fun _ _ _ hv hw => eq_of_mem_attributes hv hw

/-- The event is no tag in which a name stands twice. -/
def IsDistinct : Event → Prop
  | .start _ raw => raw.IsDistinct
  | .empty _ raw => raw.IsDistinct
  | _ => True

theorem isDistinct_bang {bytes rest : List UInt8} {event : Event} {size : Nat}
    (h : bang bytes = some (event, size, rest)) : IsDistinct event := by
  unfold bang at h
  split at h
  · obtain ⟨⟨text, after⟩, -, h⟩ := Option.bind_eq_some_iff.mp h
    obtain ⟨-, h⟩ := Option.ite_none_right_eq_some.mp h
    cases h
    trivial
  · obtain ⟨⟨text, after⟩, -, h⟩ := Option.bind_eq_some_iff.mp h
    obtain ⟨-, h⟩ := Option.ite_none_right_eq_some.mp h
    cases h
    trivial
  · obtain ⟨-, h⟩ := Option.ite_none_right_eq_some.mp h
    obtain ⟨⟨text, after⟩, -, h⟩ := Option.bind_eq_some_iff.mp h
    obtain ⟨-, h⟩ := Option.ite_none_right_eq_some.mp h
    cases h
    trivial
  · cases h

/-- Each tag is scanned by itself. -/
theorem isDistinct_events {position fuel : Nat} {opened : List (List UInt8)} {bytes : List UInt8} :
    ∀ event ∈ events position opened fuel bytes, IsDistinct event := by
  induction fuel generalizing position opened bytes with
  | zero => simp [events]
  | succ fuel ih =>
    unfold events
    split
    · simp
    · simp
    · split
      · rename_i read
        exact List.forall_mem_cons.mpr ⟨isDistinct_bang read, ih⟩
      · exact List.forall_mem_singleton.mpr trivial
    · dsimp only
      split
      · exact List.forall_mem_cons.mpr ⟨trivial, ih⟩
      · exact List.forall_mem_singleton.mpr trivial
    · dsimp only
      split
      · split
        · exact List.forall_mem_cons.mpr ⟨trivial, ih⟩
        · exact List.forall_mem_singleton.mpr trivial
      · exact List.forall_mem_singleton.mpr trivial
    · dsimp only
      split
      · exact List.forall_mem_cons.mpr ⟨isDistinct_rawTag _, ih⟩
      · exact List.forall_mem_cons.mpr ⟨isDistinct_rawTag _, ih⟩
    · exact List.forall_mem_cons.mpr ⟨trivial, ih⟩

theorem isDistinct_document (bytes : List UInt8) : ∀ event ∈ document bytes, IsDistinct event :=
  isDistinct_events

end Scan

/-- The tag and those around it, the innermost first. -/
def Place.tags (p : Place) : List RawTag := p.raw :: p.around

theorem isDistinct_of_mem_places {events : List Event} {around : List RawTag} {p : Place}
    (distinct : ∀ event ∈ events, Scan.IsDistinct event) (outside : ∀ raw ∈ around, raw.IsDistinct)
    (h : p ∈ places around events) : ∀ raw ∈ p.tags, raw.IsDistinct := by
  induction events generalizing around with
  | nil => cases h
  | cons event events ih =>
    obtain ⟨first, rest⟩ := List.forall_mem_cons.mp distinct
    replace ih {around : List RawTag} (outside : ∀ raw ∈ around, raw.IsDistinct)
        (h : p ∈ places around events) := ih rest outside h
    cases event with
    | start position raw =>
      have inside : ∀ r ∈ raw :: around, r.IsDistinct := List.forall_mem_cons.mpr ⟨first, outside⟩
      rcases List.mem_cons.mp h with rfl | h
      · exact inside
      · exact ih inside h
    | empty position raw =>
      rcases List.mem_cons.mp h with rfl | h
      · exact List.forall_mem_cons.mpr ⟨first, outside⟩
      · exact ih outside h
    | finish => exact ih (fun raw mem => outside raw (List.mem_of_mem_tail mem)) h
    | text content => exact ih outside h
    | cdata content => exact ih outside h
    | other => exact ih outside h
    | broken fault => exact ih outside h

/-! ## Scopes in a document -/

/-- The element of a start tag has the namespaces in scope that the tag and those around it declare,
and its own name and those of its attributes are read in this scope. -/
structure Place.IsScoped (p : Place) (e : OutlineEntry) : Prop where
  depth : e.depth = p.around.length
  position : e.tag.position = p.position
  sole : ∀ name v w, Nearest name v p.tags → Nearest name w p.tags → v = w
  prefixed : ∀ mark uri, e.tag.scope.lookup mark = some uri ↔
    Nearest ("xmlns:" ++ mark) uri p.tags ∨
      (∀ value, ¬ Nearest ("xmlns:" ++ mark) value p.tags) ∧ mark = "xml" ∧
        uri = QName.xmlNamespace
  unprefixed : ∀ uri, e.tag.scope.unprefixed = some uri ↔
    Nearest "xmlns" uri p.tags ∧ uri ≠ ""
  name : ∃ written, p.raw.name = .ok written ∧
    Names e.tag.scope e.tag.scope.unprefixed written e.tag.name
  attributes : ∀ a ∈ p.raw.plain, ∃ q, Names e.tag.scope none a.1 q ∧ e.tag.attributes.contains q
  written : ∀ q, e.tag.attributes.contains q → ∃ a ∈ p.raw.plain, Names e.tag.scope none a.1 q

theorem lookup_initial {mark uri : String} :
    Scope.initial.lookup mark = some uri ↔ mark = "xml" ∧ uri = QName.xmlNamespace := by
  by_cases h : mark = "xml"
  · subst h
    simp [Scope.lookup, Scope.initial, eq_comm]
  · have other : (mark == "xml") = false := by simpa using h
    simp [Scope.lookup, Scope.initial, List.lookup_cons, h, other]

theorem exists_resolveAttribute {scope : Scope} {table result : Table QName String}
    {plain : List (String × String)} (h : resolveAttributes scope table plain = .ok result) :
    ∀ a ∈ plain, ∃ q, scope.resolveAttribute a.1 = .ok q := by
  induction plain generalizing table with
  | nil => simp
  | cons a plain ih =>
    rw [resolveAttributes] at h
    split at h
    · cases h
    · rename_i q resolved
      exact List.forall_mem_cons.mpr ⟨⟨q, resolved⟩, ih h⟩

/-- The attributes have the names that are written for them. -/
theorem Start.Opens.contains_iff {s : Start} {e : OutlineEntry} (opens : s.Opens e) (q : QName) :
    e.tag.attributes.contains q ↔
      ∃ a ∈ s.raw.plain, e.tag.scope.resolveAttribute a.1 = .ok q := by
  rw [Table.contains, opens.last, Option.isSome_map, List.find?_isSome]
  simp

theorem Place.Opens.isScoped {p : Place} {e : OutlineEntry} (opens : p.Opens e)
    (distinct : ∀ raw ∈ p.tags, raw.IsDistinct) : p.IsScoped e := by
  obtain ⟨start, outer, nested, within⟩ := opens
  have resolved : resolveTag (scopeWithin outer) p.position p.raw = .ok e.tag := within ▸ start.tag
  obtain ⟨position, written, others, named, declared, name, entered⟩ := exists_of_resolveTag resolved
  have all : AreNested p.tags (e.tag :: outer) := nested.cons resolved
  constructor
  case depth => exact start.depth
  case position => exact position
  case sole => exact fun name v w hv hw => hv.unique distinct hw
  case prefixed =>
    intro mark uri
    refine ((View.ofMark mark).get_of_areNested all distinct).trans ?_
    simp [View.ofMark, lookup_initial]
  case unprefixed =>
    intro uri
    refine (View.ofDefault.get_of_areNested all distinct).trans ?_
    simp [View.ofDefault, Scope.initial]
  case name => exact ⟨written, named, names_of_resolveElement name⟩
  case attributes =>
    intro a ha
    have plain : others = p.raw.plain := plain_of_declare declared
    obtain ⟨q, hq⟩ := exists_resolveAttribute entered a (plain ▸ ha)
    exact ⟨q, names_of_resolveAttribute hq, (start.contains_iff q).mpr ⟨a, ha, hq⟩⟩
  case written =>
    intro q hq
    obtain ⟨a, ha, hq⟩ := (start.contains_iff q).mp hq
    exact ⟨a, ha, names_of_resolveAttribute hq⟩

/-- The last of several elements comes last in their outline. -/
theorem forest_eq_append (roots : List Element) :
    forest roots = forest roots.dropLast ++ forest roots.getLast?.toList := by
  cases last : roots.getLast? with
  | none => simp [List.getLast?_eq_none_iff.mp last, forest, Node.outlines]
  | some e =>
    conv_lhs => rw [← List.dropLast_append_getLast? e last]
    simp [forest, Node.outlines_append]

/-- The elements of a document are those of its last start tags, in their order, each with the
namespaces in scope that its tag and those around it declare. -/
theorem isScoped_of_parse {limits : Limits} {bytes : ByteArray} {root : Option Element}
    (h : parse limits bytes = .ok root) :
    ∃ before own, places [] (Scan.document bytes.toList) = before ++ own ∧
      List.Forall₂ Place.IsScoped own (forest root.toList) := by
  rw [parse] at h
  split at h
  · cases h
  obtain ⟨roots, rfl, opens⟩ := exists_roots_of_build h
  have distinct : ∀ p ∈ places [] (Scan.document bytes.toList), ∀ raw ∈ p.tags, raw.IsDistinct :=
    fun p mem => isDistinct_of_mem_places (Scan.isDistinct_document _) (by simp) mem
  have each : List.Forall₂ Place.IsScoped (places [] (Scan.document bytes.toList))
      (forest roots) :=
    ((List.forall₂_and_left _ _).mpr ⟨distinct, opens⟩).imp fun _ _ h => h.2.isScoped h.1
  rw [forest_eq_append] at each
  exact ⟨_, _, (List.take_append_drop (forest roots.dropLast).length _).symm,
    List.forall₂_drop_append _ _ _ each⟩

/-- A letter whose parts declare prefixes and default namespaces of their own, some after they have
been used. -/
def letterText : String :=
  "<p:l p:k='1' k='2' xmlns:p='u' xmlns='v'><m xmlns=''><p:n xmlns:p='w' xml:k='3'/></m><o/></p:l>"

theorem isScoped_letter : ∃ root, parse .standard letterText.toUTF8 = .ok (some root) ∧
    (forest [root]).map (·.tag.name.clark) = ["\x7bu\x7dl", "m", "\x7bw\x7dn", "\x7bv\x7do"] ∧
    ∃ before own, places [] (Scan.document letterText.toUTF8.toList) = before ++ own ∧
      List.Forall₂ Place.IsScoped own (forest [root]) := by
  have read : ((parse .standard letterText.toUTF8).toOption.join.map
      fun root => (forest [root]).map (·.tag.name.clark)) =
        some ["\x7bu\x7dl", "m", "\x7bw\x7dn", "\x7bv\x7do"] := by
    decide +kernel
  obtain ⟨root, found, names⟩ := Option.map_eq_some_iff.mp read
  have parsed : parse .standard letterText.toUTF8 = .ok (some root) := by
    rw [Option.join_eq_some_iff, toOption_eq_some_iff] at found
    exact found
  exact ⟨root, parsed, names, isScoped_of_parse parsed⟩

end Markup

end Xsd
