import Xsd.Facet.Pattern
import Xsd.Proofs.Regex.Language
import Xsd.Proofs.Value.Exact

/-!
# Expressions of patterns

The expressions that patterns are made of, as far as they have no escapes and no subtraction of
classes: how they are written in a schema and in the search syntax, and which language they stand
for. The search syntax has operations between the items of a class, written as a doubled character;
an expression is plain if no item of a class and the next one make up such an operation by chance,
and no number is too large.
-/

namespace Xsd.Pattern

open Computability

/-- A character that stands for itself. -/
def isNormal (c : Char) : Bool := !".\\?*+\x7b\x7d()|[]".toList.contains c

/-- A character that stands for itself in a class, wherever it is. -/
def isClassNormal (c : Char) : Bool := !"\\-[]".toList.contains c

/-- How the characters that stand for themselves are written outside and inside of classes. -/
structure Writing where
  outside : Char → List Char
  inside : Char → List Char

/-- In a schema, as they are. -/
def Writing.schema : Writing := ⟨fun c => [c], fun c => [c]⟩

/-- In the search syntax, where carets and dollar signs have a meaning. -/
def Writing.search : Writing :=
  ⟨fun c => if c = '^' ∨ c = '$' then ['\\', c] else [c],
    fun c => if c = '^' then ['\\', c] else [c]⟩

/-! ## Classes -/

inductive ClassItem where
  | single (c : Char) (normal : isClassNormal c = true)
  | range (low high : Char) (lowNormal : isClassNormal low = true)
      (highNormal : isClassNormal high = true) (ordered : low ≤ high)

namespace ClassItem

def first : ClassItem → Char
  | .single c _ => c
  | .range low _ _ _ _ => low

def write (w : Writing) : ClassItem → List Char
  | .single c _ => w.inside c
  | .range low high _ _ _ => w.inside low ++ '-' :: w.inside high

def contains : ClassItem → Char → Bool
  | .single c _, d => d == c
  | .range low high _ _ _, d => low ≤ d && d ≤ high

/-- The search syntax reads an operation where one item ends and the other one starts. -/
def Clashes : ClassItem → ClassItem → Prop
  | .single c _, next => (c = '&' ∨ c = '~') ∧ next.first = c
  | .range _ _ _ _ _, _ => False

end ClassItem

/-- A class of characters. A hyphen stands for itself before the other items and after them, and a
caret that comes first negates the class. -/
structure CharClass where
  negated : Bool
  leading : Bool
  items : List ClassItem
  trailing : Bool
  inhabited : leading = true ∨ items ≠ [] ∨ trailing = true
  unambiguous : negated = false → leading = false → ∀ item ∈ items.head?, item.first ≠ '^'

namespace CharClass

def hyphenIf (there : Bool) : List Char := if there then ['-'] else []

/-- The class without its brackets and without the caret that negates it. -/
def writeItems (w : Writing) (k : CharClass) : List Char :=
  hyphenIf k.leading ++ k.items.flatMap (·.write w) ++ hyphenIf k.trailing

def write (w : Writing) (k : CharClass) : List Char :=
  '[' :: (if k.negated then ['^'] else []) ++ k.writeItems w ++ [']']

def contains (k : CharClass) (c : Char) : Bool :=
  k.negated != ((k.leading || k.trailing) && c == '-' || k.items.any (·.contains c))

/-- The number of items, hyphens included. -/
def size (k : CharClass) : Nat := k.leading.toNat + k.items.length + k.trailing.toNat

def IsPlain (k : CharClass) : Prop := k.items.IsChain fun a b => ¬ a.Clashes b

end CharClass

/-! ## Quantifiers -/

/-- A number in decimal digits. -/
structure Count where
  digits : List Char
  value : Nat
  read : Text.digits? digits = some value

inductive Quantifier where
  | one
  | optional
  | star
  | plus
  | exactly (n : Count)
  | atLeast (n : Count)
  | between (n m : Count) (ordered : n.value ≤ m.value)

namespace Quantifier

def write : Quantifier → List Char
  | .one => []
  | .optional => ['?']
  | .star => ['*']
  | .plus => ['+']
  | .exactly n => '\x7b' :: n.digits ++ ['\x7d']
  | .atLeast n => '\x7b' :: n.digits ++ [',', '\x7d']
  | .between n m _ => '\x7b' :: n.digits ++ ',' :: m.digits ++ ['\x7d']

def apply (l : Language Char) : Quantifier → Language Char
  | .one => l
  | .optional => 1 + l
  | .star => l∗
  | .plus => l * l∗
  | .exactly n => l ^ n.value
  | .atLeast n => l ^ n.value * l∗
  | .between n m _ => { w | ∃ k, n.value ≤ k ∧ k ≤ m.value ∧ w ∈ l ^ k }

/-- The search syntax can read the numbers. -/
def IsPlain : Quantifier → Prop
  | .exactly n | .atLeast n => n.value < 2 ^ 32
  | .between n m _ => n.value < 2 ^ 32 ∧ m.value < 2 ^ 32
  | _ => True

def depth : Quantifier → Nat
  | .one => 0
  | _ => 1

end Quantifier

/-! ## Expressions -/

mutual

inductive Atom where
  | char (c : Char) (normal : isNormal c = true)
  | cls (k : CharClass)
  | group (e : Expression)

/-- Atoms with their quantifiers, one after the other. -/
inductive Branch where
  | nil
  | cons (a : Atom) (q : Quantifier) (rest : Branch)

/-- Branches of which one is to be taken. -/
inductive Expression where
  | last (b : Branch)
  | more (b : Branch) (rest : Expression)

end

mutual

def Atom.write (w : Writing) : Atom → List Char
  | .char c _ => w.outside c
  | .cls k => k.write w
  | .group e => '(' :: e.write w ++ [')']

def Branch.write (w : Writing) : Branch → List Char
  | .nil => []
  | .cons a q rest => a.write w ++ q.write ++ rest.write w

def Expression.write (w : Writing) : Expression → List Char
  | .last b => b.write w
  | .more b rest => b.write w ++ '|' :: rest.write w

end

mutual

/-- The words that an atom stands for. -/
def Atom.language : Atom → Language Char
  | .char c _ => { [c] }
  | .cls k => { w | ∃ c, k.contains c = true ∧ w = [c] }
  | .group e => e.language

def Branch.language : Branch → Language Char
  | .nil => 1
  | .cons a q rest => q.apply a.language * rest.language

def Expression.language : Expression → Language Char
  | .last b => b.language
  | .more b rest => b.language + rest.language

end

mutual

def Atom.IsPlain : Atom → Prop
  | .char _ _ => True
  | .cls k => k.IsPlain
  | .group e => e.IsPlain

def Branch.IsPlain : Branch → Prop
  | .nil => True
  | .cons a q rest => a.IsPlain ∧ q.IsPlain ∧ rest.IsPlain

def Expression.IsPlain : Expression → Prop
  | .last b => b.IsPlain
  | .more b rest => b.IsPlain ∧ rest.IsPlain

end

mutual

/-- How deep an atom is nested, as the search syntax counts: with each class, group and repetition,
and wherever there are several items, atoms or branches. -/
def Atom.depth : Atom → Nat
  | .char _ _ => 0
  | .cls k => (if 1 < k.size then 1 else 0) + 1
  | .group e => Regex.Reader.jointDepth e.depths + 1

def Branch.depths : Branch → List Nat
  | .nil => []
  | .cons a q rest => (a.depth + q.depth) :: rest.depths

def Expression.depths : Expression → List Nat
  | .last b => [Regex.Reader.jointDepth b.depths]
  | .more b rest => Regex.Reader.jointDepth b.depths :: rest.depths

end

def Expression.depth (e : Expression) : Nat := Regex.Reader.jointDepth e.depths

/-- The expression as it stands in a schema. -/
def Expression.text (e : Expression) : String := String.ofList (e.write .schema)

/-! ## In the search syntax -/

theorem isNormal_iff {c : Char} : isNormal c = true ↔ c ≠ '.' ∧ c ≠ '\\' ∧ c ≠ '?' ∧ c ≠ '*' ∧
    c ≠ '+' ∧ c ≠ '\x7b' ∧ c ≠ '\x7d' ∧ c ≠ '(' ∧ c ≠ ')' ∧ c ≠ '|' ∧ c ≠ '[' ∧ c ≠ ']' := by
  simp [isNormal]

theorem isClassNormal_iff {c : Char} :
    isClassNormal c = true ↔ c ≠ '\\' ∧ c ≠ '-' ∧ c ≠ '[' ∧ c ≠ ']' := by
  simp [isClassNormal]

/-- Outside of classes. -/
theorem searchSource_outside {c : Char} (escape : c ≠ '\\') (opening : c ≠ '[') (closing : c ≠ ']')
    (atStart : Bool) (rest : List Char) :
    searchSource 0 atStart (c :: rest) =
      Writing.search.outside c ++ searchSource 0 false rest := by
  conv_lhs => unfold searchSource
  split <;> simp_all [Writing.search]

/-- In a class, and not where a caret would negate it. -/
theorem searchSource_inside {c : Char} (escape : c ≠ '\\') (opening : c ≠ '[') (closing : c ≠ ']')
    {atStart : Bool} (positive : atStart = false ∨ c ≠ '^') (rest : List Char) :
    searchSource 1 atStart (c :: rest) =
      Writing.search.inside c ++ searchSource 1 false rest := by
  conv_lhs => unfold searchSource
  split <;> simp_all [Writing.search]

/-- Characters that are the same in both ways of writing. -/
theorem searchSource_same {cs : List Char}
    (same : ∀ c ∈ cs, c ≠ '\\' ∧ c ≠ '[' ∧ c ≠ ']' ∧ c ≠ '^' ∧ c ≠ '$') (rest : List Char) :
    searchSource 0 false (cs ++ rest) = cs ++ searchSource 0 false rest := by
  induction cs with
  | nil => rfl
  | cons c cs ih =>
    obtain ⟨⟨escape, opening, closing, caret, dollar⟩, others⟩ := List.forall_mem_cons.mp same
    rw [List.cons_append, searchSource_outside escape opening closing, ih others, Writing.search]
    simp [caret, dollar]

namespace ClassItem

theorem searchSource_write (item : ClassItem) {atStart : Bool}
    (positive : atStart = false ∨ item.first ≠ '^') (rest : List Char) :
    searchSource 1 atStart (item.write .schema ++ rest) =
      item.write .search ++ searchSource 1 false rest := by
  cases item with
  | single c normal =>
    obtain ⟨escape, hyphen, opening, closing⟩ := isClassNormal_iff.mp normal
    exact searchSource_inside escape opening closing positive rest
  | range low high lowNormal highNormal ordered =>
    obtain ⟨escape, -, opening, closing⟩ := isClassNormal_iff.mp lowNormal
    obtain ⟨escape', -, opening', closing'⟩ := isClassNormal_iff.mp highNormal
    have hyphen : searchSource 1 false ('-' :: high :: rest) =
        '-' :: searchSource 1 false (high :: rest) := by
      rw [searchSource] <;> simp
    simp only [write, Writing.schema, List.cons_append, List.nil_append]
    rw [searchSource_inside escape opening closing positive, hyphen,
      searchSource_inside escape' opening' closing' (Or.inl rfl), List.append_assoc,
      List.cons_append]

theorem searchSource_writes (items : List ClassItem) {atStart : Bool}
    (positive : atStart = false ∨ ∀ item ∈ items.head?, item.first ≠ '^') (rest : List Char) :
    ∃ later, searchSource 1 atStart (items.flatMap (write .schema) ++ rest) =
      items.flatMap (write .search) ++ searchSource 1 later rest := by
  induction items generalizing atStart with
  | nil => exact ⟨atStart, rfl⟩
  | cons item items ih =>
    obtain ⟨later, more⟩ := ih (Or.inl rfl)
    refine ⟨later, ?_⟩
    have first : atStart = false ∨ item.first ≠ '^' := positive.imp id fun h => h item rfl
    rw [List.flatMap_cons, List.append_assoc, item.searchSource_write first, more,
      List.flatMap_cons, List.append_assoc]

end ClassItem

/-- Nothing in a class negates it but the first caret. -/
theorem CharClass.searchSource_write (k : CharClass) (rest : List Char) :
    searchSource 0 false (k.write .schema ++ rest) =
      k.write .search ++ searchSource 0 false rest := by
  have hyphen (start there : Bool) (r : List Char) : searchSource 1 start (hyphenIf there ++ r) =
      hyphenIf there ++ searchSource 1 (start && !there) r := by
    cases there <;> simp [hyphenIf, searchSource]
  have items (start : Bool) (positive : k.leading = false → start = false ∨
      ∀ item ∈ k.items.head?, item.first ≠ '^') :
      searchSource 1 start (k.writeItems .schema ++ ']' :: rest) =
        k.writeItems .search ++ ']' :: searchSource 0 false rest := by
    have first : (start && !k.leading) = false ∨ ∀ item ∈ k.items.head?, item.first ≠ '^' := by
      cases leading : k.leading with
      | true => exact Or.inl (Bool.and_false start)
      | false => simpa using positive leading
    obtain ⟨later, whole⟩ := ClassItem.searchSource_writes k.items first
      (hyphenIf k.trailing ++ ']' :: rest)
    simp only [writeItems, List.append_assoc, hyphen, whole]
    rw [searchSource]
  unfold write
  simp only [List.append_assoc, List.cons_append, List.nil_append]
  rw [searchSource]
  cases negated : k.negated with
  | true =>
    have caret (r : List Char) : searchSource 1 true ('^' :: r) = '^' :: searchSource 1 false r := by
      rw [searchSource]
      rfl
    simp only [if_true, List.cons_append, List.nil_append, caret]
    rw [items false fun _ => Or.inl rfl]
  | false =>
    simp only [Bool.false_eq_true, if_false, List.nil_append]
    rw [items true fun leading => Or.inr (k.unambiguous negated leading)]

theorem Count.isDigit_of_mem {n : Count} {c : Char} (mem : c ∈ n.digits) :
    Text.isDigit c = true := by
  have all : n.digits.all Text.isDigit = true := by
    have read := n.read
    unfold Text.digits? at read
    split at read
    · cases read
    · exact Text.all_isDigit_of_digitsFrom read
  exact List.all_eq_true.mp all c mem

theorem Quantifier.mem_write {q : Quantifier} {c : Char} (mem : c ∈ q.write) :
    c ∈ "?*+\x7b\x7d,".toList ∨ Text.isDigit c = true := by
  have digit {n : Count} : c ∈ n.digits → Text.isDigit c = true := n.isDigit_of_mem
  cases q <;> simp only [write, List.mem_append, List.mem_cons, List.not_mem_nil, or_false] at mem
  case exactly n => rcases mem with (rfl | mem) | rfl <;> first | exact Or.inr (digit mem) | decide
  case atLeast n =>
    rcases mem with (rfl | mem) | rfl | rfl <;> first | exact Or.inr (digit mem) | decide
  case between n m _ =>
    rcases mem with ((rfl | mem) | rfl | mem) | rfl <;> first | exact Or.inr (digit mem) | decide
  all_goals simp [mem]

theorem Quantifier.searchSource_write (q : Quantifier) (rest : List Char) :
    searchSource 0 false (q.write ++ rest) = q.write ++ searchSource 0 false rest := by
  refine searchSource_same (fun c mem => ?_) rest
  refine ⟨?_, ?_, ?_, ?_, ?_⟩ <;> rintro rfl <;> exact absurd (mem_write mem) (by decide)

mutual

theorem Atom.searchSource_write (a : Atom) (rest : List Char) :
    searchSource 0 false (a.write .schema ++ rest) =
      a.write .search ++ searchSource 0 false rest := by
  cases a with
  | char c normal =>
    obtain ⟨-, escape, -, -, -, -, -, -, -, -, opening, closing⟩ := isNormal_iff.mp normal
    rw [Atom.write, Atom.write]
    exact searchSource_outside escape opening closing false rest
  | cls k => exact k.searchSource_write rest
  | group e =>
    simp only [Atom.write, List.cons_append, List.append_assoc, List.nil_append]
    rw [searchSource, Expression.searchSource_write, searchSource] <;> simp

theorem Branch.searchSource_write (b : Branch) (rest : List Char) :
    searchSource 0 false (b.write .schema ++ rest) =
      b.write .search ++ searchSource 0 false rest := by
  cases b with
  | nil => simp only [Branch.write, List.nil_append]
  | cons a q more =>
    simp only [Branch.write, List.append_assoc]
    rw [a.searchSource_write, q.searchSource_write, more.searchSource_write]

theorem Expression.searchSource_write (e : Expression) (rest : List Char) :
    searchSource 0 false (e.write .schema ++ rest) =
      e.write .search ++ searchSource 0 false rest := by
  cases e with
  | last b => exact b.searchSource_write rest
  | more b more =>
    simp only [Expression.write, List.cons_append, List.append_assoc]
    rw [b.searchSource_write, searchSource, more.searchSource_write] <;> simp

end

/-- The source in the search syntax is the expression written in it. -/
theorem Expression.searchSource_text (e : Expression) :
    searchSource 0 false e.text.toList = e.write .search := by
  have whole := e.searchSource_write []
  rw [List.append_nil, searchSource, List.append_nil] at whole
  rw [text, String.toList_ofList, whole]

end Xsd.Pattern
