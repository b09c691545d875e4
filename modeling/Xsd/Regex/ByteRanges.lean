import Xsd.Unicode.Category

/-!
# Ranges of coded bytes

A set of characters as the bytes that code them in UTF-8. A sequence of ranges stands for the
characters whose bytes lie in the ranges one by one; each character of the set is in one sequence.
-/

namespace Xsd.Regex

/-- A range of bytes, both ends included. -/
abbrev ByteRange := Nat × Nat

namespace ByteRange

/-- The ranges of code points that are coded in one byte, in two, in three and in four. -/
def lengths : List (Nat × Nat) :=
  [(0, 0x7F), (0x80, 0x7FF), (0x800, 0xFFFF), (0x10000, 0x10FFFF)]

/-- Split a range where its bytes after the first would not take all their values together. The
range is one of whole blocks of `block` code points, and has `levels` more bytes that may differ. -/
def split (block : Nat) : (levels low high : Nat) → List (Nat × Nat)
  | 0, low, high => [(low, high)]
  | levels + 1, low, high =>
    let block := block * 64
    if low / block = high / block then [(low, high)]
    else
      let start := (low + block - 1) / block * block
      let finish := (high + 1) / block * block
      (if low < start then [(low, start - 1)] else []) ++
        (if start < finish then split block levels start (finish - 1) else []) ++
        (if finish ≤ high then [(finish, high)] else [])

/-- The bytes that code a character. -/
def bytes (n : Nat) : List Nat :=
  (String.utf8EncodeChar (Char.ofNat n)).map (·.toNat)

/-- The sequences of a range of code points. -/
def ofRange (range : Nat × Nat) : List (List ByteRange) :=
  lengths.zipIdx.flatMap fun (length, levels) =>
    let low := max range.1 length.1
    let high := min range.2 length.2
    if low ≤ high then
      (split 1 levels low high).map fun p => (bytes p.1).zip (bytes p.2)
    else []

/-- The sequences of a set of characters, in order. -/
def ofSet (members : Unicode.Ranges) : List (List ByteRange) := members.toList.flatMap ofRange

end ByteRange

end Xsd.Regex
