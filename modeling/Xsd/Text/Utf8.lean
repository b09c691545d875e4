/-!
# Reading UTF-8

Bytes are read one character at a time. What is no character is a fault of one to three bytes; a
character that the text ends in is incomplete.
-/

namespace Xsd.Text

/-- The first thing in a run of bytes: a character, bytes that start none, or the start of a
character that the bytes end in. -/
inductive Utf8Step where
  | done
  | char (c : Char) (size : Nat)
  | invalid (size : Nat)
  | incomplete

/-- A byte that continues a character. -/
def isContinuation (b : UInt8) : Bool := 0x80 ≤ b && b ≤ 0xBF

/-- The bits of a byte that continues a character. -/
def low (b : UInt8) : Nat := b.toNat % 64

/-- The second byte can follow the first one of a character of three bytes. -/
def fitsThree (a b : UInt8) : Bool :=
  if a == 0xE0 then 0xA0 ≤ b && b ≤ 0xBF
  else if a == 0xED then 0x80 ≤ b && b ≤ 0x9F
  else isContinuation b

/-- The second byte can follow the first one of a character of four bytes. -/
def fitsFour (a b : UInt8) : Bool :=
  if a == 0xF0 then 0x90 ≤ b && b ≤ 0xBF
  else if a == 0xF4 then 0x80 ≤ b && b ≤ 0x8F
  else isContinuation b

def utf8Step : List UInt8 → Utf8Step
  | [] => .done
  | a :: rest =>
    if a < 0x80 then .char (Char.ofNat a.toNat) 1
    else if 0xC2 ≤ a && a ≤ 0xDF then
      match rest with
      | [] => .incomplete
      | b :: _ =>
        if isContinuation b then .char (Char.ofNat ((a.toNat % 32) * 64 + low b)) 2 else .invalid 1
    else if 0xE0 ≤ a && a ≤ 0xEF then
      match rest with
      | [] => .incomplete
      | b :: rest =>
        if !fitsThree a b then .invalid 1
        else
          match rest with
          | [] => .incomplete
          | c :: _ =>
            if isContinuation c then
              .char (Char.ofNat ((a.toNat % 16) * 4096 + low b * 64 + low c)) 3
            else .invalid 2
    else if 0xF0 ≤ a && a ≤ 0xF4 then
      match rest with
      | [] => .incomplete
      | b :: rest =>
        if !fitsFour a b then .invalid 1
        else
          match rest with
          | [] => .incomplete
          | c :: rest =>
            if !isContinuation c then .invalid 2
            else
              match rest with
              | [] => .incomplete
              | d :: _ =>
                if isContinuation d then
                  .char (Char.ofNat
                    ((a.toNat % 8) * 262144 + low b * 4096 + low c * 64 + low d)) 4
                else .invalid 3
    else .invalid 1

/-- Bytes that are no text: where they start, and how many there are unless the text ends in
them. -/
structure Utf8Fault where
  index : Nat
  size : Option Nat
deriving DecidableEq, Repr

def Utf8Fault.message (f : Utf8Fault) : String :=
  match f.size with
  | some size => s!"invalid utf-8 sequence of {size} bytes from index {f.index}"
  | none => s!"incomplete utf-8 byte sequence from index {f.index}"

/-- Read bytes from the index on; `fuel` bounds the number of characters. -/
def utf8From (index : Nat) : (fuel : Nat) → List UInt8 → Except Utf8Fault (List Char)
  | 0, _ => .ok []
  | fuel + 1, bytes =>
    match utf8Step bytes with
    | .done => .ok []
    | .char c size => (utf8From (index + size) fuel (bytes.drop size)).map (c :: ·)
    | .invalid size => .error ⟨index, some size⟩
    | .incomplete => .error ⟨index, none⟩

/-- The text that the bytes stand for. -/
def ofUtf8 (bytes : List UInt8) : Except Utf8Fault String :=
  (utf8From 0 (bytes.length + 1) bytes).map String.ofList

/-- Read bytes, with a replacement character for each fault. -/
def utf8LossyFrom : (fuel : Nat) → List UInt8 → List Char
  | 0, _ => []
  | fuel + 1, bytes =>
    match utf8Step bytes with
    | .done => []
    | .char c size => c :: utf8LossyFrom fuel (bytes.drop size)
    | .invalid size => '\uFFFD' :: utf8LossyFrom fuel (bytes.drop size)
    | .incomplete => ['\uFFFD']

/-- The text that the bytes stand for, with a replacement character for each fault. -/
def ofUtf8Lossy (bytes : List UInt8) : String :=
  String.ofList (utf8LossyFrom (bytes.length + 1) bytes)

end Xsd.Text
