import Xsd.Markup.Event
import Xsd.Text.Digits
import Xsd.Unicode.Ranges

/-!
# Scanning markup

Bytes are cut into events. Required are the nesting of tags, the ends of comments, sections and
instructions, and the form of attributes; names are taken as they stand. A tag that the document
ends in counts as complete.
-/

namespace Xsd.Markup.Scan

def isBlank (b : UInt8) : Bool := b == 0x20 || b == 0x0D || b == 0x0A || b == 0x09

/-- The bytes of an ASCII text. -/
def ascii (s : String) : List UInt8 := s.toUTF8.toList

/-! ## References -/

/-- The character of a reference by number. It has at most seven decimal or six hexadecimal
digits. -/
def numbered (cs : List Char) : Option Char :=
  let code : Option Nat :=
    match cs with
    | 'x' :: digits =>
      if 6 < digits.length then none
      else digits.foldl (fun n c => n.bind fun n => (Unicode.hexDigit? c).map (n * 16 + ·)) (some 0)
    | _ => if 7 < cs.length then none else Text.digitsFrom 0 cs
  code.bind fun n =>
    if n == 0 || (0xD800 ≤ n && n < 0xE000) || 0x110000 ≤ n then none else some (Char.ofNat n)

/-- The character that a reference stands for. -/
def reference : List Char → Option Char
  | '#' :: cs => numbered cs
  | cs =>
    match String.ofList cs with
    | "lt" => some '<'
    | "gt" => some '>'
    | "amp" => some '&'
    | "apos" => some '\x27'
    | "quot" => some '"'
    | _ => none

/-- Put characters in place of references; `pending` holds the reference in progress, last
character first. -/
def unescape (pending : Option (List Char)) : List Char → Option (List Char)
  | [] => if pending.isSome then none else some []
  | c :: cs =>
    match pending with
    | none => if c == '&' then unescape (some []) cs else (unescape none cs).map (c :: ·)
    | some name =>
      if c == ';' then
        (reference name.reverse).bind fun r => (unescape none cs).map (r :: ·)
      else if c == '&' then none
      else unescape (some (c :: name)) cs

/-- The text that bytes stand for, references being replaced. -/
def content (fault : Fault) (bytes : List UInt8) : Except Fault String :=
  match Text.ofUtf8 bytes with
  | .error _ => .error fault
  | .ok s =>
    match unescape none s.toList with
    | none => .error fault
    | some cs => .ok (String.ofList cs)

/-! ## Attributes -/

/-- The first attribute of the bytes: its name and value, and what follows. Nothing stands for a
fault. -/
def firstAttribute (bytes : List UInt8) : Option (List UInt8 × List UInt8 × List UInt8) := do
  match bytes with
  | [] => none
  | first :: more =>
    -- the first byte belongs to the name whatever it is
    let tail := more.takeWhile fun b => b != 0x3D && !isBlank b
    let rest := (more.drop tail.length).dropWhile isBlank
    match rest with
    | 0x3D :: rest =>
      match rest.dropWhile isBlank with
      | quote :: rest =>
        if quote == 0x22 || quote == 0x27 then
          let value := rest.takeWhile (· != quote)
          match rest.drop value.length with
          | _ :: rest => some (first :: tail, value, rest)
          | [] => none
        else none
      | [] => none
    | _ => none

/-- The attributes of a tag up to the first fault. No name may stand twice. -/
def attributes (seen : List (List UInt8)) :
    (fuel : Nat) → List UInt8 → List (Except Fault (String × String))
  | 0, _ => []
  | fuel + 1, bytes =>
    match bytes.dropWhile isBlank with
    | [] => []
    | bytes =>
      match firstAttribute bytes with
      | none => [.error .badAttribute]
      | some (key, value, rest) =>
        if seen.contains key then [.error .badAttribute]
        else
          let item : Except Fault (String × String) :=
            match Text.ofUtf8 key with
            | .error fault => .error (.attributeName fault)
            | .ok name => (content .badAttributeValue value).map fun v => (name, v)
          item :: attributes (key :: seen) fuel rest

/-- The tag between its angle brackets, and its name in bytes. -/
def rawTag (bytes : List UInt8) : List UInt8 × RawTag :=
  let name := bytes.takeWhile (!isBlank ·)
  let rest := bytes.drop name.length
  let text : Except Fault String :=
    match Text.ofUtf8 name with
    | .error fault => .error (.elementName fault)
    | .ok s => .ok s
  (name, ⟨text, attributes [] (rest.length + 1) rest⟩)

/-! ## Pieces -/

/-- Cut at the closing bracket of a tag; a bracket in quotes does not count. -/
def cutTag (quote : Option UInt8) : List UInt8 → List UInt8 × List UInt8
  | [] => ([], [])
  | b :: bs =>
    match quote with
    | some q =>
      let (tag, rest) := cutTag (if b == q then none else some q) bs
      (b :: tag, rest)
    | none =>
      if b == 0x3E then ([], bs)
      else
        let (tag, rest) := cutTag (if b == 0x22 || b == 0x27 then some b else none) bs
        (b :: tag, rest)

/-- Cut at the first closing bracket at which `isEnd` holds of the bytes before it, which it is
given last first. -/
def cutWhere (isEnd : List UInt8 → Bool) (before : List UInt8) :
    List UInt8 → Option (List UInt8 × List UInt8)
  | [] => none
  | b :: bs =>
    if b == 0x3E && isEnd before then some (before.reverse, bs)
    else cutWhere isEnd (b :: before) bs

/-- Opening and closing brackets are as many. -/
def balanced (bytes : List UInt8) : Bool :=
  bytes.count 0x3C == bytes.count 0x3E

/-- The bytes start with an ASCII text, in any case. -/
def startsWith (text : String) (bytes : List UInt8) : Bool :=
  let lower (b : UInt8) : UInt8 := if 0x41 ≤ b && b ≤ 0x5A then b + 32 else b
  let t := ascii text
  (bytes.take t.length).map lower == t.map lower

/-- A comment, a section of plain text or a declaration, read after the exclamation mark: the event,
the number of bytes it takes, and what follows. -/
def bang (bytes : List UInt8) : Option (Event × Nat × List UInt8) :=
  match bytes with
  | 0x2D :: _ => do
    let (text, rest) ← cutWhere
      (fun before => 3 < before.length && before.take 2 == [0x2D, 0x2D]) [] bytes
    if text.take 2 == [0x2D, 0x2D] then some (.other, text.length + 1, rest) else none
  | 0x5B :: _ => do
    let (text, rest) ← cutWhere (fun before => before.take 2 == [0x5D, 0x5D]) [] bytes
    if startsWith "[CDATA[" text then
      some (.cdata (Text.ofUtf8Lossy ((text.drop 7).take (text.length - 9))), text.length + 1,
        rest)
    else none
  | b :: _ =>
    if b == 0x44 || b == 0x64 then do
      let (text, rest) ← cutWhere balanced [] bytes
      if startsWith "DOCTYPE" text && !(text.drop 7).all isBlank then
        some (.other, text.length + 1, rest)
      else none
    else none
  | [] => none

/-- Leave out the blanks at the end, form feeds among them, unless there is nothing else. -/
def trimName (bytes : List UInt8) : List UInt8 :=
  let isSpace (b : UInt8) : Bool := isBlank b || b == 0x0C
  if bytes.all isSpace then bytes else (bytes.reverse.dropWhile isSpace).reverse

/-- The events of the bytes from a position on, `opened` being the names of the open tags. -/
def events (position : Nat) (opened : List (List UInt8)) : (fuel : Nat) → List UInt8 → List Event
  | 0, _ => []
  | fuel + 1, bytes =>
    let next (opened : List (List UInt8)) (size : Nat) (rest : List UInt8) : List Event :=
      events (position + size) opened fuel rest
    match bytes with
    | [] => []
    | 0x3C :: [] => []
    | 0x3C :: 0x21 :: rest =>
      match bang rest with
      | some (event, size, rest) => event :: next opened (size + 2) rest
      | none => [.broken (.malformed position)]
    | 0x3C :: 0x3F :: rest =>
      let text := rest.takeWhile (· != 0x3E)
      if 2 ≤ text.length && text.getLast? == some 0x3F then
        .other :: next opened (text.length + 3) (rest.drop (text.length + 1))
      else [.broken (.malformed position)]
    | 0x3C :: 0x2F :: rest =>
      let text := rest.takeWhile (· != 0x3E)
      match opened with
      | name :: opened =>
        if trimName text == name then
          .finish :: next opened (text.length + 3) (rest.drop (text.length + 1))
        else [.broken (.malformed position)]
      | [] => [.broken (.malformed position)]
    | 0x3C :: rest =>
      let (text, rest) := cutTag none rest
      let size := text.length + 2
      if text.getLast? == some 0x2F then
        .empty position (rawTag text.dropLast).2 :: next opened size rest
      else
        let (name, tag) := rawTag text
        .start position tag :: next (name :: opened) size rest
    | _ =>
      let text := bytes.takeWhile (· != 0x3C)
      .text (content .badText text) :: next opened text.length (bytes.drop text.length)

/-- The events of a document. A mark of the byte order at its start does not count. -/
def document (bytes : List UInt8) : List Event :=
  let bytes := match bytes with
    | 0xEF :: 0xBB :: 0xBF :: rest => rest
    | _ => bytes
  events 0 [] (bytes.length + 1) bytes

end Xsd.Markup.Scan
