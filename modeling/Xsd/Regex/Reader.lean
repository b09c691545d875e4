import Xsd.Regex.Basic
import Xsd.Text.Digits
import Xsd.Unicode.Additions

/-!
# Reading regular expressions

The syntax has groups, alternatives, counted and uncounted repetition, classes of characters with
nested classes and set operations, classes by property, assertions about the position, and flags.
There are no references back to a group and no looking ahead or behind.

A reader takes the characters that are left and gives what it has read with the rest. With a part of
an expression goes its depth: how many groups, classes, repetitions, alternatives and sequences are
nested in it.
-/

namespace Xsd.Regex

/-- What the flags in force change about the reading. -/
structure Flags where
  ignoreCase : Bool
  multiLine : Bool
  dotAll : Bool
  /-- Repetitions try few times first, unless a question mark follows. -/
  swapGreed : Bool
  /-- Classes and boundaries go by Unicode, not by ASCII alone. -/
  unicode : Bool
  /-- Carriage returns end lines as well. -/
  carriageReturn : Bool
  /-- Blanks do not count, and a number sign starts a comment. -/
  verbose : Bool
deriving Repr, Inhabited

namespace Flags

def initial : Flags := ⟨false, false, false, false, true, false, false⟩

end Flags

namespace Reader

/-- A part of an expression may be nested as deep as this. -/
def depthLimit : Nat := 250

/-- Leave out blanks and comments, if the flags say so. -/
def skipBlanks (f : Flags) (cs : List Char) : List Char :=
  if f.verbose then skip false cs else cs
where
  skip (comment : Bool) : List Char → List Char
    | [] => []
    | c :: cs =>
      if comment then skip (c != '\n') cs
      else if c == '#' then skip true cs
      else if Text.isBlank c then skip false cs
      else c :: cs

/-- The characters up to the first that is not wanted, and the rest. Blanks and comments are left
out, if the flags say so. -/
def spanSkipping (f : Flags) (wanted : Char → Bool) (cs : List Char) : List Char × List Char :=
  span false cs
where
  span (comment : Bool) : List Char → List Char × List Char
    | [] => ([], [])
    | c :: cs =>
      if comment then span (c != '\n') cs
      else if f.verbose && c == '#' then span true cs
      else if f.verbose && Text.isBlank c then span false cs
      else if wanted c then
        let (taken, rest) := span false cs
        (c :: taken, rest)
      else ([], c :: cs)

/-- A character with a meaning of its own, which a backslash takes away. -/
def isMeta (c : Char) : Bool :=
  "\\.+*?()|[]\x7b\x7d^$#&-~".toList.contains c

/-- A character that a backslash may stand before without a meaning. -/
def isEscapable (c : Char) : Bool :=
  isMeta c || (c.toNat < 128 && !c.isAlphanum && c != '<' && c != '>')

/-- What an escape stands for. -/
inductive Escape where
  | literal (c : Char)
  | set (s : CharSet)
  | look (l : Look)
deriving Repr, Inhabited

def isHexDigit (c : Char) : Bool := (Unicode.hexDigit? c).isSome

/-- The character of a code point written in hexadecimal digits. -/
def codePoint (digits : List Char) : Option Char :=
  let n := Unicode.hexValue digits
  if n < 0xD800 || (0xE000 ≤ n && n < 0x110000) then some (Char.ofNat n) else none

/-- Exactly so many hexadecimal digits. -/
def readDigits (f : Flags) : Nat → List Char → Option (List Char × List Char)
  | 0, cs => some ([], cs)
  | n + 1, c :: cs =>
    if isHexDigit c then
      (readDigits f n (skipBlanks f cs)).map fun p => (c :: p.1, p.2)
    else none
  | _, [] => none

/-- A character by its code point: so many digits, or any number of them in braces. Two digits stand
for a byte unless Unicode is in force, and a byte that is not ASCII is no character. -/
def readHex (f : Flags) (width : Nat) (cs : List Char) : Option (Char × List Char) := do
  match skipBlanks f cs with
  | '\x7b' :: rest =>
    let (digits, rest) := spanSkipping f isHexDigit rest
    match rest with
    | '\x7d' :: rest =>
      if digits.isEmpty then none else some (← codePoint digits, skipBlanks f rest)
    | _ => none
  | cs =>
    let (digits, rest) ← readDigits f width cs
    let c ← codePoint digits
    if width = 2 && !f.unicode && 0x80 ≤ c.toNat then none else some (c, skipBlanks f rest)

/-- The set as a class of its own, in any case if the flags say so. -/
def foldCase (f : Flags) (s : CharSet) : CharSet :=
  if !f.ignoreCase then s else if f.unicode then .anyCase s else .anyAsciiCase s

/-- The set complemented if `negated`. Without Unicode the complement would hold bytes that are no
characters. -/
def negate (f : Flags) (negated : Bool) (s : CharSet) : Option CharSet :=
  if !negated then some s else if f.unicode then some (.complement s) else none

/-- A property in braces, or one of a single letter. -/
def readProperty (f : Flags) (negated : Bool) (cs : List Char) : Option (Escape × List Char) := do
  if !f.unicode then none
  match skipBlanks f cs with
  | '\x7b' :: rest =>
    match spanSkipping f (· != '\x7d') rest with
    | (name, _ :: rest) =>
      let (s, unequal) ← CharSet.braced? name
      some (.set (.negateIf (negated != unequal) (foldCase f s)), rest)
    | (_, []) => none
  | c :: rest =>
    if c == '\\' then none
    else
      let s ← CharSet.property? (CharSet.propertyName [c])
      some (.set (.negateIf negated (foldCase f s)), skipBlanks f rest)
  | [] => none

/-- A class of digits, blanks or word characters. -/
def classEscape (f : Flags) (negated : Bool) (unicode ascii : CharSet) : Option Escape :=
  (negate f negated (if f.unicode then unicode else ascii)).map .set

def words (f : Flags) : Words := if f.unicode then .unicode else .ascii

/-- A word boundary of a special kind, if a name in braces follows; braces that hold anything else
are a repetition. -/
def readBoundary (f : Flags) (cs : List Char) : Option (Look × List Char) :=
  let isPart (c : Char) : Bool := c.isAlpha || c == '-'
  match cs with
  | '\x7b' :: rest =>
    match skipBlanks f rest with
    | [] => none
    | c :: more =>
      if isPart c then
        match spanSkipping f isPart (c :: more) with
        | (name, '\x7d' :: rest) =>
          match String.ofList name with
          | "start" => some (.wordStart (words f), rest)
          | "end" => some (.wordFinish (words f), rest)
          | "start-half" => some (.wordStartHalf (words f), rest)
          | "end-half" => some (.wordFinishHalf (words f), rest)
          | _ => none
        | _ => none
      else some (.wordBoundary (words f), cs)
  | _ => some (.wordBoundary (words f), cs)

/-- What a backslash starts, read after it. -/
def readEscape (f : Flags) : List Char → Option (Escape × List Char)
  | [] => none
  | c :: cs =>
    let hex (width : Nat) : Option (Escape × List Char) :=
      (readHex f width cs).map fun p => (.literal p.1, p.2)
    let set (e : Option Escape) : Option (Escape × List Char) := e.map fun e => (e, cs)
    match c with
    | 'x' => hex 2
    | 'u' => hex 4
    | 'U' => hex 8
    | 'p' => readProperty f false cs
    | 'P' => readProperty f true cs
    | 'd' => set (classEscape f false .decimalDigit .asciiDigit)
    | 'D' => set (classEscape f true .decimalDigit .asciiDigit)
    | 's' => set (classEscape f false .blank .asciiBlank)
    | 'S' => set (classEscape f true .blank .asciiBlank)
    | 'w' => set (classEscape f false .word .asciiWord)
    | 'W' => set (classEscape f true .word .asciiWord)
    | 'a' => some (.literal '\x07', cs)
    | 'f' => some (.literal '\x0c', cs)
    | 't' => some (.literal '\t', cs)
    | 'n' => some (.literal '\n', cs)
    | 'r' => some (.literal '\r', cs)
    | 'v' => some (.literal '\x0b', cs)
    | 'A' => some (.look .start, cs)
    | 'z' => some (.look .finish, cs)
    | 'b' => (readBoundary f cs).map fun p => (.look p.1, p.2)
    | 'B' => some (.look (.noWordBoundary (words f)), cs)
    | '<' => some (.look (.wordStart (words f)), cs)
    | '>' => some (.look (.wordFinish (words f)), cs)
    | _ => if isEscapable c then some (.literal c, cs) else none

/-- A set in a class, with its depth. -/
structure Part where
  set : CharSet
  depth : Nat
deriving Repr, Inhabited

/-- The class between colons in double brackets, read after the first bracket: its set and whether
it is negated. -/
def readAsciiClass (cs : List Char) : Option ((CharSet × Bool) × List Char) :=
  match cs with
  | ':' :: rest =>
    let (negated, rest) := match rest with
      | '^' :: more => (true, more)
      | _ => (false, rest)
    match Text.cutList ':' rest with
    | some (name, ']' :: rest) =>
      (CharSet.ascii? (String.ofList name)).map fun s => ((s, negated), rest)
    | _ => none
  | _ => none

/-- One end of a range, or an item of a class that is a set. -/
def readItem (f : Flags) : List Char → Option (Escape × List Char)
  | '\\' :: cs => readEscape f cs
  | c :: cs => some (.literal c, cs)
  | [] => none

/-- The character that decides whether a hyphen in a class stands for itself, looked for after the
hyphen. Where blanks do not count, one number sign among them does not count either. -/
def afterHyphen (f : Flags) (cs : List Char) : Option Char :=
  if !f.verbose then cs.head?
  else
    match Text.trimStart cs with
    | '#' :: rest => (Text.trimStart rest).head? <|> cs.head?
    | c :: _ => some c
    | [] => cs.head?

/-- A character in a class. Without Unicode it has to be ASCII. -/
def classLiteral (f : Flags) (c : Char) : Option Char :=
  if f.unicode || c.toNat < 0x80 then some c else none

/-- A character, a range or a set inside a class. -/
def readRange (f : Flags) (cs : List Char) : Option (CharSet × List Char) := do
  let (first, rest) ← readItem f cs
  let rest := skipBlanks f rest
  if rest.isEmpty then none
  let alone : Option (CharSet × List Char) :=
    match first with
    | .literal c => (classLiteral f c).map fun c => (.single c, rest)
    | .set s => some (s, rest)
    | .look _ => none
  match rest with
  | '-' :: more =>
    if afterHyphen f more == some ']' || afterHyphen f more == some '-' then alone
    else
      let (second, rest) ← readItem f (skipBlanks f more)
      match first, second with
      | .literal low, .literal high =>
        let low ← classLiteral f low
        let high ← classLiteral f high
        if low ≤ high then some (.range low high, rest) else none
      | _, _ => none
  | _ => alone

/-- An operation on two sets, waiting for the second. -/
inductive SetOp where
  | intersection
  | difference
  | symmetricDifference
deriving Repr, Inhabited

def SetOp.apply : SetOp → CharSet → CharSet → CharSet
  | .intersection => .intersection
  | .difference => .difference
  | .symmetricDifference => .symmetricDifference

/-- The greatest of the depths, one more where there are several parts. -/
def jointDepth (depths : List Nat) : Nat :=
  depths.foldl max 0 + if 1 < depths.length then 1 else 0

/-- The items since the last operation joined, and combined with what is before it; in any case
each, if the flags say so. The items are given the latest first. -/
def combine (f : Flags) (pending : Option (SetOp × Part)) (items : List Part) : Part :=
  let right : Part := ⟨.unions (items.reverse.map (·.set)), jointDepth (items.map (·.depth))⟩
  match pending with
  | none => right
  | some (op, left) =>
    ⟨op.apply (foldCase f left.set) (foldCase f right.set), max left.depth right.depth + 1⟩

/-- The start of a class, read after its bracket: whether it is negated, and the hyphens or the
bracket that stand for themselves there. -/
def readClassOpen (f : Flags) (cs : List Char) : Option (Bool × List CharSet × List Char) := do
  let cs := skipBlanks f cs
  let (negated, cs) := match cs with
    | '^' :: rest => (true, skipBlanks f rest)
    | _ => (false, cs)
  let (hyphens, rest) := spanSkipping f (· == '-') cs
  match hyphens, rest with
  | _, [] => none
  | [], ']' :: rest =>
    let rest := skipBlanks f rest
    if rest.isEmpty then none else some (negated, [.single ']'], rest)
  | _, _ => some (negated, hyphens.map .single, rest)

/-- The rest of a class: `items` have been read since the last operation, the latest first. No more
than `nesting` classes may be opened within one another. -/
def readClass (f : Flags) : (fuel nesting : Nat) → (negated : Bool) →
    (pending : Option (SetOp × Part)) → (items : List Part) → List Char → Option (Part × List Char)
  | 0, _, _, _, _, _ => none
  | fuel + 1, nesting, negated, pending, items, cs =>
    let operation (op : SetOp) (rest : List Char) : Option (Part × List Char) :=
      readClass f fuel nesting negated (some (op, combine f pending items)) [] rest
    match skipBlanks f cs with
    | [] => none
    | ']' :: rest =>
      let all := combine f pending items
      (negate f negated (foldCase f all.set)).map fun s => (⟨s, all.depth + 1⟩, rest)
    | '[' :: rest =>
      match readAsciiClass rest with
      | some ((s, inverse), rest) =>
        (negate f inverse (foldCase f s)).bind fun s =>
          readClass f fuel nesting negated pending (⟨s, 0⟩ :: items) rest
      | none =>
        match nesting with
        | 0 => none
        | nesting + 1 =>
          (readClassOpen f rest).bind fun (inner, start, rest) =>
            let start := start.reverse.map fun s => (⟨s, 0⟩ : Part)
            (readClass f fuel nesting inner none start rest).bind fun (part, rest) =>
              readClass f fuel (nesting + 1) negated pending (part :: items) rest
    | '&' :: '&' :: rest => operation .intersection rest
    | '-' :: '-' :: rest => operation .difference rest
    | '~' :: '~' :: rest => operation .symmetricDifference rest
    | cs =>
      (readRange f cs).bind fun (s, rest) =>
        readClass f fuel nesting negated pending (⟨s, 0⟩ :: items) rest

/-- A number that counts repetitions; blanks around it do not count. -/
def readCount (f : Flags) (cs : List Char) : Option (Nat × List Char) :=
  let (digits, rest) := spanSkipping f Text.isDigit (Text.trimStart cs)
  (Text.digits? digits).bind fun n =>
    if n < 1 <<< 32 then some (n, Text.trimStart rest) else none

/-- The bounds of a repetition, read after the opening brace. -/
def readBounds (f : Flags) (cs : List Char) : Option ((Nat × Option Nat) × List Char) := do
  let (min, rest) ← readCount f (skipBlanks f cs)
  match rest with
  | '\x7d' :: rest => some ((min, some min), rest)
  | ',' :: rest =>
    match skipBlanks f rest with
    | '\x7d' :: rest => some ((min, none), rest)
    | rest =>
      let (max, rest) ← readCount f rest
      match rest with
      | '\x7d' :: rest => if min ≤ max then some ((min, some max), rest) else none
      | _ => none
  | _ => none

/-- A part of an expression, with its depth. -/
structure Piece where
  regex : Regex
  depth : Nat
deriving Repr, Inhabited

/-- Repeat the latest item, and leave out the question mark that may follow. There has to be an
item, and it must not be a change of flags. -/
def repeatLast (f : Flags) (min : Nat) (max : Option Nat) (rest : List Char) :
    List (Option Piece) → Option (List (Option Piece) × List Char)
  | some p :: items =>
    let (isLazy, rest) := match rest with
      | '?' :: rest => (true, rest)
      | _ => (false, rest)
    some (some ⟨.rep p.regex min max (isLazy == f.swapGreed), p.depth + 1⟩ :: items, rest)
  | _ => none

/-- Set or clear one flag. -/
def setFlag (f : Flags) (value : Bool) : Char → Option Flags
  | 'i' => some { f with ignoreCase := value }
  | 'm' => some { f with multiLine := value }
  | 's' => some { f with dotAll := value }
  | 'U' => some { f with swapGreed := value }
  | 'u' => some { f with unicode := value }
  | 'R' => some { f with carriageReturn := value }
  | 'x' => some { f with verbose := value }
  | _ => none

/-- The flags up to a colon or a closing parenthesis. Each may stand once, and the sign that clears
flags needs one after it. The first result says whether there were any. -/
def readFlags (f : Flags) (seen : List Char) (last : Option Char) :
    List Char → Option (Bool × Flags × List Char)
  | [] => none
  | c :: cs =>
    if c == ':' || c == ')' then
      if last == some '-' then none else some (last.isSome, f, c :: cs)
    else if seen.contains c then none
    else if c == '-' then readFlags f ('-' :: seen) (some '-') cs
    else (setFlag f (!seen.contains '-') c).bind fun f => readFlags f (c :: seen) (some c) cs

/-- A character of the name of a group. -/
def isNamePart (first : Bool) (c : Char) : Bool :=
  c == '_' || Unicode.isAlphabetic c ||
    (!first && (Unicode.isNumeric c || c == '.' || c == '[' || c == ']'))

/-- The name of a group up to the closing angle bracket. -/
def readName (cs : List Char) : Option (List Char × List Char) :=
  match Text.cutList '>' cs with
  | some (c :: name, rest) =>
    if isNamePart true c && name.all (isNamePart false) then some (c :: name, rest) else none
  | _ => none

/-- What an opening parenthesis starts. -/
inductive Opening where
  | flags (f : Flags)
  | group (f : Flags)
  | numbered (name : Option (List Char))
deriving Repr, Inhabited

def readOpening (f : Flags) (cs : List Char) : Option (Opening × List Char) :=
  let named (rest : List Char) : Option (Opening × List Char) :=
    (readName rest).map fun p => (.numbered (some p.1), p.2)
  match skipBlanks f cs with
  | '?' :: '=' :: _ => none
  | '?' :: '!' :: _ => none
  | '?' :: '<' :: '=' :: _ => none
  | '?' :: '<' :: '!' :: _ => none
  | '?' :: 'P' :: '<' :: rest => named rest
  | '?' :: '<' :: rest => named rest
  | '?' :: rest =>
    match readFlags f [] none rest with
    | some (true, f, ')' :: rest) => some (.flags f, rest)
    | some (_, f, ':' :: rest) => some (.group f, rest)
    | _ => none
  | rest => some (.numbered none, rest)

/-- The groups that have been numbered so far, and the names that are taken. -/
structure Groups where
  count : Nat
  names : List (List Char)
deriving Repr, Inhabited

/-- Number a group. A name can be given once. -/
def Groups.add? (g : Groups) : Option (List Char) → Option Groups
  | none => some { g with count := g.count + 1 }
  | some name =>
    if g.names.contains name then none else some ⟨g.count + 1, name :: g.names⟩

/-- The items one after the other; they are given the latest first. -/
def sequence (items : List (Option Piece)) : Piece :=
  let regex := match items.filterMap fun item => item.map (·.regex) with
    | [] => .empty
    | last :: before => before.foldl (fun r item => .seq item r) last
  ⟨regex, jointDepth (items.map fun item => (item.map (·.depth)).getD 0)⟩

/-- The alternatives; they are given the latest first. -/
def alternatives (last : Piece) (before : List Piece) : Piece :=
  ⟨before.foldl (fun r item => .alt item.regex r) last.regex,
    jointDepth ((last :: before).map (·.depth))⟩

def escapeRegex (f : Flags) : Escape → Regex
  | .literal c => .set (foldCase f (.single c))
  | .set s => .set s
  | .look l => .look l

/-- Any character, as far as the flags let it be one that ends a line. Without Unicode it would
match bytes that are no characters. -/
def dot (f : Flags) : Option Regex :=
  if !f.unicode then none
  else if f.dotAll then some (.set .all)
  else if f.carriageReturn then
    some (.set (.complement (.union (.single '\n') (.single '\r'))))
  else some (.set (.complement (.single '\n')))

def lineStart (f : Flags) : Look :=
  if !f.multiLine then .start else if f.carriageReturn then .lineStartCR else .lineStart

def lineFinish (f : Flags) : Look :=
  if !f.multiLine then .finish else if f.carriageReturn then .lineFinishCR else .lineFinish

/-- Read alternatives up to a closing parenthesis or the end. `items` are those of the alternative
in progress, the latest first, a change of flags being none. No more than `nesting` groups may be
opened within one another. -/
def readAlternatives : (fuel nesting : Nat) → Flags → Groups → (before : List Piece) →
    (items : List (Option Piece)) → List Char → Option (Piece × Groups × List Char)
  | 0, _, _, _, _, _, _ => none
  | fuel + 1, nesting, f, g, before, items, cs =>
    let next (r : Regex) (rest : List Char) : Option (Piece × Groups × List Char) :=
      readAlternatives fuel nesting f g before (some ⟨r, 0⟩ :: items) rest
    let again (min : Nat) (max : Option Nat) (rest : List Char) :
        Option (Piece × Groups × List Char) :=
      (repeatLast f min max rest items).bind fun (items, rest) =>
        readAlternatives fuel nesting f g before items rest
    match skipBlanks f cs with
    | [] => some (alternatives (sequence items) before, g, [])
    | ')' :: rest => some (alternatives (sequence items) before, g, ')' :: rest)
    | '|' :: rest => readAlternatives fuel nesting f g (sequence items :: before) [] rest
    | '(' :: rest =>
      match readOpening f rest, nesting with
      | none, _ => none
      | some (.flags f, rest), _ => readAlternatives fuel nesting f g before (none :: items) rest
      | _, 0 => none
      | some (.group inner, rest), nesting + 1 =>
        match readAlternatives fuel nesting inner g [] [] rest with
        | some (p, g, ')' :: rest) =>
          let p : Piece := ⟨.group p.regex none, p.depth + 1⟩
          readAlternatives fuel (nesting + 1) f g before (some p :: items) rest
        | _ => none
      | some (.numbered name, rest), nesting + 1 =>
        match g.add? name with
        | none => none
        | some inner =>
          match readAlternatives fuel nesting f inner [] [] rest with
          | some (p, last, ')' :: rest) =>
            let p : Piece := ⟨.group p.regex (some inner.count), p.depth + 1⟩
            readAlternatives fuel (nesting + 1) f last before (some p :: items) rest
          | _ => none
    | '[' :: rest =>
      (readClassOpen f rest).bind fun (negated, start, rest) =>
        let start := start.reverse.map fun s => (⟨s, 0⟩ : Part)
        (readClass f fuel nesting negated none start rest).bind fun (part, rest) =>
          readAlternatives fuel nesting f g before (some ⟨.set part.set, part.depth⟩ :: items) rest
    | '?' :: rest => again 0 (some 1) rest
    | '*' :: rest => again 0 none rest
    | '+' :: rest => again 1 none rest
    | '\x7b' :: rest =>
      (readBounds f rest).bind fun ((min, max), rest) => again min max (skipBlanks f rest)
    | '\\' :: rest => (readEscape f rest).bind fun (e, rest) => next (escapeRegex f e) rest
    | '.' :: rest => (dot f).bind fun r => next r rest
    | '^' :: rest => next (.look (lineStart f)) rest
    | '$' :: rest => next (.look (lineFinish f)) rest
    | c :: rest => next (.set (foldCase f (.single c))) rest

end Reader

/-- Read an expression. -/
def parse? (cs : List Char) : Option Regex :=
  match Reader.readAlternatives (cs.length + 1) Reader.depthLimit .initial ⟨0, []⟩ [] [] cs with
  | some (p, _, []) => if p.depth ≤ Reader.depthLimit then some p.regex else none
  | _ => none

end Xsd.Regex
