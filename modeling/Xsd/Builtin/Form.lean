import Xsd.Text.Cut
import Xsd.Unicode.DecimalDigit

/-!
# Forms of literals

The forms in which the primitive types write their values. A digit is a decimal digit of any
script; whether the digits have a value is another question.
-/

namespace Xsd.Form

def isDigit (c : Char) : Bool := Unicode.isDecimalDigit c

/-- A non-empty run of digits. -/
def digits (cs : List Char) : Bool := !cs.isEmpty && cs.all isDigit

/-- Leave out a sign at the start. -/
def dropSign : List Char → List Char
  | '+' :: rest => rest
  | '-' :: rest => rest
  | cs => cs

def integer (cs : List Char) : Bool := digits (dropSign cs)

/-- Digits with at most one point among them. -/
def unsigned (cs : List Char) : Bool :=
  match Text.cutList '.' cs with
  | none => digits cs
  | some (whole, fraction) =>
    if whole.isEmpty then digits fraction else digits whole && fraction.all isDigit

def decimal (cs : List Char) : Bool := unsigned (dropSign cs)

def isExponentMark (c : Char) : Bool := c == 'e' || c == 'E'

/-- A decimal number, with or without an exponent, or one of the special values. -/
def float (cs : List Char) : Bool :=
  cs == "INF".toList || cs == "-INF".toList || cs == "NaN".toList ||
    decimal (cs.takeWhile fun c => !isExponentMark c) &&
      match cs.dropWhile fun c => !isExponentMark c with
      | [] => true
      | _ :: exponent => integer exponent

/-! ## Durations -/

/-- Leave out a number at the start if the mark follows it. -/
def dropField (mark : Char) (cs : List Char) : List Char :=
  match cs.takeWhile isDigit, cs.dropWhile isDigit with
  | _ :: _, c :: rest => if c = mark then rest else cs
  | _, _ => cs

/-- Leave out seconds at the start; they may have a fraction. -/
def dropSeconds (cs : List Char) : List Char :=
  match cs.takeWhile isDigit, cs.dropWhile isDigit with
  | _ :: _, 'S' :: rest => rest
  | _ :: _, '.' :: rest =>
    match rest.takeWhile isDigit, rest.dropWhile isDigit with
    | _ :: _, 'S' :: rest => rest
    | _, _ => cs
  | _, _ => cs

/-- Years, months and days, and after a mark hours, minutes and seconds; any of them may be
missing, but something follows either mark. -/
def duration (cs : List Char) : Bool :=
  match (match cs with | '-' :: rest => rest | _ => cs) with
  | 'P' :: fields =>
    cs.getLast? != some 'P' && cs.getLast? != some 'T' &&
      match dropField 'D' (dropField 'M' (dropField 'Y' fields)) with
      | [] => true
      | 'T' :: fields => (dropSeconds (dropField 'M' (dropField 'H' fields))).isEmpty
      | _ => false
  | _ => false

/-! ## Points in time -/

/-- Take a given character off. -/
def mark (m : Char) : List Char → Option (List Char)
  | [] => none
  | c :: rest => if c = m then some rest else none

/-- Take two digits off. -/
def twoDigits : List Char → Option (List Char)
  | a :: b :: rest => if isDigit a && isDigit b then some rest else none
  | _ => none

/-- Take a year of four digits or more off. -/
def year (cs : List Char) : Option (List Char) :=
  let cs := match cs with
    | '-' :: rest => rest
    | _ => cs
  if 4 ≤ (cs.takeWhile isDigit).length then some (cs.dropWhile isDigit) else none

/-- Take hours, minutes and seconds off. -/
def clock (cs : List Char) : Option (List Char) := do
  let rest ← mark ':' (← twoDigits cs)
  let rest ← mark ':' (← twoDigits rest)
  match ← twoDigits rest with
  | '.' :: rest =>
    if (rest.takeWhile isDigit).isEmpty then none else some (rest.dropWhile isDigit)
  | rest => some rest

/-- What may follow a point in time: nothing or a time zone. -/
def zone : List Char → Bool
  | [] => true
  | ['Z'] => true
  | sign :: offset =>
    (sign == '+' || sign == '-') &&
      (((twoDigits offset).bind (mark ':')).bind twoDigits) == some []

/-- The text starts with what the reader takes off, and a time zone at most follows. -/
def zoned (reader : List Char → Option (List Char)) (cs : List Char) : Bool :=
  ((reader cs).map zone).getD false

/-- Take a hyphen and two digits off. -/
def hyphenTwo (cs : List Char) : Option (List Char) := (mark '-' cs).bind twoDigits

def calendarDay (cs : List Char) : Option (List Char) := do hyphenTwo (← hyphenTwo (← year cs))

def dateTime : List Char → Bool :=
  zoned fun cs => do clock (← mark 'T' (← calendarDay cs))

def date : List Char → Bool := zoned calendarDay

def time : List Char → Bool := zoned clock

def gYearMonth : List Char → Bool := zoned fun cs => do hyphenTwo (← year cs)

def gYear : List Char → Bool := zoned year

def gMonthDay : List Char → Bool := zoned fun cs => do hyphenTwo (← hyphenTwo (← mark '-' cs))

def gDay : List Char → Bool := zoned fun cs => do hyphenTwo (← mark '-' (← mark '-' cs))

def gMonth : List Char → Bool := zoned fun cs => do hyphenTwo (← mark '-' cs)

/-! ## Bytes and addresses -/

def isHexDigit (c : Char) : Bool :=
  ('0' ≤ c && c ≤ '9') || ('a' ≤ c && c ≤ 'f') || ('A' ≤ c && c ≤ 'F')

/-- Pairs of hexadecimal digits. -/
def hexBinary (cs : List Char) : Bool := cs.all isHexDigit && cs.length % 2 == 0

def isLetter (c : Char) : Bool := ('a' ≤ c && c ≤ 'z') || ('A' ≤ c && c ≤ 'Z')

def isSchemePart (c : Char) : Bool :=
  isLetter c || ('0' ≤ c && c ≤ '9') || c == '+' || c == '.' || c == '-'

/-- The text starts with a scheme and a colon. -/
def hasScheme : List Char → Bool
  | [] => false
  | c :: cs => isLetter c && (cs.dropWhile isSchemePart).head? == some ':'

end Xsd.Form
