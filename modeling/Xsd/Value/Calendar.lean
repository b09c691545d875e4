import Xsd.Text.Blank
import Xsd.Text.Digits

/-!
# Dates and times of day

Dates of the Gregorian calendar, extended to all years, and times of day with nanoseconds. A second
numbered 60 is kept as a leap second: the nanoseconds of the second before then count beyond a
thousand million.

The readers take what the fields allow: blanks before a field, fields of fewer digits than usual,
more than four digits of a year if it has a sign, and fraction digits beyond the ninth, which they
leave out.
-/

namespace Xsd

/-- A day of the calendar. -/
structure Date where
  year : Int
  month : Nat
  day : Nat
deriving DecidableEq, Ord, Repr, Inhabited

/-- A time of day. -/
structure TimeOfDay where
  /-- The seconds since midnight, below 86400. -/
  second : Nat
  /-- The nanoseconds since that second, a thousand million or more within a leap second. -/
  nano : Nat
deriving DecidableEq, Ord, Repr, Inhabited

/-- A time on a day. -/
structure DateTime where
  date : Date
  time : TimeOfDay
deriving DecidableEq, Ord, Repr, Inhabited

namespace Calendar

/-- The digits at the start, at most `width` of them, and what follows. -/
def spanDigits (width : Nat) (cs : List Char) : List Char × List Char :=
  let n := ((cs.take width).takeWhile Text.isDigit).length
  (cs.take n, cs.drop n)

/-- A number of one to `width` digits that is below a limit. -/
def number (width limit : Nat) (cs : List Char) : Option (Nat × List Char) :=
  let (digits, rest) := spanDigits width cs
  (Text.digits? digits).bind fun n => if n < limit then some (n, rest) else none

/-- A field of the format: blanks, then a number of up to two digits between two limits. -/
def field (least greatest : Nat) (cs : List Char) : Option (Nat × List Char) :=
  (number 2 (greatest + 1) (Text.trimStart cs)).bind fun p => if least ≤ p.1 then some p else none

/-- A year: up to four digits, or a sign and any number of them. -/
def year (cs : List Char) : Option (Int × List Char) :=
  match Text.trimStart cs with
  | '-' :: rest => (number rest.length ((1 <<< 31) + 1) rest).map fun p => (-(p.1 : Int), p.2)
  | '+' :: rest => (number rest.length (1 <<< 31) rest).map fun p => ((p.1 : Int), p.2)
  | rest => (number 4 (1 <<< 31) rest).map fun p => ((p.1 : Int), p.2)

/-- A character that has to stand here. -/
def mark (c : Char) : List Char → Option (List Char)
  | d :: rest => if d = c then some rest else none
  | [] => none

def isLeapYear (y : Int) : Bool :=
  y % 4 == 0 && (y % 100 != 0 || y % 400 == 0)

def daysInMonth (y : Int) (m : Nat) : Nat :=
  if m = 2 then if isLeapYear y then 29 else 28
  else if m = 4 || m = 6 || m = 9 || m = 11 then 30 else 31

/-- The first and the last year that a date can have. -/
def yearRange : Int × Int := (-262143, 262142)

/-- A date can have the year. -/
def hasYear (y : Int) : Bool := yearRange.1 ≤ y && y ≤ yearRange.2

def readDate (cs : List Char) : Option (Date × List Char) := do
  let (y, cs) ← year cs
  let cs ← mark '-' cs
  let (m, cs) ← field 1 12 cs
  let cs ← mark '-' cs
  let (d, cs) ← field 1 31 cs
  if hasYear y && d ≤ daysInMonth y m then some (⟨y, m, d⟩, cs) else none

/-- A point and the digits after it, as nanoseconds; or nothing. -/
def readFraction (cs : List Char) : Option (Nat × List Char) :=
  match cs with
  | '.' :: rest =>
    let (digits, tail) := spanDigits 9 rest
    (Text.digits? digits).map fun n =>
      (n * Nat.pow 10 (9 - digits.length), tail.dropWhile Text.isDigit)
  | _ => some (0, cs)

def readTime (cs : List Char) : Option (TimeOfDay × List Char) := do
  let (h, cs) ← field 0 23 cs
  let cs ← mark ':' cs
  let (m, cs) ← field 0 59 cs
  let cs ← mark ':' cs
  let (s, cs) ← field 0 60 cs
  let (n, cs) ← readFraction cs
  if s = 60 then some (⟨h * 3600 + m * 60 + 59, n + 1000000000⟩, cs)
  else some (⟨h * 3600 + m * 60 + s, n⟩, cs)

/-- The value of a reading that has left nothing over. -/
def whole {α : Type} : Option (α × List Char) → Option α
  | some (a, []) => some a
  | _ => none

def parseDate (cs : List Char) : Option Date := whole (readDate cs)

def parseTime (cs : List Char) : Option TimeOfDay := whole (readTime cs)

def parseDateTime (cs : List Char) : Option DateTime := do
  let (date, cs) ← readDate cs
  let cs ← mark 'T' cs
  let time ← parseTime cs
  some ⟨date, time⟩

def nextDay (d : Date) : Date :=
  if d.day < daysInMonth d.year d.month then { d with day := d.day + 1 }
  else if d.month < 12 then { d with month := d.month + 1, day := 1 }
  else ⟨d.year + 1, 1, 1⟩

def previousDay (d : Date) : Date :=
  if 1 < d.day then { d with day := d.day - 1 }
  else if 1 < d.month then
    { d with month := d.month - 1, day := daysInMonth d.year (d.month - 1) }
  else ⟨d.year - 1, 12, 31⟩

/-- The date some days later, or earlier. -/
def addDays (d : Date) (n : Int) : Date :=
  if 0 ≤ n then Nat.repeat nextDay n.toNat d else Nat.repeat previousDay (-n).toNat d

/-- The time some minutes later, or earlier, if it is in a year that a date can have. It then lies in
no leap second: on the way forward the leap second counts as the one before it, on the way back as
the one after it. -/
def addMinutes (t : DateTime) (minutes : Int) : Option DateTime :=
  if minutes = 0 then some t
  else
    let leap := 1000000000 ≤ t.time.nano
    let nano := if leap then t.time.nano - 1000000000 else t.time.nano
    let second : Int := t.time.second + if leap && minutes < 0 then 1 else 0
    let second := second + minutes * 60
    let date := addDays t.date (second.fdiv 86400)
    if hasYear date.year then some ⟨date, ⟨(second.fmod 86400).toNat, nano⟩⟩ else none

/-- A year has four digits; outside of those it has a sign and at least four. -/
def renderYear (y : Int) : String :=
  if 0 ≤ y && y ≤ 9999 then Text.padded 4 y.toNat
  else (if y < 0 then "-" else "+") ++ Text.padded 4 y.natAbs

def renderDate (d : Date) : String :=
  s!"{renderYear d.year}-{Text.padded 2 d.month}-{Text.padded 2 d.day}"

/-- A fraction has no digits if it is zero, and otherwise the least of three, six and nine that show
it all. -/
def renderFraction (nano : Nat) : String :=
  if nano = 0 then ""
  else if nano % 1000000 = 0 then "." ++ Text.padded 3 (nano / 1000000)
  else if nano % 1000 = 0 then "." ++ Text.padded 6 (nano / 1000)
  else "." ++ Text.padded 9 nano

def renderTime (t : TimeOfDay) : String :=
  let leap := 1000000000 ≤ t.nano
  let second := t.second % 60 + if leap then 1 else 0
  let nano := if leap then t.nano - 1000000000 else t.nano
  Text.padded 2 (t.second / 3600) ++ ":" ++ Text.padded 2 (t.second / 60 % 60) ++ ":" ++
    Text.padded 2 second ++ renderFraction nano

def renderDateTime (t : DateTime) : String :=
  renderDate t.date ++ "T" ++ renderTime t.time

/-- Split the time zone off the end of a literal, and give its offset in minutes. A zone has two
characters on each side of its colon, or one that takes two bytes; what is no number counts as
zero. -/
def splitZone (cs : List Char) : List Char × Option Int :=
  match cs.reverse with
  | 'Z' :: rest => (rest.reverse, some 0)
  | rev =>
    match twoBytes rev with
    | some (minutes, ':' :: rest) =>
      match twoBytes rest with
      | some (hours, sign :: start) =>
        if (sign == '+' || sign == '-') && !start.isEmpty then
          let offset := (Text.int64? hours).getD 0 * 60 + (Text.int64? minutes).getD 0
          (start.reverse, some (if sign == '-' then -offset else offset))
        else (cs, none)
      | _ => (cs, none)
    | _ => (cs, none)
where
  /-- The last two bytes of a text that is given backwards, if they are whole characters. -/
  twoBytes : List Char → Option (List Char × List Char)
    | a :: rest =>
      if a.utf8Size = 2 then some ([a], rest)
      else
        match rest with
        | b :: rest => if a.utf8Size = 1 && b.utf8Size = 1 then some ([b, a], rest) else none
        | [] => none
    | [] => none

end Calendar

end Xsd
