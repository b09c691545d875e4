import Xsd.Value.Binary
import Xsd.Value.Calendar
import Xsd.Value.Decimal

/-!
# Value spaces

The values that literals stand for, as far as their order matters.
-/

namespace Xsd

/-- A value of an ordered space. -/
inductive OrderedValue where
  | decimal (d : Decimal)
  | float (b : Binary)
  | dateTime (t : DateTime)
  | date (d : Date)
  | time (t : TimeOfDay)
deriving DecidableEq, Repr, Inhabited

namespace OrderedValue

/-- The order within a space. Values of two spaces do not compare. -/
def compare : OrderedValue → OrderedValue → Option Ordering
  | .decimal a, .decimal b => some (a.compare b)
  | .float a, .float b => a.compare b
  | .dateTime a, .dateTime b => some (Ord.compare a b)
  | .date a, .date b => some (Ord.compare a b)
  | .time a, .time b => some (Ord.compare a b)
  | _, _ => none

/-- The values are equal in the order of their space. -/
def isEqual (a b : OrderedValue) : Bool := a.compare b == some .eq

def render : OrderedValue → String
  | .decimal d => d.render
  | .float b => b.render
  | .dateTime t => Calendar.renderDateTime t
  | .date d => Calendar.renderDate d
  | .time t => Calendar.renderTime t

end OrderedValue

inductive ValueSpace where
  | decimal
  | float
  | dateTime
  | date
  | time
  | unordered
deriving DecidableEq, Repr, Inhabited

namespace ValueSpace

def isOrdered (s : ValueSpace) : Bool := s != .unordered

/-- The value of a literal, blanks around it apart. A time zone counts for points in time only. -/
def parse (space : ValueSpace) (text : String) : Option OrderedValue :=
  let cs := Text.trimList text.toList
  match space with
  | .decimal => (Decimal.parse cs).map .decimal
  | .float => (Binary.parse (String.ofList cs)).map .float
  | .dateTime =>
    let (stamp, offset) := Calendar.splitZone cs
    (Calendar.parseDateTime stamp).bind fun t =>
      (Calendar.addMinutes t (-(offset.getD 0))).map .dateTime
  | .date => (Calendar.parseDate (Calendar.splitZone cs).1).map .date
  | .time => (Calendar.parseTime (Calendar.splitZone cs).1).map .time
  | .unordered => none

end ValueSpace

end Xsd
