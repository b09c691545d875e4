import Xsd.Text.Utf8

/-!
# Markup events

A document as the sequence of its tags and pieces of text. Faults in names, attributes and
references stay inside the event: they count when it is looked at.
-/

namespace Xsd.Markup

/-- What can be wrong with the form of a document. -/
inductive Fault where
  | malformed (position : Nat)
  | badAttribute
  | badText
  | badAttributeValue
  | elementName (fault : Text.Utf8Fault)
  | attributeName (fault : Text.Utf8Fault)
deriving DecidableEq, Repr

def Fault.message : Fault → String
  | .malformed position => s!"Error parsing XML at position {position}: not well-formed"
  | .badAttribute => "Failed to parse attribute: not a name with a quoted value"
  | .badText => "Failed to unescape text: unknown reference or not UTF-8"
  | .badAttributeValue => "Failed to unescape attribute value: unknown reference or not UTF-8"
  | .elementName fault => "Invalid element name: " ++ fault.message
  | .attributeName fault => "Invalid attribute name: " ++ fault.message

/-- A tag as it is written: its name, and names and values of its attributes up to the first
fault. -/
structure RawTag where
  name : Except Fault String
  attributes : List (Except Fault (String × String))

inductive Event where
  | start (position : Nat) (tag : RawTag)
  /-- A tag that is start and end in one. -/
  | empty (position : Nat) (tag : RawTag)
  | finish
  | text (content : Except Fault String)
  /-- Text in which nothing is marked up. -/
  | cdata (content : String)
  /-- A comment, an instruction or a declaration. -/
  | other
  /-- Reading ends with a fault. -/
  | broken (fault : Fault)

end Xsd.Markup
