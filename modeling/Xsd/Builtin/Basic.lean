import Xsd.Builtin.Form
import Xsd.Component.Basic
import Xsd.Facet.Basic
import Xsd.Name
import Xsd.Url.Basic
import Xsd.Value.Base64

/-!
# Builtin types

The simple types that are there without being defined, the two most general types apart: their
names and numbers, what they derive from, the facets that they bring along and the literals that
they admit.
-/

namespace Xsd

inductive Builtin where
  | string
  | normalizedString
  | token
  | language
  | xmlName
  | ncName
  | id
  | idref
  | entity
  | nmtoken
  | boolean
  | decimal
  | integer
  | nonPositiveInteger
  | negativeInteger
  | long
  | int
  | short
  | byte
  | nonNegativeInteger
  | unsignedLong
  | unsignedInt
  | unsignedShort
  | unsignedByte
  | positiveInteger
  | float
  | double
  | duration
  | dateTime
  | time
  | date
  | gYearMonth
  | gYear
  | gMonthDay
  | gDay
  | gMonth
  | hexBinary
  | base64Binary
  | anyURI
  | qualifiedName
  | notationName
  | idrefs
  | entities
  | nmtokens
deriving DecidableEq, Repr, Inhabited

namespace Builtin

/-- The types in the order of their numbers. -/
def all : List Builtin :=
  [.string, .normalizedString, .token, .language, .xmlName, .ncName, .id, .idref, .entity,
   .nmtoken, .boolean, .decimal, .integer, .nonPositiveInteger, .negativeInteger, .long, .int,
   .short, .byte, .nonNegativeInteger, .unsignedLong, .unsignedInt, .unsignedShort, .unsignedByte,
   .positiveInteger, .float, .double, .duration, .dateTime, .time, .date, .gYearMonth, .gYear,
   .gMonthDay, .gDay, .gMonth, .hexBinary, .base64Binary, .anyURI, .qualifiedName, .notationName,
   .idrefs, .entities, .nmtokens]

def localName : Builtin → String
  | .string => "string"
  | .normalizedString => "normalizedString"
  | .token => "token"
  | .language => "language"
  | .xmlName => "Name"
  | .ncName => "NCName"
  | .id => "ID"
  | .idref => "IDREF"
  | .entity => "ENTITY"
  | .nmtoken => "NMTOKEN"
  | .boolean => "boolean"
  | .decimal => "decimal"
  | .integer => "integer"
  | .nonPositiveInteger => "nonPositiveInteger"
  | .negativeInteger => "negativeInteger"
  | .long => "long"
  | .int => "int"
  | .short => "short"
  | .byte => "byte"
  | .nonNegativeInteger => "nonNegativeInteger"
  | .unsignedLong => "unsignedLong"
  | .unsignedInt => "unsignedInt"
  | .unsignedShort => "unsignedShort"
  | .unsignedByte => "unsignedByte"
  | .positiveInteger => "positiveInteger"
  | .float => "float"
  | .double => "double"
  | .duration => "duration"
  | .dateTime => "dateTime"
  | .time => "time"
  | .date => "date"
  | .gYearMonth => "gYearMonth"
  | .gYear => "gYear"
  | .gMonthDay => "gMonthDay"
  | .gDay => "gDay"
  | .gMonth => "gMonth"
  | .hexBinary => "hexBinary"
  | .base64Binary => "base64Binary"
  | .anyURI => "anyURI"
  | .qualifiedName => "QName"
  | .notationName => "NOTATION"
  | .idrefs => "IDREFS"
  | .entities => "ENTITIES"
  | .nmtokens => "NMTOKENS"

def ofLocalName? (name : String) : Option Builtin := all.find? fun b => b.localName == name

def qname (b : Builtin) : QName := .xsd b.localName

/-- The name under its usual prefix. -/
def render (b : Builtin) : String := "xs:" ++ b.localName

/-- The numbers of the builtin types follow those of the two most general types. -/
def typeId (b : Builtin) : TypeId := ⟨all.idxOf b + 2⟩

def ofTypeId? (id : TypeId) : Option Builtin := if id.index < 2 then none else all[id.index - 2]?

/-- The type that a builtin type restricts, if that is a builtin type too. -/
def base? : Builtin → Option Builtin
  | .normalizedString => some .string
  | .token => some .normalizedString
  | .language | .xmlName | .nmtoken => some .token
  | .ncName => some .xmlName
  | .id | .idref | .entity => some .ncName
  | .integer => some .decimal
  | .nonPositiveInteger | .long | .nonNegativeInteger => some .integer
  | .negativeInteger => some .nonPositiveInteger
  | .int => some .long
  | .short => some .int
  | .byte => some .short
  | .unsignedLong | .positiveInteger => some .nonNegativeInteger
  | .unsignedInt => some .unsignedLong
  | .unsignedShort => some .unsignedInt
  | .unsignedByte => some .unsignedShort
  | _ => none

/-- The type of the items of a list type. -/
def item? : Builtin → Option Builtin
  | .idrefs => some .idref
  | .entities => some .entity
  | .nmtokens => some .nmtoken
  | _ => none

/-- The type reached after so many steps to the base, or where there is none. -/
def climb : Nat → Builtin → Builtin
  | 0, b => b
  | n + 1, b =>
    match b.base? with
    | some base => climb n base
    | none => b

/-- The type at the end of the chain of bases. -/
def primitive (b : Builtin) : Builtin := b.climb all.length

def valueSpace (b : Builtin) : ValueSpace :=
  match b.primitive with
  | .decimal => .decimal
  | .float | .double => .float
  | .dateTime => .dateTime
  | .date => .date
  | .time => .time
  | _ => .unordered

/-- Declarations of the bounds of a range. -/
def range (min max : Option String) : List FacetDecl :=
  (min.map fun v => (⟨.minInclusive, v, false⟩ : FacetDecl)).toList ++
    (max.map fun v => (⟨.maxInclusive, v, false⟩ : FacetDecl)).toList

/-- The facets that a type adds to those of its base. -/
def impliedFacets (b : Builtin) : List FacetDecl :=
  match b with
  | .string => [⟨.whiteSpace, "preserve", false⟩]
  | .normalizedString => [⟨.whiteSpace, "replace", false⟩]
  | .token => [⟨.whiteSpace, "collapse", false⟩]
  | .integer => [⟨.fractionDigits, "0", true⟩]
  | .nonPositiveInteger => range none (some "0")
  | .negativeInteger => range none (some "-1")
  | .long => range (some "-9223372036854775808") (some "9223372036854775807")
  | .int => range (some "-2147483648") (some "2147483647")
  | .short => range (some "-32768") (some "32767")
  | .byte => range (some "-128") (some "127")
  | .nonNegativeInteger => range (some "0") none
  | .unsignedLong => range none (some "18446744073709551615")
  | .unsignedInt => range none (some "4294967295")
  | .unsignedShort => range none (some "65535")
  | .unsignedByte => range none (some "255")
  | .positiveInteger => range (some "1") none
  | .idrefs | .entities | .nmtokens => [⟨.minLength, "1", false⟩]
  | _ => if b.base?.isNone then [⟨.whiteSpace, "collapse", true⟩] else []

/-! ## Literals -/

/-- The text has no line break or tab, and is an address if it starts like one. -/
def isAddress (value : String) : Bool :=
  !(value.toList.any fun c => c == '\n' || c == '\r' || c == '\t') &&
    (!Form.hasScheme value.toList || (Url.parse value).isSome)

/-- The bytes that a text stands for, blanks left out. -/
def base64Count? (value : String) : Option Nat :=
  Base64.byteCount? (value.toList.filter fun c => !Text.isBlank c)

/-- The text is a literal of the type, its range apart. The items of list types are looked at one
by one elsewhere. -/
def isLiteral (b : Builtin) (value : String) : Bool :=
  let cs := value.toList
  match b with
  | .string | .normalizedString | .token => true
  | .language => Name.isLanguage value
  | .xmlName => Name.isName value
  | .ncName | .id | .idref | .entity => Name.isNCName value
  | .nmtoken => Name.isNmtoken value
  | .boolean => value == "true" || value == "false" || value == "1" || value == "0"
  | .decimal => Form.decimal cs
  | .integer | .nonPositiveInteger | .negativeInteger | .long | .int | .short | .byte
  | .nonNegativeInteger | .unsignedLong | .unsignedInt | .unsignedShort | .unsignedByte
  | .positiveInteger => Form.integer cs
  | .float | .double => Form.float cs && (Binary.parse value).isSome
  | .duration => Form.duration cs
  | .dateTime => Form.dateTime cs && (ValueSpace.dateTime.parse value).isSome
  | .date => Form.date cs && (ValueSpace.date.parse value).isSome
  | .time => Form.time cs && (ValueSpace.time.parse value).isSome
  | .gYearMonth => Form.gYearMonth cs
  | .gYear => Form.gYear cs
  | .gMonthDay => Form.gMonthDay cs
  | .gDay => Form.gDay cs
  | .gMonth => Form.gMonth cs
  | .hexBinary => Form.hexBinary cs
  | .base64Binary => (base64Count? value).isSome
  | .anyURI => isAddress value
  | .qualifiedName | .notationName => Name.isQName value
  | .idrefs | .entities | .nmtokens => true

/-- Why a text that is no literal of the type is refused. -/
def refusal (b : Builtin) (value : String) : String :=
  s!"'{value}' is not a valid value for {b.render}"

/-- The length of a literal: bytes of binary types, characters of all others. -/
def lengthOf (b : Builtin) (value : String) : Nat :=
  match b.primitive with
  | .hexBinary => value.utf8ByteSize / 2
  | .base64Binary => (base64Count? value).getD 0
  | _ => value.length

end Builtin

end Xsd
