import Xsd.Facet.ValueSpace
import Xsd.Facet.WhiteSpace

/-!
# Facets

The kinds of facets, their declaration in a schema, and what can be wrong with a declaration.
-/

namespace Xsd

inductive FacetKind where
  | length
  | minLength
  | maxLength
  | pattern
  | enumeration
  | whiteSpace
  | maxInclusive
  | maxExclusive
  | minInclusive
  | minExclusive
  | totalDigits
  | fractionDigits
deriving DecidableEq, Repr, Inhabited

namespace FacetKind

def name : FacetKind → String
  | .length => "length"
  | .minLength => "minLength"
  | .maxLength => "maxLength"
  | .pattern => "pattern"
  | .enumeration => "enumeration"
  | .whiteSpace => "whiteSpace"
  | .maxInclusive => "maxInclusive"
  | .maxExclusive => "maxExclusive"
  | .minInclusive => "minInclusive"
  | .minExclusive => "minExclusive"
  | .totalDigits => "totalDigits"
  | .fractionDigits => "fractionDigits"

def all : List FacetKind :=
  [.length, .minLength, .maxLength, .pattern, .enumeration, .whiteSpace, .maxInclusive,
   .maxExclusive, .minInclusive, .minExclusive, .totalDigits, .fractionDigits]

def ofName? (name : String) : Option FacetKind := all.find? fun k => k.name == name

end FacetKind

/-- A facet as a schema declares it. -/
structure FacetDecl where
  kind : FacetKind
  value : String
  fixed : Bool
deriving DecidableEq, Repr, Inhabited

/-- What is wrong with a declared facet. -/
inductive FacetFault where
  | repeated
  | notNatural (text : String)
  | fixedByBase
  | lengthChanged (inherited declared : Nat)
  | minLengthBelow (declared inherited : Nat)
  | maxLengthAbove (declared inherited : Nat)
  | unknownWhiteSpace (text : String)
  | whiteSpaceRelaxed (inherited declared : WhiteSpace)
  | unorderedSpace
  | notInSpace (text : String)
  | incomparable (a b : OrderedValue)
  | above (declared bound : OrderedValue)
  | below (declared bound : OrderedValue)
  | zeroDigits
  | digitsAbove (declared inherited : Nat)
  | minLengthExceedsMax (min max : Nat)
  | lengthConflict
  | fractionExceedsTotal
  | minExceedsMax (min max : OrderedValue)
  | invalidPattern
deriving DecidableEq, Repr

def FacetFault.message : FacetFault → String
  | .repeated => "facet is declared more than once"
  | .notNatural text => s!"'{text}' is not a non-negative integer"
  | .fixedByBase => "the base type declares this facet fixed"
  | .lengthChanged inherited declared => s!"length cannot change from {inherited} to {declared}"
  | .minLengthBelow declared inherited =>
    s!"minLength {declared} is less than inherited {inherited}"
  | .maxLengthAbove declared inherited =>
    s!"maxLength {declared} is greater than inherited {inherited}"
  | .unknownWhiteSpace text => s!"'{text}' is not preserve, replace or collapse"
  | .whiteSpaceRelaxed inherited declared =>
    s!"cannot relax whiteSpace from {inherited.name} to {declared.name}"
  | .unorderedSpace => "range facets do not apply to this type"
  | .notInSpace text => s!"'{text}' is not a valid value of the base type"
  | .incomparable a b => s!"values {a.render} and {b.render} are not comparable"
  | .above declared bound => s!"{declared.render} exceeds inherited bound {bound.render}"
  | .below declared bound => s!"{declared.render} is below inherited bound {bound.render}"
  | .zeroDigits => "totalDigits must be positive"
  | .digitsAbove declared inherited => s!"{declared} is greater than inherited {inherited}"
  | .minLengthExceedsMax min max => s!"minLength {min} exceeds maxLength {max}"
  | .lengthConflict => "length conflicts with minLength/maxLength"
  | .fractionExceedsTotal => "fractionDigits exceeds totalDigits"
  | .minExceedsMax min max => s!"{min.render} exceeds maxInclusive {max.render}"
  | .invalidPattern => "invalid pattern: not a regular expression"

end Xsd
