import Xsd.Facet.Basic
import Xsd.Facet.Pattern
import Xsd.Text.Quoted
import Xsd.Violation

/-!
# Facet sets

The facets in force for a type: what it inherits, restricted by what it declares. `restrict` adds a
level of declarations, `check` looks at a literal.
-/

namespace Xsd

/-- The value of a facet, and whether it is fixed for good. -/
structure Bound (α : Type) where
  value : α
  fixed : Bool
deriving DecidableEq, Repr, Inhabited

structure FacetSet where
  length : Option (Bound Nat) := none
  minLength : Option (Bound Nat) := none
  maxLength : Option (Bound Nat) := none
  whiteSpace : Option (Bound WhiteSpace) := none
  minInclusive : Option (Bound OrderedValue) := none
  maxInclusive : Option (Bound OrderedValue) := none
  minExclusive : Option (Bound OrderedValue) := none
  maxExclusive : Option (Bound OrderedValue) := none
  totalDigits : Option (Bound Nat) := none
  fractionDigits : Option (Bound Nat) := none
  /-- The literals listed by the latest level that lists any. -/
  enumeration : Option (List String) := none
  /-- One pattern for each level that has any. -/
  patterns : List Pattern := []
deriving Repr, Inhabited

namespace FacetSet

/-- No facets at all. -/
def empty : FacetSet := {}

/-- The treatment of white space in force. -/
def whiteSpaceMode (fs : FacetSet) : WhiteSpace :=
  (fs.whiteSpace.map (·.value)).getD .preserve

/-! ## Restriction -/

/-- A fixed facet keeps its value. -/
def keepFixed {α : Type} (base : Option (Bound α)) (isSame : α → Bool) : Except FacetFault Unit :=
  match base with
  | some b => if b.fixed && !isSame b.value then .error .fixedByBase else .ok ()
  | none => .ok ()

/-- What has to hold of an inherited facet, if there is one. -/
def require {α : Type} (base : Option (Bound α)) (holds : α → Bool) (fault : α → FacetFault) :
    Except FacetFault Unit :=
  match base with
  | some b => if holds b.value then .ok () else .error (fault b.value)
  | none => .ok ()

/-- A value lies on the given side of an inherited bound, or on it unless `strict`. -/
def requireSide (v : OrderedValue) (side : Ordering) (strict : Bool)
    (bound : Option (Bound OrderedValue)) : Except FacetFault Unit :=
  match bound with
  | none => .ok ()
  | some b =>
    match v.compare b.value with
    | none => .error (.incomparable v b.value)
    | some o =>
      if o == side || (o == .eq && !strict) then .ok ()
      else .error (if side == .lt then .above v b.value else .below v b.value)

def readNatural (limit : Nat) (text : String) : Except FacetFault Nat :=
  match Text.natBelow? limit text.toList with
  | some n => .ok n
  | none => .error (.notNatural text)

/-- Set one of the facets that count lengths. -/
def applyLength (next base : FacetSet) (kind : FacetKind) (n : Nat) (fixed : Bool) :
    Except FacetFault FacetSet := do
  match kind with
  | .length =>
    keepFixed base.length (· == n)
    require base.length (· == n) fun b => .lengthChanged b n
    .ok { next with length := some ⟨n, fixed⟩ }
  | .minLength =>
    keepFixed base.minLength (· == n)
    require base.minLength (· ≤ n) fun b => .minLengthBelow n b
    .ok { next with minLength := some ⟨n, fixed⟩ }
  | _ =>
    keepFixed base.maxLength (· == n)
    require base.maxLength (n ≤ ·) fun b => .maxLengthAbove n b
    .ok { next with maxLength := some ⟨n, fixed⟩ }

/-- Set one of the facets that bound a range, within the inherited range. -/
def applyRange (next base : FacetSet) (kind : FacetKind) (v : OrderedValue) (fixed : Bool) :
    Except FacetFault FacetSet := do
  match kind with
  | .maxInclusive =>
    keepFixed base.maxInclusive v.isEqual
    requireSide v .lt false base.maxInclusive
    requireSide v .lt true base.maxExclusive
    requireSide v .gt false base.minInclusive
    requireSide v .gt true base.minExclusive
    .ok { next with maxInclusive := some ⟨v, fixed⟩ }
  | .maxExclusive =>
    keepFixed base.maxExclusive v.isEqual
    requireSide v .lt false base.maxExclusive
    requireSide v .lt false base.maxInclusive
    requireSide v .gt true base.minInclusive
    requireSide v .gt true base.minExclusive
    .ok { next with maxExclusive := some ⟨v, fixed⟩ }
  | .minInclusive =>
    keepFixed base.minInclusive v.isEqual
    requireSide v .gt false base.minInclusive
    requireSide v .gt true base.minExclusive
    requireSide v .lt false base.maxInclusive
    requireSide v .lt true base.maxExclusive
    .ok { next with minInclusive := some ⟨v, fixed⟩ }
  | _ =>
    keepFixed base.minExclusive v.isEqual
    requireSide v .gt false base.minExclusive
    requireSide v .gt false base.minInclusive
    requireSide v .lt true base.maxInclusive
    requireSide v .lt true base.maxExclusive
    .ok { next with minExclusive := some ⟨v, fixed⟩ }

/-- Set a facet of `next` as declared, as far as the facets of the base let it be. -/
def apply (next base : FacetSet) (decl : FacetDecl) (space : ValueSpace) :
    Except FacetFault FacetSet := do
  let text := Text.trim decl.value
  match decl.kind with
  | .length | .minLength | .maxLength =>
    applyLength next base decl.kind (← readNatural (1 <<< 64) text) decl.fixed
  | .whiteSpace =>
    match WhiteSpace.ofName? text with
    | none => .error (.unknownWhiteSpace text)
    | some mode =>
      keepFixed base.whiteSpace (· == mode)
      require base.whiteSpace (fun b => compare b mode != .gt) fun b => .whiteSpaceRelaxed b mode
      .ok { next with whiteSpace := some ⟨mode, decl.fixed⟩ }
  | .maxInclusive | .maxExclusive | .minInclusive | .minExclusive =>
    if !space.isOrdered then .error .unorderedSpace
    else
      match space.parse text with
      | none => .error (.notInSpace text)
      | some v => applyRange next base decl.kind v decl.fixed
  | .totalDigits =>
    let n ← readNatural (1 <<< 32) text
    if n = 0 then .error .zeroDigits
    else
      keepFixed base.totalDigits (· == n)
      require base.totalDigits (n ≤ ·) fun b => .digitsAbove n b
      .ok { next with totalDigits := some ⟨n, decl.fixed⟩ }
  | .fractionDigits =>
    let n ← readNatural (1 <<< 32) text
    keepFixed base.fractionDigits (· == n)
    require base.fractionDigits (n ≤ ·) fun b => .digitsAbove n b
    .ok { next with fractionDigits := some ⟨n, decl.fixed⟩ }
  | .enumeration | .pattern => .ok next

/-- A relation that has to hold between two facets if both are there. -/
def consistent {α : Type} (a b : Option (Bound α)) (conflict : α → α → Bool) : Bool :=
  match a, b with
  | some a, some b => !conflict a.value b.value
  | _, _ => true

/-- Facets that are declared at one level, or at two, must leave something between them. -/
def checkConsistency (fs : FacetSet) : Except (FacetKind × FacetFault) Unit := do
  match fs.minLength, fs.maxLength with
  | some min, some max =>
    if max.value < min.value then
      .error (.minLength, .minLengthExceedsMax min.value max.value)
  | _, _ => .ok ()
  if !(consistent fs.minLength fs.length (fun m n => n < m) &&
      consistent fs.maxLength fs.length (fun m n => m < n)) then
    .error (.length, .lengthConflict)
  if !consistent fs.totalDigits fs.fractionDigits (fun t f => t < f) then
    .error (.fractionDigits, .fractionExceedsTotal)
  match fs.minInclusive, fs.maxInclusive with
  | some min, some max =>
    if min.value.compare max.value == some .gt then
      .error (.minInclusive, .minExceedsMax min.value max.value)
  | _, _ => .ok ()

/-- Apply the declarations in turn. A facet that lists nothing can be declared once. -/
def applyAll (base : FacetSet) (space : ValueSpace) (next : FacetSet) (seen : List FacetKind) :
    List FacetDecl → Except (FacetKind × FacetFault) FacetSet
  | [] => .ok next
  | decl :: rest =>
    if decl.kind = .enumeration || decl.kind = .pattern then applyAll base space next seen rest
    else if seen.contains decl.kind then .error (decl.kind, .repeated)
    else
      match next.apply base decl space with
      | .error fault => .error (decl.kind, fault)
      | .ok next => applyAll base space next (decl.kind :: seen) rest

/-- The values of the declarations of one kind. -/
def valuesOf (kind : FacetKind) (decls : List FacetDecl) : List String :=
  (decls.filter fun d => d.kind == kind).map (·.value)

/-- The facets of a type that declares `decls` on top of these. The literals that it lists replace
those listed so far, its patterns are added. -/
def restrict (base : FacetSet) (decls : List FacetDecl) (space : ValueSpace) :
    Except (FacetKind × FacetFault) FacetSet := do
  let next ← applyAll base space base [] decls
  checkConsistency next
  let listed := valuesOf .enumeration decls
  let next := if listed.isEmpty then next else { next with enumeration := some listed }
  let sources := valuesOf .pattern decls
  if sources.isEmpty then .ok next
  else
    match Pattern.ofSources? sources with
    | none => .error (.pattern, .invalidPattern)
    | some p => .ok { next with patterns := next.patterns ++ [p] }

/-! ## Checking a literal -/

def refuse (message reason : String) : Except Violation Unit :=
  .error ((Violation.of .invalidValue message).withReason reason)

def checkLength (fs : FacetSet) (n : Nat) : Except Violation Unit := do
  match fs.length with
  | some b => if n ≠ b.value then refuse s!"Length must be exactly {b.value}" s!"Actual length: {n}"
  | none => .ok ()
  match fs.minLength with
  | some b =>
    if n < b.value then refuse s!"Length must be at least {b.value}" s!"Actual length: {n}"
  | none => .ok ()
  match fs.maxLength with
  | some b => if b.value < n then refuse s!"Length must be at most {b.value}" s!"Actual length: {n}"
  | none => .ok ()

/-- The literal matches one alternative of each level. -/
def checkPatterns (patterns : List Pattern) (value : String) : Except Violation Unit :=
  match patterns.find? fun p => !p.isMatch value with
  | some p =>
    refuse ("Value does not match pattern '" ++ "' | '".intercalate p.sources ++ "'")
      s!"Value: '{value}'"
  | none => .ok ()

/-- A listed literal stands for the same value, or is the same text if one of them has no value. -/
def isListed (space : ValueSpace) (value candidate : String) : Bool :=
  match space.parse value, space.parse candidate with
  | some a, some b => a.isEqual b
  | _, _ => candidate == value

def checkEnumeration (fs : FacetSet) (value : String) (space : ValueSpace) :
    Except Violation Unit :=
  match fs.enumeration with
  | some listed =>
    if listed.any (isListed space value) then .ok ()
    else
      refuse "Value is not in the enumeration"
        ("Allowed values: " ++ Text.quoteList listed)
  | none => .ok ()

/-- The value is on the right side of a bound; what does not compare with it is not. -/
def checkSide (v : OrderedValue) (value : String) (side : Ordering) (strict : Bool) (sign : String)
    (bound : Option (Bound OrderedValue)) : Except Violation Unit :=
  match bound with
  | none => .ok ()
  | some b =>
    match v.compare b.value with
    | none => refuse s!"Value must be {sign} {b.value.render}" s!"Value: {value}"
    | some o =>
      if o == side || (o == .eq && !strict) then .ok ()
      else refuse s!"Value must be {sign} {b.value.render}" s!"Value: {value}"

def checkRange (fs : FacetSet) (value : String) (space : ValueSpace) : Except Violation Unit :=
  match space.parse value with
  | none => .ok ()
  | some v => do
    checkSide v value .gt false ">=" fs.minInclusive
    checkSide v value .gt true ">" fs.minExclusive
    checkSide v value .lt false "<=" fs.maxInclusive
    checkSide v value .lt true "<" fs.maxExclusive

/-- The digits that count are those of the number with no zeros at the end of its fraction. -/
def checkDigits (fs : FacetSet) (value : String) : Except Violation Unit :=
  match Decimal.parse (Text.trimList value.toList) with
  | none => .ok ()
  | some d => do
    let d := d.normalize
    match fs.fractionDigits with
    | some b =>
      if b.value < d.scale then
        refuse s!"Value exceeds fractionDigits limit of {b.value}"
          s!"Value {value} has {d.scale} fractional digits"
    | none => .ok ()
    match fs.totalDigits with
    | some b =>
      if b.value < d.digitCount then
        refuse s!"Value exceeds totalDigits limit of {b.value}"
          s!"Value {value} has {d.digitCount} significant digits"
    | none => .ok ()

/-- Look at a literal; `measure` is its length, where one is defined. -/
def check (fs : FacetSet) (value : String) (measure : Option Nat) (space : ValueSpace) :
    Except Violation Unit := do
  match measure with
  | some n => fs.checkLength n
  | none => .ok ()
  checkPatterns fs.patterns value
  fs.checkEnumeration value space
  if space.isOrdered then fs.checkRange value space
  if space = .decimal then fs.checkDigits value

end FacetSet

end Xsd
