import Xsd.Schema.Assembly

/-!
# Simple types in schema documents
-/

namespace Xsd.Schema

/-- The base and the facets of a restriction, as far as they have been read. -/
structure RestrictionParts where
  base : Option TypeUse
  facets : List FacetDecl

def restrictionChild (inner : Nested) (s : Setting) (owner : Element) (parts : RestrictionParts)
    (c : Element) : Assemble RestrictionParts := do
  s.expectXsd c
  match c.localName with
  | "annotation" => return parts
  | "simpleType" =>
    if parts.base.isSome then s.refuse owner .namedAndInlineBase
    else return { parts with base := some (.own (← inner.simpleType c)) }
  | other =>
    match FacetKind.ofName? other with
    | some kind => return { parts with facets := parts.facets ++ [← s.facet c kind] }
    | none => s.refuse c (.unexpectedChild other "xs:restriction")

/-- The type that an attribute of an element names, if it has the attribute. -/
def namedType? (s : Setting) (e : Element) (word : String) : Except Error (Option TypeUse) :=
  match e.attribute? word with
  | some text => (s.typeUse e text).map some
  | none => .ok none

def restriction (inner : Nested) (s : Setting) (e : Element) : Assemble SimpleVariety := do
  let base ← namedType? s e "base"
  let parts ← e.children.foldlM (restrictionChild inner s e) ⟨base, []⟩
  match parts.base with
  | some base => return .restriction base parts.facets
  | none => s.refuse e .missingBaseType

def listChild (inner : Nested) (s : Setting) (owner : Element) (item : Option TypeUse)
    (c : Element) : Assemble (Option TypeUse) := do
  s.expectXsd c
  match c.localName, item with
  | "annotation", _ => return item
  | "simpleType", none => return some (.own (← inner.simpleType c))
  | _, _ => s.refuse owner .itemTypeCount

def list (inner : Nested) (s : Setting) (e : Element) : Assemble SimpleVariety := do
  let item ← namedType? s e "itemType"
  match ← e.children.foldlM (listChild inner s e) item with
  | some item => return .list item
  | none => s.refuse e .itemTypeCount

def unionChild (inner : Nested) (s : Setting) (members : List TypeUse) (c : Element) :
    Assemble (List TypeUse) := do
  s.expectXsd c
  match c.localName with
  | "annotation" => return members
  | "simpleType" => return members ++ [.own (← inner.simpleType c)]
  | other => s.refuse c (.unexpectedChild other "xs:union")

/-- The types that an attribute of an element lists. -/
def namedTypes (s : Setting) (e : Element) (word : String) : Except Error (List TypeUse) :=
  (Text.words ((e.attribute? word).getD "")).mapM (s.typeUse e)

def union (inner : Nested) (s : Setting) (e : Element) : Assemble SimpleVariety := do
  let named ← namedTypes s e "memberTypes"
  let members ← e.children.foldlM (unionChild inner s) named
  if members.isEmpty then s.refuse e .emptyUnion else return .union members

def simpleTypeChild (inner : Nested) (s : Setting) (owner : Element)
    (parts : ComponentInfo × Option SimpleVariety) (c : Element) :
    Assemble (ComponentInfo × Option SimpleVariety) := do
  s.expectXsd c
  let (info, variety) := parts
  let first (read : Assemble SimpleVariety) : Assemble (ComponentInfo × Option SimpleVariety) := do
    if variety.isSome then s.refuse owner .varietyCount else return (info, some (← read))
  match c.localName with
  | "annotation" => return ({ info with annotation := some c.annotation }, variety)
  | "restriction" => first (restriction inner s c)
  | "list" => first (list inner s c)
  | "union" => first (union inner s c)
  | other => s.refuse c (.unexpectedChild other "xs:simpleType")

/-- Read the definition of a simple type. -/
def simpleType (inner : Nested) (s : Setting) (name : Option QName) (e : Element) :
    Assemble TypeId := do
  let (info, variety) ← e.children.foldlM (simpleTypeChild inner s e) (s.info name, none)
  match variety with
  | some variety => Assemble.enter (·.addType (.simple ⟨info, variety, none⟩))
  | none => s.refuse e .varietyCount

/-- A type that is defined in place has no name. -/
def unnamed (s : Setting) (e : Element) : Except Error Unit :=
  if (e.attribute? "name").isSome then s.refuse e .namedAnonymousType else .ok ()

/-- Read a simple type that is defined in place. -/
def ownSimpleType (inner : Nested) (s : Setting) (e : Element) : Assemble TypeId := do
  unnamed s e
  simpleType inner s none e

/-- The type of a declaration, which it names or defines in place, but not both. -/
def declaredType (s : Setting) (e : Element) (owner : String) (own : Option TypeId) :
    Except Error (Option TypeUse) :=
  match e.attribute? "type", own with
  | some _, some _ => s.refuse e (.namedAndInlineType owner)
  | some text, none => (s.typeUse e text).map some
  | none, some id => .ok (some (.own id))
  | none, none => .ok none

end Xsd.Schema
