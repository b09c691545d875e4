import Xsd.Location
import Xsd.Markup.Document

/-!
# Documents at locations
-/

namespace Xsd

/-- A document that has been read, and where it is from. -/
structure Document where
  location : Location
  root : Option Element
deriving Repr, Inhabited

namespace Document

/-- Read a document within the limits. -/
def parse (limits : Limits) (location : Location) (bytes : ByteArray) :
    Except Markup.DocumentFault Document :=
  (Markup.parse limits bytes).map fun root => ⟨location, root⟩

/-- Read a document within the limits that are in force unless others are asked for. -/
def ofText (location : Location) (text : String) : Except Markup.DocumentFault Document :=
  parse .standard location text.toUTF8

end Document

end Xsd
