import Xsd.Unicode.Property

/-!
# Additions

What edition 17.0 added to the categories and properties, where names and visible forms of single
characters go by it.
-/

namespace Xsd.Unicode

/-- The code points that were assigned first in edition 17.0. -/
def newlyAssigned : Ranges := .ofText
  "88F C5C CDC 1ACF-1ADD 1AE0-1AEB 20C1 2B96 A7CE-A7CF A7D2 A7D4 A7F1 FBC3-FBD2 FD90-FD91
   FDC8-FDCE 10940-10959 10EC5-10EC7 10ED0-10ED8 10EFA-10EFB 11B60-11B67 11DB0-11DDB 11DE0-11DE9
   16EA0-16EB8 16EBB-16ED3 16FF2-16FF6 187F8-187FF 18D09-18D1E 18D80-18DF2 1CCFA-1CCFC
   1CEBA-1CED0 1CEE0-1CEF0 1E6C0-1E6DE 1E6E0-1E6F5 1E6FE-1E6FF 1F6D8 1F777-1F77A 1F8D0-1F8D8
   1FA54-1FA57 1FA8A 1FA8E 1FAC8 1FACD 1FAEA 1FAEF 1FBFA 2B73A-2B73F 2CEA2-2CEAD 323B0-33479"

/-- Of those, the ones that are alphabetic. -/
def newlyAlphabetic : Ranges := .ofText
  "88F C5C CDC A7CE-A7CF A7D2 A7D4 A7F1 10940-10959 10EC5-10EC7 10EFA-10EFB 11B60-11B67
   11DB0-11DDB 16EA0-16EB8 16EBB-16ED3 16FF2-16FF6 187F8-187FF 18D09-18D1E 18D80-18DF2
   1E6C0-1E6DE 1E6E0-1E6F5 1E6FE-1E6FF 2B73A-2B73F 2CEA2-2CEAD 323B0-33479"

/-- Of those, the ones that are numbers. -/
def newlyNumeric : Ranges := .ofText "11DE0-11DE9 16FF4-16FF6"

/-- Of those, the ones that extend what is before them. -/
def newlyExtending : Ranges := .ofText
  "1ACF-1ADD 1AE0-1AEB 10EFA-10EFB 11B60 11B62-11B64 11B66 1E6E3 1E6E6 1E6EE-1E6EF 1E6F5"

/-- Of those, the ones that are marks. -/
def newlyMarks : String :=
  "1ACF-1ADD 1AE0-1AEB 10EFA-10EFB 11B60-11B67 1E6E3 1E6E6 1E6EE-1E6EF 1E6F5"

/-- A character in one of the categories of marks. -/
def isMark (c : Char) : Bool :=
  0x300 ≤ c.toNat && (isInText c.toNat newlyMarks || ["mn", "mc", "me"].any (hasCategory c.toNat))

/-- Letters, and other characters with the use of one. -/
def alphabetic : Ranges := newlyAlphabetic.union (members 8 "alpha")

def isAlphabetic (c : Char) : Bool := alphabetic.contains c.toNat

/-- The characters in one of the categories of numbers. -/
def numeric : Ranges := newlyNumeric.union (members 8 "n")

def isNumeric (c : Char) : Bool := numeric.contains c.toNat

/-- The characters without a visible form of their own: controls, blanks other than the space, those
that are not assigned or for private use, those that are left out where they are not understood, and
those that extend what is before them, but for the two sound marks of half width. -/
def invisible : Ranges :=
  ((Ranges.ofFormula (members 8) "other z -20").diff newlyAssigned).union
    (newlyExtending.union (.ofFormula (members 8) "di grext -FF9E-FF9F"))

def isInvisible (c : Char) : Bool := invisible.contains c.toNat

end Xsd.Unicode
