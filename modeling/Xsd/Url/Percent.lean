import Xsd.Text.Digits
import Xsd.Unicode.Ranges

/-!
# Percent coding

A byte may stand in an address as a percent sign and two hexadecimal digits. Which characters have
to depends on the part of the address; control characters and everything beyond ASCII always do.
-/

namespace Xsd.Url

/-- A percent sign and the two upper-case digits of a byte. -/
def percentByte (b : UInt8) : List Char :=
  let digit (n : Nat) : Char := if n < 10 then Char.ofNat (48 + n) else Char.ofNat (55 + n)
  ['%', digit (b.toNat / 16), digit (b.toNat % 16)]

/-- A character, coded if it is one of the `reserved` or no visible ASCII character. -/
def encodeChar (reserved : List Char) (c : Char) : List Char :=
  if c.toNat < 0x20 || 0x7F ≤ c.toNat || reserved.contains c then
    c.toString.toUTF8.toList.flatMap percentByte
  else [c]

def encode (reserved : List Char) (cs : List Char) : List Char := cs.flatMap (encodeChar reserved)

/-- The bytes of a text, with the coded ones decoded. A percent sign without two digits stands for
itself. -/
def decodeBytes : List UInt8 → List UInt8
  | [] => []
  | 0x25 :: a :: b :: rest =>
    match Unicode.hexDigit? (Char.ofNat a.toNat), Unicode.hexDigit? (Char.ofNat b.toNat) with
    | some high, some low => UInt8.ofNat (high * 16 + low) :: decodeBytes rest
    | _, _ => 0x25 :: decodeBytes (a :: b :: rest)
  | b :: rest => b :: decodeBytes rest

def decode (cs : List Char) : List UInt8 := decodeBytes (String.ofList cs).toUTF8.toList

/-! The reserved characters of each part. -/

def reservedInFragment : List Char := [' ', '"', '<', '>', '\x60']

def reservedInPath : List Char := reservedInFragment ++ ['#', '?', '\x7b', '\x7d']

def reservedInUserinfo : List Char :=
  reservedInPath ++ ['/', ':', ';', '=', '@', '[', '\\', ']', '^', '|']

def reservedInQuery : List Char := [' ', '"', '#', '<', '>']

def reservedInSpecialQuery : List Char := '\x27' :: reservedInQuery

end Xsd.Url
