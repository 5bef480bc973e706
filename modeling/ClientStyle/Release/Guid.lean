/-
Identifiers of packages, derived from their versions.

The identifier of a version is the name-based UUID of the fifth kind in the namespace of object
identifiers, so equal versions have equal identifiers.
-/
import ClientStyle.Release.Sha1
set_option autoImplicit false

namespace ClientStyle.Guid

/-- The namespace of object identifiers. -/
def objectIdentifiers : List UInt8 :=
  [0x6b, 0xa7, 0xb8, 0x12, 0x9d, 0xad, 0x11, 0xd1, 0x80, 0xb4, 0x00, 0xc0, 0x4f, 0xd4, 0x30, 0xc8]

/-- The bytes of the identifier of a name: the first ones of a digest, with the kind of identifier
and the variant stamped on. -/
def bytes (space : List UInt8) (name : List UInt8) : List UInt8 :=
  (((Sha1.digest (space ++ name)).take 16).modify 6 fun b => (b &&& 0x0f) ||| 0x50).modify 8
    fun b => (b &&& 0x3f) ||| 0x80

/-- The digit for a value below sixteen. -/
def hexDigit (n : Nat) : Char := ("0123456789ABCDEF".toList[n]?).getD '0'

/-- The two digits of a byte. -/
def hexByte (b : UInt8) : List Char := [hexDigit (b.toNat / 16), hexDigit (b.toNat % 16)]

/-- The digits of some of the bytes. -/
def group (bs : List UInt8) (start count : Nat) : List Char :=
  ((bs.drop start).take count).flatMap hexByte

/-- The bytes in groups with hyphens between them, and braces around them. -/
def text (bs : List UInt8) : String :=
  String.ofList ('\x7b' :: group bs 0 4 ++ '-' :: group bs 4 2 ++ '-' :: group bs 6 2 ++
    '-' :: group bs 8 2 ++ '-' :: group bs 10 6 ++ ['\x7d'])

/-- The identifier of a package in a version. -/
def ofVersion (version : String) : String :=
  text (bytes objectIdentifiers version.toUTF8.data.toList)

end ClientStyle.Guid
