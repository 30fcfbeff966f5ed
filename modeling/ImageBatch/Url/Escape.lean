import ImageBatch.Text.Hex

/-!
Characters written as their bytes in hexadecimal, each after a percent sign.

Which characters are written so depends on the part of the address that they stand in.
-/

namespace ImageBatch.Url

/-- Capital letters for the digits above nine. -/
def hexDigit (n : Nat) : Char := "0123456789ABCDEF".toList.getD n '0'

/-- A byte as a percent sign and two digits. -/
def percentByte (b : UInt8) : List Char := ['%', hexDigit (b.toNat / 16), hexDigit (b.toNat % 16)]

/-- A character as its bytes. -/
def percentChar (c : Char) : List Char := (Text.toBytes (String.singleton c)).flatMap percentByte

/-- A text with some characters written as bytes. -/
def escape (escaped : Char → Bool) (cs : List Char) : List Char :=
  cs.flatMap fun c => if escaped c then percentChar c else [c]

/-- A control or a character beyond ASCII. -/
def isOutside (c : Char) : Bool := c.toNat ≤ 0x1f || 0x7f ≤ c.toNat

/-- A character that may not stand in a fragment. -/
def escapedInFragment (c : Char) : Bool := isOutside c || [' ', '"', '<', '>', '\x60'].contains c

/-- A character that may not stand in a path. -/
def escapedInPath (c : Char) : Bool := escapedInFragment c || ['#', '?', '\x7b', '\x7d'].contains c

/-- A character that may not stand in the name or the password of a user. -/
def escapedInUser (c : Char) : Bool :=
  escapedInPath c || ['/', ':', ';', '=', '@', '[', '\\', ']', '^', '|'].contains c

/-- A character that may not stand in a query. -/
def escapedInQuery (c : Char) : Bool := isOutside c || [' ', '"', '#', '<', '>'].contains c

/-- The bytes of a text in which some are written in hexadecimal. A percent sign that two digits do not follow
stands for itself. -/
def unescape : Bytes → Bytes
  | 0x25 :: a :: b :: rest =>
    match Hex.digit? (Char.ofNat a.toNat), Hex.digit? (Char.ofNat b.toNat) with
    | some high, some low => UInt8.ofNat (high * 16 + low) :: unescape rest
    | _, _ => 0x25 :: unescape (a :: b :: rest)
  | b :: rest => b :: unescape rest
  | [] => []

/-- The text that a text with escapes stands for, if it is one. -/
def unescaped? (text : String) : Option String := Text.fromBytes? (unescape (Text.toBytes text))

end ImageBatch.Url
