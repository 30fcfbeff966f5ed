/-!
Reading bytes as text.

`fromBytes?` accepts well-formed UTF-8 alone. `decodeLossy` reads any bytes: each longest stretch that
begins a character and cannot be finished becomes one replacement character. `decodeBody` first looks at
the mark at the start that may name another encoding.
-/

namespace ImageBatch

/-- The contents of a file or of a message. -/
abbrev Bytes := List UInt8

namespace Text

/-- The bytes of a text. -/
def toBytes (s : String) : Bytes := s.toUTF8.toList

/-- The text with these bytes, if they are well-formed UTF-8. -/
def fromBytes? (bytes : Bytes) : Option String := String.fromUTF8? bytes.toByteArray

def replacement : Char := '\ufffd'

/-- The part of a character read so far: how many bytes are still owed, which the next may be, and the
code point up to here. -/
structure Partial where
  owed : Nat
  low : Nat
  high : Nat
  code : Nat

/-- What the first byte of a character gives: the character, or the start of one, or nothing. -/
def firstByte (b : Nat) : Char ⊕ Option Partial :=
  if b ≤ 0x7f then .inl (Char.ofNat b)
  else if 0xc2 ≤ b && b ≤ 0xdf then .inr (some ⟨1, 0x80, 0xbf, b - 0xc0⟩)
  else if 0xe0 ≤ b && b ≤ 0xef then
    .inr (some ⟨2, if b = 0xe0 then 0xa0 else 0x80, if b = 0xed then 0x9f else 0xbf, b - 0xe0⟩)
  else if 0xf0 ≤ b && b ≤ 0xf4 then
    .inr (some ⟨3, if b = 0xf0 then 0x90 else 0x80, if b = 0xf4 then 0x8f else 0xbf, b - 0xf0⟩)
  else .inr none

/-- The characters of the bytes that follow an unfinished character. -/
def decodeFrom (unfinished : Option Partial) : Bytes → List Char
  | [] => if unfinished.isSome then [replacement] else []
  | byte :: rest =>
    let b := byte.toNat
    let start (before : List Char) :=
      match firstByte b with
      | .inl c => before ++ c :: decodeFrom none rest
      | .inr (some begun) => before ++ decodeFrom (some begun) rest
      | .inr none => before ++ replacement :: decodeFrom none rest
    match unfinished with
    | none => start []
    | some p =>
      if p.low ≤ b && b ≤ p.high then
        let code := p.code * 64 + (b - 0x80)
        if p.owed = 1 then Char.ofNat code :: decodeFrom none rest
        else decodeFrom (some ⟨p.owed - 1, 0x80, 0xbf, code⟩) rest
      else start [replacement]

/-- Bytes as UTF-8, with replacement characters where they are not. -/
def decodeLossy (bytes : Bytes) : String := String.ofList (decodeFrom none bytes)

/-- A unit that begins a pair. -/
def beginsPair (u : Nat) : Bool := 0xd800 ≤ u && u ≤ 0xdbff

/-- A unit that ends a pair. -/
def endsPair (u : Nat) : Bool := 0xdc00 ≤ u && u ≤ 0xdfff

/-- The characters of 16-bit units, and of a last byte without its partner if there is one (`odd`). A unit of
a pair without its partner is replaced; whatever is unfinished at the end is replaced by one character. -/
def decodeUnits (odd : Bool) : List Nat → List Char
  | [] => if odd then [replacement] else []
  | [u] =>
    if beginsPair u then [replacement]
    else (if endsPair u then replacement else Char.ofNat u) :: decodeUnits odd []
  | u :: v :: rest =>
    if beginsPair u then
      if endsPair v then
        Char.ofNat (0x10000 + (u - 0xd800) * 0x400 + (v - 0xdc00)) :: decodeUnits odd rest
      else replacement :: decodeUnits odd (v :: rest)
    else if endsPair u then replacement :: decodeUnits odd (v :: rest)
    else Char.ofNat u :: decodeUnits odd (v :: rest)

/-- The 16-bit units of bytes in pairs, and whether a byte was left over. -/
def pairUnits (bigEndian : Bool) : Bytes → List Nat × Bool
  | [] => ([], false)
  | [_] => ([], true)
  | a :: b :: rest =>
    let (units, odd) := pairUnits bigEndian rest
    let unit := if bigEndian then a.toNat * 256 + b.toNat else b.toNat * 256 + a.toNat
    (unit :: units, odd)

def decodeUtf16 (bigEndian : Bool) (bytes : Bytes) : String :=
  let (units, odd) := pairUnits bigEndian bytes
  String.ofList (decodeUnits odd units)

/-- The text of a message: UTF-8 unless a byte order mark says UTF-16; the mark is not part of the text. -/
def decodeBody : Bytes → String
  | 0xef :: 0xbb :: 0xbf :: rest => decodeLossy rest
  | 0xfe :: 0xff :: rest => decodeUtf16 true rest
  | 0xff :: 0xfe :: rest => decodeUtf16 false rest
  | bytes => decodeLossy bytes

end Text

end ImageBatch
