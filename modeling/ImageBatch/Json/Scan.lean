import ImageBatch.Json.Document
import ImageBatch.Json.Numeral
import ImageBatch.Text.Utf8

/-!
Scanning bytes as a JSON document.

The grammar is strict: no comments, no commas at the end, no zeros in front, blanks are the space, the tab,
the line feed and the carriage return. A text is a sequence of UTF-8 bytes and escapes; one that pairs
surrogates wrongly or is not well-formed UTF-8 is kept as a text without a value, and a number too large for
a double as a number without a value.
-/

namespace ImageBatch.Document

/-- The byte of an ASCII character. -/
def byte (c : Char) : UInt8 := UInt8.ofNat c.toNat

def isBlankByte (b : UInt8) : Bool :=
  b == byte ' ' || b == byte '\n' || b == byte '\t' || b == byte '\r'

def skipBlanks (bytes : Bytes) : Bytes := bytes.dropWhile isBlankByte

/-- What follows `word`, if the bytes begin with it. -/
def expect? (word : List Char) (bytes : Bytes) : Option Bytes :=
  if (word.map byte).isPrefixOf bytes then some (bytes.drop word.length) else none

/-- The value of a hexadecimal digit. -/
def hexValue? (b : UInt8) : Option Nat :=
  let n := b.toNat
  if 48 ≤ n ∧ n ≤ 57 then some (n - 48)
  else if 65 ≤ n ∧ n ≤ 70 then some (n - 55)
  else if 97 ≤ n ∧ n ≤ 102 then some (n - 87)
  else none

/-- The value of four hexadecimal digits. -/
def hex4? (a b c d : UInt8) : Option Nat :=
  match hexValue? a, hexValue? b, hexValue? c, hexValue? d with
  | some a, some b, some c, some d => some (((a * 16 + b) * 16 + c) * 16 + d)
  | _, _, _, _ => none

/-- The byte that an escape of one letter stands for. -/
def simpleEscape? (b : UInt8) : Option UInt8 :=
  if b = byte '"' ∨ b = byte '\\' ∨ b = byte '/' then some b
  else if b = byte 'b' then some 8
  else if b = byte 'f' then some 12
  else if b = byte 'n' then some 10
  else if b = byte 'r' then some 13
  else if b = byte 't' then some 9
  else none

/-- Adds bytes, kept latest first, to a text that has a value so far. -/
def push (bytes : Bytes) (text : Option Bytes) : Option Bytes := text.map (bytes.reverse ++ ·)

/-- The UTF-8 bytes of a code point. -/
def codePoint (n : Nat) : Bytes := String.utf8EncodeChar (Char.ofNat n)

/-- The text and the rest after the quote that ends it. `read` holds the bytes before, latest first, or
nothing once the text cannot have a value. -/
def scanText (read : Option Bytes) : Bytes → Option (Option String × Bytes)
  | [] => none
  | b :: rest =>
    if b = byte '"' then some (read.bind fun r => Text.fromBytes? r.reverse, rest)
    else if b = byte '\\' then
      match rest with
      | [] => none
      | e :: rest =>
        if e = byte 'u' then
          match rest with
          | a :: b :: c :: d :: rest =>
            match hex4? a b c d with
            | none => none
            | some unit =>
              if unit < 0xd800 ∨ 0xdfff < unit then scanText (push (codePoint unit) read) rest
              else
                match rest with
                | s :: u :: a :: b :: c :: d :: after =>
                  match hex4? a b c d with
                  | some low =>
                    if unit < 0xdc00 ∧ s = byte '\\' ∧ u = byte 'u' ∧ 0xdc00 ≤ low ∧ low ≤ 0xdfff then
                      scanText (push (codePoint (0x10000 + (unit - 0xd800) * 0x400 + (low - 0xdc00))) read)
                        after
                    else scanText none (s :: u :: a :: b :: c :: d :: after)
                  | none => scanText none (s :: u :: a :: b :: c :: d :: after)
                | rest => scanText none rest
          | _ => none
        else
          match simpleEscape? e with
          | some c => scanText (push [c] read) rest
          | none => none
    else if b < 0x20 then none
    else scanText (push [b] read) rest

/-- The value of a byte as a decimal digit. -/
def digit? (b : UInt8) : Option Nat :=
  if 48 ≤ b.toNat ∧ b.toNat ≤ 57 then some (b.toNat - 48) else none

/-- The digits at the start, and the rest. -/
def scanDigits (bytes : Bytes) : List Nat × Bytes :=
  ((bytes.takeWhile fun b => (digit? b).isSome).filterMap digit?, bytes.dropWhile fun b => (digit? b).isSome)

/-- The sign of an exponent, and the rest. -/
def scanSign : Bytes → Bool × Bytes
  | b :: rest =>
    if b = byte '-' then (true, rest) else if b = byte '+' then (false, rest) else (false, b :: rest)
  | [] => (false, [])

/-- A fraction, if there is a point: at least one digit after it. -/
def scanFraction : Bytes → Option (Option (List Nat) × Bytes)
  | b :: rest =>
    if b = byte '.' then
      match scanDigits rest with
      | ([], _) => none
      | (digits, after) => some (some digits, after)
    else some (none, b :: rest)
  | [] => some (none, [])

/-- An exponent, if there is an `e`: a sign or none, and at least one digit. -/
def scanExponent : Bytes → Option (Option (Bool × List Nat) × Bytes)
  | b :: rest =>
    if b = byte 'e' ∨ b = byte 'E' then
      let (down, rest) := scanSign rest
      match scanDigits rest with
      | ([], _) => none
      | (digits, after) => some (some (down, digits), after)
    else some (none, b :: rest)
  | [] => some (none, [])

/-- A number after its sign. -/
def scanNumber (negative : Bool) (bytes : Bytes) : Option (Document × Bytes) :=
  match scanDigits bytes with
  | ([], _) => none
  | (0 :: _ :: _, _) => none
  | (whole, rest) => do
    let (fraction, rest) ← scanFraction rest
    let (exponent, rest) ← scanExponent rest
    some (.number (Json.Numeral.value? ⟨negative, whole, fraction, exponent⟩), rest)

mutual

/-- The value at the start of the bytes, and the rest. -/
def scanValue : (fuel : Nat) → Bytes → Option (Document × Bytes)
  | 0, _ => none
  | _, [] => none
  | fuel + 1, b :: rest =>
    if b = byte '"' then (scanText (some []) rest).map fun (s, rest) => (.text s, rest)
    else if b = byte '[' then
      match skipBlanks rest with
      | [] => none
      | c :: after =>
        if c = byte ']' then some (.array [], after)
        else (scanItems fuel (c :: after)).map fun (items, rest) => (.array items, rest)
    else if b = byte '\x7b' then
      match skipBlanks rest with
      | [] => none
      | c :: after =>
        if c = byte '\x7d' then some (.object [], after)
        else (scanFields fuel (c :: after)).map fun (fields, rest) => (.object fields, rest)
    else if b = byte '-' then scanNumber true rest
    else if (digit? b).isSome then scanNumber false (b :: rest)
    else if b = byte 'n' then (expect? "ull".toList rest).map fun rest => (.null, rest)
    else if b = byte 't' then (expect? "rue".toList rest).map fun rest => (.bool true, rest)
    else if b = byte 'f' then (expect? "alse".toList rest).map fun rest => (.bool false, rest)
    else none

/-- The items of an array up to its end. -/
def scanItems : (fuel : Nat) → Bytes → Option (List Document × Bytes)
  | 0, _ => none
  | fuel + 1, bytes =>
    match scanValue fuel bytes with
    | none => none
    | some (item, rest) =>
      match skipBlanks rest with
      | [] => none
      | c :: after =>
        if c = byte ',' then
          (scanItems fuel (skipBlanks after)).map fun (items, rest) => (item :: items, rest)
        else if c = byte ']' then some ([item], after)
        else none

/-- The fields of an object up to its end. -/
def scanFields : (fuel : Nat) → Bytes → Option (List (Option String × Document) × Bytes)
  | 0, _ => none
  | _, [] => none
  | fuel + 1, b :: rest =>
    if b = byte '"' then do
      let (name, rest) ← scanText (some []) rest
      let rest ← expect? [':'] (skipBlanks rest)
      let (value, rest) ← scanValue fuel (skipBlanks rest)
      match skipBlanks rest with
      | [] => none
      | c :: after =>
        if c = byte ',' then
          (scanFields fuel (skipBlanks after)).map fun (fields, rest) => ((name, value) :: fields, rest)
        else if c = byte '\x7d' then some ([(name, value)], after)
        else none
    else none

end

/-- The document that the bytes write, with blanks around it. -/
def scan? (bytes : Bytes) : Option Document :=
  match scanValue (2 * bytes.length + 2) (skipBlanks bytes) with
  | some (document, rest) => if (skipBlanks rest).isEmpty then some document else none
  | none => none

/-- Reads a value of a type from bytes. -/
def read? {α : Type} (read : Document → Option α) (bytes : Bytes) : Option α := (scan? bytes).bind read

end ImageBatch.Document

namespace ImageBatch.Json

/-- The value that the bytes write. -/
def ofBytes? (bytes : Bytes) : Option Json := Document.read? (Document.toJson? Document.maxDepth) bytes

/-- The value that a text writes. -/
def ofText? (text : String) : Option Json := ofBytes? (Text.toBytes text)

end ImageBatch.Json
