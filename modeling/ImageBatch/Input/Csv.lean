import ImageBatch.Text.Utf8

/-!
Tables of comma-separated values.

A record ends with a carriage return, a line feed or both; empty lines are no records. A field that begins
with a quote goes up to the next quote that is not doubled, and what stands after that quote is part of the
field as it is. A byte order mark at the start is skipped.
-/

namespace ImageBatch.Csv

/-- Where in a table a byte is read. -/
inductive Place where
  | betweenRecords
  | fieldStart
  | plain
  | quoted
  /-- After a quote in a quoted field: the field's end, or the first half of a doubled quote. -/
  | afterQuote
deriving DecidableEq, Repr

def comma : UInt8 := 0x2c
def quote : UInt8 := 0x22

def isLineEnd (b : UInt8) : Bool := b == 0x0a || b == 0x0d

/-- A byte outside quotes: the place after it, and whether it belongs to the field. -/
inductive Effect where
  | keep (next : Place)
  | skip (next : Place)
  | endField
  | endRecord
deriving DecidableEq, Repr

/-- What a byte does outside quotes. -/
def outside (b : UInt8) : Effect :=
  if b = comma then .endField else if isLineEnd b then .endRecord else .keep .plain

/-- What a byte does at a place. -/
def effect (place : Place) (b : UInt8) : Effect :=
  match place with
  | .betweenRecords =>
    if isLineEnd b then .skip .betweenRecords else if b = quote then .skip .quoted else outside b
  | .fieldStart => if b = quote then .skip .quoted else outside b
  | .plain => outside b
  | .quoted => if b = quote then .skip .afterQuote else .keep .quoted
  | .afterQuote => if b = quote then .keep .quoted else outside b

/-- The records of the bytes that follow: `field` holds the bytes of the present field and `fields` the
fields of the present record, both latest first. -/
def readFrom (place : Place) (field : Bytes) (fields : List Bytes) : Bytes → List (List Bytes)
  | [] => if place = .betweenRecords then [] else [(field.reverse :: fields).reverse]
  | b :: rest =>
    match effect place b with
    | .keep next => readFrom next (b :: field) fields rest
    | .skip next => readFrom next field fields rest
    | .endField => readFrom .fieldStart [] (field.reverse :: fields) rest
    | .endRecord => (field.reverse :: fields).reverse :: readFrom .betweenRecords [] [] rest

/-- The bytes after a byte order mark, if there is one. -/
def withoutMark : Bytes → Bytes
  | 0xef :: 0xbb :: 0xbf :: rest => rest
  | bytes => bytes

/-- The records of a table. -/
def records (bytes : Bytes) : List (List Bytes) := readFrom .betweenRecords [] [] (withoutMark bytes)

end ImageBatch.Csv
