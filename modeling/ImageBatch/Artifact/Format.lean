import ImageBatch.Text.Utf8

/-!
Image formats, told from the first bytes of a file.
-/

namespace ImageBatch

/-- The formats that become artifacts. -/
inductive ImageFormat where
  | png
  | jpeg
  | webp
deriving DecidableEq, Repr

namespace ImageFormat

def extension : ImageFormat → String
  | .png => "png"
  | .jpeg => "jpg"
  | .webp => "webp"

/-- The format that the bytes begin like. -/
def ofBytes? (bytes : Bytes) : Option ImageFormat :=
  if [0x89, 0x50, 0x4e, 0x47, 0x0d, 0x0a, 0x1a, 0x0a].isPrefixOf bytes then some .png
  else if [0xff, 0xd8, 0xff].isPrefixOf bytes then some .jpeg
  else if (Text.toBytes "RIFF").isPrefixOf bytes ∧ (Text.toBytes "WEBP").isPrefixOf (bytes.drop 8) then
    some .webp
  else none

end ImageFormat

end ImageBatch
