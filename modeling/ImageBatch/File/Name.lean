import ImageBatch.File.Path

/-!
Names that may become part of a file name.
-/

namespace ImageBatch.FileName

/-- A control character in Unicode. -/
def isControl (c : Char) : Bool := c.toNat < 0x20 || (0x7f ≤ c.toNat && c.toNat < 0xa0)

/-- Characters that no id may hold: separators, the colon and controls. -/
def isForbidden (c : Char) : Bool := c == '/' || c == '\\' || c == ':' || isControl c

/-- An id that stays one part of a path: not empty, no point at its start, no forbidden character. -/
def isSafeId (id : String) : Bool :=
  match id.toList with
  | [] => false
  | first :: rest => first != '.' && !(first :: rest).any isForbidden

/-- A stem that, with an extension, names a file directly in a folder. -/
def isPlainStem (stem : String) : Bool :=
  stem != "" && stem != "." && stem != ".." && !stem.toList.any (fun c => c == '/' || c == '\\') &&
    (Path.mk stem).isSingle

end ImageBatch.FileName
