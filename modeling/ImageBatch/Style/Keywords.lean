import ImageBatch.Text.Blank
import ImageBatch.Text.Split

/-!
Keywords as users write them: between slashes in one cell, or over the lines of a text.
-/

namespace ImageBatch.Keywords

/-- The keywords of a cell: what stands between slashes, without blanks around it, if anything is left. -/
def ofCellChars (cell : List Char) : List (List Char) :=
  ((Text.splitOn (· == '/') cell).map Text.trimChars).filter fun keyword => !keyword.isEmpty

/-- The keywords of a cell. -/
def ofCell (cell : String) : List String := (ofCellChars cell.toList).map String.ofList

/-- The keywords of a text: the cells between commas on each line. -/
def ofTextChars (text : List Char) : List (List Char) :=
  ((Text.lines text).flatMap fun line =>
    (Text.splitOn (· == ',') line).flatMap ofCellChars).eraseDups

/-- The keywords of a text, each one where it first stands. -/
def ofText (text : String) : List String := (ofTextChars text.toList).map String.ofList

end ImageBatch.Keywords
