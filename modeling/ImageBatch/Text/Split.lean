/-!
Cutting a text at separators, into lines, and finding one text inside another.
-/

namespace ImageBatch.Text

/-- The stretches between separators; there is always one more stretch than separators. -/
def splitOn (isSeparator : Char → Bool) : List Char → List (List Char)
  | [] => [[]]
  | c :: rest =>
    if isSeparator c then [] :: splitOn isSeparator rest
    else
      match splitOn isSeparator rest with
      | [] => [[c]]
      | stretch :: more => (c :: stretch) :: more

/-- Without the carriage return at the end, if there is one. -/
def dropReturn (line : List Char) : List Char :=
  if line.getLast? = some '\r' then line.dropLast else line

/-- The lines of a text. A line ends before a line feed, or before a carriage return and a line feed; what
follows the last line feed is a line only if it is not empty. -/
def lines (cs : List Char) : List (List Char) :=
  let stretches := splitOn (· == '\n') cs
  let ended := stretches.dropLast.map dropReturn
  match stretches.getLast? with
  | none | some [] => ended
  | some last => ended ++ [last]

/-- `pattern` stands somewhere in `text`. -/
def hasInfix (pattern : List Char) : (text : List Char) → Bool
  | [] => pattern.isEmpty
  | c :: rest => pattern.isPrefixOf (c :: rest) || hasInfix pattern rest

/-- `pattern` stands somewhere in `text`. -/
def contains (text pattern : String) : Bool := hasInfix pattern.toList text.toList

/-- The texts with a comma and a space between them. -/
def commaJoin (texts : List String) : String := ", ".intercalate texts

end ImageBatch.Text
