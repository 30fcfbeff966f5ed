import ImageBatch.Text.Split
import ImageBatch.Url.Escape

/-!
The segments of a path: what stands between its slashes.

A segment of one point means the folder itself and is left out; one of two points means the folder above and
takes the segment before it away, unless that names a drive. Points may be written as `%2e`.
-/

namespace ImageBatch.Url

/-- The kinds of schemes. -/
inductive SchemeKind where
  /-- Hosts are looked up, and a backslash counts as a slash. -/
  | network
  /-- Files, on this machine or on another. -/
  | file
  | other
deriving DecidableEq, Repr

/-- A backslash counts as a slash. -/
def SchemeKind.isSpecial (kind : SchemeKind) : Bool := kind != .other

def SchemeKind.isSlash (kind : SchemeKind) (c : Char) : Bool := c == '/' || (kind.isSpecial && c == '\\')

/-- A letter and a colon or a bar, at the start of a text or alone before one of these. -/
def startsWithDrive : List Char → Bool
  | letter :: sign :: rest =>
    letter.isAlpha && (sign == ':' || sign == '|') && rest.head?.all (['/', '\\', '?', '#'].contains ·)
  | _ => false

/-- A letter and a colon or a bar. -/
def isDrive (segment : List Char) : Bool := segment.length == 2 && startsWithDrive segment

/-- A segment that means the folder itself. -/
def isHere (segment : List Char) : Bool := [".", "%2e"].contains (String.ofList (segment.map Char.toLower))

/-- A segment that means the folder above. -/
def isUp (segment : List Char) : Bool :=
  ["..", ".%2e", "%2e.", "%2e%2e"].contains (String.ofList (segment.map Char.toLower))

/-- The segments without the last, unless it names a drive; the last comes first. -/
def stepUp : (above : List (List Char)) → List (List Char)
  | [] => []
  | last :: rest => if startsWithDrive (last ++ ['/']) then last :: rest else rest

/-- The segments with the points resolved; `above` holds those before, the last of them first. -/
def resolvePoints (above : List (List Char)) : List (List Char) → List (List Char)
  | [] => above.reverse
  | [last] =>
    if isUp last then ([] :: stepUp above).reverse
    else if isHere last then ([] :: above).reverse
    else (last :: above).reverse
  | segment :: rest =>
    if isUp segment then resolvePoints (stepUp above) rest
    else if isHere segment then resolvePoints above rest
    else resolvePoints (segment :: above) rest

/-- Segments, each after a slash. -/
def joinSegments (segments : List (List Char)) : List Char := segments.flatMap fun segment => '/' :: segment

/-- The segments after the first slash of a path, escaped and resolved. -/
def readSegments (kind : SchemeKind) (cs : List Char) : List (List Char) :=
  resolvePoints [] ((Text.splitOn kind.isSlash cs).map (escape escapedInPath))

/-- Segments of a path to a file: a drive at the start is written with a colon, and there are no empty segments
at the start. -/
def fileSegments (segments : List (List Char)) : List (List Char) :=
  let driven := match segments with
    | [letter, '|'] :: rest => if letter.isAlpha then [letter, ':'] :: rest else segments
    | _ => segments
  match driven.dropWhile List.isEmpty with
  | [] => [[]]
  | named => named

end ImageBatch.Url
