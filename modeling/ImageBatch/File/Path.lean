import ImageBatch.Text.Split

/-!
Paths as they are written.

A path is a text whose parts stand between slashes. `components` forgets how often a slash was written and
where a single point stood, except at the start; two paths with the same components are equal as sets of
paths count them. `fileName?`, `stem?`, `extension?` and `parent?` look at the last component.
-/

namespace ImageBatch

/-- A path as it is written. -/
structure Path where
  text : String
deriving DecidableEq, Repr, Inhabited

namespace Path

/-- A part of a path. -/
inductive Component where
  | root
  | here
  | up
  | name (text : String)
deriving DecidableEq, Repr

/-- The texts between slashes. -/
def segments (p : Path) : List String :=
  (Text.splitOn (· == '/') p.text.toList).map String.ofList

def isAbsolute (p : Path) : Bool := p.text.toList.head? == some '/'

/-- The component that a segment after the start is, if it is one. -/
def componentOf? (segment : String) : Option Component :=
  if segment = "" ∨ segment = "." then none
  else if segment = ".." then some .up
  else some (.name segment)

/-- The parts of a path. A point counts only as the first segment of all. -/
def components (p : Path) : List Component :=
  let start :=
    if p.isAbsolute then [.root]
    else if p.segments.head? = some "." then [.here]
    else []
  start ++ p.segments.filterMap componentOf?

/-- The same parts. -/
def sameAs (p q : Path) : Bool := p.components == q.components

/-- The path of `name` inside `p`; an absolute name stands for itself. -/
def join (p : Path) (name : String) : Path :=
  if (Path.mk name).isAbsolute then ⟨name⟩
  else if p.text = "" ∨ p.text.toList.getLast? = some '/' then ⟨p.text ++ name⟩
  else ⟨p.text ++ "/" ++ name⟩

/-- The last component, if it is a name. -/
def fileName? (p : Path) : Option String :=
  match p.components.getLast? with
  | some (.name s) => some s
  | _ => none

/-- What stands before the last point of a file name and what after it; a name without a point, or with one
only at its start, has no second part. -/
def splitName (name : String) : String × Option String :=
  let reversed := name.toList.reverse
  let after := reversed.takeWhile (· != '.')
  match reversed.drop after.length with
  | [] => (name, none)
  | [_] => (name, none)
  | _ :: before => (String.ofList before.reverse, some (String.ofList after.reverse))

/-- The file name up to its last point. -/
def stem? (p : Path) : Option String := p.fileName?.map fun n => (splitName n).1

/-- The file name after its last point. -/
def extension? (p : Path) : Option String := p.fileName?.bind fun n => (splitName n).2

/-- Drops trailing slashes and points, which are no components; the first segment stays. -/
def trimEnd : List String → List String
  | [] => []
  | [segment] => [segment]
  | segment :: rest =>
    match trimEnd rest with
    | [last] => if (componentOf? last).isSome then [segment, last] else [segment]
    | trimmed => segment :: trimmed

/-- The path of segments with slashes between them. -/
def ofSegments (segments : List String) : Path := ⟨"/".intercalate segments⟩

/-- The path without its last component; a path without components and the root have no parent. -/
def parent? (p : Path) : Option Path :=
  match p.components.getLast? with
  | none | some .root => none
  | some _ =>
    let kept := trimEnd (trimEnd p.segments).dropLast
    if p.isAbsolute ∧ kept.length ≤ 1 then some ⟨"/"⟩
    else some (ofSegments kept)

/-- The path with another extension; a path that does not end in a name stays as it is. -/
def withExtension (p : Path) (extension : String) : Path :=
  match p.stem? with
  | none => p
  | some stem =>
    ofSegments ((trimEnd p.segments).dropLast ++ [stem ++ "." ++ extension])

/-- A name without a slash, alone, is a path of one component. -/
def isSingle (p : Path) : Bool := p.components.length == 1

end Path

end ImageBatch
