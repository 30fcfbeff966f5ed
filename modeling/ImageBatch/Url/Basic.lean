import ImageBatch.Number.Natural
import ImageBatch.Url.Host
import ImageBatch.Url.Segments

/-!
Absolute addresses, after the URL standard.

Blanks and controls at the ends, and tabs and line ends anywhere, are dropped. What follows depends on the
scheme: those of the network have a host, a backslash counts as a slash there, and all of them but those with
a bare path have their points resolved. Characters that may not stand in a part are written as their bytes in
hexadecimal.
-/

namespace ImageBatch

/-- Who is asked, and as whom. -/
structure Authority where
  /-- The name of a user, escaped; empty if there is none. -/
  user : String
  /-- Their password, in the same way. -/
  password : String
  host : Host
  /-- The number after a colon; missing where it is the scheme's own. -/
  portNumber : Option Nat
deriving DecidableEq, Repr

/-- An absolute address. -/
structure Url where
  scheme : String
  authority : Option Authority
  path : String
  query : Option String
  fragment : Option String
deriving DecidableEq, Repr

namespace Authority

/-- No user and no host. -/
def empty : Authority := ⟨"", "", .name "", none⟩

def hasUser (a : Authority) : Bool := a.user != "" || a.password != ""

def hasHost (a : Authority) : Bool := a.host != .name ""

def text (a : Authority) : String :=
  (if a.hasUser then a.user ++ (if a.password = "" then "" else ":" ++ a.password) ++ "@" else "") ++
    a.host.text ++
    match a.portNumber with
    | some number => ":" ++ toString number
    | none => ""

/-- The user and the password can be read as texts, as far as they are given. -/
def isReadable (a : Authority) : Bool :=
  (Url.unescaped? a.user).isSome &&
    (a.user != "" || (a.password != "" && (Url.unescaped? a.password).isSome))

end Authority

namespace Url

/-- The kind of a scheme. -/
def kindOf (scheme : String) : SchemeKind :=
  if scheme = "file" then .file
  else if ["http", "https", "ws", "wss", "ftp"].contains scheme then .network
  else .other

/-- The number that a scheme's hosts are asked at. -/
def usualNumber? (scheme : String) : Option Nat :=
  if scheme = "http" ∨ scheme = "ws" then some 80
  else if scheme = "https" ∨ scheme = "wss" then some 443
  else if scheme = "ftp" then some 21
  else none

/-! ### Reading -/

/-- The characters that count: no blanks and controls at the ends, no tabs and line ends. -/
def clean (text : String) : List Char :=
  let isEdge (c : Char) : Bool := c.toNat ≤ 0x20
  let trimmed := ((text.toList.dropWhile isEdge).reverse.dropWhile isEdge).reverse
  trimmed.filter fun c => c != '\t' && c != '\n' && c != '\r'

/-- A character that may stand in a scheme after its first letter. -/
def isSchemeChar (c : Char) : Bool := c.isAlphanum || ['+', '-', '.'].contains c

/-- The scheme in small letters, and what follows its colon. -/
def readScheme? (cs : List Char) : Option (String × List Char) :=
  let scheme := cs.takeWhile isSchemeChar
  match cs.head?.filter Char.isAlpha, cs.drop scheme.length with
  | some _, ':' :: rest => some (String.ofList (scheme.map Char.toLower), rest)
  | _, _ => none

/-- The characters before a query or a fragment, and the two, escaped. -/
def splitTail (kind : SchemeKind) (cs : List Char) : List Char × Option String × Option String :=
  let escapedHere (c : Char) : Bool := escapedInQuery c || (kind.isSpecial && c == '\'')
  let fragment := match cs.dropWhile (· != '#') with
    | [] => none
    | _ :: rest => some (String.ofList (escape escapedInFragment rest))
  let whole := cs.takeWhile (· != '#')
  let query := match whole.dropWhile (· != '?') with
    | [] => none
    | _ :: rest => some (String.ofList (escape escapedHere rest))
  (whole.takeWhile (· != '?'), query, fragment)

/-- A host, up to the colon that ends it; colons in brackets belong to it. -/
def takeHost (inBrackets : Bool) : List Char → List Char
  | [] => []
  | c :: rest =>
    if c == ':' && !inBrackets then []
    else c :: takeHost (if c == '[' then true else if c == ']' then false else inBrackets) rest

/-- The number after a colon, and what follows its digits. -/
def readPortNumber? (scheme : String) (cs : List Char) : Option (Option Nat × List Char) :=
  let digits := cs.takeWhile Char.isDigit
  let rest := cs.drop digits.length
  if rest.head?.any (· != '\\') then none
  else if digits.isEmpty then some (none, rest)
  else do
    let number ← (Natural.readDigits 0 digits).filter (· ≤ 65535)
    return (if usualNumber? scheme = some number then none else some number, rest)

/-- What stands before the last `@`, if there is one, and what stands after it. -/
def splitUser (cs : List Char) : Option (List Char) × List Char :=
  let host := (cs.reverse.takeWhile (· != '@')).reverse
  (if host.length < cs.length then some (cs.take (cs.length - host.length - 1)) else none, host)

/-- The user, the host and the number between two slashes and the path; `isLast` says that nothing follows
them. After them comes what belongs to the path though no slash begins it. -/
def readAuthority? (scheme : String) (isLast : Bool) (cs : List Char) : Option (Authority × List Char) := do
  let kind := kindOf scheme
  let (before, after) := splitUser cs
  let user := (before.getD []).takeWhile (· != ':')
  let password := (before.getD []).drop (user.length + 1)
  let hostChars := takeHost false after
  let host ← if kind.isSpecial then Host.read? hostChars else Host.readAny? hostChars
  let (number, rest) ← match after.drop hostChars.length with
    | [] => pure (none, [])
    | _ :: digits => if hostChars.isEmpty then none else readPortNumber? scheme digits
  let authority : Authority := ⟨String.ofList (escape escapedInUser user),
    String.ofList (escape escapedInUser password), host, number⟩
  let lacksHost := after.isEmpty && ((before == some [] && !isLast) || authority.hasUser)
  if lacksHost then none else return (authority, rest)

/-- A user, a host and a number, and the path after them; `isLast` says that nothing follows the path. -/
def readHierarchy? (scheme : String) (isLast : Bool) (cs : List Char) : Option (Authority × String) := do
  let kind := kindOf scheme
  let chars := cs.takeWhile (!kind.isSlash ·)
  let path := cs.drop chars.length
  let (authority, rest) ← readAuthority? scheme (isLast && path.isEmpty) chars
  let path := rest ++ path
  if path.isEmpty && !kind.isSpecial then return (authority, "")
  let inner := if path.head?.any kind.isSlash then path.drop 1 else path
  return (authority, String.ofList (joinSegments (readSegments kind inner)))

/-- The host and the path of a file. A drive at the start of the path leaves no host. -/
def readFile? (cs : List Char) : Option (Authority × String) := do
  let isSlash := SchemeKind.file.isSlash
  let slashes := (cs.take 2).takeWhile isSlash
  let rest := cs.drop slashes.length
  let hostChars := if slashes.length < 2 then [] else rest.takeWhile (!isSlash ·)
  let hasDrive := isDrive hostChars
  let host ←
    if hostChars.isEmpty || hasDrive then some (Host.name "") else Host.read? hostChars
  let path := if hasDrive then rest else rest.drop hostChars.length
  let inner := if slashes.length = 2 && path.head?.any isSlash then path.drop 1 else path
  let segments := readSegments .file inner
  let host := if host = .name "localhost" || segments.head?.any isDrive then .name "" else host
  return ({ Authority.empty with host }, String.ofList (joinSegments (fileSegments segments)))

/-- Reads an absolute address. -/
def ofText? (text : String) : Option Url := do
  let (scheme, rest) ← readScheme? (clean text)
  let kind := kindOf scheme
  let (rest, query, fragment) := splitTail kind rest
  let isLast := query.isNone && fragment.isNone
  match kind, rest with
  | .file, _ =>
    let (authority, path) ← readFile? rest
    return ⟨scheme, some authority, path, query, fragment⟩
  | .network, _ =>
    let (authority, path) ← readHierarchy? scheme isLast (rest.dropWhile kind.isSlash)
    return ⟨scheme, some authority, path, query, fragment⟩
  | .other, '/' :: '/' :: rest =>
    let (authority, path) ← readHierarchy? scheme isLast rest
    return ⟨scheme, some authority, path, query, fragment⟩
  | .other, '/' :: rest =>
    return ⟨scheme, none, String.ofList (joinSegments (readSegments kind rest)), query, fragment⟩
  | .other, _ => return ⟨scheme, none, String.ofList (escape isOutside rest), query, fragment⟩

/-! ### Parts -/

def hasHost (url : Url) : Bool := url.authority.any Authority.hasHost

/-- The address without the user and the password, if they can be read. -/
def withoutUser (url : Url) : Url :=
  { url with authority := url.authority.map fun a =>
      if a.isReadable then { a with user := "", password := "" } else a }

/-- A character of a form as it is sent. -/
def formChar (c : Char) : List Char :=
  if c.isAlphanum ∨ ['*', '-', '.', '_'].contains c then [c]
  else if c = ' ' then ['+']
  else percentChar c

/-- The fields of a form as a query. -/
def formQuery (fields : List (String × String)) : String :=
  "&".intercalate (fields.map fun (name, value) =>
    String.ofList (name.toList.flatMap formChar ++ '=' :: value.toList.flatMap formChar))

/-- The address with the fields of a form added to its query. -/
def withForm (url : Url) (fields : List (String × String)) : Url :=
  { url with query := some (match url.query with
      | some q => if q = "" then formQuery fields else q ++ "&" ++ formQuery fields
      | none => formQuery fields) }

/-- The path and query that a request asks for. -/
def target (url : Url) : String :=
  url.path ++ match url.query with
    | some q => "?" ++ q
    | none => ""

/-- The address in full. A path that begins with two slashes is kept apart from a host by a point. -/
def text (url : Url) : String :=
  url.scheme ++ ":" ++
    (match url.authority with
      | some authority => "//" ++ authority.text
      | none => if ['/', '/'].isPrefixOf url.path.toList then "/." else "") ++
    url.target ++
    match url.fragment with
    | some fragment => "#" ++ fragment
    | none => ""

/-- The longest address that can be asked for, in bytes. -/
def longest : Nat := 65534

/-- A request can ask for it: it is of the web, not too long, and no sign stands in its host that requests
cannot name. -/
def isAskable (url : Url) : Bool :=
  (url.scheme = "http" || url.scheme = "https") && url.text.utf8ByteSize ≤ longest &&
    url.authority.any fun a => !a.host.text.toList.any (['"', '\x60', '\x7b', '\x7d'].contains ·)

end Url

end ImageBatch
