import ImageBatch.Url.Escape
import ImageBatch.Url.Ipv6
import ImageBatch.Url.Name

/-!
Hosts: names, and addresses in numbers.
-/

namespace ImageBatch

inductive Host where
  /-- A name; it is empty where no host is given. -/
  | name (text : String)
  | ipv4 (address : Ipv4.Address)
  | ipv6 (address : Ipv6.Address)
deriving DecidableEq, Repr

namespace Host

def text : Host → String
  | .name text => text
  | .ipv4 address => Ipv4.text address
  | .ipv6 address => "[" ++ Ipv6.text address ++ "]"

/-- An address in brackets. -/
def readBracketed? (cs : List Char) : Option Host :=
  if cs.getLast? = some ']' then (Ipv6.read? (cs.drop 1).dropLast).map .ipv6 else none

/-- A host of a scheme whose hosts are looked up: its name is written in ASCII and is not empty. -/
def read? (cs : List Char) : Option Host :=
  if cs.head? = some '[' then readBracketed? cs
  else do
    let name ← HostName.toAscii? (← Url.unescaped? (String.ofList cs))
    if name.isEmpty then none
    else if Ipv4.isMeant name.toList then return .ipv4 (← Ipv4.read? name.toList)
    else return .name name

/-- A character that may not stand in any name. -/
def isForbidden (c : Char) : Bool :=
  ['\x00', '\t', '\n', '\r', ' ', '#', '/', ':', '<', '>', '?', '@', '[', '\\', ']', '^', '|'].contains c

/-- A host of any other scheme: its name stands as it is, with some characters written as bytes. -/
def readAny? (cs : List Char) : Option Host :=
  if cs.head? = some '[' then readBracketed? cs
  else if cs.any isForbidden then none
  else some (.name (String.ofList (Url.escape Url.isOutside cs)))

end Host

end ImageBatch
