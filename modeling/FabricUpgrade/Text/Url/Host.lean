import FabricUpgrade.Text.Domain
import FabricUpgrade.Text.Url.Address

/-!
# Hosts of URLs

The host of a URL is a numeric address or a name.  The schemes of the web have domain names; for any
other scheme a host is any text in which some characters may not stand.
-/

namespace FabricUpgrade.Text.Host

open Percent

/-- The host of a URL of the web. -/
def ofName? (host : List Char) : Option String := do
  let decoded ← (Utf8.decode (decode host)).toOption
  let name ← Domain.toAscii? decoded.toList
  if name.isEmpty then none
  else if Address4.isMeant name then return Address4.text (← Address4.parse? name)
  else return String.ofList name

/-- The characters that may not stand in the host of a scheme of another kind. -/
def isForbidden (character : Char) : Bool :=
  character ∈ ['\x00', '\t', '\n', '\r', ' ', '#', '/', ':', '<', '>', '?', '@', '[', '\\', ']',
    '^', '|']

/-- The host of a URL that is not one of the web. -/
def ofText? (host : List Char) : Option String :=
  if host.any isForbidden then none else some (String.ofList (encode inControlSet host))

/-- Reads a host; an address of eight pieces stands in brackets. -/
def parse? (isSpecial : Bool) (host : List Char) : Option String :=
  match host with
  | '[' :: inside =>
    if inside.getLast? = some ']' then
      (Address6.parse? inside.dropLast).map fun pieces => "[" ++ Address6.text pieces ++ "]"
    else none
  | host => if isSpecial then ofName? host else ofText? host

end FabricUpgrade.Text.Host
