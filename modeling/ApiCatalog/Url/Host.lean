import ApiCatalog.Url.Basic
import ApiCatalog.Url.Domain.Ascii
import ApiCatalog.Url.Ipv6

/-!
# Reading hosts

The host of a special scheme is an address or a domain; percent-encoded bytes in it are decoded first. The host
of any other scheme is an address of eight pieces in brackets, or a name that is kept as it is.
-/

namespace ApiCatalog.Url

def bracketedHost (inner : List Char) : Option Host :=
  if inner.getLast? = some ']' then (parseIpv6 inner.dropLast).map .ipv6 else none

def decodeUtf8 (bytes : List UInt8) : Option (List Char) :=
  (String.fromUTF8? ⟨bytes.toArray⟩).map String.toList

/-- Reads the host of a special scheme. -/
def parseSpecialHost (text : List Char) : Option Host :=
  match text with
  | '[' :: inner => bracketedHost inner
  | _ => do
    let domain ← Domain.toAscii (← decodeUtf8 (percentDecode text))
    if domain.isEmpty then none
    else if endsInNumber domain then (parseIpv4 domain).map .ipv4
    else some (.name (String.ofList domain))

def forbiddenHostChars : List Char :=
  ['\x00', '\t', '\n', '\r', ' ', '#', '/', ':', '<', '>', '?', '@', '[', '\\', ']', '^', '|']

/-- Reads the host of a scheme without special rules. -/
def parsePlainHost (text : List Char) : Option Host :=
  match text with
  | '[' :: inner => bracketedHost inner
  | _ =>
    if text.any forbiddenHostChars.contains then none
    else some (.name (String.ofList (percentEncode inControlSet text)))

end ApiCatalog.Url
