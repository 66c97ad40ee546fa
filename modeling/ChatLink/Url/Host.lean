import ChatLink.Text.Utf8
import ChatLink.Url.Fault
import ChatLink.Url.Ipv4
import ChatLink.Url.Ipv6
import ChatLink.Url.Label
import ChatLink.Url.Percent

/-!
# Hosts

A host is a name or an address. A name is written in lower case, without percent signs; names
that end in a number are read as IPv4 addresses. An IPv6 address stands in brackets.
-/

namespace ChatLink.Url

open ChatLink.Text

/-- Where a server is. -/
inductive Host where
  | name (text : String)
  | ipv4 (address : Nat)
  | ipv6 (pieces : List Nat)
  deriving DecidableEq, Repr

namespace Host

/-- The written form of a host. -/
def text : Host → String
  | name t => t
  | ipv4 address => Ipv4.text address
  | ipv6 pieces => "[" ++ Ipv6.text pieces ++ "]"

/-- The characters that no host name holds. -/
def isForbidden (c : Char) : Bool :=
  c.toNat ≤ 0x20 || c.toNat == 0x7f
    || ['#', '%', '/', ':', '<', '>', '?', '@', '[', '\\', ']', '^', '|'].contains c

/-- The bytes of some characters. -/
def bytes (cs : List Char) : List UInt8 := Utf8.encode cs

/-- An address in brackets, from its first bracket on. -/
def bracketed (cs : List Char) : Except Fault Host :=
  if cs.getLast? = some ']' then
    match Ipv6.address? (bytes (cs.tail.dropLast)) with
    | some pieces => .ok (.ipv6 pieces)
    | none => .error .ipv6
  else .error .ipv6

/-- A host name in lower case, if it is in ASCII, holds nothing forbidden, and its labels are in
order. -/
def asciiName? (cs : List Char) : Option (List Char) := do
  let decoded ← Utf8.decode? (Percent.decode (bytes cs))
  let lower := decoded.toList.map Char.toLower
  if lower.all (fun c => c.toNat < 0x80 && !isForbidden c)
      && Label.areInOrder (lower.splitOn '.') then
    some lower
  else none

/-- The host of an address on the web. -/
def parse (cs : List Char) : Except Fault Host :=
  if cs.head? = some '[' then bracketed cs
  else
    match asciiName? cs with
    | none => .error .domain
    | some [] => .error .emptyHost
    | some lower =>
      if Ipv4.endsInNumber (bytes lower) then
        match Ipv4.address? (bytes lower) with
        | some address => .ok (.ipv4 address)
        | none => .error .ipv4
      else .ok (.name (String.ofList lower))

/-- The characters that the host of an unknown kind of address cannot hold. -/
def isForbiddenForeign (c : Char) : Bool :=
  [0x00, 0x09, 0x0a, 0x0d, 0x20].contains c.toNat
    || ['#', '/', ':', '<', '>', '?', '@', '[', '\\', ']', '^', '|'].contains c

/-- The host of an address of an unknown kind, which is not looked into. -/
def parseForeign (cs : List Char) : Except Fault Host :=
  if cs.head? = some '[' then bracketed cs
  else if cs.any isForbiddenForeign then .error .domainCharacter
  else .ok (.name (Percent.encode Percent.isControl cs))

end Host

end ChatLink.Url
