import PathRouter.Address.Ipv6
import PathRouter.Percent
import PathRouter.Url.Domain
import PathRouter.Url.Kind

/-!
Which texts are hosts. An address in brackets is of version 6; elsewhere a web address has a domain name,
or an address of version 4 if the name ends in a number.
-/

namespace PathRouter.Url.Host

def bracketed? : List Char → Option (List Char)
  | '[' :: rest => if rest.getLast? = some ']' then some rest.dropLast else none
  | _ => none

def domain? (name : List Char) : Option (List Char) :=
  (Utf8.decode? (Percent.unescape (Utf8.encode name))).bind Domain.fold

def isLocal (name : List Char) : Bool :=
  domain? name = some "localhost".toList

def isDomain (name : List Char) : Bool :=
  match domain? name with
  | none => false
  | some folded => !folded.isEmpty && (!Address.Ipv4.endsInNumber folded || Address.Ipv4.isLenient folded)

def isForbidden (c : Char) : Bool :=
  c ∈ ['\x00', '\t', '\n', '\r', ' ', '#', '/', ':', '<', '>', '?', '@', '[', '\\', ']', '^', '|']

def isHost (kind : Kind) (text : List Char) : Bool :=
  if text.head? = some '[' then
    match bracketed? text with
    | some address => Address.Ipv6.isAddress address
    | none => false
  else
    match kind with
    | .other => text.all fun c => !isForbidden c
    | _ => isDomain text

end PathRouter.Url.Host
