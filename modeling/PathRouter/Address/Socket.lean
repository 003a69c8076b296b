import PathRouter.Address.Ipv6

/-!
Socket addresses: an IPv4 address, or an IPv6 address in brackets, and a port.
-/

namespace PathRouter.Address.Socket

def isNumberBelow (bound : Nat) (text : List Char) : Bool :=
  !text.isEmpty && (Digits.numeral? 10 text).any (· < bound)

def isPort : List Char → Bool
  | ':' :: digits => isNumberBelow 0x10000 digits
  | _ => false

def isZoned (text : List Char) : Bool :=
  match text.dropWhile (· ≠ '%') with
  | [] => Ipv6.isAddress text
  | _ :: zone => Ipv6.isAddress (text.takeWhile (· ≠ '%')) && isNumberBelow 0x100000000 zone

def isAddress (text : List Char) : Bool :=
  match text with
  | '[' :: rest =>
    isZoned (rest.takeWhile (· ≠ ']')) && isPort ((rest.dropWhile (· ≠ ']')).drop 1)
  | _ => Ipv4.isDotted (text.takeWhile (· ≠ ':')) && isPort (text.dropWhile (· ≠ ':'))

end PathRouter.Address.Socket
