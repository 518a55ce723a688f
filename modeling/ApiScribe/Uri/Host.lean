import ApiScribe.Uri.Address
import ApiScribe.Uri.Domain
import ApiScribe.Uri.Error
import ApiScribe.Uri.Percent

/-!
# Hosts

The host of a special scheme is a domain or an address, and is brought into its normal form. The
host of any other scheme is kept as it is written. Domains have ASCII characters only; characters
outside ASCII are refused.
-/

namespace ApiScribe.Uri

/-- The address between brackets, in brackets. -/
def bracketed (cs : List Char) : Except UriError String :=
  if cs.getLast? = some ']' then
    match ipv6? cs.dropLast with
    | some pieces => .ok ("[" ++ ipv6Text pieces ++ "]")
    | none => .error .invalidIpv6
  else .error .invalidIpv6

/-- Whether a character may not stand in a domain. -/
def isForbiddenInDomain (c : Char) : Bool :=
  0x80 ≤ c.toNat || controlSet c ||
    [' ', '%', '#', '/', ':', '<', '>', '?', '@', '[', '\\', ']', '^', '|'].contains c

/-- The host of a special scheme: percent-decoded and in small letters, an IPv4 address if it ends
in a number. -/
def specialHost : List Char → Except UriError String
  | '[' :: rest => bracketed rest
  | cs =>
    let host := (decode cs).map fun b ↦ (Char.ofNat b.toNat).toLower
    if host.any isForbiddenInDomain then .error .invalidDomain
    else if !isDomain host then .error .invalidDomain
    else if host.isEmpty then .error .emptyHost
    else if endsInNumber host then
      match ipv4? host with
      | some n => .ok (ipv4Text n)
      | none => .error .invalidIpv4
    else .ok (String.ofList host)

/-- Whether a character may not stand in the host of a scheme that is not special. -/
def isForbiddenInHost (c : Char) : Bool :=
  ['\x00', '\t', '\n', '\r', ' ', '#', '/', ':', '<', '>', '?', '@', '[', '\\', ']', '^',
    '|'].contains c

/-- The host of a scheme that is not special. -/
def plainHost : List Char → Except UriError String
  | '[' :: rest => bracketed rest
  | cs =>
    if cs.any isForbiddenInHost then .error .invalidHostChar
    else .ok (String.ofList (encode controlSet cs))

/-- The number of characters of a host: up to a colon outside brackets, or the end of the
authority. -/
def hostLength (isEnd : Char → Bool) : Bool → List Char → Nat
  | _, [] => 0
  | inBrackets, c :: rest =>
    if isEnd c || (c == ':' && !inBrackets) then 0
    else if c = '[' then hostLength isEnd true rest + 1
    else if c = ']' then hostLength isEnd false rest + 1
    else hostLength isEnd inBrackets rest + 1

end ApiScribe.Uri
