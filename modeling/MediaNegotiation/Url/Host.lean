import MediaNegotiation.Domain.Name
import MediaNegotiation.Url.Address
import MediaNegotiation.Url.Fault
import MediaNegotiation.Url.Percent

/-!
# Hosts

A host is a name or a numeric address. A web URL and a file URL name their host by a host name; in a
URL of another scheme the name of the host has no meaning of its own and is kept as it stands. The
rules are those of the package `url`.

Results:
* `readHost_bracketed`, `readKeptHost_bracketed`: what stands in brackets is an address of 128 bits,
  whatever the scheme.
-/

namespace MediaNegotiation.Url

/-- The host of a URL. -/
inductive Host
  | name (text : List Char)
  | ipv4 (address : Nat)
  | ipv6 (pieces : List Nat)
  deriving DecidableEq, Repr

/-- The written form of a host. -/
def Host.toText : Host → List Char
  | .name text => text
  | .ipv4 address => writeIpv4 address
  | .ipv6 pieces => '[' :: writeIpv6 pieces ++ [']']

/-- The host that has no name. -/
def Host.nameless : Host := .name []

/-- Reads an address in brackets, of which the opening one has been read. -/
def readBracketed (s : List Char) : Except UrlFault Host :=
  match s.getLast? with
  | some ']' =>
    match readIpv6 s.dropLast with
    | some pieces => .ok (.ipv6 pieces)
    | none => .error .invalidIpv6
  | _ => .error .invalidIpv6

/-- Reads a host name, with percent encodings undone. One that ends in a number has to be an address
of 32 bits. -/
def readName (s : List Char) : Except UrlFault Host :=
  match (decode s).bind Domain.toAscii with
  | none => .error .invalidName
  | some [] => .error .emptyHost
  | some name =>
    if endsInNumber name then
      match readIpv4 name with
      | some address => .ok (.ipv4 address)
      | none => .error .invalidIpv4
    else .ok (.name name)

/-- Reads the host of a web URL or a file URL. -/
def readHost : List Char → Except UrlFault Host
  | '[' :: rest => readBracketed rest
  | s => readName s

/-- The characters that a host which is kept as it stands may not have. -/
def hostForbidden : List Char :=
  ['\x00', '\t', '\n', '\r', ' ', '#', '/', ':', '<', '>', '?', '@', '[', '\\', ']', '^', '|']

/-- Reads the host of a URL of another scheme. -/
def readKeptHost : List Char → Except UrlFault Host
  | '[' :: rest => readBracketed rest
  | s =>
    if s.any hostForbidden.contains then .error .invalidHostCharacter
    else .ok (.name (encode [] s))

theorem readHost_bracketed (rest : List Char) : readHost ('[' :: rest) = readBracketed rest := rfl

theorem readKeptHost_bracketed (rest : List Char) :
    readKeptHost ('[' :: rest) = readBracketed rest := rfl

end MediaNegotiation.Url
