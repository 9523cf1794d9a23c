import DebugAdapter.Net.DomainName
import DebugAdapter.Net.IpAddress

/-!
# Hosts in URLs

A host is a long address in brackets, a short address, or a domain name. A
name whose last label is a number has to be a short address. Its numbers may
be octal or hexadecimal, and the last one may stand for several octets.
-/

namespace DebugAdapter.HostName

def number? (cs : List Char) : Option Nat :=
  let (radix, ds) := match cs with
    | '0' :: 'x' :: rest => (16, rest)
    | '0' :: d :: rest => (8, d :: rest)
    | cs => (10, cs)
  match IpAddress.digits radix ds with
  | (values, []) => if cs = [] then none else some (IpAddress.digitsValue radix values)
  | _ => none

/-- The parts of a name; a dot at the end does not count. -/
def parts (name : List Char) : List (List Char) :=
  let pieces := (String.ofList name).splitOn "." |>.map String.toList
  match pieces.reverse with
  | [] :: rest@(_ :: _) => rest.reverse
  | _ => pieces

def endsInNumber (name : List Char) : Bool :=
  match (parts name).getLast? with
  | none | some [] => false
  | some final => final.all Char.isDigit || (number? final).isSome

/-- The numbers before the last one are octets; the last one fills the rest. -/
def isShortAddress (name : List Char) : Bool :=
  match ((parts name).mapM number?).map List.reverse with
  | some (final :: octets) =>
    octets.length ≤ 3 && octets.all (· ≤ 255) && final < Nat.pow 256 (4 - octets.length)
  | _ => false

/-- Is a text that starts with a bracket a long address in brackets? -/
def isLongAddress : List Char → Bool
  | '[' :: rest =>
    rest.getLast? = some ']' &&
      (match IpAddress.v6? rest.dropLast with
        | some (_, []) => true
        | _ => false)
  | _ => false

/-- The plain form of a host, none if it cannot be one. -/
def normal? (host : List Char) : Option (List Char) := do
  let name ← DomainName.normal? host
  if name = [] then none
  else if endsInNumber name && !isShortAddress name then none
  else some name

end DebugAdapter.HostName
