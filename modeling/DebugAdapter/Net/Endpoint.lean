import DebugAdapter.Net.IpAddress

/-!
# Endpoints

An address with a port, as listeners are bound to. A long address stands in
brackets; the number of its zone, if it has one, follows a percent sign.
-/

namespace DebugAdapter

structure Endpoint where
  address : IpAddress
  port : Nat
  /-- The zone of a long address, zero for none. -/
  zone : Nat
  deriving Repr, DecidableEq

/-- The endpoint of an address without a zone. -/
def IpAddress.withPort (address : IpAddress) (port : Nat) : Endpoint := ⟨address, port, 0⟩

namespace Endpoint

-- ---------------------------------------------------------------------------
-- Reading
-- ---------------------------------------------------------------------------

/-- A decimal number up to a limit; leading zeros do not count. -/
def number? (limit : Nat) (cs : List Char) : Option (Nat × List Char) :=
  let (ds, rest) := IpAddress.digits 10 cs
  let n := IpAddress.digitsValue 10 ds
  if ds.isEmpty || limit < n then none else some (n, rest)

def port? : List Char → Option Nat
  | ':' :: rest =>
    match number? 65535 rest with
    | some (n, []) => some n
    | _ => none
  | _ => none

/-- The zone of a long address, zero if none is named. -/
def zone? : List Char → Option (Nat × List Char)
  | '%' :: rest => number? 4294967295 rest
  | rest => some (0, rest)

def ofChars? : List Char → Option Endpoint
  | '[' :: rest => do
    let (address, rest) ← IpAddress.v6? rest
    match ← zone? rest with
    | (zone, ']' :: rest) => return ⟨address, ← port? rest, zone⟩
    | _ => none
  | cs => do
    let (address, rest) ← IpAddress.v4? cs
    return address.withPort (← port? rest)

def parse? (text : String) : Option Endpoint := ofChars? text.toList

-- ---------------------------------------------------------------------------
-- Writing
-- ---------------------------------------------------------------------------

def zoneText (zone : Nat) : String := if zone = 0 then "" else "%" ++ Decimal.digitsText zone

def hostText (e : Endpoint) : String :=
  match e.address with
  | .v4 .. => e.address.text
  | .v6 _ => "[" ++ e.address.text ++ zoneText e.zone ++ "]"

def text (e : Endpoint) : String := e.hostText ++ ":" ++ Decimal.digitsText e.port

end Endpoint

end DebugAdapter
