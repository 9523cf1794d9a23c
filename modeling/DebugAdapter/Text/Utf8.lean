/-!
# UTF-8

Text as bytes, bytes as text. Reading is strict (`decode?`) where a
malformed stream is an error, and lossy (`decodeLossy`) where bytes are only
shown: there every maximal ill-formed part becomes one replacement character.
-/

namespace DebugAdapter.Text

abbrev Bytes := List UInt8

def encode (s : String) : Bytes := s.toUTF8.data.toList

/-- The text of well-formed bytes. -/
def decode? (bytes : Bytes) : Option String := String.fromUTF8? ⟨bytes.toArray⟩

theorem fromUTF8?_toUTF8 (s : String) : String.fromUTF8? s.toUTF8 = some s := by
  unfold String.fromUTF8?
  rw [String.toUTF8_eq_toByteArray, dif_pos s.isValidUTF8]
  rfl

theorem decode?_encode (s : String) : decode? (encode s) = some s := by
  have h : (ByteArray.mk (encode s).toArray) = s.toUTF8 := by
    simp only [encode, Array.toArray_toList]
  rw [decode?, h, fromUTF8?_toUTF8]

-- ---------------------------------------------------------------------------
-- Lossy reading
-- ---------------------------------------------------------------------------

/-- How many continuation bytes follow a lead byte, and the range of the first. -/
def continuation? (lead : UInt8) : Option (Nat × UInt8 × UInt8) :=
  if lead < 0x80 then some (0, 0x80, 0xbf)
  else if lead < 0xc2 then none
  else if lead < 0xe0 then some (1, 0x80, 0xbf)
  else if lead = 0xe0 then some (2, 0xa0, 0xbf)
  else if lead = 0xed then some (2, 0x80, 0x9f)
  else if lead < 0xf0 then some (2, 0x80, 0xbf)
  else if lead = 0xf0 then some (3, 0x90, 0xbf)
  else if lead < 0xf4 then some (3, 0x80, 0xbf)
  else if lead = 0xf4 then some (3, 0x80, 0x8f)
  else none

/-- The longest run of at most `n` continuation bytes, the first within `lo`–`hi`. -/
def takeContinuation : Nat → UInt8 → UInt8 → Bytes → Bytes
  | 0, _, _, _ => []
  | _ + 1, _, _, [] => []
  | n + 1, lo, hi, b :: rest =>
    if lo ≤ b && b ≤ hi then b :: takeContinuation n 0x80 0xbf rest else []

/-- The code point of a lead byte and its continuation bytes. -/
def codePoint (lead : UInt8) (tail : Bytes) : Nat :=
  let bits := match tail.length with
    | 0 => lead.toNat
    | 1 => lead.toNat % 0x20
    | 2 => lead.toNat % 0x10
    | _ => lead.toNat % 0x08
  tail.foldl (fun n b => n * 64 + b.toNat % 64) bits

/-- The first character of a non-empty byte string, U+FFFD for an ill-formed
part, and the number of further bytes it takes. -/
def headLossy (lead : UInt8) (rest : Bytes) : Char × Nat :=
  match continuation? lead with
  | none => ('\uFFFD', 0)
  | some (n, lo, hi) =>
    let tail := takeContinuation n lo hi rest
    if tail.length = n then (Char.ofNat (codePoint lead tail), n) else ('\uFFFD', tail.length)

def charsLossy : Bytes → List Char
  | [] => []
  | lead :: rest =>
    let head := headLossy lead rest
    head.1 :: charsLossy (rest.drop head.2)
termination_by bytes => bytes.length
decreasing_by grind

def decodeLossy (bytes : Bytes) : String := String.ofList (charsLossy bytes)

end DebugAdapter.Text
