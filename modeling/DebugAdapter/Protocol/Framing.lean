import DebugAdapter.Json.Parser
import DebugAdapter.Json.Printer
import DebugAdapter.Text.Blank

/-!
# Framing

A frame is a header, a blank line, and a payload of as many bytes as the
header says. Frames stand one after the other; what is in a payload does not
matter for the next frame. A payload that is no message is skipped.
-/

namespace DebugAdapter

open Text (Bytes)

namespace Framing

def maxLength : Nat := 16 * 1024 * 1024

def maxNumber : Nat := 18446744073709551615

inductive Broken where
  | invalidText
  | closedInHeader
  | emptyLength
  | invalidLength
  | overflowingLength
  | missingLength
  | tooLong (length : Nat)
  | closedInPayload
  deriving Repr, DecidableEq

def Broken.message : Broken → String
  | .invalidText => "stream did not contain valid UTF-8"
  | .closedInHeader => "connection closed inside message header"
  | .emptyLength => "parse Content-Length: cannot parse integer from empty string"
  | .invalidLength => "parse Content-Length: invalid digit found in string"
  | .overflowingLength => "parse Content-Length: number too large to fit in target type"
  | .missingLength => "missing Content-Length header"
  | .tooLong length =>
    "Content-Length " ++ Decimal.digitsText length ++ " exceeds the limit of " ++
      Decimal.digitsText maxLength ++ " bytes"
  | .closedInPayload => "failed to fill whole buffer"

-- ---------------------------------------------------------------------------
-- Headers
-- ---------------------------------------------------------------------------

/-- Digits as a number, read from the left; the first thing that is wrong counts. -/
def digits? : Nat → List Char → Except Broken Nat
  | n, [] => .ok n
  | n, c :: rest =>
    if !c.isDigit then .error .invalidLength
    else
      let next := n * 10 + (c.toNat - '0'.toNat)
      if next ≤ maxNumber then digits? next rest else .error .overflowingLength

def length? (cs : List Char) : Except Broken Nat :=
  match cs with
  | [] => .error .emptyLength
  | ['+'] => .error .invalidLength
  | '+' :: rest => digits? 0 rest
  | cs => digits? 0 cs

def fieldName : List Char := "Content-Length:".toList

def trimLineEnd (cs : List Char) : List Char :=
  (cs.reverse.dropWhile fun c => c = '\r' || c = '\n').reverse

/-- The length after a line of a header: a line about something else keeps it. -/
def lengthAfter (length : Option Nat) (line : List Char) : Except Broken (Option Nat) :=
  if fieldName.isPrefixOf line then
    (length? (Text.trimChars (line.drop fieldName.length))).map some
  else .ok length

def splitLine? : Bytes → Option (Bytes × Bytes)
  | [] => none
  | b :: rest =>
    if b = 0x0a then some ([b], rest)
    else (splitLine? rest).map fun p => (b :: p.1, p.2)

/-- The bytes of the next line; at the end of the stream the last line needs no
line feed. -/
def nextLine? (ended : Bool) (bytes : Bytes) : Option (Bytes × Bytes) :=
  match splitLine? bytes with
  | some p => some p
  | none => if ended && !bytes.isEmpty then some (bytes, []) else none

theorem splitLine?_length {bytes line rest : Bytes} (h : splitLine? bytes = some (line, rest)) :
    rest.length < bytes.length := by
  induction bytes generalizing line with
  | nil => simp [splitLine?] at h
  | cons b bs ih =>
    simp only [splitLine?] at h
    split at h
    · cases h; simp
    · obtain ⟨p, hp, heq⟩ := Option.map_eq_some_iff.1 h
      cases heq
      have := ih hp
      simp only [List.length_cons]
      omega

theorem nextLine?_length {ended : Bool} {bytes line rest : Bytes}
    (h : nextLine? ended bytes = some (line, rest)) : rest.length < bytes.length := by
  unfold nextLine? at h
  split at h
  · next p hp => cases h; exact splitLine?_length hp
  · split at h
    · next hc =>
      cases h
      cases bytes with
      | nil => simp at hc
      | cons b bs => simp
    · cases h

-- ---------------------------------------------------------------------------
-- Reading
-- ---------------------------------------------------------------------------

inductive Next where
  /-- A whole frame, and the bytes after it. -/
  | frame (payload rest : Bytes)
  | broken (reason : Broken)
  /-- No whole frame yet. -/
  | incomplete
  /-- The stream ended between two frames. -/
  | finished
  deriving Repr, DecidableEq

def takePayload (ended : Bool) (length : Option Nat) (bytes : Bytes) : Next :=
  match length with
  | none => .broken .missingLength
  | some n =>
    if n > maxLength then .broken (.tooLong n)
    else if n ≤ bytes.length then .frame (bytes.take n) (bytes.drop n)
    else if ended then .broken .closedInPayload
    else .incomplete

/-- The next frame. `seen` tells that some of its header has been read, and
`length` is what that said; `ended` that no more bytes will come. -/
def nextFrom (ended seen : Bool) (length : Option Nat) (bytes : Bytes) : Next :=
  match h : nextLine? ended bytes with
  | none =>
    if !ended then .incomplete
    else if seen then .broken .closedInHeader
    else .finished
  | some (line, rest) =>
    have : rest.length < bytes.length := nextLine?_length h
    match Text.decode? line with
    | none => .broken .invalidText
    | some text =>
      match trimLineEnd text.toList with
      | [] => takePayload ended length rest
      | cs =>
        match lengthAfter length cs with
        | .error reason => .broken reason
        | .ok length => nextFrom ended true length rest
termination_by bytes.length

def next (ended : Bool) (bytes : Bytes) : Next := nextFrom ended false none bytes

/-- The payloads of some bytes, and how far they go: what stops the reading,
and the bytes that are left before that. Each frame is shorter than the bytes
that hold it, so as many steps as there are bytes suffice. -/
def payloadsFrom (ended : Bool) : Nat → Bytes → List Bytes × Next × Bytes
  | 0, bytes => ([], .incomplete, bytes)
  | fuel + 1, bytes =>
    match next ended bytes with
    | .frame payload rest =>
      let (payloads, last, left) := payloadsFrom ended fuel rest
      (payload :: payloads, last, left)
    | last => ([], last, bytes)

def payloads (ended : Bool) (bytes : Bytes) : List Bytes × Next × Bytes :=
  payloadsFrom ended (bytes.length + 1) bytes

def readAll (bytes : Bytes) : List Json × Option Broken :=
  let (payloads, last, _) := payloads true bytes
  (payloads.filterMap Json.ofBytes?, match last with
    | .broken reason => some reason
    | _ => none)

-- ---------------------------------------------------------------------------
-- Writing
-- ---------------------------------------------------------------------------

def header (length : Nat) : Bytes :=
  Text.encode ("Content-Length: " ++ Decimal.digitsText length ++ "\r\n\r\n")

def payloadOf (message : Json) : Bytes := Text.encode message.print

def frame (message : Json) : Bytes :=
  let payload := payloadOf message
  header payload.length ++ payload

end Framing

end DebugAdapter
