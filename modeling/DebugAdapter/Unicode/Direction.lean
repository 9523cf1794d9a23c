import DebugAdapter.Unicode.Edition

/-!
# Directions of writing

Scripts are written from left to right or from right to left. Digits, signs
and marks go with the letters around them. The tables are right for the
characters that names may hold.
-/

namespace DebugAdapter.Unicode

/-- What a character asks of the direction of the text around it. -/
inductive DirectionClass where
  | leftward
  | rightward
  | digit
  | arabicDigit
  | mark
  | neutral
  deriving Repr, DecidableEq

def settledMarks : CodeSet := .ofLines ["cbf cc6 11a07-11a08 11c3f"]

def attachedMarks : CodeSet :=
  Edition.latest.categories [.nonspacingMark, .enclosingMark] \ settledMarks

def plainDigits : CodeSet := .ofLines ["30-39 6f0-6f9 102e1-102fb"]

def arabicDigits : CodeSet := .ofLines ["660-66c 10d30-10d49 10e60-10e7e"]

def neutralSigns : CodeSet := .ofLines [
  "0-60 7b-d7 f7 2b9-2ba 2c2-2cf 2d2-2ed 2ef-2ff 375 3f6 58a-58f 606-607 609-60a 60c 60e-60f 66a",
  "6de 6e9 7f6-7f9 9f2-9f3 9fb af1 bf3-bfa c78-c7e e3f f3a-f3d 1390-1399 1400 169b-169c 17db",
  "17f0-180a 1940-1945 19de-19ff 200c-214d 218a-2335 237b-2394 2396-26ab 26ad-27ff 2900-2bff",
  "2ce5-2cea 2cf9-2cff 2e00-3004 3008-3020 3030 3037 303d-303f 30a0 30fb 31c0-31e5 4dc0-4dff",
  "a490-a4c6 a60d-a60f a673-a67f a700-a721 a788 a828-a82b a838-a839 a874-a877 ab6a-ab6b",
  "fbc3-fe46 10101 10140-1018c 10190-101a0 1091f 10b39-10b3f 10d6e 10ed0-10ed8 11052-11065",
  "11660-1166c 11fd5-11ff1 16fe2 1cc00-1cef0 1d1e9-1d245 1d300-1d356 1e2ff 1eef0-1f12f",
  "1f16d-1f16f 1f1ad 1f260-1fbfa"]

def leftwardLetters : CodeSet := .ofLines ["5be-8c9 fbb2-fe73 10800-10ff6 1e800-1ed3d"]

/-- The class of a character; sets that come first hold what is in several. -/
def directionClass (n : Nat) : DirectionClass :=
  if attachedMarks.contains n then .mark
  else if plainDigits.contains n then .digit
  else if neutralSigns.contains n then .neutral
  else if arabicDigits.contains n then .arabicDigit
  else if leftwardLetters.contains n then .leftward
  else .rightward

end DebugAdapter.Unicode
