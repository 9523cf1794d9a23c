import DebugAdapter.Unicode.Edition
import DebugAdapter.Unicode.Script

/-!
# Boundaries

The kinds of characters by which the boundaries of graphemes, words and
sentences are found. Kinds that follow from other properties are computed, the
others are tables of version 16.
-/

namespace DebugAdapter.Unicode

def openSyllables : CodeSet := .ofLines ["ac00-d788/1c"]

def syllables : CodeSet := .range 0xac00 0xd7a3

def graphemeKinds : ValueTable := [
  ("cr", ["d"]),
  ("cn control", [
    "0-9 b-c e-1f 7f-9f ad 61c 180e 200b 200e-200f 2028-202e 2060-206f feff fff0-fffb",
    "13430-1343f 1bca0-1bca3 1d173-1d17a e0000-e001f e0080-e00ff e01f0-e0fff"]),
  ("l", ["1100-115f a960-a97c"]),
  ("lf", ["a"]),
  ("pp prepend", [
    "600-605 6dd 70f 890-891 8e2 d4e 110bd 110cd 111c2-111c3 113d1 1193f 11941 11a3a 11a84-11a89",
    "11d46 11f02"]),
  ("regionalindicator ri", ["1f1e6-1f1ff"]),
  ("t", ["11a8-11ff d7cb-d7fb"]),
  ("v", ["1160-11a7 d7b0-d7c6 16d63 16d67-16d6a"]),
  ("zwj", ["200d"])]

/-- Spacing marks that do not take part in the grapheme before. -/
def widthless : CodeSet := .ofLines [
  "102b-102c 1038 1062-1064 1067-106d 1083 1087-108c 108f 109a-109c 1a61 1a63-1a64 aa7b aa7d",
  "11720-11721"]

/-- Vowels that take part in the grapheme before like spacing marks. -/
def spacingVowels : CodeSet := .ofLines ["e33 eb3"]

def wordKinds : ValueTable := [
  ("cr", ["d"]),
  ("doublequote dq", ["22"]),
  ("ex extendnumlet", ["5f 202f 203f-2040 2054 fe33-fe34 fe4d-fe4f ff3f"]),
  ("fo format", [
    "ad 61c 180e 200e-200f 202a-202e 2060-2064 2066-206f feff fff9-fffb 13430-1343f 1bca0-1bca3",
    "1d173-1d17a e0001"]),
  ("hebrewletter hl", [
    "5d0-5ea 5ef-5f2 fb1d fb1f-fb28 fb2a-fb36 fb38-fb3c fb3e fb40-fb41 fb43-fb44 fb46-fb4f"]),
  ("ka katakana", [
    "3031-3035 309b-309c 30a0-30fa 30fc-30ff 31f0-31ff 32d0-32fe 3300-3357 ff66-ff9d 1aff0-1aff3",
    "1aff5-1affb 1affd-1affe 1b000 1b120-1b122 1b155 1b164-1b167"]),
  ("lf", ["a"]),
  ("midletter ml", ["3a b7 387 55f 5f4 2027 fe13 fe55 ff1a"]),
  ("midnum mn", ["2c 3b 37e 589 60c-60d 66c 7f8 2044 fe50 fe54 ff0c ff1b"]),
  ("mb midnumlet", ["2e 2018-2019 2024 fe52 ff07 ff0e"]),
  ("newline nl", ["b-c 85 2028-2029"]),
  ("regionalindicator ri", ["1f1e6-1f1ff"]),
  ("singlequote sq", ["27"]),
  ("wsegspace", ["20 1680 2000-2006 2008-200a 205f 3000"]),
  ("zwj", ["200d"])]

/-- Letters of scripts whose words are found by a dictionary. -/
def complexLetters : CodeSet := .ofLines [
  "e01-e30 e32-e33 e40-e46 e81-e82 e84 e86-e8a e8c-ea3 ea5 ea7-eb0 eb2-eb3 ebd ec0-ec4 ec6",
  "edc-edf 1000-102a 103f 1050-1055 105a-105d 1061 1065-1066 106e-1070 1075-1081 108e 1780-17b3",
  "17d7 17dc 1950-196d 1970-1974 1980-19ab 19b0-19c9 1a20-1a54 1aa7 a9e0-a9e4 a9e6-a9ef",
  "a9fa-a9fe aa60-aa76 aa7a aa7e-aaaf aab1 aab5-aab6 aab9-aabd aac0 aac2 aadb-aadd 11700-1171a",
  "11740-11746"]

/-- Signs that count as letters of a word. -/
def wordSigns : CodeSet := .ofLines [
  "2c2-2c5 2d2-2d7 2de-2df 2e5-2eb 2ed 2ef-2ff 55a-55c 55e 58a 5f3 70f a708-a716 a720-a721",
  "a789-a78a ab5b"]

def numberSigns : CodeSet := .ofLines ["600-605 66b 6dd 890-891 8e2 19da 110bd 110cd"]

def sentenceKinds : ValueTable := [
  ("at aterm", ["2e 2024 fe52 ff0e"]),
  ("cr", ["d"]),
  ("cl close", [
    "22 27-29 5b 5d 7b 7d ab bb f3a-f3d 169b-169c 2018-201f 2039-203a 2045-2046 207d-207e",
    "208d-208e 2308-230b 2329-232a 275b-2760 2768-2775 27c5-27c6 27e6-27ef 2983-2998 29d8-29db",
    "29fc-29fd 2e00-2e0d 2e1c-2e1d 2e20-2e29 2e42 2e55-2e5c 3008-3011 3014-301b 301d-301f",
    "fd3e-fd3f fe17-fe18 fe35-fe44 fe47-fe48 fe59-fe5e ff08-ff09 ff3b ff3d ff5b ff5d ff5f-ff60",
    "ff62-ff63 1f676-1f678"]),
  ("fo format", [
    "ad 61c 70f 180e 200b 200e-200f 202a-202e 2060-2064 2066-206f feff fff9-fffb 13430-1343f",
    "1bca0-1bca3 1d173-1d17a e0001"]),
  ("lf", ["a"]),
  ("sc scontinue", [
    "2c-2d 3a-3b 37e 55d 60c-60d 7f8 1802 1808 2013-2014 3001 fe10-fe11 fe13-fe14 fe31-fe32",
    "fe50-fe51 fe54-fe55 fe58 fe63 ff0c-ff0d ff1a-ff1b ff64"]),
  ("se sep", ["85 2028-2029"]),
  ("sp", ["9 b-c 20 a0 1680 2000-200a 202f 205f 3000"])]

namespace Edition

def graphemeKind? (e : Edition) (name : String) : Option CodeSet :=
  let extend := e.graphemeExtend ∪ emojiModifiers
  match name with
  | "ex" | "extend" => some extend
  | "sm" | "spacingmark" =>
    some ((e.category .spacingMark \ (extend ∪ widthless)) ∪ spacingVowels)
  | "lv" => some openSyllables
  | "lvt" => some (syllables \ openSyllables)
  | name => graphemeKinds.value? name

def wordExtend (e : Edition) : CodeSet :=
  .unionAll [e.graphemeExtend, e.category .spacingMark, emojiModifiers]

def wordLetters (e : Edition) : CodeSet :=
  let apart : List (Option CodeSet) :=
    [wordKinds.value? "katakana", wordKinds.value? "hl", script? "hiragana"]
  let apart := CodeSet.unionAll (apart.map fun s => s.getD .empty)
  (e.alphabetic \ .unionAll [ideographs, apart, e.wordExtend, complexLetters]) ∪ wordSigns

def wordDigits (e : Edition) : CodeSet := e.category .decimalNumber ∪ numberSigns

def wordKind? (e : Edition) (name : String) : Option CodeSet :=
  match name with
  | "aletter" | "le" => some e.wordLetters
  | "extend" => some e.wordExtend
  | "nu" | "numeric" => some e.wordDigits
  | name => wordKinds.value? name

/-- Characters in lower case within a sentence; Georgian is written without case there. -/
def sentenceLower (e : Edition) : CodeSet :=
  e.lowercase \ (e.graphemeExtend ∪ .ofLines ["10d0-10fa 10fd-10ff"])

def sentenceUpper (e : Edition) : CodeSet :=
  (e.uppercase ∪ e.category .titlecaseLetter) \ .ofLines ["1c90-1cba 1cbd-1cbf"]

def sentenceExtend (e : Edition) : CodeSet :=
  .unionAll [e.graphemeExtend, e.category .spacingMark, .range 0x200d 0x200d]

def sentenceKind? (e : Edition) (name : String) : Option CodeSet :=
  match name with
  | "lo" | "lower" => some e.sentenceLower
  | "up" | "upper" => some e.sentenceUpper
  | "le" | "oletter" =>
    some ((e.alphabetic \ .unionAll [e.sentenceLower, e.sentenceUpper, e.sentenceExtend]) ∪
      .range 0x5f3 0x5f3)
  | "ex" | "extend" => some e.sentenceExtend
  | "nu" | "numeric" => some (e.wordDigits ∪ .range 0x66c 0x66c)
  | "st" | "sterm" => some (sentenceTerminals \ ((sentenceKinds.value? "at").getD .empty))
  | name => sentenceKinds.value? name

end Edition

end DebugAdapter.Unicode
