import DebugAdapter.Unicode.Category
import DebugAdapter.Unicode.Property

/-!
# Editions

What a version of the standard says of characters: their categories, and the
properties that follow from them. `latest` is version 17; `sixteen` is the
version before.
-/

namespace DebugAdapter.Unicode

structure Edition where
  category : Category → CodeSet

namespace Edition

def latest : Edition := ⟨Category.codes⟩

/-- The characters that version 17 added. -/
def added : CodeSet := .ofLines [
  "88f c5c cdc 1acf-1add 1ae0-1aeb 20c1 2b96 a7ce-a7cf a7d2 a7d4 a7f1 fbc3-fbd2 fd90-fd91",
  "fdc8-fdce 10940-10959 10ec5-10ec7 10ed0-10ed8 10efa-10efb 11b60-11b67 11db0-11ddb 11de0-11de9",
  "16ea0-16eb8 16ebb-16ed3 16ff2-16ff6 187f8-187ff 18d09-18d1e 18d80-18df2 1ccfa-1ccfc",
  "1ceba-1ced0 1cee0-1cef0 1e6c0-1e6de 1e6e0-1e6f5 1e6fe-1e6ff 1f6d8 1f777-1f77a 1f8d0-1f8d8",
  "1fa54-1fa57 1fa8a 1fa8e 1fac8 1facd 1faea 1faef 1fbfa 2b73a-2b73f 2cea2-2cead 323b0-33479"]

/-- A letter that was in lower case up to version 16 and is without case since. -/
def turnedCaseless : CodeSet := .range 0x295 0x295

def sixteen : Edition where
  category
    | .lowercaseLetter => (Category.lowercaseLetter.codes \ added) ∪ turnedCaseless
    | .otherLetter => (Category.otherLetter.codes \ added) \ turnedCaseless
    | c => c.codes \ added

def categories (e : Edition) (cs : List Category) : CodeSet := .unionAll (cs.map e.category)

def assigned (e : Edition) : CodeSet := e.categories Category.all

def unassigned (e : Edition) : CodeSet := .all \ e.assigned

-- ---------------------------------------------------------------------------
-- Groups of categories
-- ---------------------------------------------------------------------------

def casedLetters (e : Edition) : CodeSet :=
  e.categories [.uppercaseLetter, .lowercaseLetter, .titlecaseLetter]

def letters (e : Edition) : CodeSet :=
  e.categories [.uppercaseLetter, .lowercaseLetter, .titlecaseLetter, .modifierLetter,
    .otherLetter]

def marks (e : Edition) : CodeSet :=
  e.categories [.nonspacingMark, .spacingMark, .enclosingMark]

def numbers (e : Edition) : CodeSet :=
  e.categories [.decimalNumber, .letterNumber, .otherNumber]

def punctuation (e : Edition) : CodeSet :=
  e.categories [.connectorPunctuation, .dashPunctuation, .openPunctuation, .closePunctuation,
    .initialPunctuation, .finalPunctuation, .otherPunctuation]

def symbols (e : Edition) : CodeSet :=
  e.categories [.mathSymbol, .currencySymbol, .modifierSymbol, .otherSymbol]

def separators (e : Edition) : CodeSet :=
  e.categories [.spaceSeparator, .lineSeparator, .paragraphSeparator]

/-- Controls, code points without a character and those that are not assigned. -/
def others (e : Edition) : CodeSet :=
  e.categories [.control, .format, .surrogate, .privateUse] ∪ e.unassigned

-- ---------------------------------------------------------------------------
-- Case and letters
-- ---------------------------------------------------------------------------

/-- A table, as far as its code points are assigned. -/
def known (e : Edition) (s : CodeSet) : CodeSet := s ∩ e.assigned

def lowercase (e : Edition) : CodeSet := e.category .lowercaseLetter ∪ e.known otherLowercase

def uppercase (e : Edition) : CodeSet := e.category .uppercaseLetter ∪ e.known otherUppercase

def cased (e : Edition) : CodeSet :=
  .unionAll [e.lowercase, e.uppercase, e.category .titlecaseLetter]

def alphabetic (e : Edition) : CodeSet :=
  .unionAll [e.letters, e.category .letterNumber, e.known otherAlphabetic,
    e.known otherLowercase, e.known otherUppercase]

-- ---------------------------------------------------------------------------
-- Graphemes
-- ---------------------------------------------------------------------------

def graphemeExtend (e : Edition) : CodeSet :=
  .unionAll [e.category .nonspacingMark, e.category .enclosingMark, e.known otherGraphemeExtend]

def graphemeBase (e : Edition) : CodeSet :=
  (.unionAll [e.letters, e.marks, e.numbers, e.punctuation, e.symbols,
    e.category .spaceSeparator] : CodeSet) \ e.graphemeExtend

/-- Notes and controls of scripts that have a form although they are format characters. -/
def visibleFormats : CodeSet :=
  prependedMarks ∪ .range 0xfff9 0xfffb ∪ .range 0x13430 0x13440

def ignorable (e : Edition) : CodeSet :=
  (.unionAll [otherIgnorable, e.category .format, variationSelectors] : CodeSet) \
    (whiteSpace ∪ visibleFormats)

end Edition

end DebugAdapter.Unicode
