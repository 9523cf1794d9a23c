import DebugAdapter.Unicode.Edition

/-!
# Letters and numbers

The characters that names are made of.
-/

namespace DebugAdapter.Text

open Unicode

def alphabeticIndex : Array CodeRange := Edition.latest.alphabetic.index

def numberIndex : Array CodeRange := Edition.latest.numbers.index

def isAlphabetic (c : Char) : Bool :=
  if c.toNat < 0x80 then c.isAlpha else CodeSet.inIndex alphabeticIndex c.toNat

def isNumber (c : Char) : Bool :=
  if c.toNat < 0x80 then c.isDigit else CodeSet.inIndex numberIndex c.toNat

end DebugAdapter.Text
