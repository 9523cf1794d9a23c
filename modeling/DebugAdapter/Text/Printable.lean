import DebugAdapter.Unicode.Edition

/-!
# Printable characters

A character is written as it is where text is quoted if it has a form of its
own: not a control, a blank other than the space, a character that is ignored
where it is not supported, or a code point without a character. Neither is a
character that extends the one before it.
-/

namespace DebugAdapter.Text

open Unicode

/-- Characters without a form of their own, the space among them. -/
def formless : CodeSet :=
  .unionAll [Edition.latest.others, Edition.latest.separators, Edition.latest.ignorable]

/-- Sound marks of half width extend a grapheme, yet they have a form. -/
def soundMarks : CodeSet := .range 0xff9e 0xff9f

def formlessIndex : Array CodeRange := formless.index

def extenderIndex : Array CodeRange := (Edition.latest.graphemeExtend \ soundMarks).index

def isPrintable (c : Char) : Bool :=
  let n := c.toNat
  if n < 0x7f then 0x20 ≤ n else 0xa0 < n && !CodeSet.inIndex formlessIndex n

def isExtender (c : Char) : Bool :=
  0x300 ≤ c.toNat && CodeSet.inIndex extenderIndex c.toNat

end DebugAdapter.Text
