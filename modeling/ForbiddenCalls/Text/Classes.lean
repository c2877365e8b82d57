import ForbiddenCalls.Text.Capitals
import ForbiddenCalls.Text.Letters
import ForbiddenCalls.Text.Numerals

/-!
# Classes of characters

The classes that the checker asks for: blanks (Unicode `White_Space`), letters
(`Alphabetic`), numerals (`Nd`, `Nl`, `No`) and capitals (`Uppercase`).  Each
one answers from core's own test below 128 and from a table of runs above, so a
statement about ASCII text never has to look into a table.
-/

namespace ForbiddenCalls.Text

/-- A blank: a character with the Unicode property `White_Space`. -/
def isBlank (c : Char) : Bool :=
  let n := c.toNat
  (9 ≤ n && n ≤ 13) || n == 32 || n == 0x85 || n == 0xA0 || n == 0x1680 ||
    (0x2000 ≤ n && n ≤ 0x200A) || n == 0x2028 || n == 0x2029 || n == 0x202F ||
    n == 0x205F || n == 0x3000

/-- A letter: a character with the Unicode property `Alphabetic`. -/
def isLetter (c : Char) : Bool :=
  if c.toNat < 128 then c.isAlpha else inRuns alphabeticRuns c.toNat

/-- A numeral: a character of one of the categories `Nd`, `Nl` and `No`. -/
def isNumeral (c : Char) : Bool :=
  if c.toNat < 128 then c.isDigit else inRuns numericRuns c.toNat

/-- A capital: a character with the Unicode property `Uppercase`. -/
def isCapital (c : Char) : Bool :=
  if c.toNat < 128 then c.isUpper else inRuns uppercaseRuns c.toNat

/-- Whether all characters of a text are blanks. -/
def isBlankText (s : String) : Bool :=
  s.toList.all isBlank

end ForbiddenCalls.Text
