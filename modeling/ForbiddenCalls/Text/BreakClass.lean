import ForbiddenCalls.Text.BreakRuns

/-!
# Break classes

The break class of a character tells where a line may be broken next to it.  It is
the Unicode property `Line_Break`, with these differences: the four classes of
characters that end a line are one, the characters of uncertain class are letters,
small kana do not begin a line, and classes are split off for wide opening
punctuation and for the code points that are kept free for pictographs.
-/

namespace ForbiddenCalls.Text

/-- What a character means for line breaks. -/
inductive BreakClass where
  | letter
  | hebrewLetter
  | numeral
  | ideograph
  | reservedPictograph
  | emojiBase
  | emojiModifier
  | regionalIndicator
  | leadingJamo
  | vowelJamo
  | trailingJamo
  | openSyllable
  | closedSyllable
  | opening
  | wideOpening
  | closing
  | parenthesis
  | quotation
  | exclamation
  | nonstarter
  | inseparable
  | infixMark
  | slash
  | prefixSign
  | postfixSign
  | breakAfter
  | breakBefore
  | breakAround
  | hyphen
  | contingent
  | mark
  | joiner
  | glue
  | wordJoiner
  | zeroWidthBlank
  | blank
  | lineEnd
  deriving DecidableEq, Repr

namespace BreakClass

/-- The class of an ASCII character. -/
def ofAscii (c : Char) : BreakClass :=
  if c.isDigit then numeral
  else if c.isAlpha then letter
  else if c = ' ' then blank
  else if "([\x7b".contains c then opening
  else if c = '}' then closing
  else if ")]".contains c then parenthesis
  else if "!?".contains c then exclamation
  else if ",.:;".contains c then infixMark
  else if c = '/' then slash
  else if "\"'".contains c then quotation
  else if c = '|' ∨ c = '\t' then breakAfter
  else if c = '-' then hyphen
  else if c = '%' then postfixSign
  else if "$+\\".contains c then prefixSign
  else if 10 ≤ c.toNat ∧ c.toNat ≤ 13 then lineEnd
  else if c.toNat < 32 ∨ c.toNat = 127 then mark
  else letter

/-- The characters beyond ASCII of all classes but `letter`.  Where two entries hold
a character, the first one counts. -/
def beyondAscii : List (BreakClass × List CharRun) :=
  [(lineEnd, [⟨0x85, 0x85, 1⟩, ⟨0x2028, 0x2029, 1⟩]), (zeroWidthBlank, [⟨0x200B, 0x200B, 1⟩]),
    (joiner, [⟨0x200D, 0x200D, 1⟩]), (wordJoiner, [⟨0x2060, 0x2060, 1⟩, ⟨0xFEFF, 0xFEFF, 1⟩]),
    (breakAround, [⟨0x2014, 0x2014, 1⟩, ⟨0x2E3A, 0x2E3B, 1⟩]),
    (contingent, [⟨0xFFFC, 0xFFFC, 1⟩]), (openSyllable, [⟨0xAC00, 0xD788, 28⟩]),
    (closedSyllable, [⟨0xAC00, 0xD7A3, 1⟩]), (regionalIndicator, [⟨0x1F1E6, 0x1F1FF, 1⟩]),
    (emojiModifier, [⟨0x1F3FB, 0x1F3FF, 1⟩]), (emojiBase, emojiBaseRuns),
    (reservedPictograph, reservedPictographRuns), (ideograph, ideographRuns),
    (nonstarter, nonstarterRuns), (closing, closingRuns), (opening, openingRuns),
    (wideOpening, wideOpeningRuns), (exclamation, exclamationRuns),
    (quotation, quotationRuns), (glue, glueRuns), (breakAfter, breakAfterRuns),
    (breakBefore, breakBeforeRuns), (inseparable, inseparableRuns), (infixMark, infixRuns),
    (numeral, numeralRuns), (prefixSign, prefixSignRuns), (postfixSign, postfixSignRuns),
    (hebrewLetter, hebrewRuns), (leadingJamo, leadingJamoRuns), (vowelJamo, vowelJamoRuns),
    (trailingJamo, trailingJamoRuns), (mark, markRuns)]

/-- The class of a character. -/
def of (c : Char) : BreakClass :=
  if c.toNat < 128 then ofAscii c
  else
    match beyondAscii.find? fun e => inRuns e.2 c.toNat with
    | some e => e.1
    | none => letter

/-- Whether a class is that of a sign which joins the character before it. -/
def joins : BreakClass → Bool
  | mark | joiner => true
  | _ => false

/-- Whether a class is a class of letters. -/
def isLetter : BreakClass → Bool
  | letter | hebrewLetter => true
  | _ => false

/-- Whether a class is a class of Hangul. -/
def isHangul : BreakClass → Bool
  | leadingJamo | vowelJamo | trailingJamo | openSyllable | closedSyllable => true
  | _ => false

/-- Whether a class is one of ideographs and pictographs. -/
def isPictorial : BreakClass → Bool
  | ideograph | reservedPictograph | emojiBase | emojiModifier => true
  | _ => false

/-- Whether a class is one of opening punctuation. -/
def isOpening : BreakClass → Bool
  | opening | wideOpening => true
  | _ => false

/-- Whether a class is one of closing punctuation. -/
def isClosing : BreakClass → Bool
  | closing | parenthesis => true
  | _ => false

/-- Whether a line is never broken in front of a class, whatever comes before. -/
def sticksToFront : BreakClass → Bool
  | closing | parenthesis | exclamation | infixMark | slash => true
  | _ => false

end BreakClass

end ForbiddenCalls.Text
