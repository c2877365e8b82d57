import ForbiddenCalls.Text.BreakClass

/-!
# Where a line may be broken

The rules are those of the Unicode line breaking algorithm.  They look at a place
between two characters and at what comes before it, which a `BreakContext` keeps: the
class of the last character that is not a blank, and whether blanks follow it.  A
sign that joins the character before it does not change the context, and where there
is nothing to join it counts as a letter.

The rules are taken in a fixed order.  Those of `BreakContext.allowsBreak` come
first; they cover blanks and the characters that forbid or demand a break whatever
is next to them.  Of two characters without a blank in between, `BreakClass.stays`
tells whether they stay together for good.
-/

namespace ForbiddenCalls.Text

namespace BreakClass

/-! ## Neighbours -/

/-- Whether two neighbours belong to one number or to a number with a sign. -/
def staysInNumber : BreakClass → BreakClass → Bool
  | closing, postfixSign | closing, prefixSign => true
  | parenthesis, postfixSign | parenthesis, prefixSign => true
  | numeral, postfixSign | numeral, prefixSign | numeral, numeral => true
  | postfixSign, numeral | prefixSign, numeral => true
  | hyphen, numeral | infixMark, numeral | slash, numeral => true
  | before, next =>
    (before == postfixSign || before == prefixSign) && next.isOpening

/-- Whether two neighbours belong to one syllable of Hangul, or to a syllable with a
sign. -/
def staysInHangul : BreakClass → BreakClass → Bool
  | leadingJamo, next => next.isHangul && next != trailingJamo || next == postfixSign
  | vowelJamo, next | openSyllable, next =>
    next == vowelJamo || next == trailingJamo || next == postfixSign
  | trailingJamo, next | closedSyllable, next => next == trailingJamo || next == postfixSign
  | prefixSign, next => next.isHangul
  | _, _ => false

/-- Whether two neighbours belong to one word, or to a word with a sign or with
punctuation at its end. -/
def staysInWord (before next : BreakClass) : Bool :=
  (before.isLetter || before == numeral) && (next.isLetter || next == opening)
    || before.isLetter && next == numeral
    || (before == prefixSign || before == postfixSign) && next.isLetter
    || before.isLetter && (next == prefixSign || next == postfixSign)
    || before == infixMark && next.isLetter
    || before == parenthesis && (next.isLetter || next == numeral)

/-- Whether two neighbours belong to one pictograph, or to one with a sign. -/
def staysInPicture (before next : BreakClass) : Bool :=
  before == prefixSign && next.isPictorial
    || before.isPictorial && next == postfixSign
    || (before == emojiBase || before == reservedPictograph) && next == emojiModifier

/-- Whether a line is never broken between two neighbours. -/
def stays (before next : BreakClass) : Bool :=
  if before == quotation || next == quotation then true
  else if before == contingent || next == contingent then false
  else
    next == breakAfter || next == hyphen || next == nonstarter || next == inseparable
      || before == breakBefore
      || before == slash && next == hebrewLetter
      || staysInNumber before next || staysInHangul before next
      || staysInWord before next || staysInPicture before next

end BreakClass

/-! ## Context -/

/-- What is known of the text in front of a place in a line. -/
structure BreakContext where
  /-- The class of the last character that is not a blank. -/
  last : BreakClass
  /-- Whether blanks follow that character. -/
  spaced : Bool := false
  /-- Whether a joiner stands right in front of the place. -/
  joined : Bool := false
  /-- Whether an odd number of regional indicators stand in front of the place. -/
  oddFlags : Bool := false
  /-- Whether the last character is a hyphen or the like after a Hebrew letter. -/
  afterHebrew : Bool := false
  deriving DecidableEq, Repr

namespace BreakContext

open BreakClass

/-- The context at the beginning of a line. -/
def start : BreakContext := ⟨lineEnd, false, false, false, false⟩

/-- Whether a sign that follows has no character to join. -/
def hasNoBase (s : BreakContext) : Bool :=
  s.spaced || s.last == lineEnd || s.last == zeroWidthBlank

/-- The context after one more character. -/
def next (s : BreakContext) (c : BreakClass) : BreakContext :=
  if c = blank then { s with spaced := true, joined := false }
  else if c.joins then
    if s.hasNoBase then ⟨letter, false, c == joiner, false, false⟩
    else { s with joined := c == joiner }
  else
    { last := c
      spaced := false
      joined := false
      oddFlags := c == regionalIndicator &&
        !(s.last == regionalIndicator && !s.spaced && s.oddFlags)
      afterHebrew := s.last == hebrewLetter && !s.spaced && (c == hyphen || c == breakAfter) }

/-- Whether a line is never broken in front of a class, with or without blanks. -/
def holds (s : BreakContext) (c : BreakClass) : Bool :=
  c == wordJoiner || c.sticksToFront || s.last.isOpening
    || s.last.isClosing && c == nonstarter
    || s.last == breakAround && c == breakAround

/-- Whether a line is never broken in front of a class that follows without blanks. -/
def holdsNext (s : BreakContext) (c : BreakClass) : Bool :=
  s.last == wordJoiner || s.last == glue
    || c == glue && s.last != breakAfter && s.last != hyphen
    || s.last.stays c || s.afterHebrew && c != contingent
    || s.last == regionalIndicator && c == regionalIndicator && s.oddFlags

/-- Whether a line may be broken in front of a class. -/
def allowsBreak (s : BreakContext) (c : BreakClass) : Bool :=
  if s.last == lineEnd && !s.spaced then true
  else if c == lineEnd || c == blank || c == zeroWidthBlank then false
  else if s.last == zeroWidthBlank then true
  else if s.joined then false
  else if c.joins then s.spaced && !s.holds letter
  else !s.holds c && (s.spaced || !s.holdsNext c)

end BreakContext

end ForbiddenCalls.Text
