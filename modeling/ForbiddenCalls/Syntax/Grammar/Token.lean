import ForbiddenCalls.Text.ByteSize

/-!
# Tokens

A text is cut into tokens before a grammar is applied to it.  Blanks and comments
fall between the tokens; a comment is kept with its place, since it shows in the
syntax tree, and a line break is remembered where it may end a statement.

A language says by its `Lexis` what stands at the front of a text.  The answer may
depend on a mode, because the inside of a string does not read like the code around
it.  A lexeme takes at least one character, so that the scan comes to an end.
-/

namespace ForbiddenCalls

/-- The sort of a token: an identifier or keyword, punctuation, a leaf of a given
kind, a statement end that is not written, or a text that means nothing. -/
inductive TokenKind where
  | word
  | sign
  | literal (kind : String)
  | gap
  | stray
  deriving DecidableEq, Repr

/-- How a token shows in the tree. -/
inductive Leaf where
  | hidden
  | plain (kind : String)
  | named (kind : String)
  deriving DecidableEq, Repr

/-- The kind that a leaf shows, if it shows at all. -/
def Leaf.kind? : Leaf → Option String
  | hidden => none
  | plain kind => some kind
  | named kind => some kind

/-- A token with its span in bytes.  `separates` tells that a line break before it
ends a statement wherever one can end.  `leaf` is what the token has to show as, where
that is settled. -/
structure Token where
  kind : TokenKind
  text : String
  start : Nat
  stop : Nat
  separates : Bool := false
  leaf : Option Leaf := none
  deriving DecidableEq, Repr

/-- A comment with its span in bytes. -/
structure Comment where
  kind : String
  start : Nat
  stop : Nat
  deriving DecidableEq, Repr

/-- The tokens and the comments of a text, each in the order of the text. -/
structure Scan where
  tokens : List Token
  comments : List Comment

/-- What stands at the front of a text. -/
inductive Lexeme where
  | blank
  | comment (kind : String)
  | token (kind : TokenKind)

/-- A lexeme, the number of its characters after the first one, and the mode in
which the text goes on. -/
structure Cut (μ : Type) where
  lexeme : Lexeme
  more : Nat
  mode : μ

/-- How a language divides a text: the mode at the start, the lexeme at the front of
a text, and whether a line break before a text ends a statement. -/
structure Lexis (μ : Type) where
  start : μ
  cut : μ → Char → List Char → Cut μ
  separates : List Char → Bool

namespace Lexis

/-- Scans a text that starts at an offset, `broken` telling whether a line break lies
between it and the last token. -/
def scanFrom {μ : Type} (l : Lexis μ) (mode : μ) (offset : Nat) (broken : Bool) :
    List Char → Scan
  | [] => ⟨[], []⟩
  | c :: cs =>
    let cut := l.cut mode c cs
    let taken := c :: cs.take cut.more
    let stop := offset + Text.byteSize taken
    match cut.lexeme with
    | .blank => scanFrom l cut.mode stop (broken || taken.contains '\n') (cs.drop cut.more)
    | .comment kind =>
      let later := scanFrom l cut.mode stop broken (cs.drop cut.more)
      ⟨later.tokens, ⟨kind, offset, stop⟩ :: later.comments⟩
    | .token kind =>
      let later := scanFrom l cut.mode stop false (cs.drop cut.more)
      let token : Token := {
        kind
        text := String.ofList taken
        start := offset
        stop
        separates := broken && l.separates (c :: cs) }
      ⟨token :: later.tokens, later.comments⟩
  termination_by cs => cs.length
  decreasing_by all_goals simp only [List.length_drop, List.length_cons]; omega

/-- The tokens and comments of a text. -/
def scan {μ : Type} (l : Lexis μ) (text : String) : Scan :=
  l.scanFrom l.start 0 false text.toList

end Lexis

/-! ## Parts that lexemes have in common -/

namespace Lexeme

/-- A blank in front of a text; a byte order mark counts as one. -/
def isGap (c : Char) : Bool := c.isWhitespace || c == '\x0b' || c == '\x0c' || c == '\ufeff'

/-- The number of leading characters of a class. -/
def run (p : Char → Bool) (cs : List Char) : Nat := (cs.takeWhile p).length

/-- The first of the given signs that a text starts with. -/
def sign? (signs : List String) (cs : List Char) : Option String :=
  signs.find? fun s => s.toList.isPrefixOf cs

/-- The number of leading digits, with the low lines between them. -/
def digits (cs : List Char) : Nat := run (fun c => c.isDigit || c == '_') cs

/-- The length of an exponent at the front of a text, zero if there is none. -/
def exponent : List Char → Nat
  | [] => 0
  | e :: cs =>
    if e == 'e' || e == 'E' then
      match cs with
      | '+' :: later | '-' :: later => if digits later = 0 then 0 else digits later + 2
      | later => if digits later = 0 then 0 else digits later + 1
    else 0

/-- The number of characters up to the end of a comment of `depth` levels.  An inner
comment opens a further level if comments nest. -/
def closing? (nests : Bool) : Nat → List Char → Option Nat
  | 0, _ => some 0
  | _ + 1, [] => none
  | depth + 1, '*' :: '/' :: cs => (closing? nests depth cs).map (· + 2)
  | depth + 1, '/' :: '*' :: cs =>
    (closing? nests (if nests then depth + 2 else depth + 1) cs).map (· + 2)
  | depth + 1, _ :: cs => (closing? nests (depth + 1) cs).map (· + 1)

end Lexeme

end ForbiddenCalls
