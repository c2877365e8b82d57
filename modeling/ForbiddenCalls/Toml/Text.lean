import ForbiddenCalls.Toml.Reader

/-!
# Blanks, comments and strings in TOML

A string stands between double or single quotes.  In double quotes a backslash
escapes; in single quotes nothing does.  Three quotes open a string that may go
over several lines: a line break right behind them does not count, one or two
quotes inside belong to the text, and so do up to two quotes right before the
three that close it.
-/

namespace ForbiddenCalls.Toml

open Reader

/-- A blank or a tab. -/
def isBlankChar (c : Char) : Bool := c == ' ' || c == '\t'

/-- Skips blanks and tabs. -/
def blanks : Reader Unit := do
  let _ ← many (charWhere isBlankChar)

/-- A line break: a line feed, with or without a carriage return before it. -/
def lineBreak : Reader Unit :=
  char '\n' <|> word "\r\n"

/-- A character that may stand in a comment. -/
def isCommentChar (c : Char) : Bool :=
  c == '\t' || (0x20 ≤ c.toNat && c.toNat ≤ 0x7E) || 0x80 ≤ c.toNat

/-- A comment up to the end of its line. -/
def comment : Reader Unit := do
  char '#'
  let _ ← many (charWhere isCommentChar)

/-- Skips blanks, line breaks and comments. -/
def filler : Reader Unit := do
  let _ ← many ((do let _ ← charWhere isBlankChar) <|> lineBreak <|> comment)

/-- What may follow on the line of an entry or a header. -/
def lineRest : Reader Unit := do
  blanks
  let _ ← maybe comment
  lineBreak <|> atEnd

/-! ## Strings -/

/-- A character that stands for itself between quotes of the given kind. -/
def isPlain (quote c : Char) : Bool :=
  c == '\t' || (0x20 ≤ c.toNat && c.toNat ≤ 0x7E && c != quote) || 0x80 ≤ c.toNat

/-- The value of a hexadecimal digit. -/
def hexValue? (c : Char) : Option Nat :=
  if c.isDigit then some (c.toNat - 48)
  else if 'a' ≤ c ∧ c ≤ 'f' then some (c.toNat - 87)
  else if 'A' ≤ c ∧ c ≤ 'F' then some (c.toNat - 55)
  else none

/-- One hexadecimal digit. -/
def hexDigit : Reader Nat := do
  let c ← charWhere fun c => (hexValue? c).isSome
  pure ((hexValue? c).getD 0)

/-- The character whose code point is written in `n` hexadecimal digits. -/
def codePoint (n : Nat) : Reader Char := do
  let digits ← times hexDigit n
  let value := digits.foldl (fun v d => v * 16 + d) 0
  require (decide (value.isValidChar))
  pure (Char.ofNat value)

/-- An escaped character. -/
def escape : Reader Char := do
  char '\\'
  let c ← charWhere fun _ => true
  match c with
  | 'b' => pure (Char.ofNat 8)
  | 't' => pure '\t'
  | 'n' => pure '\n'
  | 'f' => pure (Char.ofNat 12)
  | 'r' => pure '\r'
  | '"' => pure '"'
  | '\\' => pure '\\'
  | 'u' => codePoint 4
  | 'U' => codePoint 8
  | _ => failure

/-- A character between double quotes. -/
def basicChar : Reader Char :=
  charWhere (fun c => isPlain '"' c && c != '\\') <|> escape

/-- A string in double quotes on one line. -/
def basicString : Reader String := do
  char '"'
  let cs ← many basicChar
  char '"'
  pure (String.ofList cs)

/-- A string in single quotes on one line. -/
def literalString : Reader String := do
  char '\''
  let cs ← many (charWhere (isPlain '\''))
  char '\''
  pure (String.ofList cs)

/-- One or two quotes that no third one follows. -/
def innerQuotes (quote : Char) : Reader (List Char)
  | a :: b :: rest =>
    if a != quote then none
    else if b != quote then some ([quote], b :: rest)
    else
      match rest with
      | c :: _ => if c != quote then some ([quote, quote], rest) else none
      | [] => none
  | _ => none

/-- Three closing quotes, with up to two quotes before them that are text. -/
def closingQuotes (quote : Char) : Reader (List Char) := fun s =>
  let n := (s.takeWhile (· == quote)).length
  if n < 3 then none
  else
    let kept := min (n - 3) 2
    some (List.replicate kept quote, s.drop (kept + 3))

/-- A backslash at the end of a line, with all blanks and line breaks after it. -/
def joinedLines : Reader (List Char) := do
  char '\\'
  blanks
  lineBreak
  let _ ← many ((do let _ ← charWhere isBlankChar) <|> lineBreak)
  pure []

/-- A line break inside a string, which is always a line feed. -/
def innerBreak : Reader (List Char) := do
  lineBreak
  pure ['\n']

/-- A string over several lines, given its quote and its pieces. -/
def longString (quote : Char) (piece : Reader (List Char)) : Reader String := do
  chars [quote, quote, quote]
  let _ ← maybe lineBreak
  let pieces ← many (piece <|> innerBreak <|> innerQuotes quote)
  let last ← closingQuotes quote
  pure (String.ofList (pieces.flatten ++ last))

/-- A string over several lines in double quotes. -/
def longBasicString : Reader String :=
  longString '"' (joinedLines <|> (do let c ← basicChar; pure [c]))

/-- A string over several lines in single quotes. -/
def longLiteralString : Reader String :=
  longString '\'' do
    let c ← charWhere (isPlain '\'')
    pure [c]

/-- A string of any of the four kinds. -/
def anyString : Reader String :=
  longBasicString <|> basicString <|> longLiteralString <|> literalString

end ForbiddenCalls.Toml
