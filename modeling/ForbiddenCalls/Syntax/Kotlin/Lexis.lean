import ForbiddenCalls.Syntax.Grammar.Token
import ForbiddenCalls.Text.Classes

/-!
# The tokens of Kotlin

A string may hold expressions in braces, and those may hold strings again.  So the
mode is a stack of what is open around a place: strings, holes in them, and braces.

A statement ends at a line break unless what follows can only go on with it.
-/

namespace ForbiddenCalls.Kotlin

open Lexeme

/-- What is open around a place. -/
inductive Frame where
  | quoted
  | raw
  | letter
  | hole
  | brace

/-- The signs, a longer one before those that it starts with. -/
def signs : List String :=
  ["===", "!==", "..<", "->", "::", "++", "--", "&&", "||", "==", "!=", "<=", "+=", "-=",
    "*=", "/=", "%=", "..", "?:", "!!", "\x7b", "\x7d", "(", ")", "[", "]", ";", ",", ".", "@",
    "=", "<", ">", "!", "?", ":", "+", "-", "*", "/", "&", "%"]

/-- The words that are no identifiers. -/
def reserved : List String :=
  ["as", "break", "class", "continue", "do", "else", "for", "fun", "if", "in", "interface",
    "is", "object", "package", "return", "super", "this", "throw", "try", "typealias",
    "typeof", "val", "var", "when", "while"]

/-- The words that take a label behind them. -/
def labelled : List String := ["this", "super", "return", "break", "continue"]

/-- Whether an identifier can start with a character. -/
def startsWord (c : Char) : Bool := Text.isLetter c || c == '_'

/-- Whether an identifier can go on with a character. -/
def continuesWord (c : Char) : Bool := startsWord c || Text.isNumeral c

/-- The kind of the number at the front of a text, and its length after the first
digit.  A point belongs to it only before a digit. -/
def number (cs : List Char) : String × Nat :=
  let base := cs.head?.any fun c => c == 'x' || c == 'X' || c == 'b' || c == 'B'
  let suffix (n : Nat) (p : Char → Bool) :=
    n + (if (cs.drop n).head?.any p then 1 else 0)
  let isFloat (c : Char) := c == 'f' || c == 'F'
  let whole := digits cs
  let later := cs.drop whole
  if base then ("number_literal", run continuesWord cs)
  else if later.head? == some '.' && (later.drop 1).head?.any Char.isDigit then
    let n := whole + 1 + digits (later.drop 1)
    ("float_literal", suffix (n + exponent (cs.drop n)) isFloat)
  else if exponent later != 0 || later.head?.any isFloat then
    ("float_literal", suffix (whole + exponent later) isFloat)
  else
    let unsigned := suffix whole fun c => c == 'u' || c == 'U'
    ("number_literal", suffix unsigned fun c => c == 'l' || c == 'L')

/-- The lexeme at the front of code.  A dollar sign means nothing there, and neither
does what it is joined to. -/
def cutCode (outer : List Frame) (c : Char) (cs : List Char) : Cut (List Frame) :=
  let token (kind : TokenKind) (more : Nat) : Cut (List Frame) := ⟨.token kind, more, outer⟩
  let enter (more : Nat) (frame : Frame) : Cut (List Frame) :=
    ⟨.token .sign, more, frame :: outer⟩
  if isGap c then ⟨.blank, run isGap cs, outer⟩
  else if startsWord c then
    let more := run continuesWord cs
    let word := String.ofList (c :: cs.take more)
    if (cs.drop more).head? == some '@' && !labelled.contains word then
      token (.literal "label") (more + 1)
    else token .word more
  else if c.isDigit then
    let (kind, more) := number cs
    token (.literal kind) more
  else
    match c, cs with
    | '/', '/' :: later => ⟨.comment "line_comment", run (· != '\n') later + 1, outer⟩
    | '/', '*' :: later =>
      match closing? true 1 later with
      | some n => ⟨.comment "block_comment", n + 1, outer⟩
      | none => token .sign 0
    | '#', '!' :: later => token (.literal "shebang") (run (· != '\n') later + 1)
    | '"', '"' :: '"' :: _ => enter 2 .raw
    | '"', _ => enter 0 .quoted
    | '\'', _ => enter 0 .letter
    | '\x7b', _ => enter 0 .brace
    | '\x7d', _ => ⟨.token .sign, 0, outer.tail⟩
    | '`', _ =>
      let more := run (fun c => c != '`' && c != '\n') cs
      if (cs.drop more).head? == some '`' then token .word (more + 1) else token .stray 0
    | '$', _ => token .stray (run continuesWord cs)
    | _, _ =>
      match sign? signs (c :: cs) with
      | some sign => token .sign (sign.length - 1)
      | none => token .stray 0

/-- The lexeme at the front of the inside of a string.  A string in single quotes ends
with its line at the latest. -/
def cutString (isRaw : Bool) (outer : List Frame) (c : Char) (cs : List Char) :
    Cut (List Frame) :=
  let content (more : Nat) : Cut (List Frame) :=
    ⟨.token (.literal "string_content"), more, outer⟩
  let isPlain (c : Char) : Bool :=
    c != '"' && c != '$' && (isRaw || (c != '\\' && c != '\n'))
  match c, cs with
  | '"', '"' :: '"' :: _ =>
    if isRaw then ⟨.token .sign, 2, outer.tail⟩ else ⟨.token .sign, 0, outer.tail⟩
  | '"', _ => if isRaw then content 0 else ⟨.token .sign, 0, outer.tail⟩
  | '$', '\x7b' :: _ => ⟨.token .sign, 1, .hole :: outer⟩
  | '$', _ => content 0
  | '\\', _ =>
    if isRaw then content (run isPlain cs)
    else ⟨.token (.literal "escape_sequence"), 1, outer⟩
  | '\n', _ => if isRaw then content (run isPlain cs) else ⟨.blank, 0, outer.tail⟩
  | _, _ => content (run isPlain cs)

/-- The lexeme at the front of the inside of a character, which may be escaped. -/
def cutLetter (outer : List Frame) (c : Char) (cs : List Char) : Cut (List Frame) :=
  let more := if c != '\\' then 0 else if cs.head? == some 'u' then 5 else 1
  if c == '\'' then ⟨.token .sign, 0, outer.tail⟩
  else if c == '\n' then ⟨.blank, 0, outer.tail⟩
  else ⟨.token (.literal "character"), more, outer⟩

/-- Whether a statement ends at a line break before a text.  It goes on before most
signs, before `else` and before `in`; a sign of addition goes on with it too, unless it
is doubled or belongs to a number. -/
def separates : List Char → Bool
  | [] => true
  | c :: cs =>
    let startsAgain := cs.head?.any fun d => d == c || d.isDigit
    let word := String.ofList (c :: cs.takeWhile continuesWord)
    if [',', '.', ':', '*', '%', '>', '<', '=', '\x7b', '[', '(', '?', '|', '&', '/'].contains c
    then false
    else if c == '+' || c == '-' then startsAgain
    else if c == '!' then cs.head? != some '='
    else !(["else", "in", "instanceof"].contains word)

/-- How a Kotlin text is divided. -/
def lexis : Lexis (List Frame) where
  start := []
  cut
    | .quoted :: frames => cutString false (.quoted :: frames)
    | .raw :: frames => cutString true (.raw :: frames)
    | .letter :: frames => cutLetter (.letter :: frames)
    | frames => cutCode frames
  separates

end ForbiddenCalls.Kotlin
