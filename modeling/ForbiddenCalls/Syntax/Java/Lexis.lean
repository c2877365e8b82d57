import ForbiddenCalls.Syntax.Grammar.Token
import ForbiddenCalls.Text.Classes

/-!
# The tokens of Java

A closing angle bracket is always a token of its own, since two of them may close two
lists of type arguments; the grammar puts the operators together that start with one.
The quotes of a string are tokens too, and between them lie fragments and escapes.
-/

namespace ForbiddenCalls.Java

open Lexeme

/-- What a text goes on with: code, the inside of a string or of a text block. -/
inductive Mode where
  | code
  | text
  | block

/-- The signs, a longer one before those that it starts with. -/
def signs : List String :=
  ["@interface", "...", "<<=", "->", "::", "++", "--", "&&", "||", "==", "!=", "<=", "+=",
    "-=", "*=", "/=", "&=", "|=", "^=", "%=", "<<", "\x7b", "\x7d", "(", ")", "[", "]", ";",
    ",", ".", "@", "=", "<", ">", "!", "~", "?", ":", "+", "-", "*", "/", "&", "|", "^", "%"]

/-- The words that are no identifiers. -/
def reserved : List String :=
  ["abstract", "assert", "boolean", "break", "byte", "case", "catch", "char", "class",
    "const", "continue", "default", "do", "double", "else", "enum", "extends", "false",
    "final", "finally", "float", "for", "goto", "if", "implements", "import", "instanceof",
    "int", "interface", "long", "native", "new", "null", "package", "private", "protected",
    "public", "return", "short", "static", "strictfp", "super", "switch", "synchronized",
    "this", "throw", "throws", "transient", "true", "try", "void", "volatile", "while",
    "non-sealed"]

/-- Whether an identifier can start with a character. -/
def startsWord (c : Char) : Bool := Text.isLetter c || c == '_' || c == '$'

/-- Whether an identifier can go on with a character. -/
def continuesWord (c : Char) : Bool := startsWord c || Text.isNumeral c

/-- The number of characters behind the whole part of a number, if they make it a
number with a fraction, an exponent or the suffix of a type of such numbers. -/
def fraction? (cs : List Char) : Option Nat :=
  let isSuffix (c : Char) := c == 'f' || c == 'F' || c == 'd' || c == 'D'
  let withSuffix (n : Nat) := n + (if (cs.drop n).head?.any isSuffix then 1 else 0)
  match cs with
  | '.' :: later =>
    let n := digits later + 1
    some (withSuffix (n + exponent (cs.drop n)))
  | _ =>
    let n := withSuffix (exponent cs)
    if n = 0 then none else some n

/-- The kind of the number at the front of a text, and its length after the first
digit. -/
def number (c : Char) (cs : List Char) : String × Nat :=
  let long (n : Nat) :=
    n + (if (cs.drop n).head?.any (fun c => c == 'l' || c == 'L') then 1 else 0)
  let based (kind : String) (p : Char → Bool) :=
    (kind, long (run (fun c => p c || c == '_') cs.tail + 1))
  match c, cs.head? with
  | '0', some 'x' | '0', some 'X' =>
    based "hex_integer_literal" fun c =>
      c.isDigit || ('a' ≤ c && c ≤ 'f') || ('A' ≤ c && c ≤ 'F')
  | '0', some 'b' | '0', some 'B' =>
    based "binary_integer_literal" fun c => c == '0' || c == '1'
  | _, _ =>
    let whole := digits cs
    match fraction? (cs.drop whole) with
    | some n => ("decimal_floating_point_literal", whole + n)
    | none =>
      if c == '0' && whole != 0 then ("octal_integer_literal", long whole)
      else ("decimal_integer_literal", long whole)

/-- The number of characters behind the opening quote of a character, if it is closed
on its line and not empty. -/
def quoted? (isEmpty : Bool) : List Char → Option Nat
  | [] => none
  | '\'' :: _ => if isEmpty then none else some 1
  | '\n' :: _ => none
  | '\\' :: _ :: cs => (quoted? false cs).map (· + 2)
  | _ :: cs => (quoted? false cs).map (· + 1)

/-- The lexeme at the front of code. -/
def cutCode (c : Char) (cs : List Char) : Cut Mode :=
  let token (kind : TokenKind) (more : Nat) : Cut Mode := ⟨.token kind, more, .code⟩
  if isGap c then ⟨.blank, run isGap cs, .code⟩
  else if startsWord c then
    if "non-sealed".toList.isPrefixOf (c :: cs) then token .word 9
    else token .word (run continuesWord cs)
  else if c.isDigit then
    let (kind, more) := number c cs
    token (.literal kind) more
  else
    match c, cs with
    | '/', '/' :: later => ⟨.comment "line_comment", run (· != '\n') later + 1, .code⟩
    | '/', '*' :: later =>
      match closing? false 1 later with
      | some n => ⟨.comment "block_comment", n + 1, .code⟩
      | none => token .sign 0
    | '"', '"' :: '"' :: _ => ⟨.token .sign, 2, .block⟩
    | '"', _ => ⟨.token .sign, 0, .text⟩
    | '\'', _ =>
      match quoted? true cs with
      | some more => token (.literal "character_literal") more
      | none => token .stray 0
    | _, _ =>
      if c == '.' && cs.head?.any Char.isDigit then
        token (.literal "decimal_floating_point_literal") ((fraction? (c :: cs)).getD 1 - 1)
      else
        match sign? signs (c :: cs) with
        | some sign => token .sign (sign.length - 1)
        | none => token .stray 0

/-- The lexeme at the front of the inside of a string, which a line break ends. -/
def cutText (c : Char) (cs : List Char) : Cut Mode :=
  if c == '"' then ⟨.token .sign, 0, .code⟩
  else if c == '\n' then ⟨.blank, 0, .code⟩
  else if c == '\\' then ⟨.token (.literal "escape_sequence"), 1, .text⟩
  else ⟨.token (.literal "string_fragment"),
    run (fun c => c != '"' && c != '\\' && c != '\n') cs, .text⟩

/-- The lexeme at the front of the inside of a text block. -/
def cutBlock (c : Char) (cs : List Char) : Cut Mode :=
  match c, cs with
  | '"', '"' :: '"' :: _ => ⟨.token .sign, 2, .code⟩
  | '\\', _ => ⟨.token (.literal "escape_sequence"), 1, .block⟩
  | _, _ => ⟨.token (.literal "multiline_string_fragment"),
      run (fun c => c != '"' && c != '\\') cs, .block⟩

/-- How a Java text is divided.  Line breaks mean nothing. -/
def lexis : Lexis Mode where
  start := .code
  cut
    | .code => cutCode
    | .text => cutText
    | .block => cutBlock
  separates _ := false

end ForbiddenCalls.Java
