/-!
# JSON values and their pretty form

A value with the members of an object in order, and the form in which a report is
written: two blanks for each level, one element or member a line, and `[]` and
`{}` for what is empty.  A text is escaped as little as the format allows.
-/

namespace ForbiddenCalls

/-- A JSON value.  A number that is not written as an integer keeps its text. -/
inductive Json where
  | null
  | bool (b : Bool)
  | int (n : Int)
  | decimal (text : String)
  | string (s : String)
  | array (xs : List Json)
  | object (members : List (String × Json))

namespace Json

instance : Inhabited Json := ⟨null⟩

/-- A natural number. -/
def nat (n : Nat) : Json := int n

/-- A hexadecimal digit, in lower case. -/
def hexDigit (n : Nat) : Char :=
  if n < 10 then Char.ofNat (48 + n) else Char.ofNat (87 + n)

/-- The escaped form of a character. -/
def escapeChar (c : Char) : List Char :=
  match c with
  | '"' => ['\\', '"']
  | '\\' => ['\\', '\\']
  | '\n' => ['\\', 'n']
  | '\r' => ['\\', 'r']
  | '\t' => ['\\', 't']
  | c =>
    let n := c.toNat
    if n = 8 then ['\\', 'b']
    else if n = 12 then ['\\', 'f']
    else if n < 32 then ['\\', 'u', '0', '0', hexDigit (n / 16), hexDigit (n % 16)]
    else [c]

/-- A text in quotes. -/
def quote (s : String) : String :=
  "\"" ++ String.ofList (s.toList.flatMap escapeChar) ++ "\""

/-- A line break with the indentation of a level. -/
def lineBreak (level : Nat) : String :=
  "\n" ++ String.ofList (List.replicate (2 * level) ' ')

mutual

/-- The pretty form of a value at a level of nesting. -/
def pretty (level : Nat) : Json → String
  | null => "null"
  | bool true => "true"
  | bool false => "false"
  | int n => toString n
  | decimal text => text
  | string s => quote s
  | array [] => "[]"
  | array (x :: xs) =>
    "[" ++ lineBreak (level + 1) ++ pretty (level + 1) x ++ prettyElements (level + 1) xs ++
      lineBreak level ++ "]"
  | object [] => "\x7b\x7d"
  | object ((k, x) :: ms) =>
    "\x7b" ++ lineBreak (level + 1) ++ quote k ++ ": " ++ pretty (level + 1) x ++
      prettyMembers (level + 1) ms ++ lineBreak level ++ "\x7d"

/-- The pretty form of the later elements of an array. -/
def prettyElements (level : Nat) : List Json → String
  | [] => ""
  | x :: xs => "," ++ lineBreak level ++ pretty level x ++ prettyElements level xs

/-- The pretty form of the later members of an object. -/
def prettyMembers (level : Nat) : List (String × Json) → String
  | [] => ""
  | (k, x) :: ms =>
    "," ++ lineBreak level ++ quote k ++ ": " ++ pretty level x ++ prettyMembers level ms

end

/-! ## Reading parts of a value -/

/-- The text that a value is. -/
def string? : Json → Option String
  | string s => some s
  | _ => none

/-- The largest natural number of 64 bits. -/
def maxWord : Nat := 18446744073709551615

/-- The natural number up to `maxWord` that a value is. -/
def word? : Json → Option Nat
  | int n => if 0 ≤ n ∧ n.toNat ≤ maxWord then some n.toNat else none
  | _ => none

/-- The elements of an array. -/
def elements? : Json → Option (List Json)
  | array xs => some xs
  | _ => none

/-- The values of the given fields.  A record is written as an object, whose other
members do not matter, or as the array of its fields, which may end early. -/
def fields? (names : List String) : Json → Option (List (Option Json))
  | object members => some (names.map fun name => members.lookup name)
  | array xs =>
    if xs.length ≤ names.length then
      some (xs.map some ++ List.replicate (names.length - xs.length) none)
    else none
  | _ => none

end Json

end ForbiddenCalls
