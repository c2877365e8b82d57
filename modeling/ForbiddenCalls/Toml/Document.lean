import ForbiddenCalls.Toml.Number
import ForbiddenCalls.Toml.Table

/-!
# Reading TOML documents

A document is a sequence of lines: entries, headers of tables and of arrays of
tables, comments and blank lines.  Arrays may go over several lines, inline tables
may not.  Values nest less than eighty levels deep, and a dotted key has less than
eighty parts.
-/

namespace ForbiddenCalls.Toml

open Reader

/-- The bound on the depth of values and on the parts of a key. -/
def depthLimit : Nat := 80

/-- A character of a key without quotes. -/
def isBareKeyChar (c : Char) : Bool := c.isAlphanum || c == '_' || c == '-'

/-- One part of a key. -/
def simpleKey : Reader String :=
  basicString <|> literalString <|> do
    let cs ← some' (charWhere isBareKeyChar)
    pure (String.ofList cs)

/-- A key as the parts before the last one, and the last one. -/
def dottedKey : Reader (List String × String) := do
  let parts ← separated (do blanks; let k ← simpleKey; blanks; pure k) (char '.')
  require (decide (parts.length < depthLimit))
  pure (parts.dropLast, parts.getLastD "")

/-- An entry, for a reader of values. -/
def entryWith (value : Reader Value) : Reader Entry := do
  let (path, key) ← dottedKey
  char '='
  blanks
  let v ← value
  pure ⟨path, key, v⟩

/-- An array, for a reader of its elements. -/
def arrayWith (element : Reader Value) : Reader Value := do
  char '['
  let xs ← maybe do
    let xs ← separated (do filler; let v ← element; filler; pure v) (char ',')
    let _ ← maybe (char ',')
    pure xs
  filler
  char ']'
  pure (.array (xs.getD []))

/-- An inline table, for a reader of its values. -/
def inlineTableWith (value : Reader Value) : Reader Value := do
  char '\x7b'
  let es ← maybe (separated (do let e ← entryWith value; blanks; pure e) (char ','))
  blanks
  char '\x7d'
  match (es.getD []).foldlM Entries.add [] with
  | some entries => pure (.table (entriesToValues entries))
  | none => failure

/-- A truth value. -/
def boolean : Reader Value :=
  (do word "true"; pure (.bool true)) <|> (do word "false"; pure (.bool false))

/-- A value, with a bound on the depth of arrays and inline tables. -/
def valueWithin : Nat → Reader Value
  | 0 => (do let s ← anyString; pure (.string s)) <|> number <|> boolean
  | depth + 1 =>
    (do let s ← anyString; pure (.string s)) <|> number <|> boolean <|>
      arrayWith (valueWithin depth) <|> inlineTableWith (valueWithin depth)

/-- A value. -/
def value : Reader Value := valueWithin (depthLimit - 1)

/-! ## Lines -/

/-- A line that says something. -/
inductive Line where
  | entry (e : Entry)
  | header (path : List String) (key : String)
  | arrayHeader (path : List String) (key : String)

/-- A line: an entry or a header.  Nothing else may follow on it. -/
def line : Reader Line := do
  blanks
  let l ←
    (do chars ['[', '[']
        let (path, key) ← dottedKey
        chars [']', ']']
        pure (.arrayHeader path key)) <|>
    (do char '['
        let (path, key) ← dottedKey
        char ']'
        pure (.header path key)) <|>
    (do let e ← entryWith value; pure (.entry e))
  lineRest
  pure l

/-- All lines of a document. -/
def lines : Reader (List Line) := do
  let _ ← maybe (char '\ufeff')
  filler
  let ls ← many (do let l ← line; filler; pure l)
  atEnd
  pure ls

/-- The entries in front of the first header, and the sections. -/
def sections : List Line → List Entry × List Section
  | [] => ([], [])
  | l :: ls =>
    let (es, ss) := sections ls
    match l with
    | .entry e => (e :: es, ss)
    | .header path key => ([], ⟨path, key, false, es⟩ :: ss)
    | .arrayHeader path key => ([], ⟨path, key, true, es⟩ :: ss)

/-- Reads a document: its value is a table. -/
def parse? (text : String) : Option Value := do
  let (ls, _) ← lines text.toList
  let (es, ss) := sections ls
  let top ← es.foldlM Entries.add []
  let all ← ss.foldlM Entries.addSection top
  some (.table (entriesToValues all))

end ForbiddenCalls.Toml
