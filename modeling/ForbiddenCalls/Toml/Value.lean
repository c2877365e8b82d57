/-!
# TOML values

The values that a TOML document can hold.  Numbers with a fraction or an exponent
and moments of time keep their text; the checker only has to know that they are
there.  A record may be written as a table or, field by field, as an array.  A
moment of time is a record, too; it has one field, which bears no name that a record
of this program could have.
-/

namespace ForbiddenCalls.Toml

/-- A value of a TOML document. -/
inductive Value where
  | string (s : String)
  | int (n : Int)
  | float (text : String)
  | bool (b : Bool)
  | moment (text : String)
  | array (xs : List Value)
  | table (entries : List (String × Value))

namespace Value

instance : Inhabited Value := ⟨table []⟩

/-- The text that a value is. -/
def string? : Value → Option String
  | string s => some s
  | _ => none

/-- The truth value that a value is. -/
def bool? : Value → Option Bool
  | bool b => some b
  | _ => none

/-- The natural number that a value is. -/
def nat? : Value → Option Nat
  | int n => if 0 ≤ n then some n.toNat else none
  | _ => none

/-- The elements of an array. -/
def elements? : Value → Option (List Value)
  | array xs => some xs
  | _ => none

/-- The entries of a table. -/
def entries? : Value → Option (List (String × Value))
  | table entries => some entries
  | _ => none

/-- The texts in an array of texts. -/
def strings? (v : Value) : Option (List String) :=
  v.elements?.bind fun xs => xs.mapM string?

/-- The values of the given fields of a record. -/
def fields? (names : List String) : Value → Option (List (Option Value))
  | table entries => some (names.map fun name => entries.lookup name)
  | array xs =>
    some ((xs.map some ++ List.replicate names.length none).take names.length)
  | moment _ => some (names.map fun _ => none)
  | _ => none

/-- Whether a table has only the given keys. -/
def hasOnly (names : List String) : Value → Bool
  | table entries => entries.all fun e => names.contains e.1
  | moment _ => false
  | _ => true

/-- The name of a choice: a text, or a table with one empty entry. -/
def choice? : Value → Option String
  | string s => some s
  | table [(name, table [])] => some name
  | table [(name, array [])] => some name
  | _ => none

end Value

end ForbiddenCalls.Toml
