import ForbiddenCalls.Toml.Text
import ForbiddenCalls.Toml.Value

/-!
# Numbers and moments in TOML

Integers are decimal, hexadecimal, octal or binary and have 64 bits with a sign.
Underscores may stand between digits.  A float has a fraction or an exponent, or
is one of `inf` and `nan`; one that is too large for 64 bits is refused.  A moment
is a date, a time, or a date with a time and perhaps an offset.
-/

namespace ForbiddenCalls.Toml

open Reader

/-- One digit of a base up to sixteen. -/
def digitBelow (base : Nat) : Reader Nat := do
  let d ← hexDigit
  require (decide (d < base))
  pure d

/-- Digits with single underscores between them. -/
def digitGroup (base : Nat) : Reader (List Nat) := do
  let d ← digitBelow base
  let ds ← many do
    let _ ← maybe (char '_')
    digitBelow base
  pure (d :: ds)

/-- The number that digits stand for. -/
def ofDigits (base : Nat) (ds : List Nat) : Nat :=
  ds.foldl (fun v d => v * base + d) 0

/-- A sign; the answer says whether it is a minus. -/
def sign : Reader Bool :=
  (do char '-'; pure true) <|> (do let _ ← maybe (char '+'); pure false)

/-- The digits of a decimal integer, which has no zero in front. -/
def decimalDigits : Reader (List Nat) := do
  let ds ← digitGroup 10
  require (ds.head? != some 0 || ds.length == 1)
  pure ds

/-- A decimal integer, or a zero that other characters follow. -/
def decimalInt : Reader Int := do
  let negative ← sign
  let n := ofDigits 10 (← decimalDigits)
  pure (if negative then -(n : Int) else n)

/-- An integer that names its base. -/
def basedInt : Reader Int := do
  char '0'
  let base ← (do char 'x'; pure 16) <|> (do char 'o'; pure 8) <|> (do char 'b'; pure 2)
  let n := ofDigits base (← digitGroup base)
  pure (n : Int)

/-- The largest integer, of 64 bits with a sign. -/
def maxInteger : Int := 9223372036854775807

/-- An integer of 64 bits. -/
def integer : Reader Value := do
  let n ← basedInt <|> decimalInt
  require (decide (-maxInteger - 1 ≤ n ∧ n ≤ maxInteger))
  pure (.int n)

/-! ## Floats -/

/-- The least number that is too large for a float of 64 bits: half a unit in the last
place above the largest float. -/
def floatLimit : Nat := Nat.pow 2 1024 - Nat.pow 2 970

/-- Whether `m * 10 ^ e` is too large for a float of 64 bits. -/
def overflows (m : Nat) (e : Int) : Bool :=
  if m = 0 then false
  else
    let magnitude := (Nat.toDigits 10 m).length + e
    if magnitude < 300 then false
    else if 400 < magnitude then true
    else if 0 ≤ e then decide (floatLimit ≤ m * Nat.pow 10 e.toNat)
    else decide (floatLimit * Nat.pow 10 (-e).toNat ≤ m)

/-- The part of a float behind the point. -/
def fraction : Reader (List Nat) := do
  char '.'
  digitGroup 10

/-- The exponent of a float. -/
def exponent : Reader Int := do
  let _ ← charWhere fun c => c == 'e' || c == 'E'
  let negative ← sign
  let n := ofDigits 10 (← digitGroup 10)
  pure (if negative then -(n : Int) else n)

/-- A float that is written in digits. -/
def digitFloat : Reader Unit := do
  let negative ← sign
  let whole ← decimalDigits
  let fraction? ← maybe fraction
  let exponent? ← maybe exponent
  require (fraction?.isSome || exponent?.isSome)
  let places := fraction?.getD []
  require (negative ||
    !overflows (ofDigits 10 (whole ++ places)) (exponent?.getD 0 - places.length))

/-- A float that is a word. -/
def wordFloat : Reader Unit := do
  let _ ← sign
  word "inf" <|> word "nan"

/-- A float. -/
def float : Reader Value := do
  let cs ← taken (digitFloat <|> wordFloat)
  pure (.float (String.ofList cs))

/-! ## Moments -/

/-- A number of exactly `n` digits within bounds. -/
def fixedNumber (n low high : Nat) : Reader Nat := do
  let v := ofDigits 10 (← times (digitBelow 10) n)
  require (decide (low ≤ v ∧ v ≤ high))
  pure v

/-- The number of days in a month. -/
def daysIn (year month : Nat) : Nat :=
  if month = 2 then
    if year % 4 = 0 ∧ (year % 100 ≠ 0 ∨ year % 400 = 0) then 29 else 28
  else if month = 4 ∨ month = 6 ∨ month = 9 ∨ month = 11 then 30
  else 31

/-- A date. -/
def date : Reader Unit := do
  let year ← fixedNumber 4 0 9999
  char '-'
  let month ← fixedNumber 2 1 12
  char '-'
  let _ ← fixedNumber 2 1 (daysIn year month)

/-- A time of the day, in which a minute may have a leap second. -/
def timeOfDay : Reader Unit := do
  let _ ← fixedNumber 2 0 23
  char ':'
  let _ ← fixedNumber 2 0 59
  char ':'
  let _ ← fixedNumber 2 0 60
  let _ ← maybe do
    char '.'
    some' (digitBelow 10)

/-- The offset of a time from the universal time. -/
def offset : Reader Unit :=
  (do let _ ← charWhere fun c => c == 'Z' || c == 'z') <|> do
    let _ ← charWhere fun c => c == '+' || c == '-'
    let _ ← fixedNumber 2 0 23
    char ':'
    let _ ← fixedNumber 2 0 59

/-- A time behind a date. -/
def timeBehindDate : Reader Unit := do
  let _ ← charWhere fun c => c == 'T' || c == 't' || c == ' '
  timeOfDay
  let _ ← maybe offset

/-- A date with or without a time. -/
def dated : Reader Unit := do
  date
  let _ ← maybe timeBehindDate

/-- A moment. -/
def moment : Reader Value := do
  let cs ← taken (dated <|> timeOfDay)
  pure (.moment (String.ofList cs))

/-- A number or a moment. -/
def number : Reader Value := moment <|> float <|> integer

end ForbiddenCalls.Toml
