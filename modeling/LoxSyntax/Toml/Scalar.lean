import LoxSyntax.Toml.Text

/-!
# TOML numbers and times

Integers of 64 bits in four bases, double-precision numbers, and dates and times, which are kept as
the text they are shown by.
-/
namespace LoxSyntax.Toml

open Number (Binary64 Decimal isInt64 valueInBase)

/-- A sign, and whether it is negative. -/
def sign : Reader Bool := do
  match ← ahead with
  | some '-' => do
    mark "-"
    pure true
  | some '+' => do
    mark "+"
    pure false
  | _ => pure false

/-- Decimal digits without a superfluous zero in front. -/
def plainDigits : Reader (List Char) := do
  let found ← underscored Char.isDigit
  match found with
  | '0' :: _ :: _ => failure
  | found => pure found

/-- Digits in a marked base. -/
def based (start : String) (isDigit : Char → Bool) (base : Nat) : Reader Int := do
  mark start
  let found ← underscored isDigit
  guarded isInt64 (pure (Int.ofNat (valueInBase base found)))

def integer : Reader Int :=
  based "0x" isHexDigit 16 <|>
  based "0o" (fun c => '0' ≤ c && c ≤ '7') 8 <|>
  based "0b" (fun c => c = '0' || c = '1') 2 <|> do
    let negative ← sign
    let found ← plainDigits
    let n := Int.ofNat (valueInBase 10 found)
    guarded isInt64 (pure (if negative then -n else n))

/-- The exponent of a number. -/
def exponent : Reader Int := do
  let _ ← one fun c => c = 'e' || c = 'E'
  let negative ← sign
  let found ← underscored Char.isDigit
  let n := Int.ofNat (valueInBase 10 found)
  pure (if negative then -n else n)

/-- A fraction, an exponent or both after a whole number. A positive number beyond the largest
finite one is refused. -/
def finiteFloat : Reader Binary64 := do
  let negative ← sign
  let whole ← plainDigits
  let fraction ← optionally do
    mark "."
    underscored Char.isDigit
  let scale ← optionally exponent
  if fraction.isNone && scale.isNone then failure
  else
    let x := Binary64.ofScientific (.ofParts whole (fraction.getD []) (scale.getD 0))
    if negative then pure x.negate
    else guarded (fun x => !x.isInfinite) (pure x)

def notANumber : Binary64 := ⟨0x7ff8000000000000⟩

def specialFloat : Reader Binary64 := do
  let negative ← sign
  let x ← (mark "inf" *> pure Binary64.infinity) <|> (mark "nan" *> pure notANumber)
  pure (if negative then x.negate else x)

def float : Reader Binary64 := finiteFloat <|> specialFloat

/-- A number of `count` digits between two bounds. -/
def ranged (count low high : Nat) : Reader Nat := do
  let found ← digits count
  guarded (fun n => low ≤ n && n ≤ high) (pure (valueInBase 10 found))

def isLeapYear (year : Nat) : Bool := year % 4 = 0 && (year % 100 ≠ 0 || year % 400 = 0)

def daysIn (year month : Nat) : Nat :=
  match month with
  | 2 => if isLeapYear year then 29 else 28
  | 4 | 6 | 9 | 11 => 30
  | _ => 31

/-- Decimal digits, at least `width` of them. -/
def padded (width n : Nat) : String :=
  let digits := Nat.toDigits 10 n
  String.ofList (List.replicate (width - digits.length) '0' ++ digits)

def date : Reader String := do
  let year ← ranged 4 0 9999
  mark "-"
  let month ← ranged 2 1 12
  mark "-"
  let day ← ranged 2 1 (daysIn year month)
  pure (padded 4 year ++ "-" ++ padded 2 month ++ "-" ++ padded 2 day)

/-- Fractions of a second to nine digits, without zeros at the end. -/
def secondFraction : Reader String := do
  mark "."
  let found ← guarded (fun found => !found.isEmpty) (run Char.isDigit)
  let kept := ((found.take 9).reverse.dropWhile (· = '0')).reverse
  pure (if kept.isEmpty then "" else "." ++ String.ofList kept)

/-- A time of day, up to some hour. -/
def time (lastHour : Nat) : Reader String := do
  let hour ← ranged 2 0 lastHour
  mark ":"
  let minute ← ranged 2 0 59
  mark ":"
  let second ← ranged 2 0 60
  let fraction ← optionally secondFraction
  pure (padded 2 hour ++ ":" ++ padded 2 minute ++ ":" ++ padded 2 second ++ fraction.getD "")

/-- The distance from universal time, with at most so many hours and minutes and so many minutes in
all. -/
def offset (lastHour lastMinute total : Nat) : Reader String :=
  (one (fun c => c = 'Z' || c = 'z') *> pure "Z") <|> do
    let negative ← (mark "-" *> pure true) <|> (mark "+" *> pure false)
    let hour ← ranged 2 0 lastHour
    mark ":"
    let minute ← ranged 2 0 lastMinute
    let minutes ← guarded (· ≤ total) (pure (60 * hour + minute))
    let shown := if negative && minutes ≠ 0 then "-" else "+"
    pure (shown ++ padded 2 (minutes / 60) ++ ":" ++ padded 2 (minutes % 60))

/-- A date, a time, or both with or without an offset. -/
def dateTime : Reader String :=
  (do
    let day ← date
    let clock ← optionally do
      let _ ← one fun c => c = 'T' || c = 't' || c = ' '
      let clock ← time 23
      let zone ← optionally (offset 23 59 1439)
      pure (clock ++ zone.getD "")
    pure (match clock with
      | some clock => day ++ "T" ++ clock
      | none => day)) <|> time 23

/-- The date or time that a whole text is. Here a day may end at twenty-four o'clock and an offset
may reach a full day. -/
def dateTimeOfText? (text : String) : Option String := do
  let reader : Reader String :=
    if (text.toList.drop 2).head? = some ':' then time 24
    else do
      let day ← date
      match ← ahead with
      | none => pure day
      | some _ => do
        let _ ← one fun c => c = 'T' || c = 't' || c = ' '
        let clock ← time 24
        match ← ahead with
        | none => pure (day ++ "T" ++ clock)
        | some _ => do
          let zone ← offset 99 99 1440
          pure (day ++ "T" ++ clock ++ zone)
  let (shown, rest) ← reader text.toList
  if rest.isEmpty then some shown else none

end LoxSyntax.Toml
