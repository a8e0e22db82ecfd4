import LoxSyntax.Number.Shortest

/-!
# Writing a double-precision number

A layout fixes what formats decide differently: the tie between equally near digits, where
positional writing ends, whether a whole number keeps one zero after the point, the sign of a
positive exponent and the words for what is not finite. The digits are the shortest that read back.
-/
namespace LoxSyntax.Number

structure Layout where
  tie : Tie
  /-- Whether a number whose first digit has weight `10 ^ e` is written without an exponent. -/
  positional : Int → Bool
  keepsFraction : Bool
  positiveExponent : String
  infinity : String
  negativeInfinity : String
  notANumber : String

namespace Layout

/-- Digits and a point, no exponent and no superfluous zero: the form shown to readers. -/
def display : Layout where
  tie := .up
  positional _ := true
  keepsFraction := false
  positiveExponent := ""
  infinity := "inf"
  negativeInfinity := "-inf"
  notANumber := "NaN"

/-- Positional from `1e-5` up to `1e16`, always with a fraction; JSON has no word for infinity. -/
def json : Layout where
  tie := .even
  positional e := -5 ≤ e && e < 16
  keepsFraction := true
  positiveExponent := "+"
  infinity := "null"
  negativeInfinity := "null"
  notANumber := "null"

/-- As in JSON, with an unsigned positive exponent and words for what is not finite. -/
def yaml : Layout where
  tie := .even
  positional e := -5 ≤ e && e < 16
  keepsFraction := true
  positiveExponent := ""
  infinity := ".inf"
  negativeInfinity := "-.inf"
  notANumber := ".nan"

/-- Digits whose first has weight `10 ^ e`, written with a point where it is needed. -/
def writePositional (layout : Layout) (digits : List Char) (e : Int) : List Char :=
  let whole := if e < 0 then ['0'] else
    digits.take (e.toNat + 1) ++ List.replicate (e.toNat + 1 - digits.length) '0'
  let fraction := if e < 0 then List.replicate ((-e).toNat - 1) '0' ++ digits
    else digits.drop (e.toNat + 1)
  if fraction.isEmpty then if layout.keepsFraction then whole ++ ['.', '0'] else whole
  else whole ++ '.' :: fraction

/-- One digit, the others after a point, and the exponent. -/
def writeScientific (layout : Layout) (digits : List Char) (e : Int) : List Char :=
  let mantissa := match digits with
    | first :: more@(_ :: _) => first :: '.' :: more
    | short => short
  let sign := if e < 0 then ['-'] else layout.positiveExponent.toList
  mantissa ++ 'e' :: sign ++ Nat.toDigits 10 e.natAbs

def writeDecimal (layout : Layout) (d : Decimal) : List Char :=
  let digits := Nat.toDigits 10 d.digits
  let e := d.exponent + digits.length - 1
  if d.digits = 0 then layout.writePositional ['0'] 0
  else if layout.positional e then layout.writePositional digits e
  else layout.writeScientific digits e

def write (layout : Layout) (x : Binary64) : String :=
  if x.isNaN then layout.notANumber
  else if x.isInfinite then if x.isNegative then layout.negativeInfinity else layout.infinity
  else
    let sign := if x.isNegative then ['-'] else []
    let magnitude := if x.isNegative then x.negate else x
    String.ofList (sign ++ layout.writeDecimal (magnitude.shortest layout.tie))

end Layout

end LoxSyntax.Number
