/-!
# Double-precision numbers as bit patterns

A number is its 64-bit pattern, so the two zeros differ and all arithmetic is exact arithmetic on
natural numbers. A non-negative pattern below infinity splits as `k * 2 ^ 52 + m` and stands for
`m * 2 ^ k` units of `2 ^ -1074`; reading a fraction finds that `k` and rounds `m`.
-/
namespace LoxSyntax.Number

/-- The integer nearest to `num / den`, a half going to the even neighbour. -/
def roundHalfEven (num den : Nat) : Nat :=
  let q := num / den
  let r := num % den
  if 2 * r < den then q
  else if den < 2 * r then q + 1
  else if q % 2 = 0 then q
  else q + 1

theorem roundHalfEven_mul (q : Nat) {den : Nat} (h : 0 < den) :
    roundHalfEven (q * den) den = q := by
  simp [roundHalfEven, Nat.mul_div_cancel q h, h]

/-- A decimal number without sign: `digits * 10 ^ exponent`. -/
structure Decimal where
  digits : Nat
  exponent : Int
  deriving DecidableEq, Repr

/-- A double-precision number, by its bit pattern. -/
structure Binary64 where
  bits : UInt64
  deriving DecidableEq, Repr

namespace Binary64

def infinityBits : Nat := 2047 * Nat.pow 2 52

def zero : Binary64 := ⟨0⟩

def infinity : Binary64 := ⟨UInt64.ofNat infinityBits⟩

/-- The pattern without its sign bit. -/
def magnitude (x : Binary64) : Nat := x.bits.toNat % Nat.pow 2 63

def isNegative (x : Binary64) : Bool := Nat.pow 2 63 ≤ x.bits.toNat

def isInfinite (x : Binary64) : Bool := x.magnitude = infinityBits

def isNaN (x : Binary64) : Bool := infinityBits < x.magnitude

def isFinite (x : Binary64) : Bool := x.magnitude < infinityBits

def negate (x : Binary64) : Binary64 := ⟨x.bits ^^^ UInt64.ofNat (Nat.pow 2 63)⟩

/-- How many units of `2 ^ -1074` a finite number is from zero. -/
def units (x : Binary64) : Nat :=
  let k := x.magnitude / Nat.pow 2 52 - 1
  (x.magnitude - k * Nat.pow 2 52) * Nat.pow 2 k

/-- The number nearest to `num / den`, with ties to even and overflow to infinity. -/
def ofRatio (num den : Nat) : Binary64 :=
  let scaled := num * Nat.pow 2 1074
  let k := (scaled / den).log2 - 52
  let bits := k * Nat.pow 2 52 + roundHalfEven scaled (den * Nat.pow 2 k)
  ⟨UInt64.ofNat (min bits infinityBits)⟩

/-- The sum of two finite numbers that are not negative. -/
def add (x y : Binary64) : Binary64 := ofRatio (x.units + y.units) (Nat.pow 2 1074)

/-- The `n`-th part of a finite number that is not negative. -/
def divide (x : Binary64) (n : Nat) : Binary64 := ofRatio x.units (n * Nat.pow 2 1074)

/-- The number nearest to a decimal. -/
def ofDecimal (d : Decimal) : Binary64 :=
  if 0 ≤ d.exponent then ofRatio (d.digits * Nat.pow 10 d.exponent.toNat) 1
  else ofRatio d.digits (Nat.pow 10 (-d.exponent).toNat)

/-- The number nearest to a decimal whose exponent may be of any size: no power of ten is built
where the result is certain to be infinity or zero. -/
def ofScientific (d : Decimal) : Binary64 :=
  if d.digits = 0 then zero
  else if 310 ≤ d.exponent then infinity
  else if d.digits.log2 + 1 + 3 * d.exponent ≤ -1076 then zero
  else ofDecimal d

end Binary64

end LoxSyntax.Number
