import LoxSyntax.Number.Binary64

/-!
# The shortest decimal that reads back

For one digit, then two, up to seventeen, the two decimals of that many digits around the number
are read back; the first that returns the number is its shortest form, and of two the nearer. The
exact decimal expansion stands at the end of the search, so every finite number has a form.
-/
namespace LoxSyntax.Number

/-- Which of two equally near decimals is taken. -/
inductive Tie
  | up
  | even
  deriving DecidableEq, Repr

/-- The number of decimal digits, at least one. -/
def digitCount (n : Nat) : Nat := (Nat.toDigits 10 n).length

namespace Decimal

/-- Trailing zeros moved from the digits to the exponent. -/
def normalize (d : Decimal) : Decimal :=
  if h : d.digits ≠ 0 ∧ d.digits % 10 = 0 then normalize ⟨d.digits / 10, d.exponent + 1⟩ else d
termination_by d.digits
decreasing_by exact Nat.div_lt_self (Nat.pos_of_ne_zero h.1) (by decide)

/-- The exact value of `n * 2 ^ -1074`. -/
def ofUnits (n : Nat) : Decimal := ⟨n * Nat.pow 5 1074, -1074⟩

/-- The decimal of `d` cut after `n` of its digits, and the next one on that grid; nearer first. -/
def neighbours (tie : Tie) (d : Decimal) (count n : Nat) : Decimal × Decimal :=
  let step := Nat.pow 10 (count - n)
  let low := d.digits / step
  let exponent := d.exponent + (count - n : Nat)
  let lower := normalize ⟨low, exponent⟩
  let upper := normalize ⟨low + 1, exponent⟩
  let below := d.digits - low * step
  let above := step - below
  let lowerFirst := below < above ∨ below = above ∧ tie = .even ∧ low % 2 = 0
  if lowerFirst then (lower, upper) else (upper, lower)

end Decimal

namespace Binary64

/-- The first grid of at least `n` digits with a decimal that reads back as `x`. -/
def searchShortest (tie : Tie) (x : Binary64) (exact : Decimal) (count : Nat) :
    (fuel n : Nat) → Decimal
  | 0, _ => exact.normalize
  | fuel + 1, n =>
    let (near, far) := exact.neighbours tie count n
    if ofDecimal near = x then near
    else if ofDecimal far = x then far
    else searchShortest tie x exact count fuel (n + 1)

/-- The shortest decimal that reads back as the finite non-negative number `x`. -/
def shortest (tie : Tie) (x : Binary64) : Decimal :=
  let exact := Decimal.ofUnits x.units
  searchShortest tie x exact (digitCount exact.digits) 17 1

end Binary64

end LoxSyntax.Number
