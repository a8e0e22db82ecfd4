import LoxSyntax.Number.Binary64

/-!
# Reading decimal digits

The value of a run of digits, and of digits with a point in them.
-/
namespace LoxSyntax.Number

/-- The value of digits in a base up to sixteen; letters count as digits above nine. -/
def digitValue (c : Char) : Nat :=
  if c.isDigit then c.toNat - '0'.toNat
  else if 'a' ≤ c ∧ c ≤ 'f' then c.toNat - 'a'.toNat + 10
  else if 'A' ≤ c ∧ c ≤ 'F' then c.toNat - 'A'.toNat + 10
  else 0

def valueInBase (base : Nat) (digits : List Char) : Nat :=
  digits.foldl (fun n c => base * n + digitValue c) 0

@[simp] theorem valueInBase_nil (base : Nat) : valueInBase base [] = 0 := rfl

theorem valueInBase_append_singleton (base : Nat) (digits : List Char) (c : Char) :
    valueInBase base (digits ++ [c]) = base * valueInBase base digits + digitValue c := by
  simp [valueInBase]

/-- Whether an integer has 64 bits. -/
def isInt64 (n : Int) : Bool := -9223372036854775808 ≤ n && n < 9223372036854775808

/-- The decimal with these digits before and after the point, scaled by a power of ten. -/
def Decimal.ofParts (whole fraction : List Char) (exponent : Int) : Decimal :=
  ⟨valueInBase 10 (whole ++ fraction), exponent - fraction.length⟩

/-- The decimal written as digits, or as digits with one point between them. -/
def Decimal.ofText (text : List Char) : Decimal :=
  ofParts (text.takeWhile (· ≠ '.')) ((text.dropWhile (· ≠ '.')).drop 1) 0

end LoxSyntax.Number
