import LoxSyntax.Number.Binary64
import Mathlib.Algebra.Order.Field.Power
import Mathlib.Data.Rat.Cast.Order
import Mathlib.Tactic.FieldSimp
import Mathlib.Tactic.Ring

/-!
# Rounding to double precision

The number nearest to a ratio depends on its value alone. A finite number is nearest to its own
units, so what reads back a number is any decimal of its value. A ratio is rounded to infinity
from half a unit in the last place below `2 ^ 1024` on.
-/
namespace LoxSyntax.Number

section Integers

variable {a b c q : Nat}

private theorem roundHalfEven_mul_mul (a b : Nat) (h : 0 < c) :
    roundHalfEven (a * c) (b * c) = roundHalfEven a b := by
  have below : 2 * (a % b * c) < b * c ↔ 2 * (a % b) < b := by
    rw [← Nat.mul_assoc, Nat.mul_lt_mul_right h]
  have above : b * c < 2 * (a % b * c) ↔ b < 2 * (a % b) := by
    rw [← Nat.mul_assoc, Nat.mul_lt_mul_right h]
  simp only [roundHalfEven, Nat.mul_div_mul_right a b h, Nat.mul_mod_mul_right, below, above]

private theorem div_le_roundHalfEven (a b : Nat) : a / b ≤ roundHalfEven a b := by
  simp only [roundHalfEven]
  split
  · exact Nat.le_refl _
  · split
    · exact Nat.le_succ _
    · split
      · exact Nat.le_refl _
      · exact Nat.le_succ _

private theorem roundHalfEven_le (a b : Nat) : roundHalfEven a b ≤ a / b + 1 := by
  simp only [roundHalfEven]
  split
  · exact Nat.le_succ _
  · split
    · exact Nat.le_refl _
    · split
      · exact Nat.le_succ _
      · exact Nat.le_refl _

private theorem le_roundHalfEven_iff (hb : 0 < b) (even : q % 2 = 0) :
    q ≤ roundHalfEven a b ↔ 2 * q * b ≤ 2 * a + b := by
  have split := Nat.div_add_mod a b
  have rest := Nat.mod_lt a hb
  have low := div_le_roundHalfEven a b
  have high := roundHalfEven_le a b
  rcases Nat.lt_trichotomy q (a / b + 1) with less | same | more
  · -- the quotient reaches the integer
    have reached : q * b ≤ b * (a / b) := by
      rw [Nat.mul_comm]
      exact Nat.mul_le_mul_left b (Nat.le_of_lt_succ less)
    have doubled : 2 * q * b = 2 * (q * b) := Nat.mul_assoc 2 q b
    constructor <;> omega
  · -- the quotient is one below, so it is odd and half goes up
    have next : q * b = b * (a / b) + b := by rw [same, Nat.add_mul, Nat.one_mul, Nat.mul_comm]
    have doubled : 2 * q * b = 2 * (q * b) := Nat.mul_assoc 2 q b
    have odd : ¬a / b % 2 = 0 := by omega
    simp only [roundHalfEven, odd, if_false]
    split <;> [skip; split] <;> omega
  · -- the quotient is too small
    have missed : b * (a / b + 2) ≤ q * b := by
      rw [Nat.mul_comm q b]
      exact Nat.mul_le_mul_left b more
    have doubled : 2 * q * b = 2 * (q * b) := Nat.mul_assoc 2 q b
    have spread : b * (a / b + 2) = b * (a / b) + 2 * b := by rw [Nat.mul_add, Nat.mul_comm b 2]
    constructor <;> omega

end Integers

namespace Binary64

section Ratio

variable {a b c d : Nat}

private theorem ofRatio_mul_mul (a b : Nat) (h : 0 < c) :
    ofRatio (a * c) (b * c) = ofRatio a b := by
  have scaled (n : Nat) : a * c * n = a * n * c := Nat.mul_right_comm a c n
  have whole (n : Nat) : b * c * n = b * n * c := Nat.mul_right_comm b c n
  simp only [ofRatio, scaled, whole, Nat.mul_div_mul_right _ b h, roundHalfEven_mul_mul _ _ h]

private theorem ofRatio_eq_of_mul_eq (hb : 0 < b) (hd : 0 < d) (h : a * d = c * b) :
    ofRatio a b = ofRatio c d := by
  rw [← ofRatio_mul_mul a b hd, ← ofRatio_mul_mul c d hb, h, Nat.mul_comm b d]

/-- The exponent that rounding a value finds: its digits beyond fifty-three in base two. -/
def exponentOf (value : Nat) : Nat := value.log2 - 52

private theorem exponentOf_le_iff {value k : Nat} :
    exponentOf value ≤ k ↔ value < 2 ^ (k + 53) := by
  rcases Nat.eq_zero_or_pos value with rfl | pos
  · simp [exponentOf]
  · rw [← Nat.log2_lt pos.ne', exponentOf]
    omega

private theorem lt_exponentOf_iff {value k : Nat} :
    k < exponentOf value ↔ 2 ^ (k + 53) ≤ value := by
  have h := @exponentOf_le_iff value k
  omega

/-- The pattern that rounding gives to a ratio of units, before overflow. -/
def roundedBits (scaled den : Nat) : Nat :=
  exponentOf (scaled / den) * 2 ^ 52 +
    roundHalfEven scaled (den * 2 ^ exponentOf (scaled / den))

/-- How many units one is. -/
def unitsOfOne : Nat := Nat.pow 2 1074

theorem unitsOfOne_pos : 0 < unitsOfOne := by
  unfold unitsOfOne
  simp only [Nat.pow_eq, Nat.two_pow_pos]

private theorem ofRatio_eq (a b : Nat) :
    ofRatio a b = ⟨UInt64.ofNat (min (roundedBits (a * unitsOfOne) b) infinityBits)⟩ := by
  unfold ofRatio roundedBits exponentOf unitsOfOne
  simp only [Nat.pow_eq]

private theorem roundedBits_mul {m k : Nat} (hb : 0 < b) (short : m < 2 ^ 53)
    (full : k ≠ 0 → 2 ^ 52 ≤ m) : roundedBits (m * 2 ^ k * b) b = k * 2 ^ 52 + m := by
  have exponent : exponentOf (m * 2 ^ k * b / b) = k := by
    rw [Nat.mul_div_cancel _ hb]
    apply Nat.le_antisymm
    · rw [exponentOf_le_iff, Nat.add_comm, Nat.pow_add]
      exact Nat.mul_lt_mul_of_pos_right short (Nat.two_pow_pos k)
    · cases k with
      | zero => exact Nat.zero_le _
      | succ k =>
        have grown : 2 ^ (k + 53) = 2 ^ 52 * 2 ^ (k + 1) := by
          rw [← Nat.pow_add]
          congr 1
          omega
        apply lt_exponentOf_iff.2
        rw [grown]
        exact Nat.mul_le_mul_right _ (full (Nat.succ_ne_zero k))
  have shifted : m * 2 ^ k * b = m * (b * 2 ^ k) := by
    rw [Nat.mul_assoc, Nat.mul_comm b]
  rw [roundedBits, exponent, shifted, roundHalfEven_mul m (Nat.mul_pos hb (Nat.two_pow_pos k))]

private theorem le_roundedBits_iff {s j : Nat} (hb : 0 < b) :
    (j + 2) * 2 ^ 52 ≤ roundedBits s b ↔ (2 ^ 54 - 1) * 2 ^ j * b ≤ 2 * s := by
  have scale (n : Nat) (h : exponentOf (s / b) = n) :
      s / (b * 2 ^ n) < 2 ^ 53 ∧ (n ≠ 0 → 2 ^ 52 ≤ s / (b * 2 ^ n)) := by
    rw [← Nat.div_div_eq_div_mul]
    constructor
    · rw [Nat.div_lt_iff_lt_mul (Nat.two_pow_pos n), ← Nat.pow_add, Nat.add_comm]
      exact exponentOf_le_iff.1 (Nat.le_of_eq h)
    · intro hn
      rw [Nat.le_div_iff_mul_le (Nat.two_pow_pos n), ← Nat.pow_add]
      have lower := lt_exponentOf_iff.1 (show n - 1 < exponentOf (s / b) by omega)
      rwa [show n - 1 + 53 = 52 + n by omega] at lower
  have value (n : Nat) (m : Nat) : m * 2 ^ n * b ≤ s ↔ m * 2 ^ n ≤ s / b :=
    (Nat.le_div_iff_mul_le hb).symm
  rw [roundedBits]
  generalize hn : exponentOf (s / b) = n
  obtain ⟨short, full⟩ := scale n hn
  have low := div_le_roundHalfEven s (b * 2 ^ n)
  have high := roundHalfEven_le s (b * 2 ^ n)
  rcases Nat.lt_trichotomy n j with less | same | more
  · -- too small by a whole exponent
    have upper : s / b < 2 ^ (n + 53) := exponentOf_le_iff.1 (Nat.le_of_eq hn)
    have grows : 2 ^ (n + 53) ≤ 2 ^ 52 * 2 ^ j := by
      rw [← Nat.pow_add]
      exact Nat.pow_le_pow_right (by decide) (by omega)
    have missed : ¬2 ^ 52 * 2 ^ j * b ≤ s := by
      rw [value]
      omega
    have spread : (2 ^ 54 - 1) * 2 ^ j * b = 3 * (2 ^ 52 * 2 ^ j * b) +
        (2 ^ 52 - 1) * (2 ^ j * b) := by ring
    constructor <;> omega
  · -- the last exponent below, where rounding up reaches the next
    subst same
    have reaches := le_roundHalfEven_iff (a := s) (q := 2 ^ 53)
      (Nat.mul_pos hb (Nat.two_pow_pos n)) (by decide)
    have doubled : 2 * 2 ^ 53 * (b * 2 ^ n) = (2 ^ 54 - 1) * 2 ^ n * b + b * 2 ^ n := by ring
    constructor
    · intro h
      have := reaches.1 (by omega)
      omega
    · intro h
      have := reaches.2 (by omega)
      omega
  · -- beyond
    have lower : 2 ^ (j + 53) ≤ s / b := lt_exponentOf_iff.1 (by omega)
    have reached : 2 ^ 53 * 2 ^ j * b ≤ s := by
      rw [value, ← Nat.pow_add, Nat.add_comm]
      exact lower
    have spread : 2 * (2 ^ 53 * 2 ^ j * b) = (2 ^ 54 - 1) * 2 ^ j * b + 2 ^ j * b := by ring
    have enough := full (by omega)
    constructor <;> omega

private theorem roundedBits_lt {s : Nat} : min (roundedBits s b) infinityBits < 2 ^ 64 :=
  Nat.lt_of_le_of_lt (Nat.min_le_right _ _) (by decide)

private theorem toNat_bits_ofRatio (a b : Nat) :
    (ofRatio a b).bits.toNat = min (roundedBits (a * unitsOfOne) b) infinityBits := by
  rw [ofRatio_eq, UInt64.toNat_ofNat_of_lt' roundedBits_lt]

private theorem magnitude_ofRatio (a b : Nat) :
    (ofRatio a b).magnitude = min (roundedBits (a * unitsOfOne) b) infinityBits := by
  rw [magnitude, toNat_bits_ofRatio]
  exact Nat.mod_eq_of_lt (Nat.lt_of_le_of_lt (Nat.min_le_right _ _) (by decide))

private theorem isInfinite_ofRatio_iff (a : Nat) (hb : 0 < b) :
    (ofRatio a b).isInfinite = true ↔ (2 ^ 54 - 1) * 2 ^ 970 * b ≤ a := by
  have bits : infinityBits = (970 + 1075 + 2) * 2 ^ 52 := rfl
  have threshold (m n : Nat) : (2 ^ 54 - 1) * 2 ^ (m + n) * b =
      (2 ^ 54 - 1) * 2 ^ m * b * 2 ^ n := by
    rw [Nat.pow_add]
    ring
  have scaled (n : Nat) : 2 * (a * 2 ^ n) = a * 2 ^ (n + 1) := by
    rw [Nat.pow_succ]
    ring
  have cancel (n : Nat) : (2 ^ 54 - 1) * 2 ^ 970 * b * 2 ^ n ≤ a * 2 ^ n ↔
      (2 ^ 54 - 1) * 2 ^ 970 * b ≤ a := Nat.mul_le_mul_right_iff (Nat.two_pow_pos n)
  rw [isInfinite, decide_eq_true_iff, magnitude_ofRatio, min_eq_right_iff, bits,
    le_roundedBits_iff hb, threshold]
  unfold unitsOfOne
  simp only [Nat.pow_eq, scaled, cancel]

end Ratio

section Units

variable {x : Binary64}

private theorem bits_lt (nonneg : x.isNegative = false) : x.bits.toNat < 2 ^ 63 :=
  Nat.lt_of_not_le (of_decide_eq_false nonneg)

private theorem magnitude_of_nonneg (nonneg : x.isNegative = false) : x.magnitude = x.bits.toNat :=
  Nat.mod_eq_of_lt (bits_lt nonneg)

/-- A finite number is nearest to its own units. -/
theorem ofRatio_units (nonneg : x.isNegative = false) (finite : x.isFinite = true) :
    ofRatio x.units unitsOfOne = x := by
  have bound : x.magnitude < infinityBits := of_decide_eq_true finite
  have split : x.magnitude = (x.magnitude / 2 ^ 52 - 1) * 2 ^ 52 +
      (x.magnitude - (x.magnitude / 2 ^ 52 - 1) * 2 ^ 52) := by omega
  have rounded : roundedBits (x.units * unitsOfOne) unitsOfOne = x.magnitude := by
    have kept := roundedBits_mul (k := x.magnitude / 2 ^ 52 - 1) unitsOfOne_pos
      (show x.magnitude - (x.magnitude / 2 ^ 52 - 1) * 2 ^ 52 < 2 ^ 53 by omega)
      (by omega)
    exact kept.trans split.symm
  rw [ofRatio_eq, rounded, Nat.min_eq_left (Nat.le_of_lt bound), magnitude_of_nonneg nonneg,
    UInt64.ofNat_toNat]

end Units

end Binary64

/-- The value of a decimal. -/
def Decimal.value (d : Decimal) : ℚ := d.digits * 10 ^ d.exponent

namespace Binary64

private theorem exists_ofDecimal_eq (d : Decimal) :
    ∃ a b : Nat, 0 < b ∧ d.value = a / b ∧ ofDecimal d = ofRatio a b := by
  unfold ofDecimal
  split
  · rename_i nonneg
    refine ⟨_, 1, Nat.one_pos, ?_, rfl⟩
    obtain ⟨n, hn⟩ := Int.eq_ofNat_of_zero_le nonneg
    simp [Decimal.value, hn]
  · rename_i negative
    refine ⟨_, _, Nat.pow_pos (by decide), ?_, rfl⟩
    obtain ⟨n, hn⟩ : ∃ n : Nat, d.exponent = -n := ⟨(-d.exponent).toNat, by omega⟩
    simp [Decimal.value, hn, div_eq_mul_inv]

private theorem toNat_bits_ofDecimal_le (d : Decimal) :
    (ofDecimal d).bits.toNat ≤ infinityBits := by
  obtain ⟨a, b, -, -, he⟩ := exists_ofDecimal_eq d
  rw [he, toNat_bits_ofRatio]
  exact Nat.min_le_right _ _

theorem isNegative_ofDecimal (d : Decimal) : (ofDecimal d).isNegative = false :=
  decide_eq_false (Nat.not_le.2 (Nat.lt_of_le_of_lt (toNat_bits_ofDecimal_le d) (by decide)))

theorem isNaN_ofDecimal (d : Decimal) : (ofDecimal d).isNaN = false := by
  rw [isNaN, magnitude_of_nonneg (isNegative_ofDecimal d)]
  exact decide_eq_false (Nat.not_lt.2 (toNat_bits_ofDecimal_le d))

theorem eq_infinity {x : Binary64} (nonneg : x.isNegative = false)
    (infinite : x.isInfinite = true) : x = infinity := by
  have bits : x.bits.toNat = infinityBits := by
    rw [← magnitude_of_nonneg nonneg]
    exact of_decide_eq_true infinite
  exact congrArg Binary64.mk (UInt64.toNat_inj.1 bits)

theorem finite_or_infinite {x : Binary64} (real : x.isNaN = false) :
    x.isFinite = true ∨ x.isInfinite = true := by
  rw [isNaN, decide_eq_false_iff_not, not_lt, le_iff_lt_or_eq] at real
  simpa [isFinite, isInfinite] using real

theorem ofDecimal_eq_ofRatio {d : Decimal} {a b : Nat} (hb : 0 < b) (h : d.value = a / b) :
    ofDecimal d = ofRatio a b := by
  obtain ⟨a', b', hb', hv, he⟩ := exists_ofDecimal_eq d
  rw [he]
  have nonzero : (b : ℚ) ≠ 0 := Nat.cast_ne_zero.2 hb.ne'
  have nonzero' : (b' : ℚ) ≠ 0 := Nat.cast_ne_zero.2 hb'.ne'
  rw [hv, div_eq_div_iff nonzero' nonzero] at h
  exact ofRatio_eq_of_mul_eq hb' hb (by exact_mod_cast h)

theorem ofDecimal_eq_of_value_eq {d d' : Decimal} (h : d.value = d'.value) :
    ofDecimal d = ofDecimal d' := by
  obtain ⟨a, b, hb, hv, he⟩ := exists_ofDecimal_eq d'
  rw [he]
  exact ofDecimal_eq_ofRatio hb (h.trans hv)

/-- A decimal is read as infinity from half a unit in the last place below `2 ^ 1024` on. -/
theorem isInfinite_ofDecimal_iff (d : Decimal) :
    (ofDecimal d).isInfinite = true ↔ (2 ^ 1024 - 2 ^ 970 : ℚ) ≤ d.value := by
  obtain ⟨a, b, hb, hv, he⟩ := exists_ofDecimal_eq d
  have threshold : (2 ^ 1024 - 2 ^ 970 : ℚ) = (((2 ^ 54 - 1) * 2 ^ 970 : Nat) : ℚ) := by
    have front : ((2 ^ 54 - 1 : Nat) : ℚ) = 2 ^ 54 - 1 := by norm_num
    rw [Nat.cast_mul, front, Nat.cast_pow, Nat.cast_two, sub_one_mul, ← pow_add]
  rw [he, isInfinite_ofRatio_iff a hb, hv, threshold, le_div_iff₀ (by exact_mod_cast hb)]
  exact_mod_cast Iff.rfl

theorem ofDecimal_eq_of_not_finite {d d' : Decimal} (large : (ofDecimal d).isFinite = false)
    (large' : (ofDecimal d').isFinite = false) : ofDecimal d = ofDecimal d' := by
  have infinite (d : Decimal) (large : (ofDecimal d).isFinite = false) :
      ofDecimal d = infinity := by
    rcases finite_or_infinite (isNaN_ofDecimal d) with finite | infinite
    · exact absurd finite (Bool.eq_false_iff.1 large)
    · exact eq_infinity (isNegative_ofDecimal d) infinite
  rw [infinite d large, infinite d' large']

theorem isFinite_ofDecimal_iff (d : Decimal) :
    (ofDecimal d).isFinite = true ↔ d.value < (2 ^ 1024 - 2 ^ 970 : ℚ) := by
  rw [← not_le, ← isInfinite_ofDecimal_iff, isFinite, isInfinite, decide_eq_true_iff,
    decide_eq_true_iff]
  have bound : (ofDecimal d).magnitude ≤ infinityBits := by
    rw [magnitude_of_nonneg (isNegative_ofDecimal d)]
    exact toNat_bits_ofDecimal_le d
  omega

end Binary64

end LoxSyntax.Number
