import LoxSyntax.Number.Digits
import LoxSyntax.Number.Layout
import LoxSyntax.Proofs.Number.Rounding
import Mathlib.Data.List.Induction
import Mathlib.Data.List.TakeWhile
import Mathlib.Tactic.Positivity

/-!
# Numbers read back from their texts

The decimal that a finite number is written as reads back as that number, and its text, with or
without an exponent, gives back the value of the decimal. So a layout never writes two finite
numbers alike.
-/
namespace LoxSyntax.Number

section Digits

variable {n : Nat} {digits : List Char}

theorem valueInBase_append (base : Nat) (a b : List Char) :
    valueInBase base (a ++ b) = valueInBase base a * base ^ b.length + valueInBase base b := by
  induction b using List.reverseRecOn with
  | nil => simp
  | append_singleton b c ih =>
    rw [← List.append_assoc, valueInBase_append_singleton, valueInBase_append_singleton, ih,
      List.length_append, List.length_singleton, Nat.pow_succ]
    ring

private theorem valueInBase_zeros (base n : Nat) : valueInBase base (List.replicate n '0') = 0 := by
  induction n with
  | zero => rfl
  | succ n ih =>
    rw [List.replicate_succ', valueInBase_append_singleton, ih]
    rfl

private theorem valueInBase_eq_ofDigitChars (base : Nat) (all : ∀ c ∈ digits, c.isDigit = true) :
    valueInBase base digits = base.ofDigitChars digits 0 := by
  induction digits using List.reverseRecOn with
  | nil => rfl
  | append_singleton digits c ih =>
    have own : digitValue c = c.toNat - '0'.toNat := by simp [digitValue, all c (by simp)]
    rw [valueInBase_append_singleton, own, ih fun d hd => all d (by simp [hd])]
    simp [Nat.ofDigitChars]

theorem isDigit_of_mem_digits {c : Char} (h : c ∈ Nat.toDigits 10 n) : c.isDigit = true :=
  Nat.isDigit_of_mem_toDigits (by decide) (by decide) h

theorem valueInBase_toDigits (n : Nat) : valueInBase 10 (Nat.toDigits 10 n) = n := by
  rw [valueInBase_eq_ofDigitChars 10 fun _ => isDigit_of_mem_digits]
  exact Nat.ofDigitChars_toDigits (by decide) (by decide)

end Digits

namespace Decimal

private theorem value_mul_pow (digits k : Nat) (exponent : Int) :
    value ⟨digits * 10 ^ k, exponent⟩ = value ⟨digits, exponent + k⟩ := by
  have ten : (10 : ℚ) ≠ 0 := by norm_num
  simp only [value, Nat.cast_mul, Nat.cast_pow, Nat.cast_ofNat]
  rw [zpow_add₀ ten, zpow_natCast]
  ring

private theorem value_add (digits : Nat) (a b : Int) :
    value ⟨digits, a + b⟩ = value ⟨digits, a⟩ * 10 ^ b := by
  simp only [value]
  rw [zpow_add₀ (by norm_num), mul_assoc]

private theorem value_normalize (d : Decimal) : d.normalize.value = d.value := by
  fun_induction normalize d with
  | case1 d h ih =>
    have shifted := value_mul_pow (d.digits / 10) 1 d.exponent
    rw [Nat.pow_one, Nat.div_mul_cancel (Nat.dvd_of_mod_eq_zero h.2)] at shifted
    exact ih.trans shifted.symm
  | case2 d h => rfl

private theorem value_ofUnits (n : Nat) : (ofUnits n).value = n / Binary64.unitsOfOne := by
  have power (k : Nat) : (n : ℚ) * 5 ^ k * 10 ^ (-(k : ℤ)) = n / 2 ^ k := by
    have ten : (10 : ℚ) ^ k = 5 ^ k * 2 ^ k := by
      rw [← mul_pow]
      norm_num
    have five : (5 : ℚ) ^ k ≠ 0 := by positivity
    rw [zpow_neg, zpow_natCast, ten, ← div_eq_mul_inv, mul_comm (n : ℚ), mul_div_mul_left _ _ five]
  have own := power 1074
  unfold value ofUnits Binary64.unitsOfOne
  simpa only [Nat.pow_eq, Nat.cast_mul, Nat.cast_pow, Nat.cast_ofNat] using own

/-- The power of ten that stands behind the mark of an exponent. -/
def exponentText : List Char → Int
  | 'e' :: '-' :: digits => -(valueInBase 10 digits : Int)
  | 'e' :: '+' :: digits => valueInBase 10 digits
  | 'e' :: digits => valueInBase 10 digits
  | _ => 0

/-- The decimal written as digits with or without a point and an exponent. -/
def ofWritten (text : List Char) : Decimal :=
  let mantissa := ofText (text.takeWhile (· ≠ 'e'))
  ⟨mantissa.digits, mantissa.exponent + exponentText (text.dropWhile (· ≠ 'e'))⟩

section Texts

variable {mark : Char} {whole text : List Char}

theorem takeWhile_ne (absent : mark ∉ text) (more : List Char) :
    (text ++ mark :: more).takeWhile (· ≠ mark) = text ∧
      (text ++ mark :: more).dropWhile (· ≠ mark) = mark :: more ∧
      text.takeWhile (· ≠ mark) = text ∧ text.dropWhile (· ≠ mark) = [] := by
  have other : ∀ c ∈ text, decide (c ≠ mark) = true := by
    intro c hc
    apply decide_eq_true
    rintro rfl
    exact absent hc
  refine ⟨?_, ?_, List.takeWhile_eq_self_iff.2 other, List.dropWhile_eq_nil_iff.2 other⟩
  · rw [List.takeWhile_append_of_pos other]
    simp
  · rw [List.dropWhile_append_of_pos other]
    simp

theorem ofText_point (noPoint : '.' ∉ whole) (fraction : List Char) :
    ofText (whole ++ '.' :: fraction) =
      ⟨valueInBase 10 (whole ++ fraction), -fraction.length⟩ := by
  obtain ⟨front, back, -⟩ := takeWhile_ne noPoint fraction
  rw [ofText, ofParts, front, back, List.drop_one, List.tail_cons, Int.zero_sub]

theorem ofText_whole (noPoint : '.' ∉ whole) : ofText whole = ⟨valueInBase 10 whole, 0⟩ := by
  obtain ⟨-, -, front, back⟩ := takeWhile_ne noPoint []
  rw [ofText, ofParts, front, back]
  simp

theorem ofWritten_append (noMark : 'e' ∉ text) (more : List Char) :
    ofWritten (text ++ 'e' :: more) =
      ⟨(ofText text).digits, (ofText text).exponent + exponentText ('e' :: more)⟩ := by
  obtain ⟨front, back, -⟩ := takeWhile_ne noMark more
  rw [ofWritten, front, back]

theorem ofWritten_eq_ofText (noMark : 'e' ∉ text) : ofWritten text = ofText text := by
  obtain ⟨-, -, front, back⟩ := takeWhile_ne noMark []
  have none : exponentText [] = 0 := rfl
  rw [ofWritten, front, back, none, Int.add_zero]

end Texts

end Decimal

namespace Binary64

variable {x : Binary64}

/-- The number written as a decimal, with or without a minus in front. -/
def ofWritten : List Char → Binary64
  | '-' :: more => (ofDecimal (.ofWritten more)).negate
  | text => ofDecimal (.ofWritten text)

private theorem ofDecimal_searchShortest {exact : Decimal} (own : ofDecimal exact = x) (tie : Tie)
    (count fuel n : Nat) : ofDecimal (searchShortest tie x exact count fuel n) = x := by
  fun_induction searchShortest tie x exact count fuel n with
  | case1 => rw [ofDecimal_eq_of_value_eq (Decimal.value_normalize exact), own]
  | case2 | case3 => assumption
  | case4 _ _ _ _ _ _ _ ih => exact ih

/-- The shortest decimal of a finite number reads back as that number. -/
theorem ofDecimal_shortest (nonneg : x.isNegative = false) (finite : x.isFinite = true)
    (tie : Tie) : ofDecimal (x.shortest tie) = x := by
  have own : ofDecimal (.ofUnits x.units) = x := by
    rw [ofDecimal_eq_ofRatio unitsOfOne_pos (Decimal.value_ofUnits x.units)]
    exact ofRatio_units nonneg finite
  exact ofDecimal_searchShortest own tie _ _ _

theorem ordinary_of_isFinite (finite : x.isFinite = true) :
    x.isNaN = false ∧ x.isInfinite = false := by
  rw [isFinite, decide_eq_true_iff] at finite
  rw [isNaN, isInfinite, decide_eq_false_iff_not, decide_eq_false_iff_not]
  generalize infinityBits = n at *
  omega

section Sign

private theorem toNat_bits_negate (x : Binary64) :
    x.negate.bits.toNat = x.bits.toNat ^^^ 2 ^ 63 := by
  rw [negate, UInt64.toNat_xor]
  rfl

theorem magnitude_negate (x : Binary64) : x.negate.magnitude = x.magnitude := by
  change x.negate.bits.toNat % 2 ^ 63 = x.bits.toNat % 2 ^ 63
  rw [toNat_bits_negate, Nat.xor_mod_two_pow, Nat.mod_self, Nat.xor_zero]

theorem isFinite_negate (x : Binary64) : x.negate.isFinite = x.isFinite := by
  rw [isFinite, isFinite, magnitude_negate]

theorem isNegative_negate (negative : x.isNegative = true) : x.negate.isNegative = false := by
  have low : 2 ^ 63 ≤ x.bits.toNat := of_decide_eq_true negative
  have high := x.bits.toNat_lt
  have top : x.bits.toNat / 2 ^ 63 = 1 := by omega
  have flipped : x.negate.bits.toNat / 2 ^ 63 = 0 := by
    rw [toNat_bits_negate, Nat.xor_div_two_pow, top, Nat.div_self (Nat.two_pow_pos 63)]
    rfl
  apply decide_eq_false
  change ¬2 ^ 63 ≤ x.negate.bits.toNat
  omega

theorem negate_negate (x : Binary64) : x.negate.negate = x := by
  rw [negate, negate, UInt64.xor_assoc, UInt64.xor_self, UInt64.xor_zero]

end Sign

end Binary64

namespace Layout

/-- The sign of a positive exponent is one that readers know. -/
def Readable (layout : Layout) : Prop :=
  layout.positiveExponent = "" ∨ layout.positiveExponent = "+"

/-- The characters of written numbers. -/
def IsMark (c : Char) : Prop := c.isDigit = true ∨ c = '.' ∨ c = 'e' ∨ c = '+' ∨ c = '-'

/-- A text of a number that starts with a digit and stands for a value. -/
structure Denotes (text : List Char) (value : ℚ) : Prop where
  value : (Decimal.ofWritten text).value = value
  first : ∃ c more, text = c :: more ∧ c.isDigit = true
  marks : ∀ c ∈ text, IsMark c

variable {layout : Layout} {digits whole fraction : List Char} {c : Char} {value : ℚ}

theorem not_mem_digits (all : ∀ c ∈ digits, c.isDigit = true) (other : c.isDigit = false) :
    c ∉ digits := by
  intro hc
  rw [all c hc] at other
  cases other

private theorem denotes_point (all : ∀ c ∈ whole ++ fraction, c.isDigit = true)
    (nonempty : whole ≠ [])
    (own : Decimal.value ⟨valueInBase 10 (whole ++ fraction), -fraction.length⟩ = value) :
    Denotes (whole ++ '.' :: fraction) value := by
  simp only [List.mem_append] at all
  have noPoint := not_mem_digits (c := '.') (fun c hc => all c (.inl hc)) rfl
  have noMark : 'e' ∉ whole ++ '.' :: fraction := by
    have mark := not_mem_digits (c := 'e') (fun c hc => all c (.inl hc)) rfl
    have mark' := not_mem_digits (c := 'e') (fun c hc => all c (.inr hc)) rfl
    simp [mark, mark']
  refine ⟨?_, ?_, fun c hc => ?_⟩
  · rw [Decimal.ofWritten_eq_ofText noMark, Decimal.ofText_point noPoint, own]
  · obtain ⟨c, more, rfl⟩ := List.exists_cons_of_ne_nil nonempty
    exact ⟨c, _, rfl, all c (.inl (by simp))⟩
  · rcases List.mem_append.1 hc with hc | hc
    · exact .inl (all c (.inl hc))
    · rcases List.mem_cons.1 hc with rfl | hc
      · exact .inr (.inl rfl)
      · exact .inl (all c (.inr hc))

private theorem denotes_whole (all : ∀ c ∈ whole, c.isDigit = true) (nonempty : whole ≠ [])
    (own : Decimal.value ⟨valueInBase 10 whole, 0⟩ = value) : Denotes whole value := by
  have noPoint := not_mem_digits (c := '.') all rfl
  have noMark := not_mem_digits (c := 'e') all rfl
  refine ⟨?_, ?_, fun c hc => .inl (all c hc)⟩
  · rw [Decimal.ofWritten_eq_ofText noMark, Decimal.ofText_whole noPoint, own]
  · obtain ⟨c, more, rfl⟩ := List.exists_cons_of_ne_nil nonempty
    exact ⟨c, _, rfl, all c (by simp)⟩

section Decimals

variable (all : ∀ c ∈ digits, c.isDigit = true) (nonempty : digits ≠ []) {e : Int}

include all nonempty

private theorem denotes_writePositional_small (layout : Layout) (small : e < 0) :
    Denotes (layout.writePositional digits e)
        (Decimal.value ⟨valueInBase 10 digits, e + 1 - digits.length⟩) ∧
      '.' ∈ layout.writePositional digits e := by
  have written : layout.writePositional digits e =
      ['0'] ++ '.' :: (List.replicate ((-e).toNat - 1) '0' ++ digits) := by
    simp [writePositional, small, nonempty]
  have front : ['0'] ++ (List.replicate ((-e).toNat - 1) '0' ++ digits) =
      List.replicate ((-e).toNat - 1 + 1) '0' ++ digits := by
    simp [List.replicate_succ]
  rw [written]
  refine ⟨denotes_point ?_ (by simp) ?_, by simp⟩
  · rw [front]
    simp only [List.mem_append, List.mem_replicate]
    rintro c (⟨-, rfl⟩ | hc)
    · rfl
    · exact all c hc
  · rw [front, valueInBase_append, valueInBase_zeros, Nat.zero_mul, Nat.zero_add,
      List.length_append, List.length_replicate]
    congr 2
    omega

private theorem denotes_writePositional_point (layout : Layout) (large : 0 ≤ e)
    (more : e.toNat + 1 < digits.length) :
    Denotes (layout.writePositional digits e)
        (Decimal.value ⟨valueInBase 10 digits, e + 1 - digits.length⟩) ∧
      '.' ∈ layout.writePositional digits e := by
  have written : layout.writePositional digits e =
      digits.take (e.toNat + 1) ++ '.' :: digits.drop (e.toNat + 1) := by
    have some : digits.drop (e.toNat + 1) ≠ [] := by
      rw [ne_eq, List.drop_eq_nil_iff]
      omega
    have none : e.toNat + 1 - digits.length = 0 := by omega
    simp [writePositional, Int.not_lt.2 large, some, none]
  rw [written]
  refine ⟨denotes_point ?_ ?_ ?_, by simp⟩
  · rwa [List.take_append_drop]
  · simp [nonempty]
  · rw [List.take_append_drop, List.length_drop]
    congr 2
    omega

private theorem denotes_writePositional_whole (layout : Layout) (large : 0 ≤ e)
    (fits : digits.length ≤ e.toNat + 1) :
    Denotes (layout.writePositional digits e)
        (Decimal.value ⟨valueInBase 10 digits, e + 1 - digits.length⟩) ∧
      (layout.keepsFraction = true → '.' ∈ layout.writePositional digits e) := by
  generalize zeros : e.toNat + 1 - digits.length = k
  have written : layout.writePositional digits e =
      if layout.keepsFraction then digits ++ List.replicate k '0' ++ '.' :: ['0']
      else digits ++ List.replicate k '0' := by
    have none : digits.drop (e.toNat + 1) = [] := List.drop_eq_nil_iff.2 fits
    simp [writePositional, Int.not_lt.2 large, none, zeros, List.take_of_length_le fits]
  have shift : e + 1 - digits.length = k := by omega
  have padded : ∀ c ∈ digits ++ List.replicate k '0', c.isDigit = true := by
    simp only [List.mem_append, List.mem_replicate]
    rintro c (hc | ⟨-, rfl⟩)
    · exact all c hc
    · rfl
  have value (j : Nat) : valueInBase 10 (digits ++ List.replicate j '0') =
      valueInBase 10 digits * 10 ^ j := by
    rw [valueInBase_append, valueInBase_zeros, List.length_replicate, Nat.add_zero]
  rw [written, shift]
  split
  · refine ⟨denotes_point ?_ (by simp [nonempty]) ?_, by simp⟩
    · intro c hc
      rcases List.mem_append.1 hc with hc | hc
      · exact padded c hc
      · obtain rfl := List.mem_singleton.1 hc
        rfl
    · rw [List.append_assoc, ← List.replicate_succ', value, Decimal.value_mul_pow]
      congr 2
      simp
  · refine ⟨denotes_whole padded (by simp [nonempty]) ?_, by simp [*]⟩
    rw [value, Decimal.value_mul_pow, Int.zero_add]

private theorem denotes_writePositional (layout : Layout) (e : Int) :
    Denotes (layout.writePositional digits e)
        (Decimal.value ⟨valueInBase 10 digits, e + 1 - digits.length⟩) ∧
      (layout.keepsFraction = true → '.' ∈ layout.writePositional digits e) := by
  rcases Int.lt_or_le e 0 with small | large
  · obtain ⟨denotes, point⟩ := denotes_writePositional_small all nonempty layout small
    exact ⟨denotes, fun _ => point⟩
  · rcases Nat.lt_or_ge (e.toNat + 1) digits.length with more | fits
    · obtain ⟨denotes, point⟩ := denotes_writePositional_point all nonempty layout large more
      exact ⟨denotes, fun _ => point⟩
    · exact denotes_writePositional_whole all nonempty layout large fits

end Decimals

/-- An exponent with its sign, behind its mark. -/
def exponentDigits (layout : Layout) (e : Int) : List Char :=
  (if e < 0 then ['-'] else layout.positiveExponent.toList) ++ Nat.toDigits 10 e.natAbs

theorem exponentText_exponentDigits (readable : layout.Readable) (e : Int) :
    Decimal.exponentText ('e' :: layout.exponentDigits e) = e := by
  have value := valueInBase_toDigits e.natAbs
  by_cases negative : e < 0
  · have written : layout.exponentDigits e = '-' :: Nat.toDigits 10 e.natAbs := by
      rw [exponentDigits, if_pos negative, List.singleton_append]
    rw [written, Decimal.exponentText, value]
    omega
  · rcases readable with plain | plus
    · have written : layout.exponentDigits e = Nat.toDigits 10 e.natAbs := by
        rw [exponentDigits, if_neg negative, plain, String.toList_empty, List.nil_append]
      have digits := fun c => isDigit_of_mem_digits (n := e.natAbs) (c := c)
      rw [written]
      generalize Nat.toDigits 10 e.natAbs = ds at value digits
      have unsigned : Decimal.exponentText ('e' :: ds) = valueInBase 10 ds := by
        apply Decimal.exponentText.eq_3
        · rintro more rfl
          exact absurd (digits '-' (by simp)) (by decide)
        · rintro more rfl
          exact absurd (digits '+' (by simp)) (by decide)
      rw [unsigned, value]
      omega
    · have written : layout.exponentDigits e = '+' :: Nat.toDigits 10 e.natAbs := by
        rw [exponentDigits, if_neg negative, plus]
        rfl
      rw [written, Decimal.exponentText, value]
      omega

private theorem isMark_of_mem_exponentDigits (readable : layout.Readable) {e : Int}
    (h : c ∈ layout.exponentDigits e) : IsMark c := by
  rcases List.mem_append.1 h with sign | digit
  · split at sign
    · exact .inr (.inr (.inr (.inr (List.mem_singleton.1 sign))))
    · rcases readable with plain | plus
      · simp [plain] at sign
      · rw [plus] at sign
        exact .inr (.inr (.inr (.inl (List.mem_singleton.1 sign))))
  · exact .inl (isDigit_of_mem_digits digit)

private theorem denotes_writeScientific (all : ∀ c ∈ digits, c.isDigit = true)
    (nonempty : digits ≠ [])
    (readable : layout.Readable) (e : Int) :
    Denotes (layout.writeScientific digits e)
        (Decimal.value ⟨valueInBase 10 digits, e + 1 - digits.length⟩) ∧
      'e' ∈ layout.writeScientific digits e := by
  obtain ⟨mantissa, written, denotes, noMark⟩ : ∃ mantissa, layout.writeScientific digits e =
      mantissa ++ 'e' :: layout.exponentDigits e ∧
      Denotes mantissa (Decimal.value ⟨valueInBase 10 digits, 1 - digits.length⟩) ∧
      'e' ∉ mantissa := by
    have mark := not_mem_digits (c := 'e') all rfl
    match digits, nonempty, all, mark with
    | [c], _, all, mark => exact ⟨[c], rfl, denotes_whole all (by simp) rfl, mark⟩
    | c :: d :: more, _, all, mark =>
      refine ⟨[c] ++ '.' :: d :: more, ?_, denotes_point all (by simp) ?_, by simpa using mark⟩
      · simp [writeScientific, exponentDigits]
      · have count : (1 : Int) - (c :: d :: more).length = -(d :: more).length := by
          simp only [List.length_cons]
          omega
        rw [count]
        rfl
  have exponent : e + 1 - digits.length = 1 - digits.length + e := by omega
  rw [written, exponent, Decimal.value_add, ← denotes.value, Decimal.ofWritten_eq_ofText noMark]
  refine ⟨⟨?_, ?_, fun d hd => ?_⟩, by simp⟩
  · rw [Decimal.ofWritten_append noMark, Decimal.value_add, exponentText_exponentDigits readable]
  · obtain ⟨c, more, rfl, digit⟩ := denotes.first
    exact ⟨c, _, rfl, digit⟩
  · rcases List.mem_append.1 hd with hd | hd
    · exact denotes.marks d hd
    · rcases List.mem_cons.1 hd with rfl | hd
      · exact .inr (.inr (.inl rfl))
      · exact isMark_of_mem_exponentDigits readable hd

/-- A written decimal stands for its value; where whole numbers keep a fraction, its text has a
point or an exponent. -/
theorem denotes_writeDecimal (readable : layout.Readable) (d : Decimal) :
    Denotes (layout.writeDecimal d) d.value ∧
      (layout.keepsFraction = true →
        '.' ∈ layout.writeDecimal d ∨ 'e' ∈ layout.writeDecimal d) := by
  have all : ∀ c ∈ Nat.toDigits 10 d.digits, c.isDigit = true := fun _ => isDigit_of_mem_digits
  have nonempty : Nat.toDigits 10 d.digits ≠ [] := Nat.toDigits_ne_nil
  have own : Decimal.value ⟨valueInBase 10 (Nat.toDigits 10 d.digits),
      d.exponent + (Nat.toDigits 10 d.digits).length - 1 + 1 - (Nat.toDigits 10 d.digits).length⟩ =
        d.value := by
    rw [valueInBase_toDigits]
    congr 2
    omega
  rw [writeDecimal]
  split
  · rename_i zero
    have digit : ∀ c ∈ ['0'], c.isDigit = true := by simp
    obtain ⟨denotes, point⟩ := denotes_writePositional digit (List.cons_ne_nil '0' []) layout 0
    have none : d.value = 0 := by simp [Decimal.value, zero]
    refine ⟨?_, fun keeps => .inl (point keeps)⟩
    rw [none]
    simpa [Decimal.value, valueInBase, digitValue] using denotes
  · split
    · obtain ⟨denotes, point⟩ := denotes_writePositional all nonempty layout
        (d.exponent + (Nat.toDigits 10 d.digits).length - 1)
      exact ⟨own ▸ denotes, fun keeps => .inl (point keeps)⟩
    · obtain ⟨denotes, mark⟩ := denotes_writeScientific all nonempty readable
        (d.exponent + (Nat.toDigits 10 d.digits).length - 1)
      exact ⟨own ▸ denotes, fun _ => .inr mark⟩

section Numbers

variable {x : Binary64}

private theorem write_of_finite (finite : x.isFinite = true) :
    layout.write x = String.ofList ((if x.isNegative then ['-'] else []) ++
      layout.writeDecimal ((if x.isNegative then x.negate else x).shortest layout.tie)) := by
  obtain ⟨number, small⟩ := Binary64.ordinary_of_isFinite finite
  unfold write
  generalize layout.writeDecimal = digits
  simp only [number, small, Bool.false_eq_true, if_false]

theorem write_of_nonneg (finite : x.isFinite = true) (nonneg : x.isNegative = false) :
    layout.write x = String.ofList (layout.writeDecimal (x.shortest layout.tie)) := by
  have sign : ¬x.isNegative = true := Bool.eq_false_iff.1 nonneg
  rw [write_of_finite finite, if_neg sign, if_neg sign, List.nil_append]

theorem write_of_negative (finite : x.isFinite = true) (negative : x.isNegative = true) :
    layout.write x =
      String.ofList ('-' :: layout.writeDecimal (x.negate.shortest layout.tie)) := by
  rw [write_of_finite finite, if_pos negative, if_pos negative, List.singleton_append]

/-- A finite number is written as such characters only, with a digit or a minus in front. -/
theorem write_marks (readable : layout.Readable) (finite : x.isFinite = true) :
    (∀ c ∈ (layout.write x).toList, IsMark c) ∧
      ∃ c more, (layout.write x).toList = c :: more ∧ (c.isDigit = true ∨ c = '-') := by
  cases sign : x.isNegative with
  | false =>
    obtain ⟨denotes, -⟩ := denotes_writeDecimal readable (x.shortest layout.tie)
    rw [write_of_nonneg finite sign, String.toList_ofList]
    obtain ⟨c, more, he, digit⟩ := denotes.first
    exact ⟨denotes.marks, c, more, he, .inl digit⟩
  | true =>
    obtain ⟨denotes, -⟩ := denotes_writeDecimal readable (x.negate.shortest layout.tie)
    rw [write_of_negative finite sign, String.toList_ofList]
    refine ⟨fun c hc => ?_, '-', _, rfl, .inr rfl⟩
    rcases List.mem_cons.1 hc with rfl | hc
    · exact .inr (.inr (.inr (.inr rfl)))
    · exact denotes.marks c hc

theorem ne_of_front {c d : Char} (front : c.isDigit = true ∨ c = '-') (letter : '9' < d) :
    c ≠ d := by
  rintro rfl
  rcases front with digit | rfl
  · have small : c ≤ '9' := of_decide_eq_true (Bool.and_eq_true_iff.1 digit).2
    exact Char.not_le.2 letter small
  · exact absurd letter (by decide)

theorem exists_not_digit_of_write (readable : layout.Readable) (keeps : layout.keepsFraction = true)
    (finite : x.isFinite = true) : ∃ c ∈ (layout.write x).toList, c.isDigit = false := by
  have other (d : Decimal) : ∃ c ∈ layout.writeDecimal d, c.isDigit = false := by
    rcases (denotes_writeDecimal readable d).2 keeps with point | mark
    · exact ⟨'.', point, rfl⟩
    · exact ⟨'e', mark, rfl⟩
  cases sign : x.isNegative with
  | false =>
    rw [write_of_nonneg finite sign, String.toList_ofList]
    exact other _
  | true =>
    rw [write_of_negative finite sign, String.toList_ofList]
    exact ⟨'-', by simp, rfl⟩

/-- A finite number is read back from its text in any layout. -/
theorem ofWritten_write (readable : layout.Readable) (finite : x.isFinite = true) :
    Binary64.ofWritten (layout.write x).toList = x := by
  have read (y : Binary64) (nonneg : y.isNegative = false) (finite : y.isFinite = true) :
      Binary64.ofDecimal (.ofWritten (layout.writeDecimal (y.shortest layout.tie))) = y := by
    have value := (denotes_writeDecimal readable (y.shortest layout.tie)).1.value
    rw [Binary64.ofDecimal_eq_of_value_eq value, Binary64.ofDecimal_shortest nonneg finite]
  cases sign : x.isNegative with
  | false =>
    rw [write_of_nonneg finite sign, String.toList_ofList]
    obtain ⟨c, more, he, digit⟩ := (denotes_writeDecimal readable (x.shortest layout.tie)).1.first
    have unsigned : ∀ tail, c :: more ≠ '-' :: tail := by
      rintro tail ⟨⟩
      cases digit
    rw [he, Binary64.ofWritten.eq_2 _ unsigned, ← he, read x sign finite]
  | true =>
    rw [write_of_negative finite sign, String.toList_ofList, Binary64.ofWritten,
      read x.negate (Binary64.isNegative_negate sign) (by rwa [Binary64.isFinite_negate]),
      x.negate_negate]

end Numbers

end Layout

end LoxSyntax.Number
