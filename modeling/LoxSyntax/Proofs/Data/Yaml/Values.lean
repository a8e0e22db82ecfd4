import LoxSyntax.Pipeline
import LoxSyntax.Proofs.Data.Yaml.Texts

/-!
# YAML keeps literals apart

Numbers, truth values and nil are written as words that a plain text never is: what would read as
such a word is put in quotes. So a literal is determined by its text, but for the numbers that are
no number, which share one word.
-/
namespace LoxSyntax

open Number (Binary64 Decimal Layout valueInBase isDigit_of_mem_digits valueInBase_toDigits)

namespace Number

private theorem Binary64.isFinite_ofScientific {d : Decimal}
    (finite : (ofDecimal d).isFinite = true) :
    (ofScientific d).isFinite = true := by
  unfold ofScientific
  split
  · decide
  · rename_i nonzero
    split
    · rename_i large
      have digits : (1 : ℚ) ≤ d.digits := by exact_mod_cast Nat.one_le_iff_ne_zero.2 nonzero
      have power : (10 : ℚ) ^ (310 : ℤ) ≤ 10 ^ d.exponent :=
        zpow_le_zpow_right₀ (by norm_num) large
      have value : (10 : ℚ) ^ (310 : ℤ) ≤ d.value := by
        exact power.trans (le_mul_of_one_le_left (by positivity) digits)
      have below : d.value < (2 ^ 1024 - 2 ^ 970 : ℚ) := (isFinite_ofDecimal_iff d).1 finite
      have powers : 2 ^ 1024 ≤ 10 ^ 310 := by decide +kernel
      have beyond : (2 ^ 1024 : ℚ) ≤ 10 ^ (310 : ℤ) := by exact_mod_cast powers
      have less : (2 ^ 1024 - 2 ^ 970 : ℚ) ≤ 2 ^ 1024 := sub_le_self _ (by positivity)
      exact absurd below (not_lt.2 ((less.trans beyond).trans value))
    · split
      · decide
      · exact finite

private theorem Binary64.eq_of_isInfinite {x : Binary64} (infinite : x.isInfinite = true) :
    x = infinity ∨ x = infinity.negate := by
  cases sign : x.isNegative with
  | false => exact .inl (eq_infinity sign infinite)
  | true =>
    have positive : x.negate = infinity := by
      apply eq_infinity (isNegative_negate sign)
      rwa [isInfinite, magnitude_negate]
    exact .inr (by rw [← positive, negate_negate])

end Number

/-- Whether a value is one of the numbers that are no number. -/
def Value.isNaN : Value → Bool
  | .number x => x.isNaN
  | _ => false

namespace Yaml

section Numbers

variable {digits rest text : List Char}

private theorem digits?_of_all (all : ∀ c ∈ digits, c.isDigit = true) (nonempty : digits ≠ []) :
    digits? Char.isDigit 10 digits = some (valueInBase 10 digits) := by
  simpa [digits?, nonempty] using all

private theorem exponent?_of_all (all : ∀ c ∈ digits, c.isDigit = true) (nonempty : digits ≠ []) :
    exponent? digits = some (valueInBase 10 digits : Int) := by
  obtain ⟨c, more, rfl⟩ := List.exists_cons_of_ne_nil nonempty
  have digit : c.isDigit = true := all c (by simp)
  rw [exponent?.eq_3, digits?_of_all all nonempty]
  · rfl
  · rintro _ ⟨⟩
    cases digit
  · rintro _ ⟨⟩
    cases digit

private theorem exponent?_exponentDigits (e : Int) :
    exponent? (Layout.yaml.exponentDigits e) = some e := by
  have all : ∀ c ∈ Nat.toDigits 10 e.natAbs, c.isDigit = true := fun _ => isDigit_of_mem_digits
  by_cases negative : e < 0
  · have written : Layout.yaml.exponentDigits e = '-' :: Nat.toDigits 10 e.natAbs := by
      rw [Layout.exponentDigits, if_pos negative, List.singleton_append]
    rw [written, exponent?, digits?_of_all all Nat.toDigits_ne_nil, valueInBase_toDigits,
      Option.map_some]
    congr 1
    change -(e.natAbs : Int) = e
    omega
  · have written : Layout.yaml.exponentDigits e = Nat.toDigits 10 e.natAbs := by
      rw [Layout.exponentDigits, if_neg negative]
      rfl
    rw [written, exponent?_of_all all Nat.toDigits_ne_nil, valueInBase_toDigits]
    congr 1
    omega

/-- What may follow the digits of a number, and the power of ten it stands for. -/
inductive Scales : List Char → Int → Prop
  | none : Scales [] 0
  | exponent (e : Int) : Scales ('e' :: Layout.yaml.exponentDigits e) e

theorem Scales.run {e : Int} (scales : Scales rest e) (all : ∀ c ∈ digits, c.isDigit = true) :
    Lexing.Run (fun c => c.isDigit = true) digits rest := by
  refine ⟨all, ?_⟩
  cases scales <;> simp

/-- The text of a number and the decimal that it is put together from. -/
inductive Parts : List Char → Decimal → Prop
  | point {whole fraction rest : List Char} {e : Int} (all : ∀ c ∈ whole, c.isDigit = true)
    (all' : ∀ c ∈ fraction, c.isDigit = true) (nonempty : whole ≠ []) (scales : Scales rest e) :
    Parts (whole ++ '.' :: (fraction ++ rest)) (.ofParts whole fraction e)
  | whole {whole rest : List Char} {e : Int} (all : ∀ c ∈ whole, c.isDigit = true)
    (nonempty : whole ≠ []) (scales : Scales rest e) : Parts (whole ++ rest) (.ofParts whole [] e)

private theorem Parts.decimal?_eq {d : Decimal} (parts : Parts text d) :
    decimal? text = some d := by
  cases parts with
  | @point whole fraction rest e all all' nonempty scales =>
    have front : Lexing.Run (fun c => c.isDigit = true) whole ('.' :: (fraction ++ rest)) :=
      ⟨all, by simp⟩
    obtain ⟨taken, left⟩ := front.takeWhile_append fun _ => Iff.rfl
    obtain ⟨taken', left'⟩ := (scales.run all').takeWhile_append fun _ => Iff.rfl
    cases scales with
    | none =>
      rw [List.append_nil] at taken left taken' left' ⊢
      simp [decimal?, taken, left, taken', left', nonempty]
    | exponent e => simp [decimal?, taken, left, taken', left', nonempty, exponent?_exponentDigits]
  | @whole whole rest e all nonempty scales =>
    obtain ⟨taken, left⟩ := (scales.run all).takeWhile_append fun _ => Iff.rfl
    rw [decimal?, taken, left]
    cases scales with
    | none => simp [nonempty]
    | exponent e => simp [nonempty, exponent?_exponentDigits]

private theorem readable_yaml : Layout.yaml.Readable := .inl rfl

theorem Scales.ofWritten_append {e : Int} (scales : Scales rest e) (noMark : 'e' ∉ text) :
    Decimal.ofWritten (text ++ rest) =
      ⟨(Decimal.ofText text).digits, (Decimal.ofText text).exponent + e⟩ := by
  cases scales with
  | none => rw [List.append_nil, Decimal.ofWritten_eq_ofText noMark, Int.add_zero]
  | exponent e =>
    rw [Decimal.ofWritten_append noMark, Layout.exponentText_exponentDigits readable_yaml]

private theorem Parts.ofWritten_eq {d : Decimal} (parts : Parts text d) :
    Decimal.ofWritten text = d := by
  cases parts with
  | @point whole fraction rest e all all' nonempty scales =>
    have noPoint := Layout.not_mem_digits (c := '.') all rfl
    have noMark : 'e' ∉ whole ++ '.' :: fraction := by
      have mark := Layout.not_mem_digits (c := 'e') all rfl
      have mark' := Layout.not_mem_digits (c := 'e') all' rfl
      simp [mark, mark']
    have written := scales.ofWritten_append noMark
    rw [List.append_assoc, List.cons_append, Decimal.ofText_point noPoint] at written
    rw [written, Decimal.ofParts]
    congr 1
    dsimp only
    omega
  | @whole whole rest e all nonempty scales =>
    have noPoint := Layout.not_mem_digits (c := '.') all rfl
    have noMark := Layout.not_mem_digits (c := 'e') all rfl
    rw [scales.ofWritten_append noMark, Decimal.ofText_whole noPoint, Decimal.ofParts]
    simp

private theorem exists_parts_writePositional (all : ∀ c ∈ digits, c.isDigit = true)
    (nonempty : digits ≠ [])
    (e : Int) : ∃ d, Parts (Layout.yaml.writePositional digits e) d := by
  have zeros (n : Nat) : ∀ c ∈ List.replicate n '0', c.isDigit = true := by
    intro c hc
    obtain rfl := List.eq_of_mem_replicate hc
    rfl
  obtain ⟨whole, fraction, written, front, behind, some⟩ : ∃ whole fraction,
      Layout.yaml.writePositional digits e =
        (if fraction.isEmpty then whole ++ ['.', '0'] else whole ++ '.' :: fraction) ∧
      (∀ c ∈ whole, c.isDigit = true) ∧ (∀ c ∈ fraction, c.isDigit = true) ∧ whole ≠ [] := by
    refine ⟨_, _, rfl, ?_⟩
    by_cases small : e < 0
    · simp only [small, if_true, List.forall_mem_append]
      exact ⟨by simp, ⟨zeros _, all⟩, by simp⟩
    · simp only [small, if_false, List.forall_mem_append]
      refine ⟨⟨fun c hc => all c (List.mem_of_mem_take hc), zeros _⟩,
        fun c hc => all c (List.mem_of_mem_drop hc), by simp [nonempty]⟩
  rw [written]
  split
  · have zero : ∀ c ∈ ['0'], c.isDigit = true := by simp
    exact ⟨_, .point front zero some .none⟩
  · have parts := Parts.point front behind some .none
    rw [List.append_nil] at parts
    exact ⟨_, parts⟩

private theorem exists_parts_writeScientific (all : ∀ c ∈ digits, c.isDigit = true)
    (nonempty : digits ≠ []) (e : Int) : ∃ d, Parts (Layout.yaml.writeScientific digits e) d := by
  match digits, nonempty, all with
  | [c], _, all =>
    have written : Layout.yaml.writeScientific [c] e = [c] ++ 'e' :: Layout.yaml.exponentDigits e :=
      rfl
    rw [written]
    exact ⟨_, .whole all (by simp) (.exponent e)⟩
  | c :: d :: more, _, all =>
    have written : Layout.yaml.writeScientific (c :: d :: more) e =
        [c] ++ '.' :: ((d :: more) ++ 'e' :: Layout.yaml.exponentDigits e) := by
      simp [Layout.writeScientific, Layout.exponentDigits]
    obtain ⟨first, others⟩ := List.forall_mem_cons.1 all
    rw [written]
    exact ⟨_, .point (by simpa using first) others (by simp) (.exponent e)⟩

private theorem exists_parts_writeDecimal (d : Decimal) :
    ∃ d', Parts (Layout.yaml.writeDecimal d) d' := by
  have all : ∀ c ∈ Nat.toDigits 10 d.digits, c.isDigit = true := fun _ => isDigit_of_mem_digits
  rw [Layout.writeDecimal]
  split
  · exact exists_parts_writePositional (by simp) (by simp) 0
  · split
    · exact exists_parts_writePositional all Nat.toDigits_ne_nil _
    · exact exists_parts_writeScientific all Nat.toDigits_ne_nil _

private theorem decimal?_writeDecimal (d : Decimal) :
    ∃ d', decimal? (Layout.yaml.writeDecimal d) = some d' ∧ d'.value = d.value := by
  obtain ⟨d', parts⟩ := exists_parts_writeDecimal d
  refine ⟨d', parts.decimal?_eq, ?_⟩
  rw [← parts.ofWritten_eq]
  exact (Layout.denotes_writeDecimal readable_yaml d).1.value

private theorem readsAsMagnitude_writeDecimal {d : Decimal}
    (finite : (Binary64.ofDecimal d).isFinite = true) :
    readsAsMagnitude (Layout.yaml.writeDecimal d) = true := by
  obtain ⟨d', read, value⟩ := decimal?_writeDecimal d
  have own : (Binary64.ofDecimal d').isFinite = true := by
    rwa [Binary64.ofDecimal_eq_of_value_eq value]
  rw [readsAsMagnitude, read, Option.any_some, Number.Binary64.isFinite_ofScientific own,
    Bool.or_true]

private theorem readsAsFloat_write {x : Binary64} (finite : x.isFinite = true) :
    readsAsFloat (Layout.yaml.write x).toList = true := by
  have own (y : Binary64) (nonneg : y.isNegative = false) (finite : y.isFinite = true) :
      readsAsMagnitude (Layout.yaml.writeDecimal (y.shortest Layout.yaml.tie)) = true := by
    apply readsAsMagnitude_writeDecimal
    rwa [Binary64.ofDecimal_shortest nonneg finite]
  cases sign : x.isNegative with
  | true =>
    rw [Layout.write_of_negative finite sign, String.toList_ofList, readsAsFloat]
    exact own x.negate (Binary64.isNegative_negate sign) (by rwa [Binary64.isFinite_negate])
  | false =>
    have magnitude := own x sign finite
    rw [Layout.write_of_nonneg finite sign, String.toList_ofList]
    obtain ⟨c, more, he, digit⟩ :=
      (Layout.denotes_writeDecimal readable_yaml (x.shortest Layout.yaml.tie)).1.first
    rw [he] at magnitude ⊢
    rw [readsAsFloat.eq_3, magnitude, Bool.true_or]
    · rintro _ ⟨⟩
      cases digit
    · rintro _ ⟨⟩
      cases digit

end Numbers

section Words

variable {w : List Char}

private theorem write_of_isNaN {x : Binary64} (nan : x.isNaN = true) :
    Layout.yaml.write x = ".nan" := by
  rw [Layout.write, if_pos nan]
  rfl

/-- The words of the values that are not written in digits, none for what is no number. -/
def names : List (List Char × Option Value) :=
  [("null".toList, some .nil), ("true".toList, some (.boolean true)),
    ("false".toList, some (.boolean false)), (".inf".toList, some (.number .infinity)),
    ("-.inf".toList, some (.number Binary64.infinity.negate)), (".nan".toList, none)]

/-- The value that a word stands for. -/
def ofWord (w : List Char) : Option Value :=
  (names.lookup w).getD (some (.number (.ofWritten w)))

private theorem ofWord_of_marks (marks : ∀ c ∈ w, Layout.IsMark c) :
    ofWord w = some (.number (.ofWritten w)) := by
  have letters : ∀ entry ∈ names, entry.1.any (fun c => 'e' < c) = true := by decide
  have small {c : Char} (mark : Layout.IsMark c) : c ≤ 'e' := by
    rcases mark with digit | rfl | rfl | rfl | rfl
    · have low : c ≤ '9' := of_decide_eq_true (Bool.and_eq_true_iff.1 digit).2
      exact Char.le_trans low (by decide)
    all_goals decide
  have unnamed : names.lookup w = none := by
    refine List.lookup_eq_none_iff.2 fun entry mem => ?_
    obtain ⟨c, hc, letter⟩ := List.any_eq_true.1 (letters entry mem)
    rw [bne_iff_ne]
    rintro rfl
    exact Char.not_le.2 (of_decide_eq_true letter) (small (marks c hc))
  rw [ofWord, unnamed, Option.getD_none]

private theorem isIndicator_of_front {c : Char} (front : c.isDigit = true ∨ c = '-') :
    isIndicator c = false := by
  have others : ∀ d, isIndicator d = true → d.isDigit = false := by simp [isIndicator]
  rcases front with digit | rfl
  · by_contra indicator
    rw [others c (by simpa using indicator)] at digit
    cases digit
  · rfl

/-- The word that a value is written as; a text is none. -/
inductive Word : Value → List Char → Prop
  | name {v : Value} {w : List Char} (mem : (w, if v.isNaN then none else some v) ∈ names) :
    Word v w
  | number {x : Binary64} (finite : x.isFinite = true) :
    Word (.number x) (Layout.yaml.write x).toList

private theorem word_number (x : Binary64) : Word (.number x) (Layout.yaml.write x).toList := by
  cases nan : x.isNaN with
  | true =>
    rw [write_of_isNaN nan]
    refine .name ?_
    rw [Value.isNaN, if_pos nan]
    decide
  | false =>
    rcases Binary64.finite_or_infinite nan with finite | infinite
    · exact .number finite
    · refine .name ?_
      rcases Number.Binary64.eq_of_isInfinite infinite with rfl | rfl <;> decide

theorem Word.ofWord_eq {v : Value} (word : Word v w) :
    ofWord w = if v.isNaN then none else some v := by
  cases word with
  | name mem =>
    have own : ∀ entry ∈ names, ofWord entry.1 = entry.2 := by decide
    exact own _ mem
  | @number x finite =>
    have real : x.isNaN = false := (Binary64.ordinary_of_isFinite finite).1
    rw [ofWord_of_marks (Layout.write_marks readable_yaml finite).1,
      Layout.ofWritten_write readable_yaml finite, Value.isNaN, real]
    rfl

private theorem Word.readsAsOther_eq {v : Value} (word : Word v w) : readsAsOther w = true := by
  cases word with
  | name mem =>
    have own : ∀ entry ∈ names, readsAsOther entry.1 = true := by decide
    exact own _ mem
  | number finite =>
    rw [readsAsOther, readsAsFloat_write finite, Bool.or_true, Bool.true_or]

private theorem Word.markOf_eq {v : Value} (word : Word v w) : markOf (w ++ ['\n']) = none := by
  cases word with
  | name mem =>
    have own : ∀ entry ∈ names, markOf (entry.1 ++ ['\n']) = none := by decide
    exact own _ mem
  | number finite =>
    obtain ⟨-, c, more, he, front⟩ := Layout.write_marks readable_yaml finite
    simp [he, markOf, isIndicator_of_front front]

/-- No text is written as a word is: what would read as one is put in quotes. -/
theorem Word.writeText_ne {v : Value} (word : Word v w) (indent : Nat) (s : String) :
    writeText indent s ≠ w ++ ['\n'] := by
  intro h
  have mark : (style s.toList).mark = none := by
    rw [← markOf_writeText indent s, h, word.markOf_eq]
  have plain : style s.toList = .plain := Style.mark_injective mark
  rw [writeText, plain] at h
  have other := (style_eq_plain plain).1
  rw [List.append_cancel_right h, word.readsAsOther_eq] at other
  cases other

private theorem word_or_text (v : Value) :
    (∃ w, Word v w ∧ ∀ indent, writeScalar indent v.toData = w ++ ['\n']) ∨ ∃ s, v = .text s := by
  cases v with
  | number x => exact .inl ⟨_, word_number x, fun _ => rfl⟩
  | text s => exact .inr ⟨s, rfl⟩
  | boolean b =>
    cases b with
    | false => exact .inl ⟨"false".toList, .name (by decide), fun _ => rfl⟩
    | true => exact .inl ⟨"true".toList, .name (by decide), fun _ => rfl⟩
  | nil => exact .inl ⟨"null".toList, .name (by decide), fun _ => rfl⟩

private theorem writeScalar_of_isNaN {indent : Nat} {v : Value} (nan : v.isNaN = true) :
    writeScalar indent v.toData = ".nan\n".toList := by
  cases v with
  | number x =>
    rw [Value.toData, writeScalar, write_of_isNaN nan]
    rfl
  | text | boolean | nil => cases nan

/-- A value that fits behind a key is determined by its text. -/
theorem writeScalar_eq_iff {indent : Nat} {v v' : Value} :
    writeScalar indent v.toData = writeScalar indent v'.toData ↔
      v = v' ∨ v.isNaN = true ∧ v'.isNaN = true := by
  constructor
  · intro h
    rcases word_or_text v with ⟨w, word, written⟩ | ⟨s, rfl⟩ <;>
      rcases word_or_text v' with ⟨w', word', written'⟩ | ⟨s', rfl⟩
    · rw [written, written'] at h
      have same := word.ofWord_eq
      rw [List.append_cancel_right h, word'.ofWord_eq] at same
      split at same <;> rename_i nan'
      · split at same <;> rename_i nan
        · exact .inr ⟨nan, nan'⟩
        · cases same
      · split at same
        · cases same
        · exact .inl (Option.some.inj same).symm
    · exact absurd (h.symm.trans (written indent)) (word.writeText_ne indent s')
    · exact absurd (h.trans (written' indent)) (word'.writeText_ne indent s)
    · exact .inl (congrArg Value.text (writeText_inj h))
  · rintro (rfl | ⟨nan, nan'⟩)
    · rfl
    · rw [writeScalar_of_isNaN nan, writeScalar_of_isNaN nan']

example : writeScalar 2 (Value.text "0x1F").toData = "'0x1F'\n".toList := by decide

end Words

end Yaml

/-- A tree of one literal always has a text, which tells the literal apart from any other. -/
theorem formatTree_yaml_literal (v w : Value) :
    (∃ text, formatTree .yaml (.literal v) = .ok text) ∧
      (formatTree .yaml (.literal v) = formatTree .yaml (.literal w) ↔
        v = w ∨ v.isNaN = true ∧ w.isNaN = true) := by
  have written (v : Value) : formatTree .yaml (.literal v) =
      .ok (String.ofList ("type: Literal\nvalue: ".toList ++ Yaml.writeScalar 2 v.toData)) := by
    rw [← List.append_nil (Yaml.writeScalar 2 v.toData)]
    cases v <;> rfl
  refine ⟨⟨_, written v⟩, ?_⟩
  rw [written, written, Except.ok.injEq, String.ofList_inj, List.append_cancel_left_eq]
  exact Yaml.writeScalar_eq_iff

end LoxSyntax
