import LoxSyntax.Data.Json
import LoxSyntax.Proofs.Lexing.Rules
import LoxSyntax.Proofs.Number.Written

/-!
# JSON is read in one way

In both styles a value and what follows it are determined by the text: words end at a mark that no
word has, escaped texts at the first bare quote, lists and records at their brackets. All that is
lost is what JSON cannot say, namely numbers that are not finite and named cases.
-/
namespace LoxSyntax

open Number (Binary64 Layout valueInBase)

/-- What JSON keeps of data: a number that is not finite is null, and a named case a record. -/
def Data.plain : Data → Data
  | .null => .null
  | .boolean b => .boolean b
  | .natural n => .natural n
  | .number x => if x.isFinite then .number x else .null
  | .text s => .text s
  | .variant name payload => .record [(name, .text payload)]
  | .list items => .list (items.map plain)
  | .record fields => .record (fields.map fun field => (field.1, field.2.plain))
decreasing_by
  all_goals
    have := List.sizeOf_lt_of_mem ‹_›
    simp_wf
    first
    | omega
    | have : sizeOf field.2 < sizeOf field := by
        cases field
        simp
      omega

/-- Texts escaped one character at a time are told apart from what is behind their closing quote,
where each character is read back and none starts with a bare quote. -/
theorem flatMap_quote_inj {escape : Char → List Char}
    {unescape : List Char → Option (Char × List Char)}
    (read : ∀ c rest, unescape (escape c ++ rest) = some (c, rest))
    (bare : ∀ c, ∃ d more, escape c = d :: more ∧ d ≠ '"') {s s' t t' : List Char}
    (h : s.flatMap escape ++ '"' :: t = s'.flatMap escape ++ '"' :: t') : s = s' ∧ t = t' := by
  induction s generalizing s' with
  | nil =>
    cases s' with
    | nil => exact ⟨rfl, (List.cons.inj h).2⟩
    | cons c s' =>
      obtain ⟨d, more, he, other⟩ := bare c
      simp only [List.flatMap_nil, List.flatMap_cons, he, List.nil_append, List.cons_append] at h
      exact absurd (List.cons.inj h).1.symm other
  | cons c s ih =>
    cases s' with
    | nil =>
      obtain ⟨d, more, he, other⟩ := bare c
      simp only [List.flatMap_nil, List.flatMap_cons, he, List.nil_append, List.cons_append] at h
      exact absurd (List.cons.inj h).1 other
    | cons c' s' =>
      rw [List.flatMap_cons, List.flatMap_cons, List.append_assoc, List.append_assoc] at h
      have next := congrArg unescape h
      rw [read, read] at next
      obtain ⟨rfl, rest⟩ := Prod.mk.inj (Option.some.inj next)
      obtain ⟨rfl, tails⟩ := ih rest
      exact ⟨rfl, tails⟩

namespace Json

section Texts

/-- The character that an escaped text starts with, and the rest of the text. -/
def unescape : List Char → Option (Char × List Char)
  | '\\' :: 'u' :: _ :: _ :: a :: b :: rest =>
    some (Char.ofNat (16 * Number.digitValue a + Number.digitValue b), rest)
  | '\\' :: 'n' :: rest => some ('\n', rest)
  | '\\' :: 'r' :: rest => some ('\r', rest)
  | '\\' :: 't' :: rest => some ('\t', rest)
  | '\\' :: 'b' :: rest => some ('\x08', rest)
  | '\\' :: 'f' :: rest => some ('\x0c', rest)
  | '\\' :: c :: rest => some (c, rest)
  | c :: rest => some (c, rest)
  | [] => none

private theorem digitValue_hexDigit : ∀ n < 16, Number.digitValue (hexDigit n) = n := by decide

theorem unescape_escape (c : Char) (rest : List Char) :
    unescape (escape c ++ rest) = some (c, rest) := by
  fun_cases escape c with
  | case1 | case2 | case3 | case4 | case5 | case6 | case7 => rfl
  | case8 _ _ _ _ _ _ _ control =>
    have high := digitValue_hexDigit (c.toNat / 16) (by omega)
    have low := digitValue_hexDigit (c.toNat % 16) (by omega)
    simp only [List.cons_append, List.nil_append, unescape, high, low, Nat.div_add_mod,
      Char.ofNat_toNat]
  | case9 quote backslash =>
    cases rest <;> simp_all [unescape]

theorem exists_escape_eq (c : Char) : ∃ d more, escape c = d :: more ∧ d ≠ '"' := by
  fun_cases escape c
  case case9 => exact ⟨c, [], rfl, by assumption⟩
  all_goals exact ⟨'\\', _, rfl, by decide⟩

private theorem flatMap_escape_inj {s s' t t' : List Char}
    (h : s.flatMap escape ++ '"' :: t = s'.flatMap escape ++ '"' :: t') : s = s' ∧ t = t' :=
  flatMap_quote_inj unescape_escape exists_escape_eq h

private theorem writeQuoted_inj {s s' : String} {t t' : List Char}
    (h : writeQuoted s t = writeQuoted s' t') : s = s' ∧ t = t' := by
  obtain ⟨texts, tails⟩ := flatMap_escape_inj (List.cons.inj h).2
  exact ⟨String.toList_injective texts, tails⟩

private theorem writeBreak_inj {style : Style} {depth : Nat} {t t' : List Char}
    (h : writeBreak style depth t = writeBreak style depth t') : t = t' := by
  cases style with
  | compact => exact h
  | pretty => exact List.append_cancel_left (List.cons.inj h).2

private theorem writeColon_inj {style : Style} {t t' : List Char}
    (h : writeColon style t = writeColon style t') : t = t' := by
  cases style with
  | compact => exact (List.cons.inj h).2
  | pretty => exact (List.cons.inj (List.cons.inj h).2).2

end Texts

section Words

/-- The characters of values that stand without quotes and brackets. -/
def isWordPart (c : Char) : Bool := c.isAlphanum || c = '.' || c = '+' || c = '-'

/-- What follows a value goes on with no word. -/
def Stops (t : List Char) : Prop := ∀ c ∈ t.head?, isWordPart c = false

private theorem word_append_inj {w w' t t' : List Char} (all : ∀ c ∈ w, isWordPart c = true)
    (all' : ∀ c ∈ w', isWordPart c = true) (stops : Stops t) (stops' : Stops t')
    (h : w ++ t = w' ++ t') : w = w' ∧ t = t' := by
  have run (w t : List Char) (all : ∀ c ∈ w, isWordPart c = true) (stops : Stops t) :
      Lexing.Run (isWordPart · = true) w t :=
    ⟨all, fun c hc => by simp [stops c hc]⟩
  exact (run w t all stops).append_inj (run w' t' all' stops') h

private theorem isWordPart_of_isMark {c : Char} (h : Layout.IsMark c) : isWordPart c = true := by
  rcases h with digit | rfl | rfl | rfl | rfl
  · simp [isWordPart, Char.isAlphanum, digit]
  all_goals rfl

private theorem readable_json : Layout.json.Readable := .inr rfl

/-- The value that a word stands for. -/
def ofWord (w : List Char) : Data :=
  if w = "null".toList then .null
  else if w = "true".toList then .boolean true
  else if w = "false".toList then .boolean false
  else if w.all Char.isDigit then .natural (valueInBase 10 w)
  else .number (Binary64.ofWritten w)

theorem ofWord_of_number {c : Char} {more : List Char} (front : c.isDigit = true ∨ c = '-') :
    ofWord (c :: more) =
      if (c :: more).all Char.isDigit then .natural (valueInBase 10 (c :: more))
      else .number (Binary64.ofWritten (c :: more)) := by
  have other (d : Char) (letter : '9' < d) : c ≠ d := Layout.ne_of_front front letter
  rw [ofWord, if_neg (by simp [other 'n' (by decide)]), if_neg (by simp [other 't' (by decide)]),
    if_neg (by simp [other 'f' (by decide)])]

end Words

section Blocks

variable {α β : Type} {put : α → List Char → List Char} {keep : α → β} {style : Style}
  {depth : Nat} {x : α} {xs ys : List α} {t t' : List Char} {closing : Char}

/-- The elements after the first. -/
def writeMore (style : Style) (depth : Nat) (put : α → List Char → List Char) (xs : List α)
    (tail : List Char) : List Char :=
  match xs with
  | [] => tail
  | x :: xs => ',' :: writeBreak style depth (put x (writeMore style depth put xs tail))

/-- Elements between brackets. -/
def writeBlock (opening closing : Char) (style : Style) (depth : Nat)
    (put : α → List Char → List Char) (xs : List α) (tail : List Char) : List Char :=
  match xs with
  | [] => opening :: closing :: tail
  | x :: xs => opening :: writeBreak style (depth + 1) (put x
      (writeMore style (depth + 1) put xs (writeBreak style depth (closing :: tail))))

/-- A text starts with the break before a bracket. -/
def Closes (t : List Char) : Prop := ∃ c more, t = c :: more ∧ c ≠ ',' ∧ isWordPart c = false

private theorem closes_writeBreak (bracket : closing = ']' ∨ closing = '}') :
    Closes (writeBreak style depth (closing :: t)) := by
  cases style with
  | compact =>
    rcases bracket with rfl | rfl
    all_goals exact ⟨_, t, rfl, by decide, rfl⟩
  | pretty => exact ⟨'\n', _, rfl, by decide, rfl⟩

private theorem stops_writeMore (closes : Closes t) : Stops (writeMore style depth put xs t) := by
  cases xs with
  | nil =>
    obtain ⟨c, more, rfl, -, mark⟩ := closes
    simpa [writeMore, Stops] using mark
  | cons x xs => simp [writeMore, Stops, isWordPart]

/-- What is kept of an element, and what follows it, are determined by its text. -/
def Determines (put : α → List Char → List Char) (keep : α → β) (x : α) : Prop :=
  ∀ y t t', Stops t → Stops t' → put x t = put y t' → keep x = keep y ∧ t = t'

private theorem writeMore_inj (all : ∀ x ∈ xs, Determines put keep x) (closes : Closes t)
    (closes' : Closes t')
    (h : writeMore style depth put xs t = writeMore style depth put ys t') :
    xs.map keep = ys.map keep ∧ t = t' := by
  induction xs generalizing ys with
  | nil =>
    cases ys with
    | nil => exact ⟨rfl, h⟩
    | cons y ys =>
      obtain ⟨c, more, rfl, comma, -⟩ := closes
      exact absurd (List.cons.inj h).1 comma
  | cons x xs ih =>
    cases ys with
    | nil =>
      obtain ⟨c, more, rfl, comma, -⟩ := closes'
      exact absurd (List.cons.inj h).1.symm comma
    | cons y ys =>
      obtain ⟨own, others⟩ := List.forall_mem_cons.1 all
      obtain ⟨kept, rest⟩ := own y _ _ (stops_writeMore closes) (stops_writeMore closes')
        (writeBreak_inj (List.cons.inj h).2)
      obtain ⟨mapped, tails⟩ := ih others rest
      exact ⟨by rw [List.map_cons, List.map_cons, kept, mapped], tails⟩

private theorem writeBlock_inj {opening : Char} (all : ∀ x ∈ xs, Determines put keep x)
    (bracket : closing = ']' ∨ closing = '}') (opens : ∀ x t, (put x t).head? ≠ some closing)
    (h : writeBlock opening closing style depth put xs t =
      writeBlock opening closing style depth put ys t') :
    xs.map keep = ys.map keep ∧ t = t' := by
  have front (x : α) (tail : List Char) :
      (writeBreak style (depth + 1) (put x tail)).head? ≠ some closing := by
    cases style with
    | compact => exact opens x tail
    | pretty => rcases bracket with rfl | rfl <;> exact Option.some_injective _ |>.ne (by decide)
  cases xs with
  | nil =>
    cases ys with
    | nil => exact ⟨rfl, (List.cons.inj (List.cons.inj h).2).2⟩
    | cons y ys =>
      exact absurd (congrArg List.head? (List.cons.inj h).2).symm (front y _)
  | cons x xs =>
    cases ys with
    | nil => exact absurd (congrArg List.head? (List.cons.inj h).2) (front x _)
    | cons y ys =>
      obtain ⟨own, others⟩ := List.forall_mem_cons.1 all
      obtain ⟨kept, rest⟩ := own y _ _ (stops_writeMore (closes_writeBreak bracket))
        (stops_writeMore (closes_writeBreak bracket)) (writeBreak_inj (List.cons.inj h).2)
      obtain ⟨mapped, ends⟩ := writeMore_inj others (closes_writeBreak bracket)
        (closes_writeBreak bracket) rest
      exact ⟨by rw [List.map_cons, List.map_cons, kept, mapped],
        (List.cons.inj (writeBreak_inj ends)).2⟩

end Blocks

section Shapes

variable {style : Style} {depth : Nat} {t t' : List Char}

/-- How a value looks from outside. -/
inductive Shape
  | word (text : List Char)
  | text (value : String)
  | list (items : List Data)
  | record (fields : List (String × Data))

def shape : Data → Shape
  | .null => .word "null".toList
  | .boolean b => .word (if b then "true" else "false").toList
  | .natural n => .word (Nat.toDigits 10 n)
  | .number x => .word (Layout.json.write x).toList
  | .text s => .text s
  | .variant name payload => .record [(name, .text payload)]
  | .list items => .list items
  | .record fields => .record fields

/-- The values right inside a value. -/
def Shape.inner : Shape → List Data
  | word _ | text _ => []
  | list items => items
  | record fields => fields.map (·.2)

/-- What is kept of a value of some shape. -/
def Shape.plain : Shape → Data
  | word w => ofWord w
  | text s => .text s
  | list items => .list (items.map Data.plain)
  | record fields => .record (fields.map fun field => (field.1, field.2.plain))

def writeField (style : Style) (depth : Nat) (field : String × Data) (tail : List Char) :
    List Char :=
  writeQuoted field.1 (writeColon style (write style depth field.2 tail))

def Shape.write (style : Style) (depth : Nat) (tail : List Char) : Shape → List Char
  | word w => w ++ tail
  | text s => writeQuoted s tail
  | list items => writeBlock '[' ']' style depth (Json.write style (depth + 1)) items tail
  | record fields => writeBlock '\x7b' '\x7d' style depth (writeField style (depth + 1)) fields tail

private theorem writeItems_eq (items : List Data) :
    writeItems style depth items t = writeMore style depth (write style depth) items t := by
  induction items with
  | nil => rw [writeItems, writeMore]
  | cons item items ih => rw [writeItems, writeMore, ih]

private theorem writeFields_eq (fields : List (String × Data)) :
    writeFields style depth fields t = writeMore style depth (writeField style depth) fields t := by
  induction fields with
  | nil => rw [writeFields, writeMore]
  | cons field fields ih => rw [writeFields, writeMore, ih, writeField]

/-- A value is written as its shape tells. -/
theorem write_eq (d : Data) : write style depth d t = (shape d).write style depth t := by
  fun_cases shape d with
  | case1 | case2 | case3 | case4 | case5 => rw [write, Shape.write]
  | case6 name payload => rw [write, Shape.write, writeBlock, writeField, write, writeMore]
  | case7 items =>
    cases items with
    | nil => rw [write, Shape.write, writeBlock]
    | cons item items => rw [write, Shape.write, writeBlock, writeItems_eq]
  | case8 fields =>
    cases fields with
    | nil => rw [write, Shape.write, writeBlock]
    | cons field fields => rw [write, Shape.write, writeBlock, writeFields_eq, writeField]

/-- Words are made of their characters, of at least one. -/
def Shape.Proper : Shape → Prop
  | word w => w ≠ [] ∧ ∀ c ∈ w, isWordPart c = true
  | _ => True

/-- Exactly what is not finite is written as nothing. -/
theorem write_json_eq_null_iff {x : Binary64} :
    Layout.json.write x = "null" ↔ x.isFinite = false := by
  constructor
  · intro h
    by_contra finite
    rw [Bool.not_eq_false] at finite
    obtain ⟨-, c, more, he, front⟩ := Layout.write_marks readable_json finite
    obtain rfl : 'n' = c := (List.cons.inj ((congrArg String.toList h).symm.trans he)).1
    revert front
    decide
  · intro special
    have kinds : x.isNaN = true ∨ x.isInfinite = true := by
      rw [Binary64.isFinite, decide_eq_false_iff_not, not_lt, le_iff_lt_or_eq] at special
      simpa [Binary64.isNaN, Binary64.isInfinite, eq_comm] using special
    rcases kinds with nan | infinite
    · rw [Layout.write, if_pos nan]
      rfl
    · rw [Layout.write, if_pos infinite]
      split
      · rfl
      · split <;> rfl

theorem proper_shape (d : Data) : (shape d).Proper := by
  have name (c : Char) (w : List Char) (all : (c :: w).all isWordPart = true) :
      (Shape.word (c :: w)).Proper :=
    ⟨List.cons_ne_nil c w, List.all_eq_true.1 all⟩
  cases d with
  | null => exact name 'n' "ull".toList rfl
  | boolean b =>
    cases b with
    | false => exact name 'f' "alse".toList rfl
    | true => exact name 't' "rue".toList rfl
  | natural n =>
    refine ⟨Nat.toDigits_ne_nil, fun c hc => isWordPart_of_isMark (.inl ?_)⟩
    exact Number.isDigit_of_mem_digits hc
  | number x =>
    cases finite : x.isFinite with
    | false =>
      rw [shape, write_json_eq_null_iff.2 finite]
      exact name 'n' "ull".toList rfl
    | true =>
      obtain ⟨marks, c, more, he, -⟩ := Layout.write_marks readable_json finite
      exact ⟨by simp [he], fun c hc => isWordPart_of_isMark (marks c hc)⟩
  | text | variant | list | record => trivial

private theorem plain_shape (d : Data) : (shape d).plain = d.plain := by
  cases d with
  | null => rw [Data.plain]; rfl
  | boolean b => rw [Data.plain]; cases b <;> rfl
  | natural n =>
    have digits : ∀ c ∈ Nat.toDigits 10 n, c.isDigit = true := fun c hc =>
      Number.isDigit_of_mem_digits hc
    obtain ⟨c, more, he⟩ := List.exists_cons_of_ne_nil (Nat.toDigits_ne_nil (n := n) (b := 10))
    rw [shape, Shape.plain, he, ofWord_of_number (.inl (digits c (by simp [he]))), ← he, if_pos,
      Number.valueInBase_toDigits, Data.plain]
    exact List.all_eq_true.2 digits
  | number x =>
    rw [shape, Shape.plain, Data.plain]
    cases finite : x.isFinite with
    | false =>
      rw [write_json_eq_null_iff.2 finite]
      rfl
    | true =>
      obtain ⟨-, c, more, he, front⟩ := Layout.write_marks readable_json finite
      obtain ⟨d, hd, other⟩ := Layout.exists_not_digit_of_write readable_json rfl finite
      have mixed : ¬(Layout.json.write x).toList.all Char.isDigit = true := by
        simp only [List.all_eq_true, not_forall]
        exact ⟨d, hd, by simp [other]⟩
      rw [he, ofWord_of_number front, ← he, if_neg mixed,
        Layout.ofWritten_write readable_json finite]
      rfl
  | text | list | record => rw [shape, Shape.plain, Data.plain]
  | variant name payload =>
    rw [shape, Shape.plain, List.map_singleton, Data.plain, Data.plain]

/-- The mark that a text starts with, none for the start of a word. -/
def markOf (text : List Char) : Option Char := text.head?.filter fun c => !isWordPart c

/-- The mark that a value of some shape starts with. -/
def Shape.mark : Shape → Option Char
  | word _ => none
  | text _ => some '"'
  | list _ => some '['
  | record _ => some '\x7b'

private theorem Shape.markOf_write {s : Shape} (proper : s.Proper) :
    markOf (s.write style depth t) = s.mark := by
  cases s with
  | word w =>
    obtain ⟨nonempty, all⟩ := proper
    obtain ⟨c, more, rfl⟩ := List.exists_cons_of_ne_nil nonempty
    simp [write, markOf, mark, all c (by simp)]
  | text s => rfl
  | list items => cases items <;> rfl
  | record fields => cases fields <;> rfl

private theorem head?_write_ne (d : Data) : (write style depth d t).head? ≠ some ']' := by
  intro front
  have marks : markOf ((shape d).write style depth t) = (shape d).mark :=
    Shape.markOf_write (proper_shape d)
  rw [← write_eq, markOf, front] at marks
  cases h : shape d <;> rw [h] at marks <;> cases marks

private theorem sizeOf_lt_of_mem_inner {d e : Data} (h : e ∈ (shape d).inner) :
    sizeOf e < sizeOf d := by
  cases d with
  | null | boolean | natural | number | text => cases h
  | variant name payload =>
    obtain rfl : e = .text payload := List.mem_singleton.1 h
    cases name
    simp
  | list items =>
    have := List.sizeOf_lt_of_mem (show e ∈ items from h)
    simp
    omega
  | record fields =>
    obtain ⟨field, hf, rfl⟩ := List.mem_map.1 h
    have := List.sizeOf_lt_of_mem hf
    have : sizeOf field.2 < sizeOf field := by
      cases field
      simp
    simp
    omega

/-- A property that passes from the values inside a value to it holds of all values. -/
theorem inner_induction {motive : Data → Prop}
    (step : ∀ d, (∀ e ∈ (shape d).inner, motive e) → motive d) (d : Data) : motive d :=
  step d fun e _ => inner_induction step e
termination_by sizeOf d
decreasing_by exact sizeOf_lt_of_mem_inner ‹_›

/-- If the values inside are determined by their texts, a value of their shape is. -/
theorem Shape.write_inj {s s' : Shape}
    (inner : ∀ d ∈ s.inner, Determines (Json.write style (depth + 1)) Data.plain d)
    (proper : s.Proper) (proper' : s'.Proper) (marks : s.mark = s'.mark)
    (stops : Stops t) (stops' : Stops t')
    (h : s.write style depth t = s'.write style depth t') : s.plain = s'.plain ∧ t = t' := by
  cases s with
  | word w =>
    cases s' with
    | text | list | record => cases marks
    | word w' =>
      obtain ⟨words, tails⟩ := word_append_inj proper.2 proper'.2 stops stops' h
      exact ⟨by rw [words], tails⟩
  | text v =>
    cases s' with
    | word | list | record => cases marks
    | text v' =>
      obtain ⟨texts, tails⟩ := writeQuoted_inj h
      exact ⟨by rw [texts], tails⟩
  | list items =>
    cases s' with
    | word | text | record => cases marks
    | list items' =>
      obtain ⟨kept, tails⟩ := writeBlock_inj inner (.inl rfl) (fun d _ => head?_write_ne d) h
      exact ⟨congrArg Data.list kept, tails⟩
  | record fields =>
    cases s' with
    | word | text | list => cases marks
    | record fields' =>
      have each : ∀ field ∈ fields, Determines (writeField style (depth + 1))
          (fun field => (field.1, field.2.plain)) field := by
        intro field hf field' t t' stops stops' h
        obtain ⟨names, rest⟩ := writeQuoted_inj h
        obtain ⟨kept, tails⟩ := inner field.2 (List.mem_map_of_mem hf) field'.2 t t' stops stops'
          (writeColon_inj rest)
        exact ⟨Prod.ext names kept, tails⟩
      obtain ⟨kept, tails⟩ := writeBlock_inj each (.inr rfl) (fun field _ => by rintro ⟨⟩) h
      exact ⟨congrArg Data.record kept, tails⟩

/-- What is kept of a value, and what follows it, are determined by its text. -/
theorem determines_write (style : Style) (depth : Nat) (d : Data) :
    Determines (write style depth) Data.plain d := by
  induction d using inner_induction generalizing depth with
  | step d ih =>
    intro e t t' stops stops' h
    have marks := congrArg markOf h
    rw [write_eq, write_eq] at h marks
    rw [Shape.markOf_write (proper_shape d), Shape.markOf_write (proper_shape e)] at marks
    rw [← plain_shape d, ← plain_shape e]
    exact Shape.write_inj (fun e he => ih e he (depth + 1)) (proper_shape d) (proper_shape e) marks
      stops stops' h

end Shapes

/-- Data that are written alike are the same as far as JSON keeps them. -/
theorem plain_eq_of_pretty_eq {d e : Data} (h : pretty d = pretty e) : d.plain = e.plain :=
  (determines_write .pretty 0 d e [] [] (fun _ => nofun) (fun _ => nofun)
    (String.ofList_injective h)).1

end Json

end LoxSyntax
