import LoxSyntax.Data.Yaml
import LoxSyntax.Proofs.Data.Json

/-!
# YAML texts are read in one way

The first character of a written text tells its style, and in each style the text is read back:
escapes between double quotes one by one, the lines of the other styles without the blanks in front
of them. So different texts are written differently, however they begin, end or break.
-/
namespace LoxSyntax.Yaml

open Number (valueInBase valueInBase_append digitValue)

variable {indent : Nat} {s s' : String} {text text' : List Char}

section Escapes

private theorem digitValue_toUpper : ∀ n < 16, digitValue (Nat.digitChar n).toUpper = n := by decide

private theorem length_hexDigits (count n : Nat) : (hexDigits count n).length = count := by
  simp [hexDigits]

private theorem valueInBase_hexDigits (count n : Nat) :
    valueInBase 16 (hexDigits count n) = n % 16 ^ count := by
  induction count with
  | zero => simp [hexDigits, Nat.mod_one]
  | succ count ih =>
    have front : hexDigits (count + 1) n =
        [(Nat.digitChar (n / 16 ^ count % 16)).toUpper] ++ hexDigits count n := by
      simp [hexDigits, List.range_succ]
    have digit := digitValue_toUpper (n / 16 ^ count % 16) (Nat.mod_lt _ (by decide))
    rw [front, valueInBase_append, ih, length_hexDigits, Nat.pow_succ, Nat.mod_mul]
    simp only [valueInBase, List.foldl_cons, List.foldl_nil, digit]
    ring

/-- The character that a letter behind a backslash stands for. -/
def named : Char → Char
  | '0' => '\x00'
  | 'a' => '\x07'
  | 'b' => '\x08'
  | 't' => '\t'
  | 'n' => '\n'
  | 'v' => '\x0b'
  | 'f' => '\x0c'
  | 'r' => '\r'
  | 'e' => '\x1b'
  | 'N' => '\u0085'
  | 'L' => '\u2028'
  | 'P' => '\u2029'
  | c => c

/-- The character that an escaped text starts with, and the rest of the text. -/
def unescape : List Char → Option (Char × List Char)
  | '\\' :: 'x' :: rest => some (Char.ofNat (valueInBase 16 (rest.take 2)), rest.drop 2)
  | '\\' :: 'u' :: rest => some (Char.ofNat (valueInBase 16 (rest.take 4)), rest.drop 4)
  | '\\' :: c :: rest => some (named c, rest)
  | c :: rest => some (c, rest)
  | [] => none

private theorem toNat_lt_of_escaped {c : Char} (escaped : (isBreak c || isUnprintable c) = true) :
    c.toNat < 16 ^ 4 := by
  simp only [isBreak, isUnprintable, Bool.or_eq_true, Bool.and_eq_true,
    decide_eq_true_eq] at escaped
  rcases escaped with ((((rfl | rfl) | rfl) | rfl) | rfl) |
    ((((⟨small, -⟩ | ⟨-, small⟩) | rfl) | rfl) | rfl)
  all_goals first | decide | omega

theorem unescape_escape (c : Char) (rest : List Char) :
    unescape (escape c ++ rest) = some (c, rest) := by
  fun_cases escape c
  case case1 quoted =>
    have marks : c = '"' ∨ c = '\\' := by simpa using quoted
    rcases marks with rfl | rfl <;> rfl
  case case2 unquoted bare =>
    have other : c ≠ '\\' := by
      rintro rfl
      exact absurd unquoted (by decide)
    cases rest <;> simp [unescape, other]
  case case15 small _ _ =>
    have low : c.toNat % 16 ^ 2 = c.toNat := Nat.mod_eq_of_lt (by omega)
    have length := length_hexDigits 2 c.toNat
    rw [List.cons_append, List.cons_append, unescape, List.take_left' length,
      List.drop_left' length, valueInBase_hexDigits, low, Char.ofNat_toNat]
  case case16 _ _ escaped =>
    have low : c.toNat % 16 ^ 4 = c.toNat :=
      Nat.mod_eq_of_lt (toNat_lt_of_escaped (by simpa only [Bool.not_eq_true', Bool.not_eq_false]
        using escaped))
    have length := length_hexDigits 4 c.toNat
    rw [List.cons_append, List.cons_append, unescape, List.take_left' length,
      List.drop_left' length, valueInBase_hexDigits, low, Char.ofNat_toNat]
  all_goals rfl

theorem exists_escape_eq (c : Char) : ∃ d more, escape c = d :: more ∧ d ≠ '"' := by
  fun_cases escape c
  case case2 unquoted _ =>
    refine ⟨c, [], rfl, ?_⟩
    rintro rfl
    exact absurd unquoted (by decide)
  all_goals exact ⟨'\\', _, rfl, by decide⟩

end Escapes

section Lines

variable {broken : Bool} {c : Char} {more : List Char}

/-- The blanks in front of a line that follows a break. -/
def lead (indent : Nat) (broken : Bool) : List Char := if broken then spaces indent else []

private theorem break_cons_ne_lead {b : Char} (breaks : isBreak b = true)
    (other : isBreak c = false)
    (xs ys : List Char) : b :: xs ≠ lead indent broken ++ c :: ys := by
  have differ (d : Char) (other : isBreak d = false) : b ≠ d := by
    rintro rfl
    rw [breaks] at other
    cases other
  intro h
  cases broken with
  | false => exact differ c other (List.cons.inj h).1
  | true =>
    cases indent with
    | zero => exact differ c other (List.cons.inj h).1
    | succ n => exact differ ' ' rfl (List.cons.inj h).1

/-- A text is written line by line: a break ends a line, and any other character is written, with
something that it decides, behind the blanks that the last break asks for. -/
structure WritesLines (indent : Nat) (extra : Char → List Char)
    (body : Bool → List Char → List Char) : Prop where
  nil_ne : ∀ broken c more, body broken [] ≠ body broken (c :: more)
  breaks : ∀ broken c more, isBreak c = true → body broken (c :: more) = c :: body true more
  others : ∀ broken c more, isBreak c = false →
    body broken (c :: more) = lead indent broken ++ c :: (extra c ++ body false more)

/-- The blanks in front of lines are no part of a text, so its lines give it back. -/
theorem WritesLines.inj {extra : Char → List Char} {body : Bool → List Char → List Char}
    (writes : WritesLines indent extra body) (h : body broken text = body broken text') :
    text = text' := by
  induction text generalizing broken text' with
  | nil =>
    cases text' with
    | nil => rfl
    | cons c' more' => exact absurd h (writes.nil_ne broken c' more')
  | cons c more ih =>
    cases text' with
    | nil => exact absurd h.symm (writes.nil_ne broken c more)
    | cons c' more' =>
      cases kind : isBreak c <;> cases kind' : isBreak c'
      case true.true =>
        rw [writes.breaks _ _ _ kind, writes.breaks _ _ _ kind'] at h
        obtain ⟨rfl, rest⟩ := List.cons.inj h
        rw [ih rest]
      case true.false =>
        rw [writes.breaks _ _ _ kind, writes.others _ _ _ kind'] at h
        exact absurd h (break_cons_ne_lead kind kind' _ _)
      case false.true =>
        rw [writes.others _ _ _ kind, writes.breaks _ _ _ kind'] at h
        exact absurd h.symm (break_cons_ne_lead kind' kind _ _)
      case false.false =>
        rw [writes.others _ _ _ kind, writes.others _ _ _ kind'] at h
        obtain ⟨rfl, rest⟩ := List.cons.inj (List.append_cancel_left h)
        rw [ih (List.append_cancel_left rest)]

private theorem writesLines_singleQuotedBody (indent : Nat) :
    WritesLines indent (fun c => if c = '\'' then ['\''] else []) (singleQuotedBody indent) := by
  have breaks (broken : Bool) (c : Char) (more : List Char) (kind : isBreak c = true) :
      singleQuotedBody indent broken (c :: more) = c :: singleQuotedBody indent true more := by
    rw [singleQuotedBody, if_pos kind]
  have others (broken : Bool) (c : Char) (more : List Char) (kind : isBreak c = false) :
      singleQuotedBody indent broken (c :: more) = lead indent broken ++
        c :: ((if c = '\'' then ['\''] else []) ++ singleQuotedBody indent false more) := by
    rw [singleQuotedBody, if_neg (Bool.eq_false_iff.1 kind), ← lead]
    by_cases quote : c = '\'' <;> simp [quote]
  refine ⟨fun broken c more h => ?_, breaks, others⟩
  rw [singleQuotedBody, ← lead] at h
  cases kind : isBreak c with
  | true =>
    rw [breaks broken c more kind] at h
    exact break_cons_ne_lead kind (by decide) _ _ h.symm
  | false =>
    rw [others broken c more kind] at h
    obtain ⟨rfl, rest⟩ := List.cons.inj (List.append_cancel_left h)
    simp at rest

private theorem writesLines_literalBody (indent : Nat) :
    WritesLines indent (fun _ => []) (literalBody indent) := by
  refine ⟨fun broken c more h => ?_, fun broken c more kind => ?_, fun broken c more kind => ?_⟩
  · rw [literalBody, literalBody] at h
    split at h <;> simp at h
  · rw [literalBody, if_pos kind]
  · rw [literalBody, if_neg (Bool.eq_false_iff.1 kind), ← lead, List.nil_append]

end Lines

section Styles

/-- The mark of a style, none for texts that stand for themselves. -/
def Style.mark : Style → Option Char
  | plain => none
  | singleQuoted => some '\''
  | doubleQuoted => some '"'
  | literal => some '|'

theorem Style.mark_injective {a b : Style} (h : a.mark = b.mark) : a = b := by
  cases a <;> cases b <;> first | rfl | exact absurd h (by decide)

/-- The mark that a written value starts with. -/
def markOf (written : List Char) : Option Char := written.head?.filter isIndicator

theorem style_eq_plain (h : style text = .plain) :
    readsAsOther text = false ∧ allowsPlain text = true := by
  unfold style at h
  split at h
  · split at h <;> cases h
  · split at h
    · cases h
    · split at h
      · exact ⟨Bool.eq_false_iff.2 ‹_›, ‹_›⟩
      · split at h <;> cases h

/-- The first character of a written text tells its style. -/
theorem markOf_writeText (indent : Nat) (s : String) :
    markOf (writeText indent s) = (style s.toList).mark := by
  cases h : style s.toList with
  | singleQuoted | doubleQuoted | literal =>
    simp only [writeText, h]
    rfl
  | plain =>
    have admitted := (style_eq_plain h).2
    simp only [writeText, h]
    cases own : s.toList with
    | nil => simp [own, allowsPlain] at admitted
    | cons c more =>
      rw [own, allowsPlain] at admitted
      simp only [Bool.and_eq_true, Bool.not_eq_true'] at admitted
      have bare : isIndicator c = false := by simp_all
      simp [markOf, bare, Style.mark]

/-- The hints of a literal block, on the line of its mark. -/
def hints (text : List Char) : List Char := indentHint text ++ chompHint text

private theorem mem_chompHint {c : Char} (h : c ∈ chompHint text) : c = '-' ∨ c = '+' := by
  unfold chompHint at h
  split at h
  · simp_all
  · split at h
    · simp_all
    · split at h <;> simp_all

private theorem mem_hints {c : Char} (h : c ∈ hints text) : c = '2' ∨ c = '-' ∨ c = '+' := by
  rcases List.mem_append.1 h with first | last
  · unfold indentHint at first
    split at first
    · cases first
    · split at first <;> simp_all
  · exact .inr (mem_chompHint last)

private theorem mem_hints_iff (text : List Char) :
    '-' ∈ hints text ↔ text.getLast?.any isBreak = false := by
  have first : '-' ∉ indentHint text := by
    unfold indentHint
    split
    · simp
    · split <;> simp
  have last : '-' ∈ chompHint text ↔ text.getLast?.any isBreak = false := by
    rw [chompHint, ← List.head?_reverse]
    cases text.reverse with
    | nil => simp
    | cons last more =>
      cases kind : isBreak last with
      | false => simp [kind]
      | true =>
        simp only [kind, Bool.not_true, Bool.false_eq_true, if_false]
        split <;> simp [kind]
  simp [hints, first, last]

private theorem literal_inj
    (h : hints text ++ '\n' :: literalBody indent true text ++
        (if text.getLast?.any isBreak then [] else ['\n']) =
      hints text' ++ '\n' :: literalBody indent true text' ++
        (if text'.getLast?.any isBreak then [] else ['\n'])) : text = text' := by
  have run (text rest : List Char) : Lexing.Run (· ≠ '\n') (hints text) ('\n' :: rest) := by
    refine ⟨fun c hc => ?_, by simp⟩
    rcases mem_hints hc with rfl | rfl | rfl <;> decide
  rw [List.append_assoc, List.append_assoc] at h
  obtain ⟨hinted, rest⟩ := (run text _).append_inj (run text' _) h
  have ends : text.getLast?.any isBreak = text'.getLast?.any isBreak := by
    have own := mem_hints_iff text
    rw [hinted, mem_hints_iff] at own
    exact (Bool.eq_iff_iff.2 (by simpa using own)).symm
  rw [ends] at rest
  exact (writesLines_literalBody indent).inj (List.append_cancel_right (List.cons.inj rest).2)

/-- No two texts are written alike. -/
theorem writeText_inj (h : writeText indent s = writeText indent s') : s = s' := by
  have marks := congrArg markOf h
  rw [markOf_writeText, markOf_writeText] at marks
  have same := Style.mark_injective marks
  apply String.toList_injective
  cases own : style s.toList with
  | plain =>
    simp only [writeText, own, ← same] at h
    exact List.append_cancel_right h
  | singleQuoted =>
    simp only [writeText, own, ← same] at h
    exact (writesLines_singleQuotedBody indent).inj
      (List.append_cancel_right (List.cons.inj h).2)
  | doubleQuoted =>
    simp only [writeText, own, ← same] at h
    have rest : s.toList.flatMap escape ++ '"' :: ['\n'] =
        s'.toList.flatMap escape ++ '"' :: ['\n'] := (List.cons.inj h).2
    exact (flatMap_quote_inj unescape_escape exists_escape_eq rest).1
  | literal =>
    simp only [writeText, own, ← same] at h
    exact literal_inj (List.cons.inj h).2

end Styles

end LoxSyntax.Yaml
