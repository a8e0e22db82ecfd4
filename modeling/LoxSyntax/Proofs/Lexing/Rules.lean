import LoxSyntax.Lexing.Segment
import Mathlib.Data.List.TakeWhile

/-!
# The lexical rules

Which segment a source text begins with, said by what the segment is and what may follow it. Each
class of characters and each run of them is matched with the recognizer that finds it.
-/
namespace LoxSyntax.Lexing

def Blank (c : Char) : Prop := c = ' ' ∨ c = '\t' ∨ c = '\r' ∨ c = '\n'

def Letter (c : Char) : Prop := ('a' ≤ c ∧ c ≤ 'z') ∨ ('A' ≤ c ∧ c ≤ 'Z') ∨ c = '_'

def Digit (c : Char) : Prop := '0' ≤ c ∧ c ≤ '9'

instance : DecidablePred Blank := fun _ => inferInstanceAs (Decidable (_ ∨ _))

instance : DecidablePred Letter := fun _ => inferInstanceAs (Decidable (_ ∨ _))

instance : DecidablePred Digit := fun _ => inferInstanceAs (Decidable (_ ∧ _))

/-- The spellings of operators and punctuation. -/
def operators : List (List Char × TokenKind) :=
  [(['('], .leftParen), ([')'], .rightParen), (['{'], .leftBrace), (['}'], .rightBrace),
    ([','], .comma), (['.'], .dot), (['-'], .minus), (['+'], .plus), ([';'], .semicolon),
    (['/'], .slash), (['*'], .star), (['!'], .bang), (['!', '='], .bangEqual), (['='], .equal),
    (['=', '='], .equalEqual), (['>'], .greater), (['>', '='], .greaterEqual), (['<'], .less),
    (['<', '='], .lessEqual)]

/-- A longest run of characters of one class in front of a text. -/
structure Run (p : Char → Prop) (run rest : List Char) : Prop where
  all : ∀ c ∈ run, p c
  stops : ∀ c ∈ rest.head?, ¬p c

/-- The kind of a name: that of the reserved word it spells, else an identifier. -/
def NameKind (text : List Char) (kind : TokenKind) : Prop :=
  (∃ w : Keyword, w.spelling.toList = text ∧ kind = .keyword w) ∨
    (∀ w : Keyword, w.spelling.toList ≠ text) ∧ kind = .identifier

/-- The rules pick this segment in front of the rest of a text. -/
inductive Picks : Segment → List Char → Prop
  | blanks {run rest} (nonempty : run ≠ []) (longest : Run Blank run rest) :
      Picks ⟨.skipped, run⟩ rest
  | name {c more rest kind} (start : Letter c)
      (longest : Run (fun c => Letter c ∨ Digit c) more rest) (named : NameKind (c :: more) kind) :
      Picks ⟨.token kind, c :: more⟩ rest
  | whole {digits rest} (nonempty : digits ≠ []) (longest : Run Digit digits rest)
      (plain : ∀ d more, rest = '.' :: d :: more → ¬Digit d) : Picks ⟨.token .number, digits⟩ rest
  | fraction {digits decimals rest} (nonempty : digits ≠ []) (all : ∀ c ∈ digits, Digit c)
      (decimal : decimals ≠ []) (longest : Run Digit decimals rest) :
      Picks ⟨.token .number, digits ++ '.' :: decimals⟩ rest
  | string {body rest} (first : '"' ∉ body) : Picks ⟨.token .string, '"' :: body ++ ['"']⟩ rest
  | openString {body} (unclosed : '"' ∉ body) : Picks ⟨.error .unterminatedString, '"' :: body⟩ []
  | lineComment {body rest} (longest : Run (· ≠ '\n') body rest) :
      Picks ⟨.skipped, '/' :: '/' :: body⟩ rest
  | blockComment {body rest} (first : ¬['*', '/'] <:+: body ++ ['*']) :
      Picks ⟨.skipped, '/' :: '*' :: body ++ ['*', '/']⟩ rest
  | openComment {body} (unclosed : ¬['*', '/'] <:+: body) :
      Picks ⟨.error .unterminatedComment, '/' :: '*' :: body⟩ []
  | operator {text kind rest} (spelled : (text, kind) ∈ operators)
      (longest : ∀ longer ∈ operators, longer.1 <+: text ++ rest → longer.1.length ≤ text.length)
      (noLine : ¬['/', '/'] <+: text ++ rest) (noBlock : ¬['/', '*'] <+: text ++ rest) :
      Picks ⟨.token kind, text⟩ rest
  | unexpected {c rest} (noBlank : ¬Blank c) (noLetter : ¬Letter c) (noDigit : ¬Digit c)
      (noQuote : c ≠ '"') (noOperator : ∀ spelled ∈ operators, spelled.1.head? ≠ some c) :
      Picks ⟨.error .unexpectedCharacter, [c]⟩ rest

section Classes

variable {c : Char}

theorem isBlank_iff : isBlank c = true ↔ Blank c := by
  simp [isBlank, Blank, or_assoc]

theorem isDigit_iff : c.isDigit = true ↔ Digit c := by
  simp [Char.isDigit, Digit, Char.le_def]

theorem isNameStart_iff : isNameStart c = true ↔ Letter c := by
  have upper : c.isUpper = true ↔ 'A' ≤ c ∧ c ≤ 'Z' := decide_eq_true_iff
  have lower : c.isLower = true ↔ 'a' ≤ c ∧ c ≤ 'z' := by
    change (decide ('a' ≤ c) && decide (c ≤ 'z')) = true ↔ _
    simp
  change (c.isUpper || c.isLower || decide (c = '_')) = true ↔ _
  simp only [Bool.or_eq_true, upper, lower, decide_eq_true_eq, Letter]
  rw [or_comm (a := 'A' ≤ c ∧ c ≤ 'Z'), or_assoc]

theorem isNamePart_iff : isNamePart c = true ↔ Letter c ∨ Digit c := by
  rw [← isNameStart_iff, ← isDigit_iff]
  simp [isNamePart, isNameStart, Char.isAlphanum, or_right_comm]

theorem Letter.not_blank (h : Letter c) : ¬Blank c := by
  rintro (rfl | rfl | rfl | rfl) <;> revert h <;> decide

theorem Digit.not_blank (h : Digit c) : ¬Blank c := by
  rintro (rfl | rfl | rfl | rfl) <;> revert h <;> decide

theorem Digit.not_letter (h : Digit c) : ¬Letter c := by
  rintro (⟨low, -⟩ | ⟨low, -⟩ | rfl)
  · exact absurd (Char.le_trans low h.2) (by decide)
  · exact absurd (Char.le_trans low h.2) (by decide)
  · revert h
    decide

end Classes

section Runs

variable {P : Char → Prop} {p : Char → Bool} {run rest : List Char}

theorem run_cons_iff {c : Char} : Run P (c :: run) rest ↔ P c ∧ Run P run rest := by
  constructor
  · intro h
    exact ⟨h.all c (by simp), fun d hd => h.all d (by simp [hd]), h.stops⟩
  · rintro ⟨hc, all, stops⟩
    exact ⟨by simpa using ⟨hc, all⟩, stops⟩

theorem run_takeWhile (decides : ∀ c, p c = true ↔ P c) (cs : List Char) :
    Run P (cs.takeWhile p) (cs.dropWhile p) where
  all c hc := (decides c).1 (List.mem_takeWhile_imp hc)
  stops c hc hp := by
    have stopped := List.head?_dropWhile_not p cs
    rw [Option.mem_def.1 hc] at stopped
    simp [(decides c).2 hp] at stopped

theorem Run.takeWhile_append (longest : Run P run rest) (decides : ∀ c, p c = true ↔ P c) :
    (run ++ rest).takeWhile p = run ∧ (run ++ rest).dropWhile p = rest := by
  have all : ∀ c ∈ run, p c = true := fun c hc => (decides c).2 (longest.all c hc)
  rw [List.takeWhile_append_of_pos all, List.dropWhile_append_of_pos all]
  cases rest with
  | nil => simp
  | cons c rest =>
    have stops : ¬p c = true := fun h => longest.stops c rfl ((decides c).1 h)
    rw [List.takeWhile_cons_of_neg stops, List.dropWhile_cons_of_neg stops]
    simp

theorem Run.append_inj {run' rest' : List Char} (longest : Run P run rest)
    (longest' : Run P run' rest') (h : run ++ rest = run' ++ rest') :
    run = run' ∧ rest = rest' := by
  classical
  have decides (c : Char) : decide (P c) = true ↔ P c := decide_eq_true_iff
  obtain ⟨front, back⟩ := longest.takeWhile_append decides
  obtain ⟨front', back'⟩ := longest'.takeWhile_append decides
  rw [h] at front back
  exact ⟨front.symm.trans front', back.symm.trans back'⟩

end Runs

theorem ofIdentifier_eq_or (text : String) :
    TokenKind.ofIdentifier text = .identifier ∨
      ∃ w, TokenKind.ofIdentifier text = .keyword w := by
  unfold TokenKind.ofIdentifier
  split
  · exact .inr ⟨_, rfl⟩
  · exact .inl rfl

theorem nameKind_iff {text : List Char} {kind : TokenKind} :
    NameKind text kind ↔ kind = .ofIdentifier (String.ofList text) := by
  have spells (w : Keyword) :
      w.spelling.toList = text ↔ TokenKind.ofIdentifier (String.ofList text) = .keyword w := by
    rw [TokenKind.ofIdentifier_eq_keyword_iff]
    constructor
    · rintro rfl
      exact String.ofList_toList
    · intro h
      rw [← h, String.toList_ofList]
  simp only [NameKind, spells, ne_eq]
  rcases ofIdentifier_eq_or (String.ofList text) with h | ⟨w, h⟩ <;> rw [h]
  · simp
  · simp

theorem mem_operators_iff {text : List Char} {kind : TokenKind} :
    (text, kind) ∈ operators ↔
      (∃ c, text = [c] ∧ single? c = some kind) ∨
        ∃ c, text = [c, '='] ∧ withEqual? c = some kind := by
  constructor
  · have table : ∀ spelled ∈ operators, (∃ c, spelled.1 = [c] ∧ single? c = some spelled.2) ∨
        ∃ c, spelled.1 = [c, '='] ∧ withEqual? c = some spelled.2 := by
      simp [operators, single?, withEqual?]
    exact table (text, kind)
  · rintro (⟨c, rfl, h⟩ | ⟨c, rfl, h⟩)
    · revert h
      fun_cases single? c <;> simp +contextual [operators, eq_comm]
    · revert h
      fun_cases withEqual? c <;> simp +contextual [operators, eq_comm]

theorem single?_isSome_of_withEqual? {c : Char} {kind : TokenKind} (h : withEqual? c = some kind) :
    (single? c).isSome := by
  revert h
  fun_cases withEqual? c <;> simp [single?]

/-- Operators start with characters of no other class. -/
theorem classes_of_single? {c : Char} {kind : TokenKind} (h : single? c = some kind) :
    ¬Blank c ∧ ¬Letter c ∧ ¬Digit c ∧ c ≠ '"' := by
  revert h
  fun_cases single? c
  case case16 => simp
  all_goals exact fun _ => by decide

section Comments

variable {body cs rest taken : List Char}

private theorem close_prefix_cons_iff {c : Char} :
    ['*', '/'] <+: c :: cs ↔ c = '*' ∧ cs.head? = some '/' := by
  cases cs <;> simp [List.cons_prefix_cons, eq_comm]

theorem throughClose_eq_none_iff : throughClose cs = none ↔ ¬['*', '/'] <:+: cs := by
  fun_induction throughClose cs with
  | case1 => simp
  | case2 rest => simpa using ⟨[], rest, rfl⟩
  | case3 c cs noClose ih =>
    have front : ¬['*', '/'] <+: c :: cs := by
      rw [close_prefix_cons_iff, List.head?_eq_some_iff]
      rintro ⟨hc, more, hcs⟩
      exact noClose more hc hcs
    simp [List.infix_cons_iff, front, ih]

/-- What is taken ends with the first closing mark: there is no other in it, not even one that
overlaps the last. -/
theorem throughClose_first (h : throughClose cs = some (taken, rest)) :
    ∃ body, taken = body ++ ['*', '/'] ∧ ¬['*', '/'] <:+: body ++ ['*'] := by
  fun_induction throughClose cs generalizing taken rest with
  | case1 => simp at h
  | case2 left =>
    obtain ⟨rfl, -⟩ := Prod.mk.inj (Option.some.inj h)
    exact ⟨[], rfl, by decide⟩
  | case3 c cs noClose ih =>
    obtain ⟨⟨more, left⟩, hm, he⟩ := Option.map_eq_some_iff.1 h
    obtain ⟨rfl, rfl⟩ := Prod.mk.inj he
    obtain ⟨body, rfl, first⟩ := ih hm
    refine ⟨c :: body, rfl, ?_⟩
    rw [List.cons_append, List.infix_cons_iff, close_prefix_cons_iff]
    rintro (⟨hc, slash⟩ | later)
    · -- the slash would be the next character of the text as well
      have append := throughClose_append hm
      cases body with
      | nil => simp at slash
      | cons d body =>
        obtain rfl : d = '/' := by simpa using slash
        exact noClose _ hc append.symm
    · exact first later

theorem throughClose_append_close (first : ¬['*', '/'] <:+: body ++ ['*']) :
    throughClose (body ++ ['*', '/'] ++ rest) = some (body ++ ['*', '/'], rest) := by
  induction body with
  | nil => rfl
  | cons c body ih =>
    rw [List.cons_append, List.infix_cons_iff, close_prefix_cons_iff, not_or] at first
    have noClose (more : List Char) (hc : c = '*') :
        body ++ ['*', '/'] ++ rest = '/' :: more → False := by
      intro he
      refine first.1 ⟨hc, ?_⟩
      cases body with
      | nil => simp at he
      | cons d body => simpa using (List.cons.inj he).1
    rw [List.cons_append, List.cons_append, throughClose.eq_3 _ _ noClose, ih first.2]
    rfl

end Comments

end LoxSyntax.Lexing
