import LoxSyntax.Proofs.Lexing.Stream

/-!
# The shape of scanned tokens

What the kind, the text and the value of a token have to do with each other, whatever the source
was: each follows from the rule that picked the token, since no text is picked by two of them.
-/
namespace LoxSyntax

open Lexing (Digit Letter)

/-- A letter, then letters and digits: the spelling of reserved words and identifiers. -/
def NameShaped (text : List Char) : Prop :=
  ∃ c more, text = c :: more ∧ Letter c ∧ ∀ d ∈ more, Letter d ∨ Digit d

private theorem Keyword.nameShaped (w : Keyword) : NameShaped w.spelling.toList := by
  have checked : ∃ c more, w.spelling.toList = c :: more ∧ Lexing.isNameStart c = true ∧
      more.all Lexing.isNamePart = true := by
    cases w <;> exact ⟨_, _, rfl, rfl, rfl⟩
  obtain ⟨c, more, spelled, start, parts⟩ := checked
  exact ⟨c, more, spelled, Lexing.isNameStart_iff.1 start,
    fun d hd => Lexing.isNamePart_iff.1 (List.all_eq_true.1 parts d hd)⟩

/-- A token as later stages rely on it. -/
structure Token.WellFormed (t : Token) : Prop where
  visible : t.kind ≠ .trivia
  number : t.kind = .number → ∃ x, t.literal = some (.number x)
  string : t.kind = .string → ∃ body, '"' ∉ body ∧ t.lexeme.toList = '"' :: body ++ ['"'] ∧
    t.literal = some (.text (String.ofList body))
  valueless : t.kind ≠ .number → t.kind ≠ .string → t.literal = none
  keyword : ∀ w, t.kind = .keyword w ↔ t.lexeme = w.spelling
  identifier : t.kind = .identifier ↔
    NameShaped t.lexeme.toList ∧ ∀ w : Keyword, t.lexeme ≠ w.spelling

namespace Lexing

variable {s : Segment} {t : Token} {text rest : List Char} {kind : TokenKind}

/-- A kind is that of a name exactly if the text has the shape of one, and then the text decides
between a reserved word and an identifier. -/
structure Classified (text : List Char) (kind : TokenKind) : Prop where
  named : NameShaped text → kind = .ofIdentifier (String.ofList text)
  unnamed : ¬NameShaped text → kind ≠ .identifier ∧ ∀ w, kind ≠ .keyword w

private theorem Classified.of_name (shaped : NameShaped text) (named : NameKind text kind) :
    Classified text kind :=
  ⟨fun _ => nameKind_iff.1 named, fun h => absurd shaped h⟩

private theorem Classified.of_front {c : Char} (front : text.head? = some c) (start : ¬Letter c)
    (plain : kind ≠ .identifier ∧ ∀ w, kind ≠ .keyword w) : Classified text kind := by
  refine ⟨fun ⟨d, more, split, letter, _⟩ => ?_, fun _ => plain⟩
  rw [split, List.head?_cons] at front
  exact absurd (Option.some.inj front ▸ letter) start

private theorem kind_ne_of_mem_operators {o : List Char × TokenKind} (h : o ∈ operators) :
    o.2 ≠ .identifier ∧ (∀ w, o.2 ≠ .keyword w) ∧ o.2 ≠ .number ∧ o.2 ≠ .string := by
  have table : ∀ o ∈ operators, o.2 ≠ .identifier ∧ (∀ w, o.2 ≠ .keyword w) ∧ o.2 ≠ .number ∧
      o.2 ≠ .string := by
    simp [operators]
  exact table o h

private theorem Picks.classified (h : Picks ⟨.token kind, text⟩ rest) : Classified text kind := by
  cases h with
  | name start longest named => exact .of_name ⟨_, _, rfl, start, longest.all⟩ named
  | whole nonempty longest plain =>
    obtain ⟨c, more, rfl⟩ := List.exists_cons_of_ne_nil nonempty
    exact .of_front rfl (longest.all c (by simp)).not_letter (by simp)
  | fraction nonempty all decimal longest =>
    obtain ⟨c, more, rfl⟩ := List.exists_cons_of_ne_nil nonempty
    exact .of_front rfl (all c (by simp)).not_letter (by simp)
  | string first => exact .of_front rfl (by decide) (by simp)
  | operator spelled longest noLine noBlock =>
    have table : ∀ o ∈ operators, ∃ c, o.1.head? = some c ∧ ¬Letter c := by
      simp [operators]
      decide
    obtain ⟨c, front, start⟩ := table _ spelled
    obtain ⟨identifier, keyword, -⟩ := kind_ne_of_mem_operators spelled
    exact .of_front front start ⟨identifier, keyword⟩

theorem Picks.quoted (h : Picks ⟨.token .string, text⟩ rest) :
    ∃ body, '"' ∉ body ∧ text = '"' :: body ++ ['"'] := by
  generalize hs : (⟨.token .string, text⟩ : Segment) = s at h
  cases h with
  | string first =>
    cases hs
    exact ⟨_, first, rfl⟩
  | blanks | openString | lineComment | blockComment | openComment | unexpected | whole
  | fraction => cases hs
  | name start longest named =>
    cases hs
    rcases named with ⟨w, -, kind⟩ | ⟨-, kind⟩ <;> cases kind
  | operator spelled longest noLine noBlock =>
    cases hs
    exact absurd rfl (kind_ne_of_mem_operators spelled).2.2.2

theorem Picks.spelled (h : Picks ⟨.token kind, text⟩ rest) {spelling : List Char}
    (operator : (spelling, kind) ∈ operators) : (text, kind) ∈ operators := by
  obtain ⟨identifier, keyword, number, string⟩ := kind_ne_of_mem_operators operator
  cases h with
  | name start longest named =>
    rcases named with ⟨w, -, kind⟩ | ⟨-, kind⟩
    · exact absurd kind (keyword w)
    · exact absurd kind identifier
  | whole | fraction => exact absurd rfl number
  | string first => exact absurd rfl string
  | operator spelled longest noLine noBlock => exact spelled

theorem Picks.text_ne_nil (h : Picks s rest) : s.text ≠ [] := by
  obtain ⟨c, more, text, -⟩ := h.cut_eq
  rw [text]
  exact List.cons_ne_nil c more

private theorem ofIdentifier_eq_identifier_iff (name : String) :
    TokenKind.ofIdentifier name = .identifier ↔ ∀ w : Keyword, name ≠ w.spelling := by
  constructor
  · intro h w spelled
    rw [(TokenKind.ofIdentifier_eq_keyword_iff name w).2 spelled] at h
    cases h
  · intro free
    rcases ofIdentifier_eq_or name with h | ⟨w, h⟩
    · exact h
    · exact absurd ((TokenKind.ofIdentifier_eq_keyword_iff name w).1 h) (free w)

private theorem Scanned.wellFormed (h : Scanned t) (classified : Classified t.lexeme.toList t.kind)
    (quoted : t.kind = .string → ∃ body, '"' ∉ body ∧ t.lexeme.toList = '"' :: body ++ ['"']) :
    t.WellFormed := by
  have named (shaped : NameShaped t.lexeme.toList) : t.kind = .ofIdentifier t.lexeme := by
    rw [classified.named shaped, String.ofList_toList]
  have spelled (w : Keyword) (lexeme : t.lexeme = w.spelling) : NameShaped t.lexeme.toList :=
    lexeme ▸ w.nameShaped
  refine ⟨h.kind, fun kind => ?_, fun kind => ?_, fun number string => ?_, fun w => ?_, ?_⟩
  · rw [h.literal, kind]
    exact ⟨_, rfl⟩
  · obtain ⟨body, inner, text⟩ := quoted kind
    refine ⟨body, inner, text, ?_⟩
    rw [h.literal, kind, text]
    simp [literalOf]
  · rw [h.literal]
    unfold literalOf
    split
    · exact absurd ‹_› number
    · exact absurd ‹_› string
    · rfl
  · by_cases shaped : NameShaped t.lexeme.toList
    · rw [named shaped]
      exact TokenKind.ofIdentifier_eq_keyword_iff t.lexeme w
    · exact ⟨fun kind => absurd kind ((classified.unnamed shaped).2 w),
        fun lexeme => absurd (spelled w lexeme) shaped⟩
  · by_cases shaped : NameShaped t.lexeme.toList
    · rw [named shaped, ofIdentifier_eq_identifier_iff]
      exact ⟨fun free => ⟨shaped, free⟩, fun free => free.2⟩
    · exact ⟨fun kind => absurd kind (classified.unnamed shaped).1,
        fun name => absurd name.1 shaped⟩

theorem wellFormed_of_mem {source : String} (h : t ∈ (scan source).tokens) : t.WellFormed := by
  have scanned := scanned_of_mem h
  obtain ⟨ts, n, he, origin⟩ := exists_tokens_eq source
  rw [he, List.mem_append, List.mem_singleton] at h
  rcases h with own | rfl
  · obtain ⟨⟨rest, picked⟩, -⟩ := origin t own
    refine scanned.wellFormed picked.classified fun kind => ?_
    rw [kind] at picked
    exact picked.quoted
  · refine scanned.wellFormed ⟨?_, fun _ => by simp [Token.endOfFile]⟩ nofun
    rintro ⟨c, more, text, -⟩
    cases text

/-- A scanned token of the kind of an operator has the spelling of one, and no value. -/
theorem spelled_of_mem {source : String} (h : t ∈ (scan source).tokens) {spelling : List Char}
    (operator : (spelling, t.kind) ∈ operators) :
    (t.lexeme.toList, t.kind) ∈ operators ∧ t.literal = none := by
  obtain ⟨-, -, number, string⟩ := kind_ne_of_mem_operators operator
  refine ⟨?_, (wellFormed_of_mem h).valueless number string⟩
  obtain ⟨ts, n, he, origin⟩ := exists_tokens_eq source
  rw [he, List.mem_append, List.mem_singleton] at h
  rcases h with own | rfl
  · obtain ⟨⟨rest, picked⟩, -⟩ := origin t own
    exact picked.spelled operator
  · have kinds : ∀ o ∈ operators, o.2 ≠ .endOfFile := by decide
    exact absurd rfl (kinds _ operator)

end Lexing

end LoxSyntax
