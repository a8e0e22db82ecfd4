import LoxSyntax.Proofs.Lexing.Lines
import LoxSyntax.Proofs.Parsing.Sentences

/-!
# Scanned lists

Whatever the source, a scan gives tokens whose values follow from their kinds and texts, none of
them blank, and closes with an end marker. No finding lies behind the last line.
-/
namespace LoxSyntax.Lexing

variable {segs : List Segment} {source : String} {line : Nat} {f : Finding} {t : Token}

theorem Picks.kind_ne {s : Segment} {rest : List Char} {kind : TokenKind} (h : Picks s rest)
    (token : s.verdict = .token kind) : kind ≠ .trivia ∧ kind ≠ .endOfFile := by
  cases h with
  | blanks | openString | lineComment | blockComment | openComment | unexpected => cases token
  | name start longest named =>
    cases token
    rcases named with ⟨w, -, rfl⟩ | ⟨-, rfl⟩ <;> simp
  | whole | fraction | string =>
    cases token
    simp
  | operator spelled longest noLine noBlock =>
    cases token
    have kinds : ∀ o ∈ operators, o.2 ≠ .trivia ∧ o.2 ≠ .endOfFile := by decide
    exact kinds _ spelled

/-- The end marker closes the findings, and all before it come from segments. -/
theorem exists_findings_eq (line : Nat) (segs : List Segment) :
    ∃ fs n, findings line segs = fs ++ [.token (.endOfFile n)] ∧
      ∀ f ∈ fs, ∃ s ∈ segs, ∃ m, s.finding? m = some f := by
  induction segs generalizing line with
  | nil => exact ⟨[], line, rfl, by simp⟩
  | cons s segs ih =>
    obtain ⟨fs, n, he, origin⟩ := ih (line + s.counted)
    refine ⟨(s.finding? (line + s.counted)).toList ++ fs, n, ?_, fun f hf => ?_⟩
    · rw [findings, he, List.append_assoc]
    · rcases List.mem_append.1 hf with own | later
      · exact ⟨s, by simp, _, Option.mem_toList.1 own⟩
      · obtain ⟨u, hu, found⟩ := origin f later
        exact ⟨u, by simp [hu], found⟩

private theorem line_le_of_mem_findings (counted : ∀ s ∈ segs, s.counted = newlines s.text)
    (h : f ∈ findings line segs) : f.line ≤ line + newlines (segs.map (·.text)).flatten := by
  induction segs generalizing line with
  | nil =>
    obtain rfl := List.mem_singleton.1 h
    exact Nat.le_add_right line _
  | cons s segs ih =>
    have own := counted s (by simp)
    have text : newlines ((s :: segs).map (·.text)).flatten =
        newlines s.text + newlines (segs.map (·.text)).flatten := newlines_append _ _
    rw [findings, List.mem_append, Option.mem_toList] at h
    rcases h with h | h
    · have := (line_finding? own h).2
      omega
    · have := ih (fun t ht => counted t (by simp [ht])) h
      omega

theorem mem_tokens_iff : t ∈ (scan source).tokens ↔
    .token t ∈ findings 1 (segments source.toList) := by
  simp only [scan, Scan.ofFindings, List.mem_filterMap]
  constructor
  · rintro ⟨f, hf, token⟩
    cases f with
    | token u =>
      obtain rfl : u = t := Option.some.inj token
      exact hf
    | diagnostic d => cases token
  · exact fun h => ⟨_, h, rfl⟩

theorem mem_diagnostics_iff {d : Diagnostic} : d ∈ (scan source).diagnostics ↔
    .diagnostic d ∈ findings 1 (segments source.toList) := by
  simp only [scan, Scan.ofFindings, List.mem_filterMap]
  constructor
  · rintro ⟨f, hf, wrong⟩
    cases f with
    | token u => cases wrong
    | diagnostic e =>
      obtain rfl : e = d := Option.some.inj wrong
      exact hf
  · exact fun h => ⟨_, h, rfl⟩

/-- A token as scanning makes it. -/
structure Scanned (t : Token) : Prop where
  kind : t.kind ≠ .trivia
  literal : t.literal = literalOf t.kind t.lexeme.toList

/-- The end marker closes a scan. All tokens before it are picked by the rules, with the value that
goes with kind and text. -/
theorem exists_tokens_eq (source : String) :
    ∃ ts n, (scan source).tokens = ts ++ [.endOfFile n] ∧
      ∀ t ∈ ts, (∃ rest, Picks ⟨.token t.kind, t.lexeme.toList⟩ rest) ∧
        t.literal = literalOf t.kind t.lexeme.toList := by
  obtain ⟨fs, n, he, origin⟩ := exists_findings_eq 1 (segments source.toList)
  refine ⟨fs.filterMap (·.token?), n, ?_, fun t ht => ?_⟩
  · simp [scan, Scan.ofFindings, he, Finding.token?]
  · obtain ⟨f, hf, token⟩ := List.mem_filterMap.1 ht
    obtain ⟨⟨verdict, text⟩, hs, m, found⟩ := origin f hf
    obtain ⟨before, after, split⟩ := List.append_of_mem hs
    have picked := (tiling_segments source.toList).picked before _ after split
    cases verdict with
    | token kind =>
      cases found
      cases token
      rw [String.toList_ofList]
      exact ⟨⟨_, picked⟩, rfl⟩
    | skipped => cases found
    | error cause =>
      cases found
      cases token

theorem exists_proper_eq (source : String) : ∃ ts n, (scan source).tokens = ts ++ [.endOfFile n] ∧
    ∀ t ∈ ts, t.isEndOfFile = false := by
  obtain ⟨ts, n, whole, origin⟩ := exists_tokens_eq source
  refine ⟨ts, n, whole, fun t ht => ?_⟩
  obtain ⟨⟨rest, picked⟩, -⟩ := origin t ht
  exact Token.isEndOfFile_eq_false (picked.kind_ne rfl).2

theorem scanned_of_mem (h : t ∈ (scan source).tokens) : Scanned t := by
  obtain ⟨ts, n, he, origin⟩ := exists_tokens_eq source
  rw [he, List.mem_append, List.mem_singleton] at h
  rcases h with own | rfl
  · obtain ⟨⟨rest, picked⟩, literal⟩ := origin t own
    exact ⟨(picked.kind_ne rfl).1, literal⟩
  · exact ⟨by simp [Token.endOfFile], rfl⟩

/-- Kind and text of a scanned token give its value. -/
theorem Scanned.eq {u : Token} (h : Scanned t) (h' : Scanned u) (kind : t.kind = u.kind)
    (lexeme : t.lexeme = u.lexeme) (line : t.line = u.line) : t = u := by
  have literal : t.literal = u.literal := by rw [h.literal, h'.literal, kind, lexeme]
  cases t
  cases u
  simp_all

theorem Scanned.valued (h : Scanned t) : t.Valued := by
  rw [Token.Valued, h.literal]
  rintro (kind | kind) <;> rw [kind] <;> rfl

theorem Scanned.number {x : Number.Binary64} (scanned : Scanned t) (h : t.Denotes (.number x)) :
    t.kind = .number ∧ x = .ofDecimal (.ofText t.lexeme.toList) := by
  have literal := scanned.literal
  generalize he : Value.number x = v at h
  cases h with
  | @number l kind carried =>
    rw [kind, carried] at literal
    obtain rfl : l = .number (.ofDecimal (.ofText t.lexeme.toList)) := Option.some.inj literal
    exact ⟨kind, Value.number.inj he⟩
  | @string l kind carried =>
    rw [kind, carried] at literal
    obtain rfl : l = .text _ := Option.some.inj literal
    cases he
  | falseWord | trueWord | nilWord => cases he

theorem endsProperly_scan (source : String) :
    (scan source).tokens.getLast?.any (·.isEndOfFile) = true := by
  obtain ⟨ts, n, he, -⟩ := exists_tokens_eq source
  simp [he]

theorem line_eq_one (single : newlines source.toList = 0)
    (h : f ∈ findings 1 (segments source.toList)) : f.line = 1 := by
  have counted := counted_of_tiling (tiling_segments source.toList)
  have low := le_line_of_mem_findings counted h
  have high := line_le_of_mem_findings counted h
  rw [segments_flatten, single] at high
  exact Nat.le_antisymm high low

end LoxSyntax.Lexing
