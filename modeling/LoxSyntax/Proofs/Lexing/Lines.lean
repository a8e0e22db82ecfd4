import LoxSyntax.Proofs.Lexing.Tiling
import Mathlib.Logic.Function.Iterate

/-!
# Lines

The counter of lines is always one more than the line breaks of the text passed. So a token stands
on the line of its first character, an error on the line where it was noticed, and no line comes
after a later one.
-/
namespace LoxSyntax.Lexing

section Newlines

variable {text : List Char}

theorem newlines_append (a b : List Char) : newlines (a ++ b) = newlines a + newlines b :=
  List.count_append

private theorem newlines_eq_zero (h : ∀ c ∈ text, ¬Blank c) : newlines text = 0 := by
  apply List.count_eq_zero.2
  intro hm
  exact h '\n' hm (by decide)

end Newlines

section Counted

variable {s : Segment} {text rest : List Char} {kind : TokenKind}

private theorem counted_token (h : kind ≠ .string) : Segment.counted ⟨.token kind, text⟩ = 0 := by
  unfold Segment.counted
  split <;> simp_all

private theorem counted_skipped (h : ∀ body, text ≠ '/' :: '/' :: body) :
    Segment.counted ⟨.skipped, text⟩ = newlines text := by
  unfold Segment.counted
  split <;> simp_all

theorem Picks.solid (h : Picks ⟨.token kind, text⟩ rest) (plain : kind ≠ .string) :
    ∀ c ∈ text, ¬Blank c := by
  cases h with
  | @name c more _ _ start longest named =>
    intro d hd
    rcases List.mem_cons.1 hd with rfl | hd
    · exact start.not_blank
    · rcases longest.all d hd with letter | digit
      · exact letter.not_blank
      · exact digit.not_blank
  | whole nonempty longest point => exact fun d hd => (longest.all d hd).not_blank
  | @fraction digits decimals _ nonempty all decimal longest =>
    intro d hd
    rcases List.mem_append.1 hd with hd | hd
    · exact (all d hd).not_blank
    · rcases List.mem_cons.1 hd with rfl | hd
      · decide
      · exact (longest.all d hd).not_blank
  | string first => exact absurd rfl plain
  | operator spelled longest noLine noBlock =>
    have spelling : ∀ o ∈ operators, o.1.all (¬Blank ·) = true := by decide
    simpa using spelling _ spelled

theorem Picks.counted_eq (h : Picks s rest) : s.counted = newlines s.text := by
  obtain ⟨verdict, text⟩ := s
  cases verdict with
  | token kind =>
    by_cases string : kind = .string
    · rw [string]
      rfl
    · rw [counted_token string, newlines_eq_zero (h.solid string)]
  | skipped =>
    cases h with
    | blanks nonempty longest =>
      refine counted_skipped fun body he => ?_
      have blank := longest.all '/' (by simp [he])
      exact absurd blank (by decide)
    | @lineComment body _ longest =>
      have body : newlines body = 0 :=
        List.count_eq_zero.2 fun hm => longest.all '\n' hm rfl
      simpa [Segment.counted, newlines] using body.symm
    | blockComment first => exact counted_skipped (by simp)
  | error cause =>
    cases h with
    | openString | openComment => rfl
    | @unexpected c _ noBlank noLetter noDigit noQuote noOperator =>
      have breaks : newlines [c] = 0 := newlines_eq_zero (by simpa using noBlank)
      exact breaks.symm

private theorem counted_segmentAt (c : Char) (cs : List Char) :
    (segmentAt c cs).counted = newlines (segmentAt c cs).text :=
  (picks_segmentAt c cs).counted_eq

/-- Both ends of a segment are on the lines that the counter gives. -/
theorem counted_of_tiling {segs : List Segment} (h : Tiling segs text) :
    ∀ s ∈ segs, s.counted = newlines s.text := by
  intro s hs
  obtain ⟨before, after, rfl⟩ := List.append_of_mem hs
  exact (h.picked before s after rfl).counted_eq

end Counted

/-- The segments of a cut, each with the text in front of it. -/
def placed (before : List Char) : List Segment → List (List Char × Segment)
  | [] => []
  | s :: more => (before, s) :: placed (before ++ s.text) more

/-- What is wrong with a segment of a source that has this text in front of it, and on which line:
an unexpected character on its own line, anything left open on the last line of the source. -/
def Segment.faultAt? (source before : List Char) (s : Segment) : Option (String × Nat) :=
  match s.verdict with
  | .error .unexpectedCharacter =>
    some (LexicalError.unexpectedCharacter.message, 1 + newlines before)
  | .error cause => some (cause.message, 1 + newlines source)
  | _ => none

/-- What a segment adds to the scan of a source in which it has this text in front of it. -/
def Segment.findingAt? (source before : List Char) (s : Segment) : Option Finding :=
  match s.verdict with
  | .token kind =>
    some (.token ⟨kind, String.ofList s.text, literalOf kind s.text, 1 + newlines before⟩)
  | _ => (s.faultAt? source before).map fun (message, line) => .diagnostic (.atLine line message)

/-- What consecutive segments add to the scan of a source in which they have this text in front. -/
def found (source before : List Char) : List Segment → List Finding
  | [] => []
  | s :: more => (s.findingAt? source before).toList ++ found source (before ++ s.text) more

section Places

variable {segs : List Segment} {text : List Char}

private theorem Picks.faultAt?_eq {s : Segment} {rest : List Char} {cause : LexicalError}
    (h : Picks s rest)
    (wrong : s.verdict = .error cause) (before : List Char) :
    s.faultAt? (before ++ (s.text ++ rest)) before =
      some (cause.message, 1 + newlines (before ++ s.text)) := by
  cases h with
  | blanks | name | whole | fraction | string | lineComment | blockComment | operator => cases wrong
  | openString unclosed =>
    cases wrong
    rw [List.append_nil]
    rfl
  | openComment unclosed =>
    cases wrong
    rw [List.append_nil]
    rfl
  | @unexpected c _ noBlank noLetter noDigit noQuote noOperator =>
    cases wrong
    have breaks : newlines [c] = 0 := newlines_eq_zero (by simpa using noBlank)
    simp only [Segment.faultAt?, newlines_append, breaks, Nat.add_zero]

theorem Picks.finding?_eq {s : Segment} {rest : List Char} (h : Picks s rest)
    (before : List Char) : s.finding? (1 + newlines (before ++ s.text)) =
      s.findingAt? (before ++ (s.text ++ rest)) before := by
  cases hv : s.verdict with
  | token kind =>
    have start : 1 + newlines (before ++ s.text) - newlines s.text = 1 + newlines before := by
      rw [newlines_append]
      omega
    simp [Segment.finding?, Segment.findingAt?, hv, start]
  | skipped => simp [Segment.finding?, Segment.findingAt?, Segment.faultAt?, hv]
  | error cause => simp [Segment.finding?, Segment.findingAt?, hv, h.faultAt?_eq hv before]

/-- The findings of a cut begin with those of its first segments, each by its place. -/
theorem findings_append {rest : List Segment} (h : Tiling (segs ++ rest) text)
    (before : List Char) : findings (1 + newlines before) (segs ++ rest) =
      found (before ++ text) before segs ++
        findings (1 + newlines (before ++ (segs.map (·.text)).flatten)) rest := by
  induction segs generalizing before text with
  | nil => rw [List.map_nil, List.flatten_nil, List.append_nil]; rfl
  | cons s segs ih =>
    have picked : Picks s ((segs ++ rest).map (·.text)).flatten := h.picked [] s _ rfl
    obtain rfl : s.text ++ ((segs ++ rest).map (·.text)).flatten = text := h.covers
    have line : 1 + newlines before + s.counted = 1 + newlines (before ++ s.text) := by
      rw [picked.counted_eq, newlines_append, Nat.add_assoc]
    have more := ih h.tail (before ++ s.text)
    rw [List.append_assoc, List.append_assoc] at more
    rw [List.cons_append, findings, line, picked.finding?_eq, found, List.append_assoc]
    exact congrArg (_ ++ ·) more

private theorem findings_eq (h : Tiling segs text) (before : List Char) :
    findings (1 + newlines before) segs = found (before ++ text) before segs ++
      [.token (.endOfFile (1 + newlines (before ++ text)))] := by
  have whole : Tiling (segs ++ []) text := by rwa [List.append_nil]
  have split := findings_append whole before
  rwa [List.append_nil, h.covers] at split

private theorem tokens_found (source before : List Char) (segs : List Segment) :
    ((found source before segs).filterMap (·.token?)).map (fun t => (t.lexeme, t.line)) =
      (placed before segs).filterMap fun (front, s) =>
        s.token?.map fun (_, lexeme) => (lexeme, 1 + newlines front) := by
  induction segs generalizing before with
  | nil => rfl
  | cons s segs ih =>
    rw [found, placed, List.filterMap_append, List.map_append, ih, List.filterMap_cons]
    cases hv : s.verdict with
    | token kind => simp [Segment.findingAt?, Segment.token?, Finding.token?, hv]
    | skipped => simp [Segment.findingAt?, Segment.faultAt?, Segment.token?, hv]
    | error cause =>
      cases fault : s.faultAt? source before <;>
        simp [Segment.findingAt?, Segment.token?, Finding.token?, hv, fault]

private theorem diagnostics_found (source before : List Char) (segs : List Segment) :
    ((found source before segs).filterMap (·.diagnostic?)).map (fun d => (d.message, d.line)) =
      (placed before segs).filterMap fun (front, s) => s.faultAt? source front := by
  induction segs generalizing before with
  | nil => rfl
  | cons s segs ih =>
    rw [found, placed, List.filterMap_append, List.map_append, ih, List.filterMap_cons]
    cases hv : s.verdict with
    | token kind => simp [Segment.findingAt?, Segment.faultAt?, Finding.diagnostic?, hv]
    | skipped => simp [Segment.findingAt?, Segment.faultAt?, hv]
    | error cause =>
      cases fault : s.faultAt? source before <;>
        simp [Segment.findingAt?, Finding.diagnostic?, Diagnostic.atLine, hv, fault]

private theorem tokens_lines (h : Tiling segs text) (before : List Char) :
    (Scan.ofFindings (findings (1 + newlines before) segs)).tokens.map
        (fun t => (t.lexeme, t.line)) =
      ((placed before segs).filterMap fun (front, s) =>
        s.token?.map fun (_, lexeme) => (lexeme, 1 + newlines front)) ++
        [("", 1 + newlines (before ++ text))] := by
  rw [← tokens_found (before ++ text), findings_eq h]
  simp [Scan.ofFindings, Finding.token?, Token.endOfFile]

private theorem diagnostics_lines (h : Tiling segs text) (before : List Char) :
    (Scan.ofFindings (findings (1 + newlines before) segs)).diagnostics.map
        (fun d => (d.message, d.line)) =
      (placed before segs).filterMap fun (front, s) => s.faultAt? (before ++ text) front := by
  rw [← diagnostics_found, findings_eq h]
  simp [Scan.ofFindings, Finding.diagnostic?]

end Places

section Order

/-- The line of a token or a diagnostic. -/
def Finding.line : Finding → Nat
  | token t => t.line
  | diagnostic d => d.line

variable {segs : List Segment} {line : Nat} {f : Finding}

theorem line_finding? {s : Segment} (counted : s.counted = newlines s.text)
    (h : f ∈ s.finding? (line + s.counted)) : line ≤ f.line ∧ f.line ≤ line + s.counted := by
  unfold Segment.finding? at h
  split at h
  · obtain rfl := Option.some.inj h
    simp only [Finding.line]
    omega
  · cases h
  · obtain rfl := Option.some.inj h
    simp only [Finding.line, Diagnostic.atLine]
    omega

theorem le_line_of_mem_findings (counted : ∀ s ∈ segs, s.counted = newlines s.text)
    (h : f ∈ findings line segs) : line ≤ f.line := by
  induction segs generalizing line with
  | nil =>
    obtain rfl := List.mem_singleton.1 h
    exact Nat.le_refl line
  | cons s segs ih =>
    rw [findings, List.mem_append, Option.mem_toList] at h
    rcases h with h | h
    · exact (line_finding? (counted s (by simp)) h).1
    · have := ih (fun t ht => counted t (by simp [ht])) h
      omega

private theorem pairwise_findings (counted : ∀ s ∈ segs, s.counted = newlines s.text) :
    (findings line segs).Pairwise fun f g => f.line ≤ g.line := by
  induction segs generalizing line with
  | nil => exact List.pairwise_singleton _ _
  | cons s segs ih =>
    have others : ∀ t ∈ segs, t.counted = newlines t.text := fun t ht => counted t (by simp [ht])
    rw [findings, List.pairwise_append]
    refine ⟨?_, ih others, ?_⟩
    · cases s.finding? (line + s.counted) <;> simp
    · intro f hf g hg
      have hs := (line_finding? (counted s (by simp)) (Option.mem_toList.1 hf)).2
      exact Nat.le_trans hs (le_line_of_mem_findings others hg)

private theorem pairwise_lines (source : String) :
    ((scan source).tokens.map (·.line)).Pairwise (· ≤ ·) ∧
      ((scan source).diagnostics.map (·.line)).Pairwise (· ≤ ·) := by
  have ordered : (findings 1 (segments source.toList)).Pairwise fun f g => f.line ≤ g.line :=
    pairwise_findings (counted_of_tiling (tiling_segments source.toList))
  constructor
  · rw [List.pairwise_map, scan, Scan.ofFindings, List.pairwise_filterMap]
    refine ordered.imp fun {f g} hle t ht u hu => ?_
    cases f <;> cases g <;> simp_all [Finding.token?, Finding.line]
  · rw [List.pairwise_map, scan, Scan.ofFindings, List.pairwise_filterMap]
    refine ordered.imp fun {f g} hle d hd e he => ?_
    cases f <;> cases g <;> simp_all [Finding.diagnostic?, Finding.line]

end Order

namespace Scanner

/-- A request passes some of the text and counts its line breaks; the token it gives stands as many
lines before the counter as its own text has line breaks. -/
structure Counts (line : Nat) (text : List Char) (step : Step) : Prop where
  passed : ∃ consumed, text = consumed ++ step.after.rest ∧
    step.after.line = line + newlines consumed
  token : ∀ t ∈ step.token, t.line + newlines t.lexeme.toList = step.after.line

theorem Counts.behind {line : Nat} {c : Char} {cs : List Char} {step : Step}
    (h : Counts (line + (segmentAt c cs).counted) (cut c cs).rest step) :
    Counts line (c :: cs) step := by
  obtain ⟨consumed, hr, hl⟩ := h.passed
  refine ⟨⟨(segmentAt c cs).text ++ consumed, ?_, ?_⟩, h.token⟩
  · rw [List.append_assoc, ← hr]
    exact congrArg (c :: ·) (cut_append c cs).symm
  · rw [hl, counted_segmentAt, newlines_append, Nat.add_assoc]

private theorem counts_stepFrom (line : Nat) (text : List Char) :
    Counts line text (stepFrom line text) := by
  fun_induction stepFrom line text with
  | case1 line =>
    refine ⟨⟨[], rfl, rfl⟩, ?_⟩
    rintro t ⟨⟩
    rfl
  | case2 line c cs segment after t found =>
    have counted : segment.counted = newlines segment.text := counted_segmentAt c cs
    have own : Counts after (cut c cs).rest ⟨some t, [], ⟨(cut c cs).rest, after, false⟩⟩ := by
      refine ⟨⟨[], rfl, rfl⟩, ?_⟩
      rintro u ⟨⟩
      unfold Segment.finding? at found
      split at found
      · cases found
        have : newlines segment.text ≤ after := by omega
        simp only [String.toList_ofList]
        omega
      · cases found
      · cases found
    exact own.behind
  | case3 line c cs segment after d found step ih =>
    have same : Counts after (cut c cs).rest { step with diagnostics := d :: step.diagnostics } :=
      ⟨ih.passed, ih.token⟩
    exact same.behind
  | case4 line c cs segment after found ih => exact ih.behind

private theorem counts_next (s : Scanner) : Counts s.line s.rest s.next := by
  unfold next
  split
  · exact ⟨⟨[], rfl, rfl⟩, by simp⟩
  · exact counts_stepFrom s.line s.rest

/-- The scanner after so many requests. -/
def requested (s : Scanner) (n : Nat) : Scanner := (fun s => s.next.after)^[n] s

private theorem line_requested (source : String) (n : Nat) :
    ∃ consumed, source.toList = consumed ++ ((ofSource source).requested n).rest ∧
      ((ofSource source).requested n).line = 1 + newlines consumed := by
  induction n with
  | zero => exact ⟨[], rfl, rfl⟩
  | succ n ih =>
    obtain ⟨before, hr, hl⟩ := ih
    obtain ⟨consumed, hr', hl'⟩ := (counts_next ((ofSource source).requested n)).passed
    rw [requested, Function.iterate_succ_apply', ← requested]
    refine ⟨before ++ consumed, ?_, ?_⟩
    · rw [hr, hr', List.append_assoc]
    · rw [hl', hl, newlines_append, Nat.add_assoc]

end Scanner

/-- Lines are exact. In the only cut of a source, a token stands on the line of its first character,
the end marker and whatever is left open on the last line, an unexpected character on its own; the
lines of a scan never fall. A scanner's counter is one more than the line breaks passed, and there
are always enough of them to take back those of a token. -/
theorem scan_lines (source : String) :
    (∃ segs, (∀ other, Tiling other source.toList ↔ other = segs) ∧
      (scan source).tokens.map (fun t => (t.lexeme, t.line)) =
        ((placed [] segs).filterMap fun (front, s) =>
          s.token?.map fun (_, lexeme) => (lexeme, 1 + newlines front)) ++
          [("", 1 + newlines source.toList)] ∧
      (scan source).diagnostics.map (fun d => (d.message, d.line)) =
        (placed [] segs).filterMap fun (front, s) => s.faultAt? source.toList front) ∧
    ((scan source).tokens.map (·.line)).Pairwise (· ≤ ·) ∧
    ((scan source).diagnostics.map (·.line)).Pairwise (· ≤ ·) ∧
    ∀ n, (∃ consumed, source.toList = consumed ++ ((Scanner.ofSource source).requested n).rest ∧
        ((Scanner.ofSource source).requested n).line = 1 + newlines consumed) ∧
      ∀ t ∈ ((Scanner.ofSource source).requested n).next.token,
        newlines t.lexeme.toList ≤ ((Scanner.ofSource source).requested n).next.after.line ∧
        t.line = ((Scanner.ofSource source).requested n).next.after.line -
          newlines t.lexeme.toList := by
  have tiling := tiling_segments source.toList
  have only : ∀ other, Tiling other source.toList ↔ other = segments source.toList := by
    refine fun other => ⟨Tiling.eq_segments, ?_⟩
    rintro rfl
    exact tiling
  obtain ⟨tokens, diagnostics⟩ := pairwise_lines source
  refine ⟨⟨segments source.toList, only, tokens_lines tiling [], diagnostics_lines tiling []⟩,
    tokens, diagnostics, fun n => ⟨Scanner.line_requested source n, fun t ht => ?_⟩⟩
  have back := (Scanner.counts_next ((Scanner.ofSource source).requested n)).token t ht
  omega

/-- A text over two lines behind a comment over two lines: the counter is at three, the text stands
on the second line. -/
theorem scan_lines_text_behind_comment :
    ∃ t ∈ ((Scanner.ofSource "/*\n*/ \"a\nb\" @").requested 0).next.token,
      t.line = 2 ∧ ((Scanner.ofSource "/*\n*/ \"a\nb\" @").requested 0).next.after.line = 3 ∧
      newlines t.lexeme.toList ≤
        ((Scanner.ofSource "/*\n*/ \"a\nb\" @").requested 0).next.after.line ∧
      t.line = ((Scanner.ofSource "/*\n*/ \"a\nb\" @").requested 0).next.after.line -
        newlines t.lexeme.toList := by
  have given : ((Scanner.ofSource "/*\n*/ \"a\nb\" @").requested 0).next.token =
      some ⟨.string, "\"a\nb\"", some (.text "a\nb"), 2⟩ := by decide +kernel
  have counted : ((Scanner.ofSource "/*\n*/ \"a\nb\" @").requested 0).next.after.line = 3 := by
    decide +kernel
  obtain ⟨enough, taken⟩ := ((scan_lines "/*\n*/ \"a\nb\" @").2.2.2 0).2 _ given
  exact ⟨_, given, rfl, counted, enough, taken⟩

end LoxSyntax.Lexing
