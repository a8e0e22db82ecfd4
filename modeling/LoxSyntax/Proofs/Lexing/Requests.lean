import LoxSyntax.Proofs.Lexing.Stream

/-!
# Scanning on request

A scanner hands out the tokens of a scan one at a time, and reports an error when it passes it. So
after any number of requests it has reported the errors in front of the last token that it gave, and
what is still ahead of it are the last findings of the scan.
-/
namespace LoxSyntax.Lexing

section Findings

/-- The findings behind so many tokens. -/
def afterTokens : Nat → List Finding → List Finding
  | 0, fs => fs
  | _ + 1, [] => []
  | n + 1, .diagnostic _ :: fs => afterTokens (n + 1) fs
  | n + 1, .token _ :: fs => afterTokens n fs

/-- The diagnostics in front of so many tokens, or all if there are fewer. -/
def beforeTokens : Nat → List Finding → List Diagnostic
  | 0, _ => []
  | _ + 1, [] => []
  | n + 1, .diagnostic d :: fs => d :: beforeTokens (n + 1) fs
  | n + 1, .token _ :: fs => beforeTokens n fs

variable (n : Nat) (fs : List Finding)

private theorem tokens_afterTokens :
    (Scan.ofFindings (afterTokens n fs)).tokens = (Scan.ofFindings fs).tokens.drop n := by
  induction fs generalizing n with
  | nil => cases n <;> rfl
  | cons f fs ih =>
    cases n with
    | zero => rfl
    | succ n =>
      cases f with
      | token t => exact ih n
      | diagnostic d => exact ih (n + 1)

private theorem beforeTokens_append_diagnostics :
    beforeTokens n fs ++ (Scan.ofFindings (afterTokens n fs)).diagnostics =
      (Scan.ofFindings fs).diagnostics := by
  induction fs generalizing n with
  | nil => cases n <;> rfl
  | cons f fs ih =>
    cases n with
    | zero => rfl
    | succ n =>
      cases f with
      | token t => exact ih n
      | diagnostic d => exact congrArg (d :: ·) (ih (n + 1))

private theorem beforeTokens_token (t : Token) (more : List Finding) :
    beforeTokens ((Scan.ofFindings fs).tokens.length + 1) (fs ++ .token t :: more) =
      (Scan.ofFindings fs).diagnostics := by
  induction fs with
  | nil => exact beforeTokens.eq_1 more
  | cons f fs ih =>
    cases f with
    | token u => exact ih
    | diagnostic d => exact congrArg (d :: ·) ih

end Findings

namespace Scanner

variable {s : Scanner} {fs : List Finding}

/-- What a scanner has still to find. -/
def ahead (s : Scanner) : List Finding :=
  if s.finished then [] else findings s.line (segments s.rest)

/-- A request passes the diagnostics in front of the next token and gives that token; nothing is
given or passed where nothing is ahead. -/
inductive Step.Passes : List Finding → Step → Prop
  | token {t : Token} {ds : List Diagnostic} {after : Scanner} :
      Passes (ds.map .diagnostic ++ .token t :: after.ahead) ⟨some t, ds, after⟩
  | done {after : Scanner} (nothing : after.ahead = []) : Passes [] ⟨none, [], after⟩

theorem Step.Passes.report {step : Step} (h : step.Passes fs) (d : Diagnostic)
    (some : step.token.isSome) :
    Step.Passes (.diagnostic d :: fs) { step with diagnostics := d :: step.diagnostics } := by
  cases h with
  | @token t ds after => exact @Passes.token t (d :: ds) after
  | done nothing => cases some

theorem Step.Passes.now (t : Token) (after : Scanner) :
    Step.Passes (.token t :: after.ahead) ⟨some t, [], after⟩ := @Passes.token t [] after

private theorem passes_stepFrom (line : Nat) (text : List Char) :
    (stepFrom line text).token.isSome ∧
      (stepFrom line text).Passes (findings line (segments text)) := by
  fun_induction stepFrom line text with
  | case1 line =>
    rw [segments, findings]
    exact ⟨rfl, .now _ ⟨[], line, true⟩⟩
  | case2 line c cs segment after t found =>
    rw [segments, findings, found]
    exact ⟨rfl, .now t ⟨(cut c cs).rest, after, false⟩⟩
  | case3 line c cs segment after d found step ih =>
    rw [segments, findings, found]
    exact ⟨ih.1, ih.2.report d ih.1⟩
  | case4 line c cs segment after found ih =>
    rw [segments, findings, found]
    exact ih

private theorem passes_next (s : Scanner) : s.next.Passes s.ahead := by
  by_cases finished : s.finished = true
  · have nothing : s.ahead = [] := by rw [ahead, if_pos finished]
    rw [next, if_pos finished, nothing]
    exact .done nothing
  · rw [next, ahead, if_neg finished, if_neg finished]
    exact (passes_stepFrom s.line s.rest).2

section Requests

variable {step : Step}

/-- What a request gives and reports, and what is ahead of it then, make up what was ahead. -/
theorem Step.Passes.ofFindings_eq (h : step.Passes fs) : Scan.ofFindings fs =
    ⟨step.token.toList ++ (Scan.ofFindings step.after.ahead).tokens,
      step.diagnostics ++ (Scan.ofFindings step.after.ahead).diagnostics⟩ := by
  cases h with
  | done nothing => simp [nothing, Scan.ofFindings]
  | @token t ds after =>
    induction ds with
    | nil => rfl
    | cons d ds ih =>
      obtain ⟨tokens, diagnostics⟩ := Scan.mk.inj ih
      exact congrArg₂ Scan.mk tokens (congrArg (d :: ·) diagnostics)

private theorem Step.Passes.ahead_eq_nil (h : step.Passes fs) (none : step.token = none) :
    step.after.ahead = [] := by
  cases h with
  | done nothing => exact nothing
  | token => cases none

private theorem Step.Passes.token_eq (h : step.Passes fs) :
    step.token = (Scan.ofFindings fs).tokens.head? := by
  rw [h.ofFindings_eq]
  cases given : step.token with
  | some t => rfl
  | none => simp [h.ahead_eq_nil given, Scan.ofFindings]

private theorem Step.Passes.afterTokens_succ (h : step.Passes fs) (n : Nat) :
    afterTokens (n + 1) fs = afterTokens n step.after.ahead := by
  cases h with
  | done nothing =>
    rw [nothing]
    cases n <;> rfl
  | @token t ds after =>
    induction ds with
    | nil => rfl
    | cons d ds ih => exact ih

private theorem Step.Passes.beforeTokens_succ (h : step.Passes fs) (n : Nat) :
    beforeTokens (n + 1) fs = step.diagnostics ++ beforeTokens n step.after.ahead := by
  cases h with
  | done nothing =>
    rw [nothing]
    cases n <;> rfl
  | @token t ds after =>
    induction ds with
    | nil => rfl
    | cons d ds ih => exact congrArg (d :: ·) ih

private theorem requested_succ (s : Scanner) (n : Nat) :
    s.requested (n + 1) = s.next.after.requested n :=
  Function.iterate_succ_apply _ n s

/-- The reporter behind so many requests, each of which reports the errors that it passes. -/
def reported (r : Reporter) (s : Scanner) : Nat → Reporter
  | 0 => r
  | n + 1 => reported (r.record s.next.diagnostics) s.next.after n

private theorem ahead_requested (s : Scanner) (n : Nat) :
    (s.requested n).ahead = afterTokens n s.ahead := by
  induction n generalizing s with
  | zero => exact (afterTokens.eq_1 s.ahead).symm
  | succ n ih => rw [requested_succ, ih, s.passes_next.afterTokens_succ]

private theorem reported_eq (r : Reporter) (s : Scanner) (n : Nat) :
    reported r s n = r.record (beforeTokens n s.ahead) := by
  induction n generalizing r s with
  | zero => rw [reported, beforeTokens, Reporter.record_nil]
  | succ n ih => rw [reported, ih, s.passes_next.beforeTokens_succ, Reporter.record_append]

private theorem token_requested (s : Scanner) (n : Nat) :
    (s.requested n).next.token = (Scan.ofFindings s.ahead).tokens[n]? := by
  rw [(s.requested n).passes_next.token_eq, ahead_requested, tokens_afterTokens, List.head?_drop]

end Requests

section Drain

/-- How many characters and end markers are left. -/
def left (s : Scanner) : Nat := if s.finished then 0 else s.rest.length + 1

private theorem left_stepFrom_le (line : Nat) (text : List Char) :
    (stepFrom line text).after.left ≤ text.length := by
  fun_induction stepFrom line text with
  | case1 line => exact Nat.le_refl 0
  | case2 line c cs => exact Nat.succ_le_succ (length_rest_cut_le c cs)
  | case3 line c cs segment after d found step ih =>
    exact Nat.le_succ_of_le (Nat.le_trans ih (length_rest_cut_le c cs))
  | case4 line c cs segment after found ih =>
    exact Nat.le_succ_of_le (Nat.le_trans ih (length_rest_cut_le c cs))

private theorem left_next_lt (s : Scanner) (some : s.next.token.isSome) :
    s.next.after.left < s.left := by
  by_cases finished : s.finished = true
  · rw [next, if_pos finished] at some
    cases some
  · have left : s.left = s.rest.length + 1 := if_neg finished
    rw [next, if_neg finished, left]
    exact Nat.lt_succ_of_le (left_stepFrom_le s.line s.rest)

/-- All that requests give and report until one gives nothing. -/
def drain (s : Scanner) : Scan :=
  match _given : s.next.token with
  | none => ⟨[], s.next.diagnostics⟩
  | some t => ⟨t :: s.next.after.drain.tokens,
      s.next.diagnostics ++ s.next.after.drain.diagnostics⟩
termination_by s.left
decreasing_by all_goals exact s.left_next_lt (by simp [_given])

/-- What is drained is the scan of all that is ahead. -/
theorem drain_eq (s : Scanner) : s.drain = .ofFindings s.ahead := by
  fun_induction drain s with
  | case1 s given =>
    rw [s.passes_next.ofFindings_eq, s.passes_next.ahead_eq_nil given, given]
    simp [Scan.ofFindings]
  | case2 s t given ih =>
    rw [s.passes_next.ofFindings_eq, ih, given]
    rfl

end Drain

private theorem ahead_eq_nil_of_tokens (none : (Scan.ofFindings s.ahead).tokens = []) :
    s.ahead = [] := by
  by_cases finished : s.finished = true
  · rw [ahead, if_pos finished]
  · obtain ⟨fs, n, ends, -⟩ := exists_findings_eq s.line (segments s.rest)
    rw [ahead, if_neg finished, ends] at none
    simp [Scan.ofFindings, Finding.token?] at none

section Sources

variable (source : String) (r : Reporter) {n : Nat}

private theorem ofFindings_ahead : Scan.ofFindings (ofSource source).ahead = scan source := rfl

/-- The end marker is given by one request. -/
theorem isEndOfFile_requested_iff (n : Nat) :
    (∃ t ∈ ((ofSource source).requested n).next.token, t.isEndOfFile = true) ↔
      n + 1 = (scan source).tokens.length := by
  obtain ⟨ts, m, whole, proper⟩ := exists_proper_eq source
  rw [token_requested, ofFindings_ahead, whole, List.length_append, List.length_singleton]
  rcases Nat.lt_trichotomy n ts.length with before | rfl | behind
  · have plain : ∀ t ∈ ts[n]?, t.isEndOfFile = false := fun t ht =>
      proper t (List.mem_of_getElem? ht)
    rw [List.getElem?_append_left before]
    simpa [before.ne] using plain
  · simp
  · have beyond : (ts ++ [Token.endOfFile m])[n]? = none := by
      simpa using Nat.succ_le_of_lt behind
    simp [beyond, behind.ne']

private theorem reported_of_le (all : (scan source).tokens.length ≤ n) :
    reported r (ofSource source) n = r.record (scan source).diagnostics := by
  have none : ((ofSource source).requested n).ahead = [] := by
    apply ahead_eq_nil_of_tokens
    rw [ahead_requested, tokens_afterTokens, ofFindings_ahead, List.drop_eq_nil_iff.2 all]
  have split := beforeTokens_append_diagnostics n (ofSource source).ahead
  rw [← ahead_requested, none, ofFindings_ahead] at split
  rw [reported_eq, ← split]
  exact congrArg r.record (List.append_nil _).symm

/-- The request that gives the token of a segment has reported the errors of those in front. -/
theorem requested_of_segment {before after : List Segment} {s : Segment} {kind : TokenKind}
    (cut : segments source.toList = before ++ s :: after) (token : s.verdict = .token kind) :
    let passed := Scan.ofFindings (found source.toList [] before)
    ((ofSource source).requested passed.tokens.length).next.token =
        some ⟨kind, String.ofList s.text, literalOf kind s.text,
          1 + newlines (before.map (·.text)).flatten⟩ ∧
      reported r (ofSource source) (passed.tokens.length + 1) = r.record passed.diagnostics := by
  intro passed
  have tiling : Tiling (before ++ s :: after) source.toList := cut ▸ tiling_segments source.toList
  have picked := tiling.picked before s after rfl
  let t : Token := ⟨kind, String.ofList s.text, literalOf kind s.text,
    1 + newlines (before.map (·.text)).flatten⟩
  obtain ⟨more, all⟩ : ∃ more, (ofSource source).ahead =
      found source.toList [] before ++ .token t :: more := by
    have own := picked.finding?_eq (before.map (·.text)).flatten
    rw [Segment.findingAt?, token, newlines_append, ← Nat.add_assoc, ← picked.counted_eq] at own
    have split := findings_append tiling []
    rw [findings, List.nil_append, List.nil_append, own] at split
    exact ⟨_, (congrArg (findings 1) cut).trans split⟩
  have front : (Scan.ofFindings (found source.toList [] before ++ .token t :: more)).tokens =
      passed.tokens ++ t :: (Scan.ofFindings more).tokens := List.filterMap_append
  rw [token_requested, reported_eq, all, beforeTokens_token, front]
  exact ⟨by simp [t], rfl⟩

/-- Requests refine a scan. The requests give its tokens in order, the end marker once, and nothing
behind it. When the token of a segment is given, exactly the errors of the segments in front of it
in the only cut of the source have been reported; from the end marker on, all have. What is drained
after any requests makes up the scan with what they gave and reported. -/
theorem requested_scan (source : String) (r : Reporter) :
    let s := ofSource source
    (∀ n, (s.requested n).next.token = (scan source).tokens[n]?) ∧
    (∀ n, (∃ t ∈ (s.requested n).next.token, t.isEndOfFile = true) ↔
      n + 1 = (scan source).tokens.length) ∧
    (∃ segs, (∀ other, Tiling other source.toList ↔ other = segs) ∧
      ∀ before u after kind, segs = before ++ u :: after → u.verdict = .token kind →
        let passed := Scan.ofFindings (found source.toList [] before)
        (s.requested passed.tokens.length).next.token =
            some ⟨kind, String.ofList u.text, literalOf kind u.text,
              1 + newlines (before.map (·.text)).flatten⟩ ∧
          reported r s (passed.tokens.length + 1) = r.record passed.diagnostics) ∧
    (∀ n, (scan source).tokens.length ≤ n → reported r s n = r.record (scan source).diagnostics) ∧
    ∀ n, (scan source).tokens.take n ++ (s.requested n).drain.tokens = (scan source).tokens ∧
      (reported r s n).record (s.requested n).drain.diagnostics =
        r.record (scan source).diagnostics := by
  intro s
  refine ⟨token_requested s, isEndOfFile_requested_iff source,
    ⟨segments source.toList, fun _ => tiling_iff, fun before u after kind => ?_⟩,
    fun n => reported_of_le source r, fun n => ?_⟩
  · exact requested_of_segment source r
  · have split := beforeTokens_append_diagnostics n s.ahead
    rw [drain_eq, ahead_requested, tokens_afterTokens, reported_eq, ← Reporter.record_append, split]
    exact ⟨List.take_append_drop n _, rfl⟩

/-- Errors in front of a number, in front of an operator and behind it. -/
theorem requested_scan_errors :
    segments "#1 @+ \"".toList =
        [⟨.error .unexpectedCharacter, ['#']⟩, ⟨.token .number, ['1']⟩, ⟨.skipped, [' ']⟩,
          ⟨.error .unexpectedCharacter, ['@']⟩] ++ ⟨.token .plus, ['+']⟩ ::
          [⟨.skipped, [' ']⟩, ⟨.error .unterminatedString, ['"']⟩] ∧
      ((ofSource "#1 @+ \"").requested 1).next.token = some ⟨.plus, "+", none, 1⟩ ∧
      reported .empty (ofSource "#1 @+ \"") 2 =
        .record .empty [.atLine 1 "Unexpected character.", .atLine 1 "Unexpected character."] ∧
      (scan "#1 @+ \"").tokens.length ≤ 3 ∧
      reported .empty (ofSource "#1 @+ \"") 3 = .record .empty (scan "#1 @+ \"").diagnostics := by
  obtain ⟨-, -, ⟨segs, only, given⟩, all, -⟩ := requested_scan "#1 @+ \"" .empty
  obtain rfl := (only _).1 (tiling_segments _)
  have cut : segments "#1 @+ \"".toList =
      [⟨.error .unexpectedCharacter, ['#']⟩, ⟨.token .number, ['1']⟩, ⟨.skipped, [' ']⟩,
        ⟨.error .unexpectedCharacter, ['@']⟩] ++ ⟨.token .plus, ['+']⟩ ::
        [⟨.skipped, [' ']⟩, ⟨.error .unterminatedString, ['"']⟩] := by decide +kernel
  have three : (scan "#1 @+ \"").tokens.length ≤ 3 := by decide +kernel
  obtain ⟨token, reported⟩ := given _ _ _ _ cut rfl
  exact ⟨cut, token, reported, three, all 3 three⟩

end Sources

end Scanner

end LoxSyntax.Lexing
