import LoxSyntax.Proofs.Data.Forms
import LoxSyntax.Proofs.Lexing.Stream
import LoxSyntax.Proofs.Parsing.Faults

/-!
# How a run over a source ends

A run to tokens always gives its text. A run to a tree gives a text and reports nothing, or gives
none and leaves the reason: all faults of the scan, or the one fault of the parse behind a scan
without any. Parsing a source by itself ends in the same way.
-/
namespace LoxSyntax

open Lexing (scan)
open Parsing (Parser SyntaxError)

section Scanned

variable {source : String} {e : Expr} {q : Parser} (r : Reporter)

private theorem exists_yields_of_parse {r : Reporter}
    (h : (Parser.ofTokens (scan source).tokens r).parse = (some e, q)) :
    q.reporter = r ∧ ∃ ts, e.Yields ts ∧ ts ⊆ (scan source).tokens := by
  obtain ⟨-, silent, -⟩ := Parser.parseExpression_of_parse h
  obtain ⟨ts, built⟩ := Parser.built_of_parse h
  have rest : (scan source).tokens = ts ++ q.cursor.rest := built.passes.rest
  exact ⟨silent, ts, built.yields, rest ▸ List.subset_append_left _ _⟩

/-- Parsing a scan comes to a tree without a report, or reports one fault at one of the tokens: the
end marker that parsing asks for is there. -/
theorem parse_scan (source : String) :
    (∃ e ts, Parsing.parse (scan source).tokens r = (some e, r) ∧ e.Yields ts ∧
        ts ⊆ (scan source).tokens) ∨
      ∃ t ∈ (scan source).tokens, ∃ cause : SyntaxError,
        Parsing.parse (scan source).tokens r = (none, r.report (.atToken t cause.message)) := by
  have ends : (Parser.ofTokens (scan source).tokens r).cursor.endsProperly = true :=
    Lexing.endsProperly_scan source
  have parsed : Parsing.parse (scan source).tokens r =
      ((Parser.ofTokens (scan source).tokens r).parse.1,
        (Parser.ofTokens (scan source).tokens r).parse.2.reporter) := rfl
  cases h : (Parser.ofTokens (scan source).tokens r).parse with
  | mk result q =>
    cases result with
    | some e =>
      obtain ⟨silent, ts, yields, among⟩ := exists_yields_of_parse h
      exact .inl ⟨e, ts, by rw [parsed, h, silent], yields, among⟩
    | none =>
      obtain ⟨f, fails, -, reported⟩ := Parsing.exists_failure_of_parse ends h
      refine .inr ⟨f.token, ?_, f.cause, by rw [parsed, h, reported]; rfl⟩
      obtain ⟨ts, passes, -⟩ := fails.carried
      obtain ⟨t, -, peek, place, -⟩ := Parsing.exists_ahead passes ends
      have ahead : f.cursor.peek ∈ (scan source).tokens := peek ▸ List.mem_of_getElem? place
      cases fails.explained with
      | @valueless us cause passes kind value =>
        have rest : (scan source).tokens = us ++ [f.token] ++ f.cursor.rest := passes.rest
        simp [rest]
      | unexpected cause token begun => exact token ▸ ahead
      | nested cause token before passes opens begun => exact token ▸ ahead

/-- A tree that a source is parsed to has the grammar's shape and is written with tokens of its
scan. -/
theorem exists_yields_of_parseSource {r : Reporter} (h : (parseSource source r).1 = some e) :
    e.Canonical ∧ ∃ ts, e.Yields ts ∧ ts ⊆ (scan source).tokens := by
  rw [parseSource] at h
  split at h
  · cases h
  · let start := Parser.ofTokens (scan source).tokens (r.record (scan source).diagnostics)
    have parsed : start.parse = (some e, start.parse.2) := Prod.ext h rfl
    obtain ⟨ts, built⟩ := Parser.built_of_parse parsed
    exact ⟨built.canonical, (exists_yields_of_parse parsed).2⟩

theorem kind_ne_trivia {ts : List Token} (h : ts ⊆ (scan source).tokens) :
    ∀ t ∈ ts, t.kind ≠ .trivia :=
  fun _ ht => (Lexing.scanned_of_mem (h ht)).kind

end Scanned

/-- The ways in which a run to a tree can end. -/
inductive Ending
  | answered
  | misread
  | misparsed

/-- What a run over a source leaves: a text and the reporter as it was; no text and all faults of
the scan, at least one; or no text and, where the scan has no fault, one of syntax at a token. -/
def Ending.Describes (source : String) (r : Reporter)
    (run : Except ProcessError (Option String) × Reporter) : Ending → Prop
  | answered => ∃ out, run = (.ok (some out), r)
  | misread => (scan source).diagnostics ≠ [] ∧
      run = (.ok none, r.record (scan source).diagnostics)
  | misparsed => (scan source).diagnostics = [] ∧ ∃ t ∈ (scan source).tokens,
      ∃ cause : SyntaxError, run = (.ok none, r.report (.atToken t cause.message))

theorem Ending.Describes.unique {source : String} {r : Reporter}
    {run : Except ProcessError (Option String) × Reporter} {a b : Ending}
    (h : a.Describes source r run) (h' : b.Describes source r run) : a = b := by
  cases a <;> cases b <;> simp only [Describes] at h h' <;> grind

section Runs

variable {spec : Spec} {source : String} {r : Reporter}

/-- A run to tokens gives its text, whatever the faults of the source. -/
theorem process_token (known : spec ∈ Spec.available) (stage : spec.stage = .token)
    (source : String) (r : Reporter) :
    ∃ out, formatTokens spec.format (scan source).tokens = .ok out ∧
      process spec source r = (.ok (some out), r.record (scan source).diagnostics) := by
  obtain ⟨out, written⟩ := exists_formatTokens (kind_ne_trivia (List.Subset.refl _))
    ((Spec.format_of_mem_available known).1 stage)
  refine ⟨out, written, ?_⟩
  rw [process, stage]
  simp only [written]
  rfl

variable (stage : spec.stage = .ast)

include stage

/-- A scan with faults ends both a run to a tree and a parse of the source. -/
theorem process_of_faults (faults : (scan source).diagnostics ≠ []) :
    process spec source r = (.ok none, r.record (scan source).diagnostics) ∧
      parseSource source r = (none, r.record (scan source).diagnostics) := by
  have raised : (r.record (scan source).diagnostics).hadError = true := by
    simp [Reporter.record, faults]
  constructor
  · rw [process, stage]
    simp only [raised, if_true]
  · rw [parseSource]
    simp only [raised, if_true]

variable (clean : r.hadError = false)

include clean

theorem process_of_no_faults (faultless : (scan source).diagnostics = []) :
    parseSource source r = Parsing.parse (scan source).tokens r ∧
      process spec source r =
        match Parsing.parse (scan source).tokens r with
        | (some e, r) => ((formatTree spec.format e).map some, r)
        | (none, r) => (.ok none, r) := by
  constructor
  · rw [parseSource]
    simp [faultless, clean]
  · rw [process, stage]
    simp only [faultless, Reporter.record_nil, clean]
    rfl

/-- A run to a tree gives the text of the tree that a parse of the source comes to, or neither comes
to anything; both leave the same reporter. -/
theorem process_ast (known : spec ∈ Spec.available) :
    (∃ e ts out, parseSource source r = (some e, r) ∧ e.Yields ts ∧ ts ⊆ (scan source).tokens ∧
        formatTree spec.format e = .ok out ∧ process spec source r = (.ok (some out), r)) ∨
      ∃ ending r', ending ≠ .answered ∧ parseSource source r = (none, r') ∧
        process spec source r = (.ok none, r') ∧
        Ending.Describes source r (process spec source r) ending := by
  by_cases faults : (scan source).diagnostics = []
  · obtain ⟨parsed, processed⟩ := process_of_no_faults stage clean faults
    rcases parse_scan r source with ⟨e, ts, h, yields, among⟩ | ⟨t, ht, cause, h⟩
    · have plain := kind_ne_trivia (List.Subset.trans yields.operators_subset among)
      have own := (Spec.format_of_mem_available known).2 stage
      obtain ⟨out, written⟩ := exists_formatTree plain own
      rw [h] at parsed processed
      simp only [written] at processed
      exact .inl ⟨e, ts, out, parsed, yields, among, written, processed⟩
    · rw [h] at parsed processed
      exact .inr ⟨.misparsed, _, by simp, parsed, processed, faults, t, ht, cause, processed⟩
  · obtain ⟨processed, parsed⟩ := process_of_faults stage faults
    exact .inr ⟨.misread, _, by simp, parsed, processed, faults, processed⟩

end Runs

/-- A run to tokens gives its text and reports the faults of the scan. A run to a tree ends in
exactly one of the three ways, so it gives no text exactly if it reports something. Parsing the
source leaves the same reporter, comes to no tree exactly where the run gives no text, and to the
tree of that text otherwise. -/
theorem process_verdict {text : String} {spec : Spec} {r : Reporter}
    (known : Spec.ofString text = .ok spec) (clean : r.hadError = false) (source : String) :
    (spec.stage = .token →
      ∃ out, formatTokens spec.format (scan source).tokens = .ok out ∧
        process spec source r = (.ok (some out), r.record (scan source).diagnostics)) ∧
    (spec.stage = .ast →
      (∃! ending : Ending, ending.Describes source r (process spec source r)) ∧
      (∃ ds, (process spec source r).2 = r.record ds ∧
        ((process spec source r).1 = .ok none ↔ ds ≠ [])) ∧
      (parseSource source r).2 = (process spec source r).2 ∧
      ((parseSource source r).1 = none ↔ (process spec source r).1 = .ok none) ∧
      ∀ e, (parseSource source r).1 = some e →
        ∃ out, formatTree spec.format e = .ok out ∧
          (process spec source r).1 = .ok (some out)) := by
  have available := Spec.mem_available_of_ofString known
  refine ⟨fun stage => process_token available stage source r, fun stage => ?_⟩
  rcases process_ast stage clean available with
    ⟨e, ts, out, parsed, -, -, written, processed⟩ |
      ⟨ending, r', failed, parsed, processed, describes⟩
  · have answered : Ending.Describes source r (process spec source r) .answered := ⟨out, processed⟩
    refine ⟨⟨.answered, answered, fun other h => h.unique answered⟩, ⟨[], ?_, ?_⟩, ?_, ?_, ?_⟩
    · rw [processed, Reporter.record_nil]
    · simp [processed]
    · rw [processed, parsed]
    · simp [processed, parsed]
    · intro e' he
      rw [parsed] at he
      obtain rfl := Option.some.inj he
      exact ⟨out, written, by rw [processed]⟩
  · have reported : ∃ ds, r' = r.record ds ∧ ds ≠ [] := by
      rw [processed] at describes
      cases ending with
      | answered => exact absurd rfl failed
      | misread => exact ⟨_, (Prod.mk.inj describes.2).2, describes.1⟩
      | misparsed =>
        obtain ⟨-, t, -, cause, h⟩ := describes
        exact ⟨[.atToken t cause.message], (Prod.mk.inj h).2, by simp⟩
    obtain ⟨ds, recorded, some⟩ := reported
    refine ⟨⟨ending, describes, fun other h => h.unique describes⟩, ⟨ds, ?_, ?_⟩, ?_, ?_, ?_⟩
    · rw [processed, recorded]
    · simp [processed, some]
    · rw [processed, parsed]
    · simp [processed, parsed]
    · intro e he
      rw [parsed] at he
      cases he

/-- An open group over two lines, for a reporter that was emptied before. -/
theorem process_verdict_open_group :
    Spec.ofString "ast-yaml" = .ok ⟨.ast, .yaml⟩ ∧ Reporter.empty.hadError = false ∧
      (∃! ending : Ending, ending.Describes "(1 +\n-nil" .empty
        (process ⟨.ast, .yaml⟩ "(1 +\n-nil" .empty)) ∧
      Ending.Describes "(1 +\n-nil" .empty (process ⟨.ast, .yaml⟩ "(1 +\n-nil" .empty)
        .misparsed ∧
      (parseSource "(1 +\n-nil" .empty).2 = (process ⟨.ast, .yaml⟩ "(1 +\n-nil" .empty).2 := by
  have known : Spec.ofString "ast-yaml" = .ok ⟨.ast, .yaml⟩ := rfl
  have clean : Reporter.empty.hadError = false := rfl
  obtain ⟨one, -, same, -⟩ := (process_verdict known clean "(1 +\n-nil").2 rfl
  refine ⟨known, clean, one,
    ⟨by decide +kernel, .endOfFile 2, by decide +kernel, .expectClosing, ?_⟩, same⟩
  decide +kernel

end LoxSyntax
