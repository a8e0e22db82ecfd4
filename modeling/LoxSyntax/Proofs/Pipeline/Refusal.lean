import LoxSyntax.Proofs.Number.Written
import LoxSyntax.Proofs.Pipeline.Journal
import LoxSyntax.Proofs.Pipeline.Verdict

/-!
# Specifications that cannot be met

A stage and a format are compared twice: where their names are read, and where an output is
written. Both find the same pairs and give the same reason, so what was read is never refused later.
A pair put together without its name is refused once there is something to write, and up to there
runs as any other of its stage.
-/
namespace LoxSyntax

open Lexing (scan)
open Number.Decimal (takeWhile_ne)

section Names

variable {name : String}

private theorem Stage.ofName?_name (stage : Stage) : ofName? stage.name = some stage := by
  cases stage <;> rfl

private theorem Stage.ofName?_eq_none (unknown : ∀ stage : Stage, stage.name ≠ name) :
    ofName? name = none := by
  simp [ofName?, unknown]

private theorem Format.ofName?_eq_none (unknown : ∀ format : Format, format.name ≠ name) :
    ofName? name = none := by
  simp [ofName?, unknown]

private theorem Stage.not_mem_name (stage : Stage) : '-' ∉ stage.name.toList := by
  cases stage <;> decide

end Names

namespace Spec

section Texts

variable {text : String} {spec : Spec} {e : SpecError}

private theorem ofString_of_not_mem (plain : '-' ∉ text.toList) :
    ofString text = .error (.noSeparator text) := by
  obtain ⟨-, -, -, none⟩ := takeWhile_ne plain []
  rw [ofString, none]

private theorem ofString_append {stage : String} (plain : '-' ∉ stage.toList) (format : String) :
    ofString (stage ++ "-" ++ format) = ofNames stage format := by
  have parts : (stage ++ "-" ++ format).toList = stage.toList ++ '-' :: format.toList := by simp
  obtain ⟨front, back, -⟩ := takeWhile_ne plain format.toList
  rw [ofString, parts, front, back]
  simp only [String.ofList_toList]

/-- Why a text names no specification. Only the first dash of a text separates. -/
inductive Refused : String → SpecError → Prop
  | noSeparator {text : String} (plain : '-' ∉ text.toList) : Refused text (.noSeparator text)
  | unknownStage {stage format : String} (plain : '-' ∉ stage.toList)
      (unknown : ∀ known : Stage, known.name ≠ stage) :
      Refused (stage ++ "-" ++ format) (.unknownStage stage)
  | unknownFormat (stage : Stage) {format : String}
      (unknown : ∀ known : Format, known.name ≠ format) :
      Refused (stage.name ++ "-" ++ format) (.unknownFormat format)
  | sexprNeedsTree : Refused "token-sexpr" .sexprNeedsTree
  | simpleNeedsTokens : Refused "ast-simple" .simpleNeedsTokens

private theorem Refused.ofString_eq (h : Refused text e) : ofString text = .error e := by
  cases h with
  | noSeparator plain => exact ofString_of_not_mem plain
  | unknownStage plain unknown =>
    rw [ofString_append plain, ofNames, Stage.ofName?_eq_none unknown]
  | unknownFormat stage unknown =>
    rw [ofString_append stage.not_mem_name, ofNames, Stage.ofName?_name]
    simp only [Format.ofName?_eq_none unknown]
  | sexprNeedsTree => rfl
  | simpleNeedsTokens => rfl

private theorem mem_available_or (spec : Spec) :
    spec ∈ available ∨ spec = ⟨.token, .sexpr⟩ ∨ spec = ⟨.ast, .simple⟩ := by
  rcases spec with ⟨_ | _, _ | _ | _ | _⟩ <;> decide

theorem exists_refused_name (unknown : spec ∉ available) : ∃ e, Refused spec.name e := by
  rcases spec.mem_available_or with known | rfl | rfl
  · exact absurd known unknown
  · exact ⟨_, .sexprNeedsTree⟩
  · exact ⟨_, .simpleNeedsTokens⟩

/-- Every text names an available specification, or there is a reason why it does not. -/
theorem exists_name_or_refused (text : String) :
    (∃ spec ∈ available, spec.name = text) ∨ ∃ e, Refused text e := by
  by_cases dash : '-' ∈ text.toList
  · obtain ⟨before, after, whole, plain⟩ := List.eq_append_cons_of_mem dash
    obtain rfl : text = String.ofList before ++ "-" ++ String.ofList after := by
      rw [← String.toList_inj, whole]
      simp
    by_cases staged : ∃ stage : Stage, stage.name = String.ofList before
    · obtain ⟨stage, named⟩ := staged
      rw [← named]
      by_cases formatted : ∃ format : Format, format.name = String.ofList after
      · obtain ⟨format, named⟩ := formatted
        rw [← named]
        by_cases known : (⟨stage, format⟩ : Spec) ∈ available
        · exact .inl ⟨_, known, rfl⟩
        · exact .inr (exists_refused_name known)
      · exact .inr ⟨_, .unknownFormat stage (not_exists.1 formatted)⟩
    · exact .inr ⟨_, .unknownStage (by simpa using plain) (not_exists.1 staged)⟩
  · exact .inr ⟨_, .noSeparator dash⟩

theorem ofString_eq_ok_iff : ofString text = .ok spec ↔ spec ∈ available ∧ spec.name = text := by
  constructor
  · intro h
    rcases exists_name_or_refused text with ⟨other, known, rfl⟩ | ⟨e, refused⟩
    · obtain rfl := Except.ok.inj ((ofString_name known).symm.trans h)
      exact ⟨known, rfl⟩
    · cases refused.ofString_eq.symm.trans h
  · rintro ⟨known, rfl⟩
    exact ofString_name known

theorem ofString_eq_error_iff : ofString text = .error e ↔ Refused text e := by
  refine ⟨fun h => ?_, Refused.ofString_eq⟩
  rcases exists_name_or_refused text with ⟨spec, known, rfl⟩ | ⟨other, refused⟩
  · cases (ofString_name known).symm.trans h
  · obtain rfl := Except.error.inj (refused.ofString_eq.symm.trans h)
    exact refused

private theorem eq_of_refused_name (h : Refused spec.name e) :
    spec = ⟨.token, .sexpr⟩ ∧ e = .sexprNeedsTree ∨
      spec = ⟨.ast, .simple⟩ ∧ e = .simpleNeedsTokens := by
  have read := h.ofString_eq
  rcases spec.mem_available_or with known | rfl | rfl
  · cases (ofString_name known).symm.trans read
  · exact .inl ⟨rfl, Except.error.inj read.symm⟩
  · exact .inr ⟨rfl, Except.error.inj read.symm⟩

end Texts

section Runs

variable {spec other : Spec} (source : String) (r : Reporter)

/-- A run to a tree ends before anything is written: the flag is up behind the scan, or parsing
fails. -/
def Halts (spec : Spec) (source : String) (r : Reporter) : Prop :=
  spec.stage = .ast ∧
    ((r.record (scan source).diagnostics).hadError = true ∨
      (Parsing.parse (scan source).tokens (r.record (scan source).diagnostics)).1 = none)

private theorem halts_iff :
    spec.Halts source r ↔ spec.stage = .ast ∧ (parseSource source r).1 = none := by
  rw [Halts, parseSource]
  split
  next raised => simp [raised]
  next clear => simp [clear]

private theorem fst_process_ast (stage : spec.stage = .ast) :
    (process spec source r).1 =
      match (parseSource source r).1 with
      | some e => (formatTree spec.format e).map some
      | none => .ok none := by
  simp only [process, stage, parseSource]
  split
  · rfl
  · rcases Parsing.parse (scan source).tokens (r.record (scan source).diagnostics) with
      ⟨_ | e, q⟩ <;> rfl

theorem exists_process_eq_ok (known : spec ∈ available) :
    ∃ out, (process spec source r).1 = .ok out := by
  obtain ⟨tokens, trees⟩ := format_of_mem_available known
  cases stage : spec.stage with
  | token =>
    obtain ⟨out, -, processed⟩ := process_token known stage source r
    exact ⟨some out, by rw [processed]⟩
  | ast =>
    rw [fst_process_ast source r stage]
    cases parsed : (parseSource source r).1 with
    | none => exact ⟨none, rfl⟩
    | some e =>
      obtain ⟨-, ts, yields, among⟩ := exists_yields_of_parseSource parsed
      have plain := kind_ne_trivia (List.Subset.trans yields.operators_subset among)
      obtain ⟨out, written⟩ := exists_formatTree plain (trees stage)
      exact ⟨some out, by simp only [written]; rfl⟩

/-- What a run reports does not depend on the format. -/
theorem snd_process_congr (same : spec.stage = other.stage) :
    (process spec source r).2 = (process other source r).2 := by
  cases stage : other.stage with
  | token => simp only [process, same, stage]
  | ast => rw [snd_process_ast r (same.trans stage), snd_process_ast r stage]

/-- A pair whose name is refused is refused for the same reason wherever there is something to
write. -/
theorem process_of_refused {e : SpecError} (h : Refused spec.name e) :
    spec.Halts source r ∧ (process spec source r).1 = .ok none ∨
      ¬spec.Halts source r ∧ (process spec source r).1 = .error (.spec e) := by
  rcases eq_of_refused_name h with ⟨rfl, rfl⟩ | ⟨rfl, rfl⟩
  · exact .inr ⟨fun halts => Stage.noConfusion halts.1, rfl⟩
  · rw [halts_iff, fst_process_ast source r rfl]
    cases (parseSource source r).1 with
    | none => exact .inl ⟨⟨rfl, rfl⟩, rfl⟩
    | some e => exact .inr ⟨by simp, rfl⟩

end Runs

/-- The check of a name and the check of an output agree. What is read from a text is the available
specification of that name, and no run with it ends in an error. A pair whose name is refused is
refused by runs for the same reason, but for runs to a tree that have none to write; all its runs
leave the reporter as with the available pairs of its stage, and there are such. Refused are the
texts without a dash, those with an unknown stage in front of the first one, and those where what is
behind it is no format or one of the other stage. -/
theorem process_agrees_ofString :
    (∀ text spec, ofString text = .ok spec →
      spec.name = text ∧ spec ∈ available ∧
        ∀ source r, ∃ out, (process spec source r).1 = .ok out) ∧
    (∀ (spec : Spec) e, ofString spec.name = .error e →
      (∀ source r, spec.Halts source r ∧ (process spec source r).1 = .ok none ∨
        ¬spec.Halts source r ∧ (process spec source r).1 = .error (.spec e)) ∧
      (∃ other ∈ available, other.stage = spec.stage) ∧
      ∀ other ∈ available, other.stage = spec.stage →
        ∀ source r, (process spec source r).2 = (process other source r).2) ∧
    ∀ text e, ofString text = .error e ↔ Refused text e := by
  refine ⟨fun text spec read => ?_, fun spec e refused => ⟨fun source r => ?_, ?_, ?_⟩,
    fun text e => ofString_eq_error_iff⟩
  · obtain ⟨known, named⟩ := ofString_eq_ok_iff.1 read
    exact ⟨named, known, fun source r => exists_process_eq_ok source r known⟩
  · exact process_of_refused source r (ofString_eq_error_iff.1 refused)
  · cases stage : spec.stage with
    | token => exact ⟨⟨.token, .simple⟩, by decide, rfl⟩
    | ast => exact ⟨⟨.ast, .sexpr⟩, by decide, rfl⟩
  · exact fun other _ same source r => snd_process_congr source r same.symm

/-- A listing asked for a tree: refused where there is one, and as quiet as others where there is
none. A second dash belongs to the format. -/
theorem process_agrees_ofString_listing :
    (∃ out, (process ⟨.ast, .yaml⟩ "(1" .empty).1 = .ok out) ∧
      (process ⟨.ast, .simple⟩ "-1" .empty).1 = .error (.spec .simpleNeedsTokens) ∧
      (process ⟨.ast, .simple⟩ "(1" .empty).1 = .ok none ∧
      (process ⟨.ast, .simple⟩ "(1" .empty).2 = (process ⟨.ast, .yaml⟩ "(1" .empty).2 ∧
      ofString "ast-json-yaml" = .error (.unknownFormat "json-yaml") := by
  obtain ⟨met, unmet, reasons⟩ := process_agrees_ofString
  obtain ⟨-, -, runs⟩ := met "ast-yaml" ⟨.ast, .yaml⟩ rfl
  obtain ⟨ends, -, alike⟩ := unmet ⟨.ast, .simple⟩ _ rfl
  have unknown : ∀ known : Format, known.name ≠ "json-yaml" := fun known => by
    cases known <;> decide
  refine ⟨runs _ _, ?_, ?_, alike ⟨.ast, .yaml⟩ (by decide) rfl _ _,
    (reasons "ast-json-yaml" _).2 (Refused.unknownFormat .ast unknown)⟩
  · rcases ends "-1" .empty with ⟨-, halted⟩ | ⟨-, failed⟩
    · exact absurd halted (by decide +kernel)
    · exact failed
  · rcases ends "(1" .empty with ⟨-, halted⟩ | ⟨-, failed⟩
    · exact halted
    · exact absurd failed (by decide +kernel)

end Spec

end LoxSyntax
