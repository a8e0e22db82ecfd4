import LoxSyntax.Proofs.CommandLine.Silence
import LoxSyntax.Proofs.Pipeline.Verdict
import LoxSyntax.Proofs.Text.Decoding

/-!
# Runs at the prompt

A run without a script answers every line of its input as if there were no other: the reporter that
it carries from line to line is empty at each prompt, and a source of one line has all its faults on
the first.
-/
namespace LoxSyntax.CommandLine

open Lexing (newlines scan)
open Text (decode? encode withoutEnds)

section Lines

variable {input rest rest' line line' raw : List UInt8} {raws : List (List UInt8)} {text : String}

/-- The lines of an input with their line feeds, which only the last line may lack. -/
inductive Lines : List UInt8 → List (List UInt8) → Prop
  | none : Lines [] []
  | last {line : List UInt8} (nonempty : line ≠ []) (unbroken : 10 ∉ line) : Lines line [line]
  | line {line rest : List UInt8} {raws : List (List UInt8)} (unbroken : 10 ∉ line)
      (more : Lines rest raws) : Lines (line ++ 10 :: rest) ((line ++ [10]) :: raws)

private theorem append_break_inj (unbroken : 10 ∉ line) (unbroken' : 10 ∉ line')
    (h : line ++ 10 :: rest = line' ++ 10 :: rest') : line = line' ∧ rest = rest' := by
  induction line generalizing line' with
  | nil =>
    cases line' with
    | nil => exact ⟨rfl, (List.cons.inj h).2⟩
    | cons b line' => exact absurd (by simp [(List.cons.inj h).1]) unbroken'
  | cons b line ih =>
    cases line' with
    | nil => exact absurd (by simp [(List.cons.inj h).1]) unbroken
    | cons b' line' =>
      obtain ⟨rfl, tails⟩ := List.cons.inj h
      obtain ⟨rfl, rests⟩ := ih (fun hb => unbroken (by simp [hb]))
        (fun hb => unbroken' (by simp [hb])) tails
      exact ⟨rfl, rests⟩

theorem Lines.unique {raws' : List (List UInt8)} (h : Lines input raws) (h' : Lines input raws') :
    raws' = raws := by
  generalize he : input = input' at h'
  induction h generalizing input' raws' with
  | none =>
    cases h' with
    | none => rfl
    | last nonempty => exact absurd he.symm nonempty
    | line => simp at he
  | last nonempty unbroken =>
    cases h' with
    | none => exact absurd he nonempty
    | last => rw [he]
    | line => exact absurd (by simp [he]) unbroken
  | line unbroken more ih =>
    cases h' with
    | none => simp at he
    | last nonempty unbroken' => exact absurd (by simp [← he]) unbroken'
    | line unbroken' more' =>
      obtain ⟨rfl, rests⟩ := append_break_inj unbroken unbroken' he
      rw [ih _ rests more']

/-- A line of an input, with the line feed behind it if there is one. -/
structure LineOf (line raw : List UInt8) : Prop where
  unbroken : 10 ∉ line
  ended : raw = line ∨ raw = line ++ [10]

private theorem exists_lines (input : List UInt8) :
    ∃ raws, Lines input raws ∧ List.Forall₂ LineOf (inputLines input) raws := by
  fun_induction inputLines input with
  | case1 => exact ⟨[], .none, .nil⟩
  | case2 b more line rest ih =>
    obtain ⟨raws, cut, each⟩ := ih
    have whole : line ++ rest = b :: more := List.takeWhile_append_dropWhile
    have unbroken : 10 ∉ line := fun h => by simpa using List.mem_takeWhile_imp h
    have stops : ∀ c ∈ rest.head?, c = 10 := by
      intro c hc
      have front := List.head?_dropWhile_not (· ≠ 10) (b :: more)
      rw [show ((b :: more).dropWhile (· ≠ 10)).head? = some c from hc] at front
      simpa using front
    cases hr : rest with
    | nil =>
      rw [hr, List.append_nil] at whole
      rw [hr, List.drop_nil, inputLines] at each
      rw [List.drop_nil, inputLines]
      have last : Lines (b :: more) [b :: more] := .last (by simp) (whole ▸ unbroken)
      cases each with
      | nil => exact ⟨[b :: more], last, .cons ⟨unbroken, .inl whole.symm⟩ .nil⟩
    | cons c rest' =>
      obtain rfl := stops c (by rw [hr]; rfl)
      rw [hr] at whole cut each
      exact ⟨(line ++ [10]) :: raws, whole ▸ .line unbroken cut, .cons ⟨unbroken, .inr rfl⟩ each⟩

/-- A line is read as its raw bytes are, up to its end. -/
theorem lineText?_eq (h : LineOf line raw) : lineText? line = (decode? raw).map withoutEnds := by
  have bare : lineText? line = (decode? line).map withoutEnds :=
    Text.decode?_rdropWhile h.unbroken
  rcases h.ended with rfl | rfl
  · exact bare
  · rw [bare]
    exact (Text.decode?_append_end (c := '\n') rfl line).symm

private theorem newlines_of_lineText? (unbroken : 10 ∉ line) (h : lineText? line = some text) :
    newlines text.toList = 0 := by
  refine List.count_eq_zero.2 fun broken => unbroken ?_
  have code : encode text.toList = line.rdropWhile (· = 13) := Text.decode?_eq_some_iff.1 h
  have own : (10 : UInt8) ∈ encode text.toList := Text.mem_encode_of_mem (by decide) broken
  rw [code] at own
  exact (List.rdropWhile_prefix _ _).subset own

end Lines

section Sessions

variable {spec : Spec} {prompt text : String} {ls raws : List (List UInt8)}

/-- What a source comes to. -/
structure Answer where
  output : Option String
  diagnostics : List Diagnostic

/-- What processing a source with a fresh reporter gives and leaves. -/
def Answer.Of (spec : Spec) (source : String) (a : Answer) : Prop :=
  process spec source .empty = (.ok a.output, Reporter.empty.record a.diagnostics)

/-- A source gets an answer with a text or a fault, for a tree not with both. All faults of a source
of one line are on that line. -/
theorem exists_answer (known : spec ∈ Spec.available) (text : String) :
    ∃ a : Answer, a.Of spec text ∧ (a.output = none → a.diagnostics ≠ []) ∧
      (spec.stage = .ast → a.diagnostics ≠ [] → a.output = none) ∧
      (newlines text.toList = 0 → ∀ d ∈ a.diagnostics, d.line = 1) := by
  have scanned (single : newlines text.toList = 0) : ∀ d ∈ (scan text).diagnostics, d.line = 1 :=
    fun d hd => Lexing.line_eq_one single (Lexing.mem_diagnostics_iff.1 hd)
  cases stage : spec.stage with
  | token =>
    obtain ⟨out, -, processed⟩ := process_token known stage text .empty
    exact ⟨⟨some out, _⟩, processed, by simp, by simp, scanned⟩
  | ast =>
    rcases process_ast stage (r := .empty) rfl known with
      ⟨e, ts, out, -, -, -, -, processed⟩ | ⟨ending, r', failed, -, -, describes⟩
    · exact ⟨⟨some out, []⟩, by rw [Answer.Of, processed, Reporter.record_nil], by simp, by simp,
        by simp⟩
    · cases ending with
      | answered => exact absurd rfl failed
      | misread =>
        exact ⟨⟨none, _⟩, describes.2, fun _ => describes.1, fun _ _ => rfl, scanned⟩
      | misparsed =>
        obtain ⟨-, t, ht, cause, processed⟩ := describes
        refine ⟨⟨none, [.atToken t cause.message]⟩, processed, by simp, fun _ _ => rfl,
          fun single d hd => ?_⟩
        obtain rfl := List.mem_singleton.1 hd
        exact Lexing.line_eq_one single (Lexing.mem_tokens_iff.1 ht)

/-- Answering a line leaves an empty reporter. -/
theorem answerLine_eq {a : Answer} (h : a.Of spec text) :
    answerLine spec text .empty =
      (outputText a.output, lines (a.diagnostics.map Diagnostic.display), .empty) := by
  rw [answerLine, h]
  rfl

/-- What a run at the prompt leaves, where the lines have these texts up to the first that has none
and the texts without their ends these answers. -/
structure Session (prompt : String) (spec : Spec) (raws : List (List UInt8)) (texts : List String)
    (answers : List Answer) (result : Result) : Prop where
  decoded : (raws.map decode?).takeWhile Option.isSome = texts.map some
  answered : List.Forall₂ (fun text a => a.Of spec (withoutEnds text)) texts answers
  placed : ∀ a ∈ answers, ∀ d ∈ a.diagnostics, d.line = 1
  code : result.code = if (raws.map decode?).all Option.isSome then 0 else 1
  out : result.out = String.join (answers.map fun a => prompt ++ outputText a.output) ++ prompt
  err : result.err = lines ((answers.flatMap (·.diagnostics)).map Diagnostic.display) ++
    if (raws.map decode?).all Option.isSome then "" else badInput

private theorem lines_append (a b : List String) : lines (a ++ b) = lines a ++ lines b := by
  rw [lines, List.map_append, String.join_append, lines, lines]

/-- Line after line, an empty reporter at each prompt makes a session. -/
theorem exists_session (prompt : String) (known : spec ∈ Spec.available)
    (h : List.Forall₂ LineOf ls raws) :
    ∃ texts answers, Session prompt spec raws texts answers (runPrompt prompt spec .empty ls) := by
  induction h with
  | nil => exact ⟨[], [], rfl, .nil, by simp, rfl, by simp [runPrompt], rfl⟩
  | @cons line raw ls raws own others ih =>
    obtain ⟨texts, answers, session⟩ := ih
    have read := lineText?_eq own
    cases decoded : decode? raw with
    | none =>
      rw [decoded, Option.map_none] at read
      refine ⟨[], [], by simp [decoded], .nil, by simp, ?_, ?_, ?_⟩
      · simp [runPrompt, read, decoded]
      · simp [runPrompt, read]
      · simp [runPrompt, read, decoded, lines]
    | some text =>
      rw [decoded, Option.map_some] at read
      obtain ⟨a, answered, -, -, placed⟩ := exists_answer known (withoutEnds text)
      have placed := placed (newlines_of_lineText? own.unbroken read)
      have step : runPrompt prompt spec .empty (line :: ls) =
          ⟨(runPrompt prompt spec .empty ls).code,
            prompt ++ outputText a.output ++ (runPrompt prompt spec .empty ls).out,
            lines (a.diagnostics.map Diagnostic.display) ++
              (runPrompt prompt spec .empty ls).err⟩ := by
        simp only [runPrompt, read, answerLine_eq answered]
      refine ⟨text :: texts, a :: answers, ?_, .cons answered session.answered,
        List.forall_mem_cons.2 ⟨placed, session.placed⟩, ?_, ?_, ?_⟩
      · simp [decoded, session.decoded]
      · simp [step, decoded, session.code]
      · simp [step, session.out, String.append_assoc]
      · simp [step, decoded, session.err, lines_append, String.append_assoc]

/-- A run without a script, at a level that keeps its log empty, reads its input line by line up to
the first line that is no text and answers each line as processing it alone does. -/
theorem run_session {arguments : List String} {a : Arguments} {d : Directory}
    {settings : Settings} (read : readArguments arguments = .ok a) (noScript : a.scripts = [])
    (loaded : Config.load d (layers a) a.format = .ok settings)
    (known : Spec.ofString settings.format = .ok spec)
    (silent : Silent settings.level) (input : List UInt8) :
    (∀ e ∈ events arguments d input,
        Logging.passes settings.level e.origin.name e.level = false) ∧
      ∃ raws texts answers, Lines input raws ∧ (∀ other, Lines input other → other = raws) ∧
        Session settings.prompt spec raws texts answers (run arguments d input) := by
  obtain ⟨raws, cut, each⟩ := exists_lines input
  obtain ⟨texts, answers, session⟩ :=
    exists_session settings.prompt (Spec.mem_available_of_ofString known) each
  have planned : plan arguments d = .prompt "" settings.prompt spec := by
    simp [plan, read, noScript, loaded, known, silent.unwarned]
  refine ⟨silent.withheld_events arguments d input, raws, texts, answers, cut,
    fun other => cut.unique, ?_⟩
  simpa [run, planned, Result.after] using session

/-- A line with a fault, a line without, and one that is no text, with the settings that hold where
no file changes them. -/
theorem run_session_bad_bytes :
    readArguments [] = .ok .empty ∧ Arguments.empty.scripts = [] ∧
      Config.load (.ofEntries []) (layers .empty) none = .ok ⟨"> ", "ast-sexpr", "warn"⟩ ∧
      Spec.ofString "ast-sexpr" = .ok ⟨.ast, .sexpr⟩ ∧ Silent "warn" ∧
      (∀ e ∈ events [] (.ofEntries []) [49, 32, 43, 10, 110, 105, 108, 13, 10, 255],
        Logging.passes "warn" e.origin.name e.level = false) ∧
      ∃ raws texts answers, Lines [49, 32, 43, 10, 110, 105, 108, 13, 10, 255] raws ∧
        Session "> " ⟨.ast, .sexpr⟩ raws texts answers
          (run [] (.ofEntries []) [49, 32, 43, 10, 110, 105, 108, 13, 10, 255]) := by
  have read : readArguments [] = .ok .empty := rfl
  have loaded : Config.load (.ofEntries []) (layers .empty) none =
      .ok ⟨"> ", "ast-sexpr", "warn"⟩ := rfl
  have known : Spec.ofString "ast-sexpr" = .ok ⟨.ast, .sexpr⟩ := rfl
  obtain ⟨withheld, raws, texts, answers, cut, -, session⟩ :=
    run_session read rfl loaded known silent_warn [49, 32, 43, 10, 110, 105, 108, 13, 10, 255]
  exact ⟨read, rfl, loaded, known, silent_warn, withheld, raws, texts, answers, cut, session⟩

example : run [] (.ofEntries []) [49, 32, 43, 10, 110, 105, 108, 13, 10, 255] =
    ⟨1, "> > nil\n> ", "[line 1] Error at end: Expect expression.\n" ++ badInput⟩ := by
  decide +kernel

end Sessions

end LoxSyntax.CommandLine
