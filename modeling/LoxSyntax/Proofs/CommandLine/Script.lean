import LoxSyntax.Proofs.CommandLine.Prompt

/-!
# Runs over a script

The first obstacle on the way of a run over a script decides its code: the configuration, the format
set there, the file, and last a fault of its text. Output and diagnostics are written only where the
text was processed.
-/
namespace LoxSyntax

/-- Whether a file was read but is no document. -/
def Config.ConfigError.isSyntactic : ConfigError → Bool
  | badSyntax _ => true
  | _ => false

namespace CommandLine

variable {arguments : List String} {a : Arguments} {d : Directory} {path : String}
  {result result' : Result}

/-- How a run over one script ends, one rule for each obstacle and one where there is none. -/
inductive ScriptRun (a : Arguments) (d : Directory) (path : String) : Result → Prop
  | unconfigured {e : Config.ConfigError} {account : String}
      (refused : Config.load d (layers a) a.format = .error e)
      (told : e.isSyntactic = false → account = e.message) :
      ScriptRun a d path ⟨1, "", "Configuration error: " ++ account ++ "\n"⟩
  | misformatted {settings : Settings} {e : SpecError}
      (loaded : Config.load d (layers a) a.format = .ok settings)
      (unknown : Spec.ofString settings.format = .error e) :
      ScriptRun a d path ⟨64, "", e.message ++ " (available: " ++
        ", ".intercalate (Spec.available.map Spec.name) ++ ")\n"⟩
  | unreadable {settings : Settings} {spec : Spec} {cause : ReadError}
      (loaded : Config.load d (layers a) a.format = .ok settings)
      (known : Spec.ofString settings.format = .ok spec)
      (unread : d.readText path = .error cause) :
      ScriptRun a d path ⟨1, "", "Error: " ++ (ProcessError.unreadable cause).message ++ "\n"⟩
  | processed {settings : Settings} {spec : Spec} {source : String} {output : Option String}
      {r : Reporter} (loaded : Config.load d (layers a) a.format = .ok settings)
      (known : Spec.ofString settings.format = .ok spec) (content : d.readText path = .ok source)
      (answered : process spec source .empty = (.ok output, r)) :
      ScriptRun a d path ⟨if r.hadError then 65 else 0, outputText output,
        lines (r.diagnostics.map Diagnostic.display)⟩

/-- No run ends in two ways: each rule asks that the obstacles of those before are not met. Only the
account of a file that is no document is left open. -/
theorem ScriptRun.unique (h : ScriptRun a d path result) (h' : ScriptRun a d path result') :
    (result.code = result'.code ∧ result.out = result'.out) ∧
      (result = result' ∨
        ∃ e, Config.load d (layers a) a.format = .error e ∧ e.isSyntactic = true) := by
  cases h <;> cases h' <;> grind

private theorem newline_not_mem_message (cause : ReadError) :
    '\n' ∉ (ProcessError.unreadable cause).message.toList := by
  cases cause <;> decide +kernel

private theorem lines_eq_empty_iff {texts : List String} : lines texts = "" ↔ texts = [] := by
  cases texts <;> simp [lines, String.join_cons]

private theorem outputText_eq_empty_iff {output : Option String} :
    outputText output = "" ↔ output = none := by
  cases output <;> simp [outputText]

/-- With code 0 there is output and no fault, with code 65 there is a fault, and then no output
where a tree was asked for. -/
theorem ScriptRun.streams (h : ScriptRun a d path result) :
    (result.code = 0 → result.out ≠ "" ∧ result.err = "") ∧
    (result.code = 65 → result.err ≠ "" ∧
      ∀ settings spec, Config.load d (layers a) a.format = .ok settings →
        Spec.ofString settings.format = .ok spec → spec.stage = .ast → result.out = "") := by
  cases h with
  | unconfigured => simp
  | unreadable => simp
  | misformatted => simp
  | @processed settings spec source output r loaded known content answered =>
    obtain ⟨b, own, given, either, -⟩ := exists_answer (Spec.mem_available_of_ofString known) source
    rw [own] at answered
    obtain ⟨same, rfl⟩ := Prod.mk.inj answered
    obtain rfl := Except.ok.inj same
    have flag : (Reporter.empty.record b.diagnostics).hadError = true ↔ b.diagnostics ≠ [] := by
      simp [Reporter.record, Reporter.empty]
    have shown :
        lines ((Reporter.empty.record b.diagnostics).diagnostics.map Diagnostic.display) = "" ↔
          b.diagnostics = [] := by
      simp [lines_eq_empty_iff, Reporter.empty]
    simp only [flag, shown, ne_eq, outputText_eq_empty_iff]
    by_cases clean : b.diagnostics = []
    · have output : b.output ≠ none := fun lost => given lost clean
      simp [clean, output]
    · refine ⟨by simp [clean], fun _ => ⟨clean, fun settings' spec' loaded' known' stage => ?_⟩⟩
      rw [loaded'] at loaded
      obtain rfl := Except.ok.inj loaded
      rw [known'] at known
      obtain rfl := Except.ok.inj known
      exact either stage clean

/-- A run over one script, at a level that has no faults, goes on from one stage to the next. -/
theorem scriptRun_run (read : readArguments arguments = .ok a) (one : a.scripts = [path])
    (unwarned : ∀ settings, Config.load d (layers a) a.format = .ok settings →
      Logging.warnings settings.level = "") (input : List UInt8) :
    ScriptRun a d path (run arguments d input) := by
  have few : ¬1 < a.scripts.length := by simp [one]
  cases loaded : Config.load d (layers a) a.format with
  | error e =>
    simp only [run, plan, read, if_neg few, loaded]
    exact .unconfigured loaded fun _ => rfl
  | ok settings =>
    have quiet := unwarned settings loaded
    cases known : Spec.ofString settings.format with
    | error e =>
      simp only [run, plan, read, if_neg few, loaded, known, quiet, String.empty_append]
      exact .misformatted loaded known
    | ok spec =>
      have planned : plan arguments d = .script "" path spec := by
        simp only [plan, read, if_neg few, loaded, known, quiet]
        simp only [one]
      simp only [run, planned, Result.after, String.empty_append, runScript, processFile]
      cases content : d.readText path with
      | error cause => exact .unreadable loaded known content
      | ok source =>
        obtain ⟨b, answered, -⟩ := exists_answer (Spec.mem_available_of_ofString known) source
        simp only [show process spec source .empty = _ from answered]
        exact .processed loaded known content answered

/-- Two scripts or more are refused whatever lies in the directory. A run over one script, at a
level that keeps its log empty, ends in the way that the first obstacle decides, and in no other.
Its code tells whether there is a fault and, where a tree was asked for, whether there is output. -/
theorem run_script (read : readArguments arguments = .ok a) (input : List UInt8) :
    (1 < a.scripts.length → ∀ d, run arguments d input = ⟨64, "", "Usage: lox [script]\n"⟩) ∧
    ∀ path d, a.scripts = [path] →
      (∀ settings, Config.load d (layers a) a.format = .ok settings → Silent settings.level) →
      (∀ settings, Config.load d (layers a) a.format = .ok settings →
        ∀ e ∈ events arguments d input,
          Logging.passes settings.level e.origin.name e.level = false) ∧
      ∃ result, run arguments d input = result ∧ ScriptRun a d path result ∧
        (∀ other, ScriptRun a d path other →
          (other.code = result.code ∧ other.out = result.out) ∧
            (other = result ∨
              ∃ e, Config.load d (layers a) a.format = .error e ∧ e.isSyntactic = true)) ∧
        (∀ cause, '\n' ∉ (ProcessError.unreadable cause).message.toList) ∧
        (result.code = 0 → result.out ≠ "" ∧ result.err = "") ∧
        (result.code = 65 → result.err ≠ "" ∧
          ∀ settings spec, Config.load d (layers a) a.format = .ok settings →
            Spec.ofString settings.format = .ok spec → spec.stage = .ast → result.out = "") := by
  refine ⟨fun many d => ?_, fun path d one silent => ⟨fun settings loaded => ?_, ?_⟩⟩
  · simp [run, plan, read, many, usageCode]
  · exact (silent settings loaded).withheld_events arguments d input
  · have ended := scriptRun_run read one (fun settings h => (silent settings h).unwarned) input
    exact ⟨_, rfl, ended, fun other h => h.unique ended, newline_not_mem_message, ended.streams⟩

/-- A script with an open group, where no file changes the settings, and the same script twice. -/
theorem run_script_open_group :
    readArguments ["a.lox"] = .ok ⟨["a.lox"], none, none⟩ ∧
      readArguments ["a.lox", "a.lox"] = .ok ⟨["a.lox", "a.lox"], none, none⟩ ∧
      (∀ d, run ["a.lox", "a.lox"] d [] = ⟨64, "", "Usage: lox [script]\n"⟩) ∧
      (∀ e ∈ events ["a.lox"] (.ofEntries [("a.lox", .file ⟨#[40, 49]⟩)]) [],
        Logging.passes "warn" e.origin.name e.level = false) ∧
      ∃ result, run ["a.lox"] (.ofEntries [("a.lox", .file ⟨#[40, 49]⟩)]) [] = result ∧
        ScriptRun ⟨["a.lox"], none, none⟩ (.ofEntries [("a.lox", .file ⟨#[40, 49]⟩)]) "a.lox"
          result ∧
        (result.code = 65 → result.err ≠ "") := by
  have read : readArguments ["a.lox"] = .ok ⟨["a.lox"], none, none⟩ := by decide +kernel
  have read₂ : readArguments ["a.lox", "a.lox"] = .ok ⟨["a.lox", "a.lox"], none, none⟩ := by
    decide +kernel
  have loaded : Config.load (.ofEntries [("a.lox", .file ⟨#[40, 49]⟩)])
      (layers ⟨["a.lox"], none, none⟩) none = .ok ⟨"> ", "ast-sexpr", "warn"⟩ := rfl
  obtain ⟨withheld, result, ended, rung, -, -, -, faulty⟩ := (run_script read []).2 "a.lox"
    (.ofEntries [("a.lox", .file ⟨#[40, 49]⟩)]) rfl fun settings h => by
      obtain rfl := Except.ok.inj (loaded.symm.trans h)
      exact silent_warn
  exact ⟨read, read₂, (run_script read₂ []).1 (by decide), withheld _ loaded, result, ended, rung,
    fun h => (faulty h).1⟩

example : run ["a.lox"] (.ofEntries [("a.lox", .file ⟨#[40, 49]⟩)]) [] =
    ⟨65, "", "[line 1] Error at end: Expect ')' after expression.\n"⟩ := by
  decide +kernel

end CommandLine

end LoxSyntax
