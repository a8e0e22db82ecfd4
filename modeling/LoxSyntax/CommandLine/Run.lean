import LoxSyntax.CommandLine.Arguments
import LoxSyntax.Config.Settings
import LoxSyntax.Logging.Filter
import LoxSyntax.Trace

/-!
# A run of the command

A run is decided by its arguments, the directory it looks into and its input: one script is
processed once, and without a script every input line is processed by itself behind a prompt.
-/
namespace LoxSyntax.CommandLine

/-- What a run leaves behind. -/
structure Result where
  code : Nat
  out : String
  err : String
  deriving DecidableEq, Repr

/-- Code for arguments that cannot be followed. -/
def usageCode : Nat := 64

/-- Code for a script with faults. -/
def dataCode : Nat := 65

def lines (texts : List String) : String := String.join (texts.map (· ++ "\n"))

/-- Output on a line of its own, or nothing. -/
def outputText (output : Option String) : String := output.elim "" (· ++ "\n")

def layers (a : Arguments) : List Config.Layer :=
  ⟨Config.projectFile, false⟩ :: (a.config.map fun file => ⟨file, true⟩).toList

/-- What remains to be done once the arguments and the configuration are read, and what is said of
the log level before. -/
inductive Plan
  | stop (result : Result)
  | script (warnings : String) (path : String) (spec : Spec)
  | prompt (warnings : String) (text : String) (spec : Spec)

def plan (arguments : List String) (d : Directory) : Plan :=
  match readArguments arguments with
  | .error .help => .stop ⟨0, helpText, ""⟩
  | .error .version => .stop ⟨0, versionText, ""⟩
  | .error (.usage cause) => .stop ⟨2, "", cause.message⟩
  | .ok a =>
    if 1 < a.scripts.length then .stop ⟨usageCode, "", "Usage: lox [script]\n"⟩
    else
      match Config.load d (layers a) a.format with
      | .error e => .stop ⟨1, "", "Configuration error: " ++ e.message ++ "\n"⟩
      | .ok settings =>
        let warnings := Logging.warnings settings.level
        match Spec.ofString settings.format with
        | .error e =>
          let available := ", ".intercalate (Spec.available.map Spec.name)
          .stop ⟨usageCode, "", warnings ++ e.message ++ " (available: " ++ available ++ ")\n"⟩
        | .ok spec =>
          match a.scripts with
          | path :: _ => .script warnings path spec
          | [] => .prompt warnings settings.prompt spec

/-- A result with warnings before its errors. -/
def Result.after (warnings : String) (r : Result) : Result := { r with err := warnings ++ r.err }

/-- Processes a script once. -/
def runScript (spec : Spec) (d : Directory) (path : String) : Result :=
  match processFile spec d path .empty with
  | (.error e, _) => ⟨1, "", "Error: " ++ e.message ++ "\n"⟩
  | (.ok output, r) =>
    let (taken, r) := r.take
    ⟨if r.hadError then dataCode else 0, outputText output,
      lines (taken.map Diagnostic.display)⟩

/-- One input line, without its end, processed with the reporter of the run: what is written to
output and to errors, and the reporter for the next line. -/
def answerLine (spec : Spec) (line : String) (r : Reporter) : String × String × Reporter :=
  let (result, r) := process spec line r
  let (taken, r) := r.take
  let faults := lines (taken.map Diagnostic.display)
  match result with
  | .ok output => (outputText output, faults, r.reset)
  | .error e => ("", "Error: " ++ e.message ++ "\n" ++ faults, r.reset)

/-- The text of an input line without the carriage returns at its end. -/
def lineText? (line : List UInt8) : Option String :=
  let text := (line.reverse.dropWhile (· = 13)).reverse
  String.fromUTF8? ⟨text.toArray⟩

/-- The lines of an input, without their line feeds; a last line may lack its own. -/
def inputLines (input : List UInt8) : List (List UInt8) :=
  match input with
  | [] => []
  | b :: more =>
    let line := (b :: more).takeWhile (· ≠ 10)
    let rest := (b :: more).dropWhile (· ≠ 10)
    line :: inputLines (rest.drop 1)
termination_by input.length
decreasing_by
  have h := ((b :: more).dropWhile_sublist (· ≠ 10)).length_le
  simp only [List.length_drop]
  simp only [List.length_cons] at h ⊢
  omega

/-- Said of a line that is no text. -/
def badInput : String := "Error reading input: " ++ ReadError.notUtf8.message ++ "\n"

/-- Answers line after line, with a prompt before each and before the end of the input. -/
def runPrompt (prompt : String) (spec : Spec) (r : Reporter) : List (List UInt8) → Result
  | [] => ⟨0, prompt, ""⟩
  | line :: more =>
    match lineText? line with
    | none => ⟨1, prompt, badInput⟩
    | some text =>
      let (out, err, r) := answerLine spec text r
      let rest := runPrompt prompt spec r more
      ⟨rest.code, prompt ++ out ++ rest.out, err ++ rest.err⟩

/-- What answering line after line tells a log. -/
def promptEvents (spec : Spec) (r : Reporter) : List (List UInt8) → List Trace.Event
  | [] => []
  | line :: more =>
    match lineText? line with
    | none => []
    | some text =>
      let (_, _, after) := answerLine spec text r
      Trace.ofProcess spec text r ++ promptEvents spec after more

/-- What a whole run tells the log that its level opens. -/
def events (arguments : List String) (d : Directory) (input : List UInt8) : List Trace.Event :=
  match plan arguments d with
  | .stop _ => []
  | .script _ path spec => Trace.ofFile spec d path
  | .prompt _ _ spec => promptEvents spec .empty (inputLines input)

/-- A whole run, apart from what its log writes. -/
def run (arguments : List String) (d : Directory) (input : List UInt8) : Result :=
  match plan arguments d with
  | .stop result => result
  | .script warnings path spec => (runScript spec d path).after warnings
  | .prompt warnings text spec => (runPrompt text spec .empty (inputLines input)).after warnings

end LoxSyntax.CommandLine
