import LoxSyntax.Logging.Level
import LoxSyntax.Pipeline
import LoxSyntax.Text.Quoted

/-!
# The record of a run

What a run tells a log: each token scanned, each diagnostic reported, how parsing ended. Everything
is read off from results, so that the runs themselves carry no log.
-/
namespace LoxSyntax.Trace

open Lexing (Finding findings segments scan)
open Logging (Level)
open Parsing (Parser)

/-- The parts of the program that tell a log anything. -/
inductive Origin
  | command
  | pipeline
  | reporter
  | scanner
  | parser
  deriving DecidableEq, Repr

namespace Origin

/-- The name by which directives mean a part. -/
def name : Origin → String
  | command => "lox"
  | pipeline => "loxfront::lox::processor"
  | reporter => "loxfront::lox::reporter"
  | scanner => "loxfront::lox::lexer::lexer_impl"
  | parser => "loxfront::lox::parser::parser"

end Origin

structure Event where
  origin : Origin
  level : Level
  text : String
  deriving DecidableEq, Repr

def Event.display (e : Event) : String := e.level.name ++ " " ++ e.text

def ofDiagnostic (d : Diagnostic) : Event := ⟨.reporter, .debug, d.display⟩

/-- The end marker is not scanned from any text and leaves no event. -/
def ofToken? (t : Token) : Option Event :=
  if t.isEndOfFile then none
  else some ⟨.scanner, .trace, s!"scanned {t.kind.label} {Text.quoted t.lexeme} on line {t.line}"⟩

def ofFinding? : Finding → Option Event
  | .token t => ofToken? t
  | .diagnostic d => some (ofDiagnostic d)

def ofScan (source : String) : List Event :=
  (findings 1 (segments source.toList)).filterMap ofFinding?

/-- One request to a scanner. -/
def ofStep (step : Lexing.Scanner.Step) : List Event :=
  step.diagnostics.map ofDiagnostic ++ (step.token.bind ofToken?).toList

/-- The diagnostics reported between two states of a reporter. -/
def ofReports (before after : Reporter) : List Event :=
  (after.diagnostics.drop before.diagnostics.length).map ofDiagnostic

/-- A parser's move, apart from what it says of itself. -/
def ofMove (before after : Parser) : List Event := ofReports before.reporter after.reporter

def ofSynchronize (after : Parser) : List Event :=
  [⟨.parser, .trace, s!"synchronized at token {after.cursor.consumed}"⟩]

/-- How a request for a whole expression ended. -/
def ofParse (before : Parser) : List Event :=
  if before.cursor.endsProperly then
    let (result, after) := before.parse
    let ending := match result with
      | some e => s!"parsed {e.nodeName} expression"
      | none => s!"parse aborted at token {after.cursor.consumed}"
    ofMove before after ++ [⟨.parser, .debug, ending⟩]
  else [⟨.parser, .warn, "token stream does not end with EOF; refusing to parse"⟩]

/-- A run over a source; parsing leaves events only where it is reached. -/
def ofProcess (spec : Spec) (source : String) (r : Reporter) : List Event :=
  let scanned := scan source
  let r := r.record scanned.diagnostics
  let summary := s!"scanned {scanned.tokens.length} tokens, had_error={r.hadError}"
  ofScan source ++ ⟨.pipeline, .debug, summary⟩ ::
    (if spec.stage = .token || r.hadError then [] else ofParse (.ofTokens scanned.tokens r))

/-- A run over the text of a file. -/
def ofFile (spec : Spec) (d : Directory) (path : String) : List Event :=
  ⟨.command, .info, s!"running {path} as {spec.name}"⟩ ::
    match d.readText path with
    | .ok source => ofProcess spec source .empty
    | .error _ => []

end LoxSyntax.Trace
