import LoxSyntax.Diagnostic
import LoxSyntax.Lexing.Segment
import LoxSyntax.Number.Digits

/-!
# Scanning

A counter of lines runs beside the segments; each token segment gives a token, each error segment a
diagnostic, and an end marker closes the list. A scanner hands out the same tokens one at a time.
-/
namespace LoxSyntax.Lexing

open Number (Binary64 Decimal)

def newlines (text : List Char) : Nat := text.count '\n'

/-- The line breaks that a rule counts as it takes its segment: blanks, strings and block comments,
closed or not, count what they take, and all other rules nothing. -/
def Segment.counted : Segment → Nat
  | ⟨.skipped, '/' :: '/' :: _⟩ => 0
  | ⟨.skipped, text⟩ | ⟨.token .string, text⟩ | ⟨.error .unterminatedString, text⟩
  | ⟨.error .unterminatedComment, text⟩ => newlines text
  | _ => 0

/-- What the text of a token stands for. -/
def literalOf (kind : TokenKind) (text : List Char) : Option Literal :=
  match kind with
  | .number => some (.number (Binary64.ofDecimal (Decimal.ofText text)))
  | .string => some (.text (String.ofList text.tail.dropLast))
  | _ => none

/-- What a segment adds to a scan. -/
inductive Finding
  | token (t : Token)
  | diagnostic (d : Diagnostic)
  deriving DecidableEq, Repr

namespace Finding

def token? : Finding → Option Token
  | token t => some t
  | diagnostic _ => none

def diagnostic? : Finding → Option Diagnostic
  | token _ => none
  | diagnostic d => some d

end Finding

/-- What a segment adds when the counter behind it is at `line`. An error is reported there; a token
stands where its text starts, so the line breaks of its text are taken back. -/
def Segment.finding? (s : Segment) (line : Nat) : Option Finding :=
  match s.verdict with
  | .token kind =>
    some (.token ⟨kind, String.ofList s.text, literalOf kind s.text, line - newlines s.text⟩)
  | .skipped => none
  | .error cause => some (.diagnostic (.atLine line cause.message))

/-- The findings of consecutive segments, with the counter at `line` before the first. -/
def findings (line : Nat) : List Segment → List Finding
  | [] => [.token (Token.endOfFile line)]
  | s :: more => (s.finding? (line + s.counted)).toList ++ findings (line + s.counted) more

/-- Tokens up to the end marker, and what was wrong on the way. -/
structure Scan where
  tokens : List Token
  diagnostics : List Diagnostic
  deriving DecidableEq, Repr

def Scan.ofFindings (fs : List Finding) : Scan :=
  ⟨fs.filterMap (·.token?), fs.filterMap (·.diagnostic?)⟩

def scan (source : String) : Scan := .ofFindings (findings 1 (segments source.toList))

/-- A scan in progress: the text ahead, the counter of lines, and whether the end marker was handed
out. -/
structure Scanner where
  rest : List Char
  line : Nat
  finished : Bool
  deriving DecidableEq, Repr

namespace Scanner

def ofSource (source : String) : Scanner := ⟨source.toList, 1, false⟩

/-- One request: a token if any is left, the errors passed before it, and the scanner after it. -/
structure Step where
  token : Option Token
  diagnostics : List Diagnostic
  after : Scanner

/-- The next token of an unfinished scan. -/
def stepFrom (line : Nat) : List Char → Step
  | [] => ⟨some (.endOfFile line), [], ⟨[], line, true⟩⟩
  | c :: cs =>
    let segment := segmentAt c cs
    let after := line + segment.counted
    match segment.finding? after with
    | some (.token t) => ⟨some t, [], ⟨(cut c cs).rest, after, false⟩⟩
    | some (.diagnostic d) =>
      let step := stepFrom after (cut c cs).rest
      { step with diagnostics := d :: step.diagnostics }
    | none => stepFrom after (cut c cs).rest
termination_by text => text.length
decreasing_by all_goals exact Nat.lt_succ_of_le (length_rest_cut_le c cs)

def next (s : Scanner) : Step :=
  if s.finished then ⟨none, [], s⟩ else stepFrom s.line s.rest

end Scanner

end LoxSyntax.Lexing
