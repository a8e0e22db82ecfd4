import LoxSyntax.Pattern.Grammar
import LoxSyntax.Pattern.Meaning

/-!
# Telling what is wrong with a pattern

The pattern is shown with carets under the places in question; one of several lines stands between
rules with its line numbers.
-/
namespace LoxSyntax.Pattern

/-- The lines of a text; a line feed at its end begins no further line. -/
def linesOf (text : List Char) : List (List Char) :=
  let lines := text.splitOn '\n'
  let lines := if lines.getLast? = some [] then lines.dropLast else lines
  lines.map fun line => if line.getLast? = some '\r' then line.dropLast else line

/-- Carets under spans of one line, in order. -/
def carets (spans : List Span) : List Char :=
  spans.foldl (fun marks span =>
    marks ++ List.replicate (span.first.column - 1 - marks.length) ' ' ++
      List.replicate (max 1 (span.last.column - span.first.column)) '^') []

def Span.isOneLine (s : Span) : Bool := s.first.line = s.last.line

def Span.isBefore (s t : Span) : Bool :=
  s.first.index < t.first.index || (s.first.index = t.first.index && s.last.index ≤ t.last.index)

/-- The spans of a fault in the order of the pattern. -/
def Fault.spans (f : Fault) : List Span :=
  match f.earlier with
  | none => [f.span]
  | some earlier => if earlier.isBefore f.span then [earlier, f.span] else [f.span, earlier]

/-- Lines with the carets under them, the first of which has the number `n`. -/
def annotate (width : Nat) (spans : List Span) (n : Nat) : List (List Char) → List Char
  | [] => []
  | line :: more =>
    let number := Nat.toDigits 10 n
    let margin := if width = 0 then List.replicate 4 ' '
      else List.replicate (width - number.length) ' ' ++ number ++ [':', ' ']
    let here := spans.filter fun s => s.isOneLine && s.first.line = n
    let marks := if here.isEmpty then []
      else List.replicate margin.length ' ' ++ carets here ++ ['\n']
    margin ++ line ++ '\n' :: marks ++ annotate width spans (n + 1) more

/-- How a span of several lines is told. -/
def Span.told (s : Span) : String :=
  s!"on line {s.first.line} (column {s.first.column}) through line {s.last.line} " ++
    s!"(column {s.last.column - 1})"

/-- A fault of a pattern as it is shown. -/
def Fault.report (pattern : List Char) (f : Fault) : String :=
  let lines := linesOf pattern
  let count := lines.length + (if pattern.getLast? = some '\n' then 1 else 0)
  let width := if count ≤ 1 then 0 else (Nat.toDigits 10 count).length
  let notated := String.ofList (annotate width f.spans 1 lines)
  let opening := "regex parse error:\n"
  if '\n' ∈ pattern then
    let rule := String.ofList (List.replicate 79 '~') ++ "\n"
    let long := f.spans.filter fun s => !s.isOneLine
    let notes := if long.isEmpty then "" else "\n".intercalate (long.map Span.told) ++ "\n"
    opening ++ rule ++ notated ++ rule ++ notes ++ "error: " ++ f.cause.message
  else opening ++ notated ++ "error: " ++ f.cause.message

/-- Why a pattern cannot be used, if it cannot. -/
def refusal? (pattern : List Char) : Option String :=
  match parse pattern >>= Expression.checked with
  | .error f => some (f.report pattern)
  | .ok m =>
    if Machine.limit < m.bytes then
      some s!"Compiled regex exceeds size limit of {Machine.limit} bytes."
    else if m.asksForWord then some "error building NFA"
    else none

end LoxSyntax.Pattern
