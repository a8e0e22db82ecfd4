import LoxSyntax.Token.Basic

/-!
# Diagnostics and their recorder

A reporter is an append-only list of diagnostics with a flag that any of them raises. Taking the
list leaves the flag; a reset clears both.
-/
namespace LoxSyntax

/-- Where on its line a diagnostic points. -/
inductive Location
  | line
  | atEnd
  | at (lexeme : String)
  deriving DecidableEq, Repr

def Location.display : Location → String
  | line => ""
  | atEnd => " at end"
  | .at lexeme => s!" at '{lexeme}'"

/-- The place of a token: its text, or the end of the input. -/
def Location.ofToken (t : Token) : Location := if t.isEndOfFile then atEnd else .at t.lexeme

structure Diagnostic where
  line : Nat
  location : Location
  message : String
  deriving DecidableEq, Repr

namespace Diagnostic

def display (d : Diagnostic) : String :=
  s!"[line {d.line}] Error{d.location.display}: {d.message}"

def atLine (line : Nat) (message : String) : Diagnostic := ⟨line, .line, message⟩

def atToken (t : Token) (message : String) : Diagnostic := ⟨t.line, .ofToken t, message⟩

end Diagnostic

structure Reporter where
  hadError : Bool
  diagnostics : List Diagnostic
  deriving DecidableEq, Repr

namespace Reporter

def empty : Reporter := ⟨false, []⟩

/-- Appends diagnostics; the flag rises if there is at least one. -/
def record (r : Reporter) (ds : List Diagnostic) : Reporter :=
  ⟨r.hadError || !ds.isEmpty, r.diagnostics ++ ds⟩

def report (r : Reporter) (d : Diagnostic) : Reporter := r.record [d]

/-- Hands over the diagnostics; the flag stays. -/
def take (r : Reporter) : List Diagnostic × Reporter :=
  (r.diagnostics, { r with diagnostics := [] })

/-- The state before any unit of work. -/
def reset (_ : Reporter) : Reporter := empty

@[simp] theorem record_nil (r : Reporter) : r.record [] = r := by simp [record]

theorem record_append (r : Reporter) (ds es : List Diagnostic) :
    r.record (ds ++ es) = (r.record ds).record es := by
  cases ds <;> simp [record]

@[simp] theorem diagnostics_record (r : Reporter) (ds : List Diagnostic) :
    (r.record ds).diagnostics = r.diagnostics ++ ds := rfl

@[simp] theorem hadError_report (r : Reporter) (d : Diagnostic) : (r.report d).hadError = true := by
  simp [report, record]

end Reporter

end LoxSyntax
