import LoxSyntax.Pipeline
import Mathlib.Data.List.DropRight

/-!
# What a reporter shows after any use

A journal notes what a sequence of operations records, takes and clears, apart from any reporter.
The reporter shows the end of the journal: its flag says whether anything was recorded behind the
last reset, and its list is what was recorded behind the last reset or take.
-/
namespace LoxSyntax

section Runs

variable (r : Reporter)

/-- A parse looks at no reporter: it comes to the same and adds the same with each. -/
theorem Parsing.parse_eq_record (tokens : List Token) :
    parse tokens r = ((parse tokens .empty).1, r.record (parse tokens .empty).2.diagnostics) := by
  unfold parse Parser.parse Parser.expression Parser.ofTokens
  cases (Cursor.ofTokens tokens).endsProperly with
  | false => simp [Reporter.empty]
  | true =>
    cases parseExpression maxDepth (Cursor.ofTokens tokens) with
    | ok read => simp [Reporter.empty]
    | error f => simp [Reporter.report, Reporter.empty]

theorem snd_process_ast {spec : Spec} (stage : spec.stage = .ast) (source : String) :
    (process spec source r).2 = (parseSource source r).2 := by
  simp only [process, stage, parseSource]
  split
  · rfl
  · rcases Parsing.parse (Lexing.scan source).tokens
      (r.record (Lexing.scan source).diagnostics) with ⟨_ | e, q⟩ <;> rfl

end Runs

namespace Reporter

/-- A run that is handed a reporter. -/
inductive Pass
  | scan (source : String)
  | parse (tokens : List Token)
  | parseSource (source : String)
  | process (spec : Spec) (source : String)

/-- A use of a reporter. -/
inductive Operation
  | report (d : Diagnostic)
  | error (line : Nat) (message : String)
  | tokenError (t : Token) (message : String)
  | take
  | reset
  | pass (x : Pass)

/-- What an operation hands back. -/
inductive Response
  | done
  | taken (ds : List Diagnostic)
  | tokens (ts : List Token)
  | tree (e : Option Expr)
  | output (result : Except ProcessError (Option String))

def Pass.run (r : Reporter) : Pass → Response × Reporter
  | .scan source => (.tokens (Lexing.scan source).tokens, r.record (Lexing.scan source).diagnostics)
  | .parse tokens => (Parsing.parse tokens r).map .tree id
  | .parseSource source => (LoxSyntax.parseSource source r).map .tree id
  | .process spec source => (LoxSyntax.process spec source r).map .output id

def Operation.run (r : Reporter) : Operation → Response × Reporter
  | report d => (.done, r.report d)
  | error line message => (.done, r.report (.atLine line message))
  | tokenError t message => (.done, r.report (.atToken t message))
  | take => r.take.map .taken id
  | reset => (.done, r.reset)
  | pass x => x.run r

/-- Operations in order: all that they hand back, and the reporter behind them. -/
def runAll (r : Reporter) : List Operation → List Response × Reporter
  | [] => ([], r)
  | op :: ops => ((op.run r).1 :: ((op.run r).2.runAll ops).1, ((op.run r).2.runAll ops).2)

/-- What a journal notes. -/
inductive Event
  | recorded (d : Diagnostic)
  | taken
  | cleared
  deriving DecidableEq

@[simp] def Event.isRecorded : Event → Bool
  | recorded _ => true
  | taken | cleared => false

/-- Whether anything is recorded behind the last reset. -/
def raised (past : List Event) : Bool := (past.rtakeWhile (· ≠ .cleared)).any (·.isRecorded)

section Raised

variable (past : List Event)

@[simp] theorem raised_recorded (d : Diagnostic) : raised (past ++ [.recorded d]) = true := by
  simp [raised]

@[simp] theorem raised_taken : raised (past ++ [.taken]) = raised past := by simp [raised]

@[simp] theorem raised_cleared : raised (past ++ [.cleared]) = false := by simp [raised]

private theorem raised_iff :
    raised past = true ↔ ∃ d, .recorded d ∈ past.rtakeWhile (· ≠ .cleared) := by
  rw [raised, List.any_eq_true]
  constructor
  · rintro ⟨_ | _, inside, recorded⟩
    · exact ⟨_, inside⟩
    · cases recorded
    · cases recorded
  · rintro ⟨d, inside⟩
    exact ⟨_, inside, rfl⟩

end Raised

/-- The faults of a run to a tree: those of the scan, and if nothing was wrong before and in it,
those of parsing. -/
def treeFaults (raised : Bool) (source : String) : List Diagnostic :=
  if raised || (Lexing.scan source).diagnostics ≠ [] then (Lexing.scan source).diagnostics
  else (Parsing.parse (Lexing.scan source).tokens .empty).2.diagnostics

/-- What a run records, whether or not anything was wrong before. -/
def Pass.faults (raised : Bool) : Pass → List Diagnostic
  | .scan source => (Lexing.scan source).diagnostics
  | .parse tokens => (Parsing.parse tokens .empty).2.diagnostics
  | .parseSource source => treeFaults raised source
  | .process spec source =>
    match spec.stage with
    | .token => (Lexing.scan source).diagnostics
    | .ast => treeFaults raised source

def Operation.events (raised : Bool) : Operation → List Event
  | report d => [.recorded d]
  | error line message => [.recorded (.atLine line message)]
  | tokenError t message => [.recorded (.atToken t message)]
  | take => [.taken]
  | reset => [.cleared]
  | pass x => (x.faults raised).map .recorded

/-- The journal of operations, behind one that was kept before. -/
def journal (past : List Event) : List Operation → List Event
  | [] => past
  | op :: ops => journal (past ++ op.events (raised past)) ops

section Passes

variable (r : Reporter)

private theorem hadError_record (ds : List Diagnostic) :
    (r.record ds).hadError = (r.hadError || ds ≠ []) := by
  cases ds <;> simp [record]

private theorem snd_parseSource (source : String) :
    (parseSource source r).2 = r.record (treeFaults r.hadError source) := by
  rw [parseSource, treeFaults]
  simp only [hadError_record]
  split
  · rfl
  next go =>
    obtain ⟨-, faultless⟩ : r.hadError = false ∧ (Lexing.scan source).diagnostics = [] := by
      simpa using go
    rw [faultless, record_nil, Parsing.parse_eq_record]

private theorem Pass.run_parse (tokens : List Token) :
    (parse tokens).run r = (.tree (Parsing.parse tokens .empty).1,
      r.record (Parsing.parse tokens .empty).2.diagnostics) := by
  rw [run, Parsing.parse_eq_record]
  rfl

private theorem Pass.snd_run (x : Pass) : (x.run r).2 = r.record (x.faults r.hadError) := by
  cases x with
  | scan source => rfl
  | parse tokens => exact congrArg Prod.snd (run_parse r tokens)
  | parseSource source => exact snd_parseSource r source
  | process spec source =>
    cases stage : spec.stage with
    | token => simp [run, faults, stage, LoxSyntax.process]
    | ast =>
      have same := (snd_process_ast r stage source).trans (snd_parseSource r source)
      simpa [run, faults, stage] using same

end Passes

section Journals

variable {r : Reporter} {past : List Event}

/-- What an event does to a reporter. -/
def after (r : Reporter) : Event → Reporter
  | .recorded d => r.report d
  | .taken => r.take.2
  | .cleared => r.reset

private theorem foldl_after_recorded (r : Reporter) (ds : List Diagnostic) :
    (ds.map .recorded).foldl after r = r.record ds := by
  induction ds generalizing r with
  | nil => exact r.record_nil.symm
  | cons d ds ih => exact (ih (r.report d)).trans (r.record_append [d] ds).symm

/-- The events of an operation are all it does to a reporter. -/
theorem Operation.snd_run (op : Operation) (r : Reporter) :
    (op.run r).2 = (op.events r.hadError).foldl after r := by
  cases op with
  | report | error | tokenError | take | reset => rfl
  | pass x => exact (x.snd_run r).trans (foldl_after_recorded r _).symm

/-- A reporter shows the end of a journal. -/
structure Shows (r : Reporter) (past : List Event) : Prop where
  hadError_eq : r.hadError = raised past
  diagnostics_eq : r.diagnostics.map .recorded = past.rtakeWhile (·.isRecorded)

private theorem shows_empty : Shows empty [] := ⟨rfl, rfl⟩

theorem Shows.event (h : Shows r past) (e : Event) : Shows (r.after e) (past ++ [e]) := by
  cases e with
  | recorded d => exact ⟨by simp [after], by simp [after, report, h.diagnostics_eq]⟩
  | taken => exact ⟨by simp [after, take, h.hadError_eq], by simp [after, take]⟩
  | cleared => exact ⟨by simp [after, reset, empty], by simp [after, reset, empty]⟩

theorem Shows.events (h : Shows r past) (es : List Event) :
    Shows (es.foldl after r) (past ++ es) := by
  induction es generalizing r past with
  | nil => rwa [List.append_nil]
  | cons e es ih =>
    have := ih (h.event e)
    rwa [List.append_assoc] at this

/-- Operations keep a reporter and its journal together. -/
theorem Shows.runAll (h : Shows r past) (ops : List Operation) :
    Shows (r.runAll ops).2 (journal past ops) := by
  induction ops generalizing r past with
  | nil => exact h
  | cons op ops ih =>
    refine ih ?_
    rw [op.snd_run, h.hadError_eq]
    exact h.events _

end Journals

private theorem runAll_append (r : Reporter) (ops later : List Operation) :
    r.runAll (ops ++ later) = ((r.runAll ops).1 ++ ((r.runAll ops).2.runAll later).1,
      ((r.runAll ops).2.runAll later).2) := by
  induction ops generalizing r with
  | nil => rfl
  | cons op ops ih => simp [runAll, ih]

/-- Whatever a new reporter was used for, its flag says whether anything was recorded behind the
last reset, and its list is all that was recorded behind the last reset or take. Runs append to what
there is; what a scan or a parse hands back and appends is the same with every reporter. Operations
behind a reset are as with a new reporter. -/
theorem runAll_journal (ops : List Operation) :
    ((empty.runAll ops).2.hadError = true ↔
        ∃ d, .recorded d ∈ (journal [] ops).rtakeWhile (· ≠ .cleared)) ∧
      (empty.runAll ops).2.diagnostics.map .recorded =
        (journal [] ops).rtakeWhile (·.isRecorded) ∧
      (∀ (x : Pass) (r : Reporter),
        (x.run r).2.diagnostics = r.diagnostics ++ x.faults r.hadError) ∧
      (∀ source, ∃ response ds, ∀ r, (Pass.scan source).run r = (response, record r ds)) ∧
      (∀ tokens, ∃ response ds, ∀ r, (Pass.parse tokens).run r = (response, record r ds)) ∧
      ∀ later, empty.runAll (ops ++ .reset :: later) =
        ((empty.runAll ops).1 ++ .done :: (empty.runAll later).1, (empty.runAll later).2) := by
  have shown : Shows (empty.runAll ops).2 (journal [] ops) := shows_empty.runAll ops
  refine ⟨?_, shown.diagnostics_eq, fun x r => ?_, fun source => ⟨_, _, fun r => rfl⟩,
    fun tokens => ⟨_, _, fun r => Pass.run_parse r tokens⟩,
    fun later => runAll_append empty ops (.reset :: later)⟩
  · rw [shown.hadError_eq, raised_iff]
  · rw [x.snd_run, diagnostics_record]

/-- The flag outlives the list: with it raised, a text without lexical faults is not parsed. -/
example : (empty.runAll [.pass (.parseSource "@"), .take, .pass (.parseSource "1 +")]).2 =
    ⟨true, []⟩ := by decide +kernel

end Reporter

end LoxSyntax
