import LoxSyntax.Proofs.Parsing.Soundness

/-!
# Reading does not look at lines

Reading commutes with forgetting lines: kinds and values decide what is read, and lines only go into
the tree and into the diagnostic with the tokens that carry them.
-/
namespace LoxSyntax

namespace Token

/-- A token without its line. -/
def lineless (t : Token) : Token := { t with line := 0 }

@[simp] theorem kind_lineless (t : Token) : t.lineless.kind = t.kind := rfl

@[simp] theorem lexeme_lineless (t : Token) : t.lineless.lexeme = t.lexeme := rfl

@[simp] theorem isEndOfFile_lineless (t : Token) : t.lineless.isEndOfFile = t.isEndOfFile := rfl

end Token

namespace Expr

/-- A tree without the lines of its operators. -/
def lineless : Expr → Expr
  | binary left operator right => binary left.lineless operator.lineless right.lineless
  | grouping inner => grouping inner.lineless
  | literal value => literal value
  | unary operator operand => unary operator.lineless operand.lineless

theorem render_lineless (e : Expr) : e.lineless.render = e.render := by
  induction e with
  | binary left operator right ihl ihr => simp [lineless, render, ihl, ihr]
  | grouping inner ih => simp [lineless, render, ih]
  | literal value => rfl
  | unary operator operand ih => simp [lineless, render, ih]

end Expr

namespace Parsing

namespace Cursor

variable {c d : Cursor} {t : Token} {admits : TokenKind → Bool}

def lineless (c : Cursor) : Cursor :=
  ⟨c.consumed, c.last.map Token.lineless, c.rest.map Token.lineless⟩

private theorem accept?_lineless (c : Cursor) (admits : TokenKind → Bool) :
    c.lineless.accept? admits =
      (c.accept? admits).map fun taken => (taken.1.lineless, taken.2.lineless) := by
  cases h : c.rest with
  | nil => simp [accept?, lineless, h]
  | cons t more =>
    simp only [accept?, lineless, h, List.map_cons, Token.isEndOfFile_lineless,
      Token.kind_lineless]
    split <;> rfl

private theorem taken_lineless (taken : c.accept? admits = some (t, d)) :
    c.lineless.accept? admits = some (t.lineless, d.lineless) := by
  rw [accept?_lineless, taken]
  rfl

private theorem refused_lineless (refused : c.accept? admits = none) :
    c.lineless.accept? admits = none := by
  rw [accept?_lineless, refused]
  rfl

private theorem peek_lineless (c : Cursor) : c.lineless.peek = c.peek.lineless := by
  simp only [peek, lineless, List.head?_map]
  cases c.rest.head? with
  | none => rfl
  | some t => rfl

end Cursor

def Phrase.lineless : Phrase → Phrase
  | chain p left => chain p left.lineless
  | phrase => phrase

def Failure.lineless (f : Failure) : Failure :=
  ⟨f.cause, f.token.lineless, f.cursor.lineless, f.depth⟩

private theorem Failure.lineless_ahead (cause : SyntaxError) (room : Nat) (c : Cursor) :
    (Failure.ahead cause room c).lineless = .ahead cause room c.lineless := by
  simp [ahead, lineless, Cursor.peek_lineless]

variable {phrase : Phrase} {room : Nat} {c d : Cursor} {e : Expr} {f : Failure}

theorem Reads.lineless (h : Reads phrase room c e d) :
    Reads phrase.lineless room c.lineless e.lineless d.lineless := by
  induction h with
  | literal taken value => exact .literal (Cursor.taken_lineless taken) value
  | grouping opens content closes ih =>
    exact .grouping (Cursor.taken_lineless opens) ih (Cursor.taken_lineless closes)
  | bare refused operand ih => exact .bare (Cursor.refused_lineless refused) ih
  | unary taken operand ih => exact .unary (Cursor.taken_lineless taken) ih
  | operand operand ih => exact .operand ih
  | first operand others ih ihc => exact .first ih ihc
  | stop refused => exact .stop (Cursor.refused_lineless refused)
  | next taken operand others ih ihc => exact .next (Cursor.taken_lineless taken) ih ihc

theorem Fails.lineless (h : Fails phrase room c f) :
    Fails phrase.lineless room c.lineless f.lineless := by
  induction h with
  | noValue taken value => exact .noValue (Cursor.taken_lineless taken) value
  | noOperand refused closed =>
    rw [Failure.lineless_ahead]
    exact .noOperand (Cursor.refused_lineless refused) (Cursor.refused_lineless closed)
  | groupTooDeep opens =>
    rw [Failure.lineless_ahead]
    exact .groupTooDeep (Cursor.taken_lineless opens)
  | groupContent opens content ih => exact .groupContent (Cursor.taken_lineless opens) ih
  | unclosed opens content closes =>
    rw [Failure.lineless_ahead]
    exact .unclosed (Cursor.taken_lineless opens) content.lineless (Cursor.refused_lineless closes)
  | bare refused operand ih => exact .bare (Cursor.refused_lineless refused) ih
  | unaryTooDeep taken =>
    rw [Failure.lineless_ahead]
    exact .unaryTooDeep (Cursor.taken_lineless taken)
  | unary taken operand ih => exact .unary (Cursor.taken_lineless taken) ih
  | operand operand ih => exact .operand ih
  | first operand ih => exact .first ih
  | others operand others ih => exact .others operand.lineless ih
  | chainTooDeep taken =>
    rw [Failure.lineless_ahead]
    exact .chainTooDeep (Cursor.taken_lineless taken)
  | next taken operand ih => exact .next (Cursor.taken_lineless taken) ih
  | later taken operand others ih => exact .later (Cursor.taken_lineless taken) operand.lineless ih

def Outcome.lineless : Outcome → Outcome
  | .ok (e, d) => .ok (e.lineless, d.lineless)
  | .error f => .error f.lineless

/-- Reading without lines comes to what reading with them comes to, without lines. -/
theorem parse_lineless (phrase : Phrase) (room : Nat) (c : Cursor) :
    phrase.lineless.parse room c.lineless = (phrase.parse room c).lineless := by
  cases run : phrase.parse room c with
  | ok r => exact (Reads.of_parse run).lineless.parse_eq
  | error f => exact (Fails.of_parse run).lineless.parse_eq

/-- Two parses that differ in lines only: both come to a tree and report nothing, or both report the
one fault. -/
inductive SameButLines (r r' : Reporter) : Option Expr × Reporter → Option Expr × Reporter → Prop
  | tree {e e' : Expr} (same : e.lineless = e'.lineless) :
      SameButLines r r' (some e, r) (some e', r')
  | fault {location : Location} {message : String} (line line' : Nat) :
      SameButLines r r' (none, r.report ⟨line, location, message⟩)
        (none, r'.report ⟨line', location, message⟩)

theorem SameButLines.map_render {r r' : Reporter} {o o' : Option Expr × Reporter}
    (h : SameButLines r r' o o') : o.1.map Expr.render = o'.1.map Expr.render := by
  cases h with
  | @tree e e' same =>
    have rendered : e.render = e'.render := by
      rw [← e.render_lineless, same, e'.render_lineless]
    exact congrArg some rendered
  | fault => rfl

private theorem Failure.diagnostic_eq_of_lineless {f f' : Failure}
    (same : f.lineless = f'.lineless) :
    f'.diagnostic = ⟨f'.token.line, f.diagnostic.location, f.diagnostic.message⟩ := by
  simp only [lineless, Token.lineless, Failure.mk.injEq, Token.mk.injEq] at same
  obtain ⟨cause, ⟨kind, lexeme, -, -⟩, -, -⟩ := same
  simp [diagnostic, Diagnostic.atToken, Location.ofToken, Token.isEndOfFile, cause, kind, lexeme]

/-- Tokens that differ in lines only are parsed alike. -/
theorem sameButLines_parse {tokens tokens' : List Token} (r r' : Reporter)
    (ends : tokens.getLast?.any (·.isEndOfFile) = true)
    (ends' : tokens'.getLast?.any (·.isEndOfFile) = true)
    (same : tokens.map Token.lineless = tokens'.map Token.lineless) :
    SameButLines r r' (parse tokens r) (parse tokens' r') := by
  have start : (Cursor.ofTokens tokens).lineless = (Cursor.ofTokens tokens').lineless := by
    simp [Cursor.ofTokens, Cursor.lineless, same]
  have alike : (parseExpression maxDepth (.ofTokens tokens)).lineless =
      (parseExpression maxDepth (.ofTokens tokens')).lineless := by
    have run := parse_lineless (.level (some .equality)) maxDepth (.ofTokens tokens)
    rw [start, parse_lineless] at run
    exact run.symm
  have parsed := Parser.parse_eq (p := .ofTokens tokens r) ends
  have parsed' := Parser.parse_eq (p := .ofTokens tokens' r') ends'
  rw [parse, parse, parsed, parsed']
  simp only [Parser.ofTokens]
  cases run : parseExpression maxDepth (.ofTokens tokens) with
  | ok o =>
    cases run' : parseExpression maxDepth (.ofTokens tokens') with
    | ok o' =>
      rw [run, run'] at alike
      exact .tree (congrArg Prod.fst (Except.ok.inj alike))
    | error f' =>
      rw [run, run'] at alike
      cases alike
  | error f =>
    cases run' : parseExpression maxDepth (.ofTokens tokens') with
    | ok o' =>
      rw [run, run'] at alike
      cases alike
    | error f' =>
      rw [run, run'] at alike
      simp only [Failure.diagnostic_eq_of_lineless (Except.error.inj alike)]
      exact .fault f.token.line f'.token.line

end Parsing

end LoxSyntax
