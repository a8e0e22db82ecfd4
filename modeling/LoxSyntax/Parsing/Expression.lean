import LoxSyntax.Diagnostic
import LoxSyntax.Expr.Basic
import LoxSyntax.Expr.Precedence
import LoxSyntax.Parsing.Cursor

/-!
# Reading an expression

Precedence climbing with a bound on depth: `room` is how many levels may still be opened. A group,
the operand of a unary operator and each operator of a chain open one, so room falls with every
nested call and the recursion is bounded by it alone, whatever the input.
-/
namespace LoxSyntax.Parsing

/-- The deepest level that may be opened. -/
def maxDepth : Nat := 256

inductive SyntaxError
  | expectExpression
  | expectClosing
  | tooMuchNesting
  deriving DecidableEq, Repr

def SyntaxError.message : SyntaxError → String
  | expectExpression => "Expect expression."
  | expectClosing => "Expect ')' after expression."
  | tooMuchNesting => "Too much nesting."

/-- Why and at which token reading stopped, where the cursor stands, and the levels still open. -/
structure Failure where
  cause : SyntaxError
  token : Token
  cursor : Cursor
  depth : Nat
  deriving DecidableEq, Repr

def Failure.diagnostic (f : Failure) : Diagnostic := .atToken f.token f.cause.message

abbrev Outcome := Except Failure (Expr × Cursor)

/-- Failure at the token ahead, with `room` levels left to open. -/
def failAhead (cause : SyntaxError) (room : Nat) (c : Cursor) : Outcome :=
  .error ⟨cause, c.peek, c, maxDepth - room⟩

/-- The value of a token that is an operand by itself. -/
def operandValue? (t : Token) : Option Value :=
  match t.kind with
  | .keyword .falseWord => some (.boolean false)
  | .keyword .trueWord => some (.boolean true)
  | .keyword .nilWord => some .nil
  | .number | .string => t.literal.map .ofLiteral
  | _ => none

/-- Kinds that are an operand by themselves. -/
def isOperandKind : TokenKind → Bool
  | .keyword .falseWord | .keyword .trueWord | .keyword .nilWord | .number | .string => true
  | _ => false

mutual

/-- An operand without an operator in front: a literal or a group. -/
def parsePrimary (room : Nat) (c : Cursor) : Outcome :=
  match c.accept? isOperandKind with
  | some (t, after) =>
    match operandValue? t with
    | some value => .ok (.literal value, after)
    | none => .error ⟨.expectExpression, t, after, maxDepth - room⟩
  | none =>
    match c.accept? (· = .leftParen) with
    | none => failAhead .expectExpression room c
    | some (_, after) =>
      match room with
      | 0 => failAhead .tooMuchNesting 0 after
      | inner + 1 =>
        match parseAt (some .equality) inner after with
        | .error f => .error f
        | .ok (e, closing) =>
          match closing.accept? (· = .rightParen) with
          | some (_, done) => .ok (.grouping e, done)
          | none => failAhead .expectClosing (inner + 1) closing
termination_by room * 8
decreasing_by simp [Precedence.rank]; omega

def parseUnary (room : Nat) (c : Cursor) : Outcome :=
  match c.accept? (·.isUnaryOperator) with
  | none => parsePrimary room c
  | some (operator, after) =>
    match room with
    | 0 => failAhead .tooMuchNesting 0 after
    | inner + 1 =>
      match parseUnary inner after with
      | .error f => .error f
      | .ok (operand, done) => .ok (.unary operator operand, done)
termination_by room * 8 + 1
decreasing_by all_goals omega

/-- An expression whose operators are of the given level or tighter; with no level, a unary one. -/
def parseAt (level : Option Precedence) (room : Nat) (c : Cursor) : Outcome :=
  match level with
  | none => parseUnary room c
  | some p =>
    match parseAt p.tighter? room c with
    | .error f => .error f
    | .ok (left, after) => parseChain p left room after
termination_by room * 8 + 2 + level.elim 0 Precedence.rank
decreasing_by
  · simp
  · cases p <;> simp [Precedence.rank, Precedence.tighter?]
  · cases p <;> simp [Precedence.rank]

/-- The operators of one level that follow a left operand, each with its right operand. -/
def parseChain (p : Precedence) (left : Expr) (room : Nat) (c : Cursor) : Outcome :=
  match c.accept? p.admits with
  | none => .ok (left, c)
  | some (operator, after) =>
    match room with
    | 0 => failAhead .tooMuchNesting 0 after
    | inner + 1 =>
      match parseAt p.tighter? inner after with
      | .error f => .error f
      | .ok (right, done) => parseChain p (.binary left operator right) inner done
termination_by room * 8 + 2
decreasing_by
  · cases p <;> simp [Precedence.rank, Precedence.tighter?] <;> omega
  · omega

end

/-- A whole expression, with `room` levels left to open. -/
def parseExpression (room : Nat) (c : Cursor) : Outcome := parseAt (some .equality) room c

end LoxSyntax.Parsing
