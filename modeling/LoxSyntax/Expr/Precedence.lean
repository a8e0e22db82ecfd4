import LoxSyntax.Token.Kind

/-!
# Precedence of binary operators

Four levels of left-associative operators, from equality, the loosest, to factor, the tightest.
-/
namespace LoxSyntax

inductive Precedence
  | equality | comparison | term | factor
  deriving DecidableEq, Repr

namespace Precedence

/-- Position among the levels: a larger rank binds looser. -/
def rank : Precedence → Nat
  | equality => 4
  | comparison => 3
  | term => 2
  | factor => 1

/-- The next tighter level; the operands of the tightest are unary. -/
def tighter? : Precedence → Option Precedence
  | equality => some comparison
  | comparison => some term
  | term => some factor
  | factor => none

def ofKind? : TokenKind → Option Precedence
  | .bangEqual | .equalEqual => some equality
  | .greater | .greaterEqual | .less | .lessEqual => some comparison
  | .minus | .plus => some term
  | .slash | .star => some factor
  | _ => none

/-- The operators of each level. -/
theorem ofKind?_eq_some_iff (kind : TokenKind) :
    (ofKind? kind = some equality ↔ kind ∈ [.bangEqual, .equalEqual]) ∧
      (ofKind? kind = some comparison ↔ kind ∈ [.greater, .greaterEqual, .less, .lessEqual]) ∧
      (ofKind? kind = some term ↔ kind ∈ [.minus, .plus]) ∧
      (ofKind? kind = some factor ↔ kind ∈ [.slash, .star]) := by
  cases kind <;> simp [ofKind?]

/-- Whether a kind is an operator of this level. -/
def admits (p : Precedence) (kind : TokenKind) : Bool := ofKind? kind = some p

theorem rank_le (p : Precedence) : p.rank ≤ 4 := by cases p <;> decide

end Precedence

/-- Operators that may stand in front of an operand. -/
def TokenKind.isUnaryOperator (kind : TokenKind) : Bool := kind = .bang || kind = .minus

end LoxSyntax
