import LoxSyntax.Token.Basic

/-!
# Expression trees

Operators are kept as tokens, so a tree knows the spelling and line of each. The rendered form is
fully parenthesised with every operator in front of its operands.
-/
namespace LoxSyntax

open Number (Binary64 Layout)

/-- The value of a literal. -/
inductive Value
  | number (value : Binary64)
  | text (value : String)
  | boolean (value : Bool)
  | nil
  deriving DecidableEq, Repr

namespace Value

def ofLiteral : Literal → Value
  | .number x => number x
  | .text s => text s

def display : Value → String
  | number x => Layout.display.write x
  | text s => s
  | boolean true => "true"
  | boolean false => "false"
  | nil => "nil"

end Value

inductive Expr
  | binary (left : Expr) (operator : Token) (right : Expr)
  | grouping (inner : Expr)
  | literal (value : Value)
  | unary (operator : Token) (operand : Expr)
  deriving DecidableEq, Repr

namespace Expr

def nodeName : Expr → String
  | binary .. => "Binary"
  | grouping _ => "Grouping"
  | literal _ => "Literal"
  | unary .. => "Unary"

def render : Expr → String
  | binary left operator right =>
    "(" ++ operator.lexeme ++ " " ++ left.render ++ " " ++ right.render ++ ")"
  | grouping inner => "(group " ++ inner.render ++ ")"
  | literal value => value.display
  | unary operator operand => "(" ++ operator.lexeme ++ " " ++ operand.render ++ ")"

/-- The number of nodes above the deepest literal. -/
def height : Expr → Nat
  | binary left _ right => 1 + max left.height right.height
  | grouping inner => 1 + inner.height
  | literal _ => 0
  | unary _ operand => 1 + operand.height

end Expr

end LoxSyntax
