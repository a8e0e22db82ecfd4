import LoxSyntax.Number.Layout
import LoxSyntax.Token.Kind

/-!
# Tokens

A token keeps its exact text, the value that a number or string stands for, and the line on which
its text starts.
-/
namespace LoxSyntax

open Number (Binary64 Layout)

/-- The value that a number or string token stands for. -/
inductive Literal
  | number (value : Binary64)
  | text (value : String)
  deriving DecidableEq, Repr

def Literal.display : Literal → String
  | number value => Layout.display.write value
  | text value => value

structure Token where
  kind : TokenKind
  lexeme : String
  literal : Option Literal
  line : Nat
  deriving DecidableEq, Repr

namespace Token

/-- The end marker, the only token with an empty text. -/
def endOfFile (line : Nat) : Token := ⟨.endOfFile, "", none, line⟩

def isEndOfFile (t : Token) : Bool := t.kind = .endOfFile

@[simp] theorem isEndOfFile_endOfFile (line : Nat) : (endOfFile line).isEndOfFile = true := rfl

/-- Kind, text and value with one space between; the value is empty when there is none. -/
def display (t : Token) : String :=
  t.kind.name ++ " " ++ t.lexeme ++ " " ++ (t.literal.elim "" Literal.display)

/-- One line per token. -/
def listing (tokens : List Token) : String := "\n".intercalate (tokens.map display)

end Token

end LoxSyntax
