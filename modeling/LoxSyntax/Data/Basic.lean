import LoxSyntax.Diagnostic
import LoxSyntax.Expr.Basic

/-!
# Trees of plain data

What tokens, trees and diagnostics become before they are written: scalars, lists, records with
fields in order, and named cases that carry a text.
-/
namespace LoxSyntax

open Number (Binary64)

inductive Data
  | null
  | boolean (value : Bool)
  | natural (value : Nat)
  | number (value : Binary64)
  | text (value : String)
  | variant (name payload : String)
  | list (items : List Data)
  | record (fields : List (String × Data))
  deriving Repr

/-- Why a value has no data form. -/
inductive Unserializable
  | trivia
  deriving DecidableEq, Repr

def Unserializable.message : Unserializable → String
  | trivia => "the enum variant TokenKind::Trivia cannot be serialized"

/-- Blanks and comments are no tokens, so their kind has no data form. -/
def TokenKind.toData (kind : TokenKind) : Except Unserializable Data :=
  if kind = .trivia then .error .trivia else .ok (.text kind.label)

def Literal.toData : Literal → Data
  | .number x => .number x
  | .text s => .text s

def Token.toData (t : Token) : Except Unserializable Data := do
  let kind ← t.kind.toData
  return .record [("kind", kind), ("lexeme", .text t.lexeme),
    ("literal", t.literal.elim .null Literal.toData), ("line", .natural t.line)]

def Value.toData : Value → Data
  | .number x => .number x
  | .text s => .text s
  | .boolean b => .boolean b
  | .nil => .null

/-- A node is a record whose first field names its shape. -/
def Expr.toData : Expr → Except Unserializable Data
  | .binary left operator right => do
    let left ← left.toData
    let operator ← operator.toData
    let right ← right.toData
    return .record [("type", .text "Binary"), ("left", left), ("operator", operator),
      ("right", right)]
  | .grouping inner => do
    let inner ← inner.toData
    return .record [("type", .text "Grouping"), ("expression", inner)]
  | .literal value => .ok (.record [("type", .text "Literal"), ("value", value.toData)])
  | .unary operator operand => do
    let operator ← operator.toData
    let operand ← operand.toData
    return .record [("type", .text "Unary"), ("operator", operator), ("right", operand)]

def Location.toData : Location → Data
  | .line => .text "Line"
  | .atEnd => .text "AtEnd"
  | .at lexeme => .variant "At" lexeme

def Diagnostic.toData (d : Diagnostic) : Data :=
  .record [("line", .natural d.line), ("location", d.location.toData), ("message", .text d.message)]

/-- The list of tokens, if each of them has a data form. -/
def Token.listToData (tokens : List Token) : Except Unserializable Data := do
  let items ← tokens.mapM Token.toData
  return .list items

def Diagnostic.listToData (ds : List Diagnostic) : Data := .list (ds.map Diagnostic.toData)

end LoxSyntax
