import LoxSyntax.Number.Layout

/-!
# Values of TOML documents

Scalars, arrays and tables. Every scalar has a text, by which it stands in for a text where one is
wanted.
-/
namespace LoxSyntax.Toml

open Number (Binary64 Layout)

inductive Scalar
  | text (value : String)
  | integer (value : Int)
  | float (value : Binary64)
  | boolean (value : Bool)
  | dateTime (shown : String)
  deriving DecidableEq, Repr

/-- The text of a whole number, with a minus sign if it is negative. -/
def integerText (n : Int) : String :=
  String.ofList ((if n < 0 then ['-'] else []) ++ Nat.toDigits 10 n.natAbs)

def Scalar.asText : Scalar → String
  | text value => value
  | integer value => integerText value
  | float value => Layout.display.write value
  | boolean true => "true"
  | boolean false => "false"
  | dateTime shown => shown

inductive Value
  | scalar (value : Scalar)
  | array (items : List Value)
  | table (entries : List (String × Value))
  deriving Repr

end LoxSyntax.Toml
