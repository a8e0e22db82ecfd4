import LoxSyntax.Toml.Scalar
import LoxSyntax.Toml.Value

/-!
# Tables that stand for dates

A table whose first key is the stamp is the date or time that the text of this key says; its other
entries are dropped unread, and a stamp that says none spoils the document. Behind another key the
stamp is a key like any other.
-/
namespace LoxSyntax.Toml

/-- The key that makes a table a date. -/
def stampKey : String := "$__toml_private_datetime"

mutual

/-- The value with every stamped table replaced by its date. -/
def Value.resolve? : Value → Option Value
  | .scalar value => some (.scalar value)
  | .array items => do
    let items ← Value.resolveItems? items
    some (.array items)
  | .table [] => some (.table [])
  | .table ((key, value) :: more) =>
    if key = stampKey then
      match value with
      | .scalar (.text shown) => (dateTimeOfText? shown).map fun shown => .scalar (.dateTime shown)
      | _ => none
    else do
      let value ← value.resolve?
      let more ← Value.resolveEntries? more
      some (.table ((key, value) :: more))

def Value.resolveItems? : List Value → Option (List Value)
  | [] => some []
  | item :: more => do
    let item ← item.resolve?
    let more ← Value.resolveItems? more
    some (item :: more)

def Value.resolveEntries? : List (String × Value) → Option (List (String × Value))
  | [] => some []
  | (key, value) :: more => do
    let value ← value.resolve?
    let more ← Value.resolveEntries? more
    some ((key, value) :: more)

end

end LoxSyntax.Toml
