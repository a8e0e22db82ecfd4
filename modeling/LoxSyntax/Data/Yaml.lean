import LoxSyntax.Data.Basic
import LoxSyntax.Data.Yaml.Scalar

/-!
# Data as YAML

Block style with two spaces a level: a record's fields on lines of their own, a nested record two
further in, the items of a list after a dash. Every text ends its last line.
-/
namespace LoxSyntax.Yaml

open Number (Layout)

/-- A value that fits behind its key or dash, with the end of its line; `indent` is for the further
lines of a text. -/
def writeScalar (indent : Nat) : Data → List Char
  | .null => "null\n".toList
  | .boolean b => (if b then "true\n" else "false\n").toList
  | .natural n => Nat.toDigits 10 n ++ ['\n']
  | .number x => (Layout.yaml.write x).toList ++ ['\n']
  | .text s => writeText indent s
  | .variant name payload => '!' :: name.toList ++ ' ' :: writeText indent payload
  | .list _ => "[]\n".toList
  | .record _ => "{}\n".toList

mutual

/-- A value that starts at column `indent`. -/
def writeBlock (indent : Nat) (d : Data) (tail : List Char) : List Char :=
  match d with
  | .list (item :: items) =>
    '-' :: ' ' :: writeBlock (indent + 2) item (writeItems indent items tail)
  | .record ((name, value) :: fields) =>
    name.toList ++ ':' :: writeField indent value (writeFields indent fields tail)
  | scalar => writeScalar indent scalar ++ tail

/-- The value of a field whose record starts at column `indent`. -/
def writeField (indent : Nat) (d : Data) (tail : List Char) : List Char :=
  match d with
  | .list (item :: items) =>
    '\n' :: spaces indent ++ '-' :: ' ' :: writeBlock (indent + 2) item
      (writeItems indent items tail)
  | .record ((name, value) :: fields) =>
    '\n' :: spaces (indent + 2) ++ name.toList ++ ':' :: writeField (indent + 2) value
      (writeFields (indent + 2) fields tail)
  | scalar => ' ' :: writeScalar (indent + 2) scalar ++ tail

/-- The items after the first. -/
def writeItems (indent : Nat) (items : List Data) (tail : List Char) : List Char :=
  match items with
  | [] => tail
  | item :: items =>
    spaces indent ++ '-' :: ' ' :: writeBlock (indent + 2) item (writeItems indent items tail)

/-- The fields after the first. -/
def writeFields (indent : Nat) (fields : List (String × Data)) (tail : List Char) : List Char :=
  match fields with
  | [] => tail
  | (name, value) :: fields =>
    spaces indent ++ name.toList ++ ':' :: writeField indent value (writeFields indent fields tail)

end

/-- A whole document; a lone text has its further lines two spaces in. -/
def write (d : Data) : String :=
  match d with
  | .list (_ :: _) | .record (_ :: _) => String.ofList (writeBlock 0 d [])
  | scalar => String.ofList (writeScalar 2 scalar)

end LoxSyntax.Yaml
