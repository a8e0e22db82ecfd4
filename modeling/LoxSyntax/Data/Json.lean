import LoxSyntax.Data.Basic

/-!
# Data as JSON

One writer for both layouts: compact, and with one element per line indented by two spaces a level.
Each function puts the text in front of what follows, so nothing is copied.
-/
namespace LoxSyntax.Json

open Number (Layout)

inductive Style
  | compact
  | pretty
  deriving DecidableEq, Repr

def hexDigit (n : Nat) : Char := Nat.digitChar n

/-- A character inside quotes: marks, backslashes and control characters are escaped. -/
def escape (c : Char) : List Char :=
  match c with
  | '"' => ['\\', '"']
  | '\\' => ['\\', '\\']
  | '\n' => ['\\', 'n']
  | '\r' => ['\\', 'r']
  | '\t' => ['\\', 't']
  | '\x08' => ['\\', 'b']
  | '\x0c' => ['\\', 'f']
  | c =>
    if c.toNat < 32 then ['\\', 'u', '0', '0', hexDigit (c.toNat / 16), hexDigit (c.toNat % 16)]
    else [c]

def writeQuoted (s : String) (tail : List Char) : List Char :=
  '"' :: s.toList.flatMap escape ++ '"' :: tail

/-- The break before an element at some depth. -/
def writeBreak (style : Style) (depth : Nat) (tail : List Char) : List Char :=
  match style with
  | .compact => tail
  | .pretty => '\n' :: List.replicate (2 * depth) ' ' ++ tail

def writeColon (style : Style) (tail : List Char) : List Char :=
  match style with
  | .compact => ':' :: tail
  | .pretty => ':' :: ' ' :: tail

mutual

def write (style : Style) (depth : Nat) (d : Data) (tail : List Char) : List Char :=
  match d with
  | .null => "null".toList ++ tail
  | .boolean b => (if b then "true" else "false").toList ++ tail
  | .natural n => Nat.toDigits 10 n ++ tail
  | .number x => (Layout.json.write x).toList ++ tail
  | .text s => writeQuoted s tail
  | .variant name payload =>
    '{' :: writeBreak style (depth + 1) (writeQuoted name (writeColon style
      (writeQuoted payload (writeBreak style depth ('}' :: tail)))))
  | .list [] => '[' :: ']' :: tail
  | .list (item :: items) =>
    '[' :: writeBreak style (depth + 1) (write style (depth + 1) item
      (writeItems style (depth + 1) items (writeBreak style depth (']' :: tail))))
  | .record [] => '{' :: '}' :: tail
  | .record ((name, value) :: fields) =>
    '{' :: writeBreak style (depth + 1) (writeQuoted name (writeColon style
      (write style (depth + 1) value
        (writeFields style (depth + 1) fields (writeBreak style depth ('}' :: tail))))))

/-- The items after the first. -/
def writeItems (style : Style) (depth : Nat) (items : List Data) (tail : List Char) : List Char :=
  match items with
  | [] => tail
  | item :: items =>
    ',' :: writeBreak style depth (write style depth item (writeItems style depth items tail))

/-- The fields after the first. -/
def writeFields (style : Style) (depth : Nat) (fields : List (String × Data)) (tail : List Char) :
    List Char :=
  match fields with
  | [] => tail
  | (name, value) :: fields =>
    ',' :: writeBreak style depth (writeQuoted name (writeColon style
      (write style depth value (writeFields style depth fields tail))))

end

def compact (d : Data) : String := String.ofList (write .compact 0 d [])

def pretty (d : Data) : String := String.ofList (write .pretty 0 d [])

end LoxSyntax.Json
