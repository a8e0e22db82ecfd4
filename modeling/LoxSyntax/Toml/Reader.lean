import LoxSyntax.Number.Digits

/-!
# Readers of TOML text

A reader takes a value from the front of a text and leaves the rest, or refuses. Line ends are
single line feeds here; a carriage return that did not belong to one is refused everywhere.
-/
namespace LoxSyntax.Toml

abbrev Reader := StateT (List Char) Option

/-- One character of a class. -/
def one (p : Char → Bool) : Reader Char := fun text =>
  match text with
  | c :: rest => if p c then some (c, rest) else none
  | [] => none

/-- The characters of a mark, in order. -/
def mark (s : String) : Reader Unit := fun text =>
  if s.toList.isPrefixOf text then some ((), text.drop s.length) else none

/-- The longest run of a class. -/
def run (p : Char → Bool) : Reader (List Char) := fun text =>
  some (text.takeWhile p, text.dropWhile p)

/-- The character ahead, which stays. -/
def ahead : Reader (Option Char) := fun text => some (text.head?, text)

def optionally {α : Type} (r : Reader α) : Reader (Option α) := (some <$> r) <|> pure none

def guarded {α : Type} (p : α → Bool) (r : Reader α) : Reader α := do
  let a ← r
  if p a then pure a else failure

/-- Line ends become single line feeds. -/
def joinLineEnds : List Char → List Char
  | '\r' :: '\n' :: rest => '\n' :: joinLineEnds rest
  | c :: rest => c :: joinLineEnds rest
  | [] => []

def isSpace (c : Char) : Bool := c = ' ' || c = '\t'

/-- Characters of comments and of texts within a line: no control character but the tab. -/
def isInLine (c : Char) : Bool := c = '\t' || (' ' ≤ c && c ≠ '\x7f')

def spaces : Reader Unit := do
  let _ ← run isSpace

/-- A comment up to the end of its line. -/
def comment : Reader Unit := do
  mark "#"
  let _ ← run isInLine
  match ← ahead with
  | none | some '\n' => pure ()
  | some _ => failure

/-- What may follow on a line that is complete. -/
def lineEnd : Reader Unit := do
  spaces
  let _ ← optionally comment
  match ← ahead with
  | none => pure ()
  | some _ => mark "\n"

/-- Blank lines and comments; each round of the bound passes one comment. -/
def blankLines : (bound : Nat) → Reader Unit
  | 0 => failure
  | bound + 1 => do
    let _ ← run fun c => isSpace c || c = '\n'
    match ← ahead with
    | some '#' => do
      comment
      blankLines bound
    | _ => pure ()

/-- Digits of one class with single underscores between them. -/
def underscored (isDigit : Char → Bool) : Reader (List Char) := do
  let first ← one isDigit
  let more ← run fun c => isDigit c || c = '_'
  if wellPlaced more then pure (first :: more.filter (· ≠ '_')) else failure
where
  /-- Whether every underscore has a digit after it. -/
  wellPlaced : List Char → Bool
    | '_' :: '_' :: _ => false
    | ['_'] => false
    | _ :: rest => wellPlaced rest
    | [] => true

/-- Exactly `n` decimal digits. -/
def digits : (n : Nat) → Reader (List Char)
  | 0 => pure []
  | n + 1 => do
    let first ← one Char.isDigit
    let more ← digits n
    pure (first :: more)

end LoxSyntax.Toml
