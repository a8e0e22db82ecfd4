import LoxSyntax.Toml.Reader

/-!
# TOML texts and keys

Texts in double quotes take escapes, texts in single quotes none; with three quotes either kind may
span lines, a line feed right after the opening is dropped, and up to two quotes may stand before
the closing ones.
-/
namespace LoxSyntax.Toml

open Number (valueInBase)

def isHexDigit (c : Char) : Bool := c.isDigit || ('a' ≤ c && c ≤ 'f') || ('A' ≤ c && c ≤ 'F')

/-- The character with a number written in hexadecimal, if there is one. -/
def charOfHex? (digits : List Char) : Option Char :=
  let n := valueInBase 16 digits
  if digits.all isHexDigit && n.isValidChar then some (Char.ofNat n) else none

def shortEscape? : Char → Option Char
  | 'b' => some '\x08'
  | 't' => some '\t'
  | 'n' => some '\n'
  | 'f' => some '\x0c'
  | 'r' => some '\r'
  | '"' => some '"'
  | '\\' => some '\\'
  | _ => none

/-- The character after a backslash. -/
def escaped : Reader Char := do
  match ← one fun _ => true with
  | 'u' => number 4
  | 'U' => number 8
  | c => StateT.lift (shortEscape? c)
where
  /-- The character numbered by the next `n` digits. -/
  number (n : Nat) : Reader Char := fun text =>
    if n ≤ text.length then (charOfHex? (text.take n)).map fun c => (c, text.drop n) else none

/-- The rest of a text in double quotes. -/
def basicRest : (bound : Nat) → Reader (List Char)
  | 0 => failure
  | bound + 1 => do
    match ← one isInLine with
    | '"' => pure []
    | '\\' => do
      let c ← escaped
      let more ← basicRest bound
      pure (c :: more)
    | c => do
      let more ← basicRest bound
      pure (c :: more)

/-- The rest of a text in single quotes. -/
def literalRest : Reader (List Char) := do
  let body ← run fun c => isInLine c && c ≠ '\''
  mark "'"
  pure body

/-- Closing quotes: two of the five, or one of the four, belong to the text. -/
def closing (quote : Char) : Reader (List Char) := fun text =>
  let run := text.takeWhile (· = quote)
  let count := min run.length 5
  if 3 ≤ count then some (List.replicate (count - 3) quote, text.drop count) else none

/-- The rest of a text in three double quotes. A backslash at the end of a line drops the break and
all blanks after it. -/
def multilineBasicRest : (bound : Nat) → Reader (List Char)
  | 0 => failure
  | bound + 1 => closing '"' <|> do
    match ← one fun c => isInLine c || c = '\n' with
    | '\\' => (do
        spaces
        mark "\n"
        let _ ← run fun c => isSpace c || c = '\n'
        multilineBasicRest bound) <|> (do
        let c ← escaped
        let more ← multilineBasicRest bound
        pure (c :: more))
    | c => do
      let more ← multilineBasicRest bound
      pure (c :: more)

/-- The rest of a text in three single quotes. -/
def multilineLiteralRest : (bound : Nat) → Reader (List Char)
  | 0 => failure
  | bound + 1 => closing '\'' <|> do
    let c ← one fun c => isInLine c || c = '\n'
    let more ← multilineLiteralRest bound
    pure (c :: more)

/-- A text in any of the four notations. -/
def text : Reader String := do
  let bound := (← get).length + 1
  let opening (quotes : String) (rest : Reader (List Char)) : Reader (List Char) := do
    mark quotes
    rest
  let body ←
    opening "\"\"\"" (do
      let _ ← optionally (mark "\n")
      multilineBasicRest bound) <|>
    opening "'''" (do
      let _ ← optionally (mark "\n")
      multilineLiteralRest bound) <|>
    opening "\"" (basicRest bound) <|>
    opening "'" literalRest
  pure (String.ofList body)

def isBareKey (c : Char) : Bool := c.isAlphanum || c = '_' || c = '-'

/-- One part of a key: bare, or quoted within its line. -/
def keyPart : Reader String := do
  match ← ahead with
  | some '"' => do
    mark "\""
    let bound := (← get).length + 1
    let body ← basicRest bound
    pure (String.ofList body)
  | some '\'' => do
    mark "'"
    let body ← literalRest
    pure (String.ofList body)
  | _ => do
    let body ← guarded (fun body => !body.isEmpty) (run isBareKey)
    pure (String.ofList body)

/-- Parts of a key with dots between them, and spaces around each. -/
def keyParts : (bound : Nat) → Reader (List String)
  | 0 => failure
  | bound + 1 => do
    spaces
    let first ← keyPart
    spaces
    match ← optionally (mark ".") with
    | some () => do
      let more ← keyParts bound
      pure (first :: more)
    | none => pure [first]

/-- How deeply arrays and inline tables may be nested, and how many parts a key may have. -/
def maxNesting : Nat := 79

/-- A key, as the parts before the last and the last. -/
def key : Reader (List String × String) := do
  let bound := (← get).length + 1
  let parts ← guarded (fun parts => parts.length ≤ maxNesting) (keyParts bound)
  match parts.getLast? with
  | some last => pure (parts.dropLast, last)
  | none => failure

end LoxSyntax.Toml
