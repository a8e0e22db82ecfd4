import LoxSyntax.Number.Digits

/-!
# The style of a YAML text

A text is written plain where that reads back as the same text, in single quotes where it would
read as another type, as a literal block when it has several lines, and in double quotes where no
other style can hold it.
-/
namespace LoxSyntax.Yaml

open Number (Binary64 Decimal valueInBase)

def isBreak (c : Char) : Bool :=
  c = '\n' || c = '\r' || c = '\u0085' || c = '\u2028' || c = '\u2029'

/-- A space, tab, break or the end of the text. -/
def isBlankOrEnd : Option Char → Bool
  | none => true
  | some c => c = ' ' || c = '\t' || c = '\x00' || isBreak c

/-- Characters that only a double-quoted text can hold. -/
def isUnprintable (c : Char) : Bool :=
  (c.toNat < 32 && c ≠ '\n') || (127 ≤ c.toNat && c.toNat ≤ 159) ||
    c = '\ufeff' || c = '\ufffe' || c = '\uffff'

/-- Marks that no plain text starts with. -/
def isIndicator (c : Char) : Bool :=
  ['#', ',', '[', ']', '\x7b', '\x7d', '&', '*', '!', '|', '>', '\'', '"', '%', '@',
    '\x60'].contains c

/-- Whether some two neighbouring characters satisfy `p`. -/
def anyPair (p : Char → Char → Bool) : List Char → Bool
  | a :: b :: more => p a b || anyPair p (b :: more)
  | _ => false

/-- Whether a later colon ends a key or a later hash starts a comment. -/
def hasInnerMark : List Char → Bool
  | a :: b :: more =>
    (b = ':' && isBlankOrEnd more.head?) || (b = '#' && isBlankOrEnd (some a)) ||
      hasInnerMark (b :: more)
  | _ => false

def allowsPlain (text : List Char) : Bool :=
  match text with
  | [] => false
  | first :: more =>
    !text.take 3 = ['-', '-', '-'] && !text.take 3 = ['.', '.', '.'] && !isIndicator first &&
      !((first = '?' || first = ':' || first = '-') && isBlankOrEnd more.head?) &&
      !hasInnerMark text && first ≠ ' ' && text.getLast? ≠ some ' ' &&
      !text.any isBreak && !text.any isUnprintable

def allowsSingleQuotes (text : List Char) : Bool :=
  !anyPair (fun a b => (a = ' ' && isBreak b) || (isBreak a && b = ' ')) text &&
    !text.any isUnprintable

def allowsLiteral (text : List Char) : Bool :=
  text.getLast? ≠ some ' ' && !anyPair (fun a b => a = ' ' && isBreak b) text &&
    !text.any isUnprintable

def isOctalDigit (c : Char) : Bool := '0' ≤ c && c ≤ '7'

def isBinaryDigit (c : Char) : Bool := c = '0' || c = '1'

def isHexDigit (c : Char) : Bool := c.isDigit || ('a' ≤ c && c ≤ 'f') || ('A' ≤ c && c ≤ 'F')

/-- The value of a non-empty run of digits. -/
def digits? (isDigit : Char → Bool) (base : Nat) (text : List Char) : Option Nat :=
  if !text.isEmpty && text.all isDigit then some (valueInBase base text) else none

/-- An integer without sign, decimal or in a marked base. -/
def natural? : List Char → Option Nat
  | '0' :: 'x' :: digits => digits? isHexDigit 16 digits
  | '0' :: 'o' :: digits => digits? isOctalDigit 8 digits
  | '0' :: 'b' :: digits => digits? isBinaryDigit 2 digits
  | digits => digits? Char.isDigit 10 digits

/-- Whether a text reads as an integer of at most 128 bits. -/
def readsAsInteger (text : List Char) : Bool :=
  match text with
  | '+' :: text => (natural? text).any (· < Nat.pow 2 128)
  | '-' :: text => (natural? text).any (· ≤ Nat.pow 2 127)
  | text => (natural? text).any (· < Nat.pow 2 128)

/-- The sign of an exponent and its digits. -/
def exponent? : List Char → Option Int
  | '+' :: digits => (digits? Char.isDigit 10 digits).map Int.ofNat
  | '-' :: digits => (digits? Char.isDigit 10 digits).map fun n => -Int.ofNat n
  | digits => (digits? Char.isDigit 10 digits).map Int.ofNat

/-- Digits with an optional point somewhere among them and an optional exponent. -/
def decimal? (text : List Char) : Option Decimal :=
  let whole := text.takeWhile Char.isDigit
  let afterWhole := text.dropWhile Char.isDigit
  let (fraction, rest) :=
    match afterWhole with
    | '.' :: more => (more.takeWhile Char.isDigit, more.dropWhile Char.isDigit)
    | rest => ([], rest)
  if whole.isEmpty && fraction.isEmpty then none
  else
    match rest with
    | [] => some (.ofParts whole fraction 0)
    | e :: more =>
      if e = 'e' || e = 'E' then (exponent? more).map (.ofParts whole fraction) else none

/-- Whether a text without sign reads as a finite number or as infinity. -/
def readsAsMagnitude (text : List Char) : Bool :=
  [".inf", ".Inf", ".INF"].contains (String.ofList text) ||
    (decimal? text).any fun d => (Binary64.ofScientific d).isFinite

def readsAsFloat (text : List Char) : Bool :=
  match text with
  | '+' :: text => readsAsMagnitude text
  | '-' :: text => readsAsMagnitude text
  | text => readsAsMagnitude text || [".nan", ".NaN", ".NAN"].contains (String.ofList text)

/-- Digits after a superfluous zero, which some readers take for a number. -/
def hasLeadingZero (text : List Char) : Bool :=
  match text with
  | '+' :: '0' :: more => !more.isEmpty && more.all Char.isDigit
  | '-' :: '0' :: more => !more.isEmpty && more.all Char.isDigit
  | '0' :: more => !more.isEmpty && more.all Char.isDigit
  | _ => false

/-- Whether a plain text would read as something else than a text. -/
def readsAsOther (text : List Char) : Bool :=
  text.isEmpty ||
    ["null", "Null", "NULL", "~", "true", "True", "TRUE", "false", "False", "FALSE"].contains
      (String.ofList text) ||
    readsAsInteger text || readsAsFloat text || hasLeadingZero text

inductive Style
  | plain
  | singleQuoted
  | doubleQuoted
  | literal
  deriving DecidableEq, Repr

def style (text : List Char) : Style :=
  if text.contains '\n' then if allowsLiteral text then .literal else .doubleQuoted
  else if readsAsOther text then .singleQuoted
  else if allowsPlain text then .plain
  else if allowsSingleQuotes text then .singleQuoted
  else .doubleQuoted

def spaces (n : Nat) : List Char := List.replicate n ' '

/-- The inside of single quotes and the closing one; `broken` says that a break came last. -/
def singleQuotedBody (indent : Nat) (broken : Bool) : List Char → List Char
  | [] => (if broken then spaces indent else []) ++ ['\'']
  | c :: more =>
    if isBreak c then c :: singleQuotedBody indent true more
    else
      (if broken then spaces indent else []) ++ (if c = '\'' then ['\'', '\''] else [c]) ++
        singleQuotedBody indent false more

/-- Upper-case hexadecimal digits, `count` of them. -/
def hexDigits (count n : Nat) : List Char :=
  (List.range count).reverse.map fun i => (Nat.digitChar (n / Nat.pow 16 i % 16)).toUpper

def escape (c : Char) : List Char :=
  if c = '"' || c = '\\' then ['\\', c]
  else if !(isBreak c || isUnprintable c) then [c]
  else
    match c with
    | '\x00' => ['\\', '0']
    | '\x07' => ['\\', 'a']
    | '\x08' => ['\\', 'b']
    | '\t' => ['\\', 't']
    | '\n' => ['\\', 'n']
    | '\x0b' => ['\\', 'v']
    | '\x0c' => ['\\', 'f']
    | '\r' => ['\\', 'r']
    | '\x1b' => ['\\', 'e']
    | '\u0085' => ['\\', 'N']
    | '\u2028' => ['\\', 'L']
    | '\u2029' => ['\\', 'P']
    | c =>
      if c.toNat < 256 then '\\' :: 'x' :: hexDigits 2 c.toNat
      else '\\' :: 'u' :: hexDigits 4 c.toNat

/-- Whether the first line needs its indentation said. -/
def indentHint : List Char → List Char
  | [] => []
  | c :: _ => if c = ' ' || isBreak c then ['2'] else []

/-- How the breaks at the end are kept. -/
def chompHint (text : List Char) : List Char :=
  match text.reverse with
  | [] => ['-']
  | last :: more =>
    if !isBreak last then ['-'] else if more.head?.all isBreak then ['+'] else []

/-- The lines of a literal block, each one that is not empty indented. -/
def literalBody (indent : Nat) (broken : Bool) : List Char → List Char
  | [] => []
  | c :: more =>
    if isBreak c then c :: literalBody indent true more
    else (if broken then spaces indent else []) ++ c :: literalBody indent false more

/-- A text in its style with the end of its last line; `indent` is for the lines after the first. -/
def writeText (indent : Nat) (s : String) : List Char :=
  let text := s.toList
  match style text with
  | .plain => text ++ ['\n']
  | .singleQuoted => '\'' :: singleQuotedBody indent false text ++ ['\n']
  | .doubleQuoted => '"' :: text.flatMap escape ++ ['"', '\n']
  | .literal =>
    '|' :: indentHint text ++ chompHint text ++ '\n' :: literalBody indent true text ++
      (if text.getLast?.any isBreak then [] else ['\n'])

end LoxSyntax.Yaml
