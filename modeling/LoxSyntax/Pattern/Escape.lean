import LoxSyntax.Number.Digits
import LoxSyntax.Pattern.Reader

/-!
# Escapes in patterns

A backslash makes a mark literal, and gives letters a meaning: characters by number, control
characters, classes, and assertions about a place.
-/
namespace LoxSyntax.Pattern

open Number (valueInBase)

/-- Characters with a meaning of their own in patterns. -/
def isMark (c : Char) : Bool := "\\.+*?()|[]\x7b\x7d^$#&-~".toList.contains c

/-- Whether a backslash makes the character stand for itself. -/
def isEscapable (c : Char) : Bool :=
  isMark c || (c.toNat < 128 && !c.isAlphanum && c ≠ '<' && c ≠ '>')

def isHexadecimal (c : Char) : Bool :=
  c.isDigit || ('a' ≤ c && c ≤ 'f') || ('A' ≤ c && c ≤ 'F')

/-- The character of a number written in hexadecimal, if there is one. -/
def charOfHexadecimal? (digits : List Char) : Option Char :=
  let n := valueInBase 16 digits
  if n.isValidChar then some (Char.ofNat n) else none

/-- The digits still due of a fixed number; the place is on the last one before. -/
def fixedDigits : (due : Nat) → Reader (List Char)
  | 0 => pure []
  | due + 1 => do
    if !(← advance) then failHere .escapeUnexpectedEnd
    match ← ahead with
    | some c =>
      if isHexadecimal c then do
        let more ← fixedDigits due
        pure (c :: more)
      else failAtChar .escapeHexInvalidDigit
    | none => failHere .escapeUnexpectedEnd

/-- Digits up to the closing brace; the place is on the opening brace or on a digit. -/
def bracedDigits : (bound : Nat) → Reader (List Char)
  | 0 => pure []
  | bound + 1 => do
    let _ ← advance
    match ← ahead with
    | none | some '\x7d' => pure []
    | some c =>
      if isHexadecimal c then do
        let more ← bracedDigits bound
        pure (c :: more)
      else failAtChar .escapeHexInvalidDigit

/-- A character by its number; the place is on the letter that says how many digits there are. -/
def hexadecimal (first : Position) (letter : Char) : Reader Primitive := do
  if !(← advance) then failHere .escapeUnexpectedEnd
  match ← ahead with
  | some '\x7b' => do
    let brace ← here
    let inner := (← charSpan).last
    let digits ← bracedDigits ((← get).rest.length)
    if ← atEnd then failBetween .escapeUnexpectedEnd brace
    let closing ← here
    let _ ← advance
    if digits.isEmpty then failBetween .escapeHexEmpty brace
    match charOfHexadecimal? digits with
    | some c => pure (.literal (← spanFrom first) false c)
    | none => fail .escapeHexInvalid ⟨inner, closing⟩
  | some c => do
    let start ← here
    if !isHexadecimal c then failAtChar .escapeHexInvalidDigit
    let more ← fixedDigits (match letter with
      | 'x' => 1
      | 'u' => 3
      | _ => 7)
    let _ ← advance
    match charOfHexadecimal? (c :: more) with
    | some c => pure (.literal (← spanFrom first) (letter = 'x') c)
    | none => failBetween .escapeHexInvalid start
  | none => failHere .escapeUnexpectedEnd

/-- A name up to the closing brace; the place is on the opening brace or in the name. -/
def bracedName : (bound : Nat) → Reader (List Char)
  | 0 => pure []
  | bound + 1 => do
    let _ ← advance
    match ← ahead with
    | none | some '\x7d' => pure []
    | some c => do
      let more ← bracedName bound
      pure (c :: more)

/-- Whether a property's name asks for a value too. -/
def asksForValue : List Char → Bool
  | [] => false
  | '!' :: '=' :: _ => true
  | c :: more => c = ':' || c = '=' || asksForValue more

/-- A class by property; the place is on its letter. -/
def property (first : Position) : Reader Primitive := do
  if !(← advance) then failHere .escapeUnexpectedEnd
  match ← ahead with
  | some '\x7b' => do
    let name ← bracedName ((← get).rest.length)
    if ← atEnd then failHere .escapeUnexpectedEnd
    skip
    pure (.property (← spanFrom first) (if asksForValue name then .valued else .named name))
  | some c => do
    if c = '\\' then failAtChar .propertyInvalid
    let _ ← advance
    pure (.property (← spanFrom first) (.named [c]))
  | none => failHere .escapeUnexpectedEnd

def namedClass? : Char → Option (NamedClass × Bool)
  | 'd' => some (.digit, false)
  | 'D' => some (.digit, true)
  | 's' => some (.space, false)
  | 'S' => some (.space, true)
  | 'w' => some (.word, false)
  | 'W' => some (.word, true)
  | _ => none

def isBoundaryChar (c : Char) : Bool := c.isAlpha || c = '-'

/-- The name of a special boundary. -/
def boundaryName : (bound : Nat) → Reader (List Char)
  | 0 => pure []
  | bound + 1 => do
    match ← ahead with
    | some c =>
      if isBoundaryChar c then do
        let _ ← advance
        let more ← boundaryName bound
        pure (c :: more)
      else pure []
    | none => pure []

/-- After a word boundary: the braces of a special one. Braces with anything but a name are left to
be a count. -/
def specialBoundary (first : Position) : Reader Unit := do
  match ← ahead with
  | some '\x7b' => do
    let opening ← get
    if !(← advance) then failBetween .boundaryUnexpectedEnd first
    let start ← here
    match ← ahead with
    | some c =>
      if isBoundaryChar c then do
        let name ← boundaryName ((← get).rest.length)
        if (← ahead) ≠ some '\x7d' then failBetween .boundaryUnclosed opening.position
        let stop ← here
        skip
        if String.ofList name ∉ ["start", "end", "start-half", "end-half"] then
          fail .boundaryUnrecognized ⟨start, stop⟩
      else set opening
    | none => failBetween .boundaryUnexpectedEnd first
  | _ => pure ()

/-- What a backslash begins; the place is on it. -/
def escape : Reader Primitive := do
  let first ← here
  skip
  match ← ahead with
  | none => failBetween .escapeUnexpectedEnd first
  | some c =>
    if c.isDigit then fail .backreference ⟨first, (← charSpan).last⟩
    else if c = 'x' || c = 'u' || c = 'U' then hexadecimal first c
    else if c = 'p' || c = 'P' then property first
    else do
      skip
      let span ← spanFrom first
      match namedClass? c with
      | some (kind, negated) => pure (.named span kind negated)
      | none =>
        if isEscapable c then pure (.literal span false c)
        else match c with
          | 'a' => pure (.literal span false '\x07')
          | 'f' => pure (.literal span false '\x0c')
          | 't' => pure (.literal span false '\t')
          | 'n' => pure (.literal span false '\n')
          | 'r' => pure (.literal span false '\r')
          | 'v' => pure (.literal span false '\x0b')
          | 'A' | 'z' => pure (.assertion span false)
          | 'b' => do
            specialBoundary first
            pure (.assertion (← spanFrom first) true)
          | 'B' | '<' | '>' => pure (.assertion span true)
          | _ => fail .escapeUnrecognized span

end LoxSyntax.Pattern
