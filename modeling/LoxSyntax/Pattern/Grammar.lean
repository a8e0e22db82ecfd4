import LoxSyntax.Pattern.Brackets
import LoxSyntax.Text.Alphabetic

/-!
# Whole patterns

Branches of repeated parts, and groups of branches. A group may have a name or flags; flags in
parentheses of their own hold up to the end of the group around them.
-/
namespace LoxSyntax.Pattern

open Number (valueInBase)
open Text (isBlank isAlphabetic isNumeral)

def flag? : Char → Option Flag
  | 'i' => some .insensitive
  | 'm' => some .multiLine
  | 's' => some .dotAll
  | 'U' => some .swapGreed
  | 'u' => some .unicode
  | 'R' => some .carriageReturns
  | 'x' => some .spaced
  | _ => none

/-- Flags up to a colon or a closing parenthesis, with the place of each. -/
def flagItems : (bound : Nat) → (found : List (FlagItem × Span)) → Reader (List (FlagItem × Span))
  | 0, found => pure found
  | bound + 1, found => do
    match ← ahead with
    | none => failHere .flagUnexpectedEnd
    | some c =>
      if c = ':' || c = ')' then
        match found.getLast? with
        | some (.negation, span) => fail .flagDanglingNegation span
        | _ => pure found
      else do
        let span ← charSpan
        let item ← match c, flag? c with
          | '-', _ => pure FlagItem.negation
          | _, some f => pure (FlagItem.flag f)
          | _, none => fail .flagUnrecognized span
        match found.find? (·.1 = item) with
        | some (_, earlier) =>
          let cause := if item = .negation then Cause.flagRepeatedNegation else .flagDuplicate
          throw ⟨cause, span, some earlier⟩
        | none => do
          skip
          flagItems bound (found ++ [(item, span)])

def isGroupNameChar (isFirst : Bool) (c : Char) : Bool :=
  c = '_' || isAlphabetic c || (!isFirst && (isNumeral c || c = '.' || c = '[' || c = ']'))

/-- The characters of a group's name before the closing mark. -/
def groupNameChars : (bound : Nat) → (isFirst : Bool) → Reader (List Char)
  | 0, _ => pure []
  | bound + 1, isFirst => do
    match ← ahead with
    | none => failHere .groupNameUnexpectedEnd
    | some '>' => pure []
    | some c =>
      if isGroupNameChar isFirst c then do
        skip
        let more ← groupNameChars bound false
        pure (c :: more)
      else failAtChar .groupNameInvalid

/-- A group's name with its closing mark; no two groups have the same. -/
def groupName : Reader Unit := do
  let first ← here
  let name ← groupNameChars ((← get).rest.length + 1) true
  let span ← spanFrom first
  skip
  if name.isEmpty then fail .groupNameEmpty ⟨first, first⟩
  match (← get).names.lookup name with
  | some earlier => throw ⟨.groupNameDuplicate, span, some earlier⟩
  | none => modify fun p => { p with names := (name, span) :: p.names }

/-- What an opening parenthesis begins. -/
inductive Opening
  | flags (e : Expression) (items : List FlagItem)
  | group (opened : Span) (captures : Bool) (items : List FlagItem)

def skipLookAround : Reader Bool := do
  if ← skipMark "?=" then return true
  if ← skipMark "?!" then return true
  if ← skipMark "?<=" then return true
  skipMark "?<!"

def skipNameMark : Reader Bool := do
  if ← skipMark "?P<" then return true
  skipMark "?<"

/-- An opening parenthesis with the marks behind it. -/
def opening : Reader Opening := do
  let opened ← charSpan
  skip
  skipSpace
  if ← skipLookAround then failBetween .lookAround opened.first
  let inner ← hereSpan
  if ← skipNameMark then
    groupName
    return .group opened true []
  else if ← skipMark "?" then
    if ← atEnd then fail .groupUnclosed opened
    let found ← flagItems ((← get).rest.length + 1) []
    let items := found.map (·.1)
    let isAlone := (← ahead) = some ')'
    skip
    if isAlone then
      if items.isEmpty then fail .repetitionMissing inner
      return .flags (.flags (← spanFrom opened.first) items) items
    else return .group opened false items
  else return .group opened true []

/-- Decimal digits with space between them. -/
def decimalDigits : (bound : Nat) → Reader (List Char)
  | 0 => pure []
  | bound + 1 => do
    match ← ahead with
    | some c =>
      if c.isDigit then do
        let _ ← advance
        let more ← decimalDigits bound
        pure (c :: more)
      else pure []
    | none => pure []

def skipBlanks : (bound : Nat) → (step : Reader Unit) → Reader Unit
  | 0, _ => pure ()
  | bound + 1, step => do
    match ← ahead with
    | some c =>
      if isBlank c then do
        step
        skipBlanks bound step
      else pure ()
    | none => pure ()

/-- A count of 32 bits, or why there is none. The reader goes on in either case. -/
def count : Reader (Except Fault Nat) := do
  let bound := (← get).rest.length
  skipBlanks bound skip
  let first ← here
  let digits ← decimalDigits bound
  let span ← spanFrom first
  skipBlanks bound (do let _ ← advance)
  if digits.isEmpty then return .error ⟨.repetitionCountEmpty, span, none⟩
  let n := valueInBase 10 digits
  if n < 4294967296 then return .ok n else return .error ⟨.decimalInvalid, span, none⟩

def ofExcept : Except Fault Nat → Reader Nat
  | .ok n => pure n
  | .error f => throw f

/-- Whether a part can be repeated. -/
def isRepeatable : Expression → Bool
  | .empty _ | .flags .. => false
  | _ => true

/-- The part before a repetition mark, which is ahead, and the parts before that. -/
def repeated (parts : List Expression) : Reader (List Expression × Expression) := do
  match parts.getLast? with
  | some part =>
    if isRepeatable part then pure (parts.dropLast, part) else failHere .repetitionMissing
  | none => failHere .repetitionMissing

/-- The question mark that makes a repetition prefer less. -/
def skipLazyMark : Reader Unit := do
  let _ ← skipMark "?"

/-- A part with a mark of repetition behind it. -/
def markedRepetition (low : Nat) (high : Option Nat) (parts : List Expression) :
    Reader (List Expression) := do
  let (before, part) ← repeated parts
  skip
  skipLazyMark
  let stop ← here
  pure (before ++ [.repetition ⟨part.span.first, stop⟩ low high part])

/-- The least and the greatest count of a repetition in braces; the place is behind the brace. -/
def countRange (opening : Position) : Reader (Nat × Option Nat) := do
  let low ← count
  match ← ahead with
  | none => failBetween .repetitionCountUnclosed opening
  | some ',' => do
    if !(← advance) then failBetween .repetitionCountUnclosed opening
    if (← ahead) = some '\x7d' then return (← ofExcept low, none)
    let low ← ofExcept low
    let high ← ofExcept (← count)
    return (low, some high)
  | some _ => do
    let n ← ofExcept low
    return (n, some n)

/-- A part with a count behind it. -/
def countedRepetition (parts : List Expression) : Reader (List Expression) := do
  let first ← here
  let (before, part) ← repeated parts
  if !(← advance) then failBetween .repetitionCountUnclosed first
  let (low, high) ← countRange first
  if (← ahead) ≠ some '\x7d' then failBetween .repetitionCountUnclosed first
  let _ ← advance
  skipLazyMark
  if high.any (· < low) then failBetween .repetitionCountInvalid first
  let stop ← here
  pure (before ++ [.repetition ⟨part.span.first, stop⟩ low high part])

/-- Parts in a row as one expression. -/
def inRow (span : Span) : List Expression → Expression
  | [] => .empty span
  | [part] => part
  | parts => .concat span parts

/-- Branches as one expression, which starts where the first of them does. -/
def branched (first : Position) (branches : List Expression) (last : Expression) (stop : Position) :
    Expression :=
  if branches.isEmpty then last else .alternation ⟨first, stop⟩ (branches ++ [last])

def setSpaced (spaced : Bool) : Reader Unit := modify fun p => { p with spaced }

/-- Branches up to the closing parenthesis, or to the end where none is open. -/
def branchesFrom : (bound : Nat) → (opened : Option Span) → (first : Position) →
    (branches : List Expression) → (start : Position) → (parts : List Expression) →
    Reader Expression
  | 0, _, _, _, start, parts => do return inRow (← spanFrom start) parts
  | bound + 1, opened, first, branches, start, parts => do
    skipSpace
    match ← ahead with
    | none =>
      match opened with
      | some opened => fail .groupUnclosed opened
      | none => return branched first branches (inRow (← spanFrom start) parts) (← here)
    | some ')' =>
      match opened with
      | some _ => return branched first branches (inRow (← spanFrom start) parts) (← here)
      | none => failAtChar .groupUnopened
    | some '|' => do
      let branch := inRow (← spanFrom start) parts
      skip
      branchesFrom bound opened first (branches ++ [branch]) (← here) []
    | some '(' => do
      match ← opening with
      | .flags e items =>
        match flagState? .spaced false items with
        | some spaced => setSpaced spaced
        | none => pure ()
        branchesFrom bound opened first branches start (parts ++ [e])
      | .group inner captures items => do
        let outer := (← get).spaced
        setSpaced ((flagState? .spaced false items).getD outer)
        let innerStart ← here
        let e ← branchesFrom bound (some inner) innerStart [] innerStart []
        setSpaced outer
        skip
        let group := .group (← spanFrom inner.first) captures items e
        branchesFrom bound opened first branches start (parts ++ [group])
    | some '[' => do
      let e ← brackets
      branchesFrom bound opened first branches start (parts ++ [e])
    | some '?' => do
      let parts ← markedRepetition 0 (some 1) parts
      branchesFrom bound opened first branches start parts
    | some '*' => do
      let parts ← markedRepetition 0 none parts
      branchesFrom bound opened first branches start parts
    | some '+' => do
      let parts ← markedRepetition 1 none parts
      branchesFrom bound opened first branches start parts
    | some '\x7b' => do
      let parts ← countedRepetition parts
      branchesFrom bound opened first branches start parts
    | some '\\' => do
      let p ← escape
      branchesFrom bound opened first branches start (parts ++ [.primitive p])
    | some c => do
      let span ← charSpan
      skip
      let p := match c with
        | '.' => Primitive.dot span
        | '^' | '$' => .assertion span false
        | c => .literal span false c
      branchesFrom bound opened first branches start (parts ++ [.primitive p])

/-- The tree of a pattern. -/
def parse (pattern : List Char) : Except Fault Expression :=
  (·.1) <$> branchesFrom (pattern.length + 1) none .start [] .start [] (.start pattern)

end LoxSyntax.Pattern
