import LoxSyntax.Pattern.Escape

/-!
# Classes in brackets

Characters, ranges and classes side by side, combined by doubled marks from left to right; brackets
within brackets are classes of their own or name a class of ASCII characters.
-/
namespace LoxSyntax.Pattern

/-- Adds an item to those side by side; the span grows from the first to the last. -/
def addItem (span : Span) (items : List CharSet) (item : CharSet) : Span × List CharSet :=
  (⟨if items.isEmpty then item.span.first else span.first, item.span.last⟩, items ++ [item])

/-- Items side by side as one set. -/
def setOfItems (span : Span) : List CharSet → CharSet
  | [] => .empty span
  | [item] => item
  | items => .union span items

/-- What stands left of an operator, which waits for its right side. -/
abbrev Awaiting := Option (SetOperator × CharSet)

def combine (waiting : Awaiting) (right : CharSet) : CharSet :=
  match waiting with
  | some (operator, left) =>
    .combined ⟨left.span.first, right.span.last⟩ operator left right
  | none => right

/-- The classes of ASCII characters by name. -/
def asciiClass? : String → Option (Char → Bool)
  | "alnum" => some Char.isAlphanum
  | "alpha" => some Char.isAlpha
  | "ascii" => some fun c => c.toNat < 128
  | "blank" => some fun c => c = '\t' || c = ' '
  | "cntrl" => some fun c => c.toNat < 32 || c.toNat = 127
  | "digit" => some Char.isDigit
  | "graph" => some fun c => '!' ≤ c && c ≤ '~'
  | "lower" => some Char.isLower
  | "print" => some fun c => ' ' ≤ c && c ≤ '~'
  | "punct" => some fun c => '!' ≤ c && c ≤ '~' && !c.isAlphanum
  | "space" => some fun c => c = ' ' || ('\t' ≤ c && c ≤ '\r')
  | "upper" => some Char.isUpper
  | "word" => some fun c => c.isAlphanum || c = '_'
  | "xdigit" => some isHexadecimal
  | _ => none

/-- A named class in its own brackets at the front of a text, and the text behind it. -/
def asciiClassAhead? (text : List Char) : Option ((Char → Bool) × Bool × List Char) :=
  match text with
  | '[' :: ':' :: text =>
    let (negated, text) := match text with
      | '^' :: more => (true, more)
      | text => (false, text)
    match text.dropWhile (· ≠ ':') with
    | ':' :: ']' :: rest =>
      (asciiClass? (String.ofList (text.takeWhile (· ≠ ':')))).map (·, negated, rest)
    | _ => none
  | _ => none

def asciiClass : Reader (Option CharSet) := fun p =>
  match asciiClassAhead? p.rest with
  | some (contains, negated, rest) =>
    let after := p.moveTo rest
    .ok (some (.ascii ⟨p.position, after.position⟩ contains negated), after)
  | none => .ok (none, p)

/-- Dashes at the front of a class, which stand for themselves. -/
def leadingDashes (opening : Position) : (bound : Nat) → Span → List CharSet →
    Reader (Span × List CharSet)
  | 0, span, items => pure (span, items)
  | bound + 1, span, items => do
    match ← ahead with
    | some '-' => do
      let (span, items) := addItem span items (.primitive (.literal (← charSpan) false '-'))
      if !(← advance) then fail .classUnclosed ⟨opening, opening⟩
      leadingDashes opening bound span items
    | _ => pure (span, items)

/-- An opening bracket with what belongs to it: a caret, and dashes or one closing bracket that
stand for themselves. Gives the span up to there, whether the class is negated, and the items. -/
def openBracket : Reader (Span × Bool × Span × List CharSet) := do
  let first ← here
  if !(← advance) then failBetween .classUnclosed first
  let negated := (← ahead) = some '^'
  if negated then
    if !(← advance) then failBetween .classUnclosed first
  let (span, items) ← leadingDashes first ((← get).rest.length) (← hereSpan) []
  match ← ahead with
  | some ']' =>
    if items.isEmpty then do
      let (span, items) := addItem span items (.primitive (.literal (← charSpan) false ']'))
      if !(← advance) then failBetween .classUnclosed first
      return (← spanFrom first, negated, span, items)
    else return (← spanFrom first, negated, span, items)
  | _ => return (← spanFrom first, negated, span, items)

/-- A character of a class, or an escape. -/
def classPrimitive : Reader Primitive := do
  match ← ahead with
  | some '\\' => escape
  | some c => do
    let span ← charSpan
    skip
    pure (.literal span false c)
  | none => failHere .classUnclosed

/-- An end of a range has to be a single character. -/
def rangeEnd (p : Primitive) : Reader Char :=
  match p with
  | .literal _ _ c => pure c
  | p => fail .classRangeLiteral p.span

/-- One item of a class: a character, a class by escape, or a range. -/
def classItem (opened : Span) : Reader CharSet := do
  let low ← classPrimitive
  skipSpace
  if ← atEnd then fail .classUnclosed opened
  let next ← secondSpaced
  if (← ahead) ≠ some '-' || next = some ']' || next = some '-' then
    match low with
    | .dot span | .assertion span _ => fail .classEscapeInvalid span
    | low => pure (.primitive low)
  else do
    if !(← advance) then fail .classUnclosed opened
    let high ← classPrimitive
    let span : Span := ⟨low.span.first, high.span.last⟩
    let lowChar ← rangeEnd low
    let highChar ← rangeEnd high
    if highChar < lowChar then fail .classRangeInvalid span
    pure (.range span low high)

/-- The operator that the mark ahead, doubled, stands for. -/
def operatorAhead? (c : Char) (next : Option Char) : Option SetOperator :=
  if next ≠ some c then none
  else match c with
    | '&' => some .intersection
    | '-' => some .difference
    | '~' => some .symmetricDifference
    | _ => none

/-- What follows in a class up to its closing bracket, as the whole class. -/
def classRest : (bound : Nat) → (opened : Span) → (negated : Bool) → Awaiting → Span →
    List CharSet → Reader (Span × CharSet)
  | 0, opened, _, _, _, _ => fail .classUnclosed opened
  | bound + 1, opened, negated, waiting, span, items => do
    skipSpace
    match ← ahead with
    | none => fail .classUnclosed opened
    | some ']' => do
      skip
      pure (← spanFrom opened.first, combine waiting (setOfItems span items))
    | some '[' => do
      match ← asciiClass with
      | some item => do
        let (span, items) := addItem span items item
        classRest bound opened negated waiting span items
      | none => do
        let (inner, innerNegated, innerSpan, innerItems) ← openBracket
        let (whole, set) ← classRest bound inner innerNegated none innerSpan innerItems
        let (span, items) := addItem span items (.bracketed whole innerNegated set)
        classRest bound opened negated waiting span items
    | some c =>
      match operatorAhead? c (← second) with
      | some operator => do
        skip
        skip
        let left := combine waiting (setOfItems span items)
        classRest bound opened negated (some (operator, left)) (← hereSpan) []
      | none => do
        let item ← classItem opened
        let (span, items) := addItem span items item
        classRest bound opened negated waiting span items

/-- A class in brackets; the place is on the opening one. -/
def brackets : Reader Expression := do
  let (opened, negated, span, items) ← openBracket
  let (whole, set) ← classRest ((← get).rest.length + 1) opened negated none span items
  pure (.bracketed whole negated set)

end LoxSyntax.Pattern
