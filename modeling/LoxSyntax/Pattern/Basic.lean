/-!
# Search patterns

The tree of a regular expression with the place of every part, and what can be wrong with one.
-/
namespace LoxSyntax.Pattern

/-- A place in a pattern: characters before it, its line, and its column on that line. -/
structure Position where
  index : Nat
  line : Nat
  column : Nat
  deriving DecidableEq, Repr

namespace Position

def start : Position := ⟨0, 1, 1⟩

/-- The place behind a character. -/
def past (p : Position) (c : Char) : Position :=
  if c = '\n' then ⟨p.index + 1, p.line + 1, 1⟩ else ⟨p.index + 1, p.line, p.column + 1⟩

end Position

/-- From one place up to another. -/
structure Span where
  first : Position
  last : Position
  deriving DecidableEq, Repr

/-- What is wrong with a pattern. -/
inductive Cause
  | classEscapeInvalid
  | classRangeInvalid
  | classRangeLiteral
  | classUnclosed
  | decimalInvalid
  | escapeHexEmpty
  | escapeHexInvalid
  | escapeHexInvalidDigit
  | escapeUnexpectedEnd
  | escapeUnrecognized
  | flagDanglingNegation
  | flagDuplicate
  | flagRepeatedNegation
  | flagUnexpectedEnd
  | flagUnrecognized
  | groupNameDuplicate
  | groupNameEmpty
  | groupNameInvalid
  | groupNameUnexpectedEnd
  | groupUnclosed
  | groupUnopened
  | nestedTooDeep
  | repetitionCountInvalid
  | repetitionCountEmpty
  | repetitionCountUnclosed
  | repetitionMissing
  | boundaryUnclosed
  | boundaryUnrecognized
  | boundaryUnexpectedEnd
  | propertyInvalid
  | backreference
  | lookAround
  | invalidUtf8
  | unicodeNotAllowed
  | propertyUnknown
  | propertyValueUnknown
  | classTableMissing
  | caseTableMissing
  deriving DecidableEq, Repr

/-- How deeply the parts of a pattern may be nested. -/
def maxNesting : Nat := 250

def Cause.message : Cause → String
  | classEscapeInvalid => "invalid escape sequence found in character class"
  | classRangeInvalid => "invalid character class range, the start must be <= the end"
  | classRangeLiteral => "invalid range boundary, must be a literal"
  | classUnclosed => "unclosed character class"
  | decimalInvalid => "decimal literal invalid"
  | escapeHexEmpty => "hexadecimal literal empty"
  | escapeHexInvalid => "hexadecimal literal is not a Unicode scalar value"
  | escapeHexInvalidDigit => "invalid hexadecimal digit"
  | escapeUnexpectedEnd => "incomplete escape sequence, reached end of pattern prematurely"
  | escapeUnrecognized => "unrecognized escape sequence"
  | flagDanglingNegation => "dangling flag negation operator"
  | flagDuplicate => "duplicate flag"
  | flagRepeatedNegation => "flag negation operator repeated"
  | flagUnexpectedEnd => "expected flag but got end of regex"
  | flagUnrecognized => "unrecognized flag"
  | groupNameDuplicate => "duplicate capture group name"
  | groupNameEmpty => "empty capture group name"
  | groupNameInvalid => "invalid capture group character"
  | groupNameUnexpectedEnd => "unclosed capture group name"
  | groupUnclosed => "unclosed group"
  | groupUnopened => "unopened group"
  | nestedTooDeep =>
    s!"exceed the maximum number of nested parentheses/brackets ({maxNesting})"
  | repetitionCountInvalid => "invalid repetition count range, the start must be <= the end"
  | repetitionCountEmpty => "repetition quantifier expects a valid decimal"
  | repetitionCountUnclosed => "unclosed counted repetition"
  | repetitionMissing => "repetition operator missing expression"
  | boundaryUnclosed =>
    "special word boundary assertion is either unclosed or contains an invalid character"
  | boundaryUnrecognized =>
    "unrecognized special word boundary assertion, valid choices are: start, end, start-half " ++
      "or end-half"
  | boundaryUnexpectedEnd =>
    "found either the beginning of a special word boundary or a bounded repetition on a \\b " ++
      "with an opening brace, but no closing brace"
  | propertyInvalid => "invalid Unicode character class"
  | backreference => "backreferences are not supported"
  | lookAround => "look-around, including look-ahead and look-behind, is not supported"
  | invalidUtf8 => "pattern can match invalid UTF-8"
  | unicodeNotAllowed => "Unicode not allowed here"
  | propertyUnknown => "Unicode property not found"
  | propertyValueUnknown => "Unicode property value not found"
  | classTableMissing =>
    "Unicode-aware Perl class not found (make sure the unicode-perl feature is enabled)"
  | caseTableMissing =>
    "Unicode-aware case insensitivity matching is not available (make sure the unicode-case " ++
      "feature is enabled)"

/-- A cause with its place, and the place of an earlier part that it clashes with. -/
structure Fault where
  cause : Cause
  span : Span
  earlier : Option Span
  deriving DecidableEq, Repr

inductive Flag
  | insensitive
  | multiLine
  | dotAll
  | swapGreed
  | unicode
  | carriageReturns
  | spaced
  deriving DecidableEq, Repr

/-- What stands among flags: a flag, or the mark that turns those after it off. -/
inductive FlagItem
  | negation
  | flag (f : Flag)
  deriving DecidableEq, Repr

/-- What the items say of a flag, each of which they name at most once. -/
def flagState? (f : Flag) : (negated : Bool) → List FlagItem → Option Bool
  | _, [] => none
  | _, .negation :: more => flagState? f true more
  | negated, .flag g :: more => if g = f then some !negated else flagState? f negated more

inductive NamedClass
  | digit
  | space
  | word
  deriving DecidableEq, Repr

/-- What a property is asked for: by one name, or by a name and a value. -/
inductive PropertyQuery
  | named (name : List Char)
  | valued
  deriving DecidableEq, Repr

/-- A single character or a set of them, as an escape or a plain character writes it. -/
inductive Primitive
  | literal (span : Span) (isByte : Bool) (c : Char)
  | dot (span : Span)
  | assertion (span : Span) (isWordBoundary : Bool)
  | property (span : Span) (query : PropertyQuery)
  | named (span : Span) (kind : NamedClass) (negated : Bool)
  deriving DecidableEq, Repr

def Primitive.span : Primitive → Span
  | literal span .. => span
  | dot span => span
  | assertion span _ => span
  | property span _ => span
  | named span .. => span

inductive SetOperator
  | intersection
  | difference
  | symmetricDifference
  deriving DecidableEq, Repr

/-- What stands between brackets. -/
inductive CharSet
  | empty (span : Span)
  | primitive (p : Primitive)
  | range (span : Span) (low high : Primitive)
  | ascii (span : Span) (contains : Char → Bool) (negated : Bool)
  | bracketed (span : Span) (negated : Bool) (inner : CharSet)
  | union (span : Span) (items : List CharSet)
  | combined (span : Span) (operator : SetOperator) (left right : CharSet)

def CharSet.span : CharSet → Span
  | empty span => span
  | primitive p => p.span
  | range span .. => span
  | ascii span .. => span
  | bracketed span .. => span
  | union span _ => span
  | combined span .. => span

inductive Expression
  | empty (span : Span)
  | flags (span : Span) (items : List FlagItem)
  | primitive (p : Primitive)
  | bracketed (span : Span) (negated : Bool) (set : CharSet)
  | repetition (span : Span) (low : Nat) (high : Option Nat) (inner : Expression)
  | group (span : Span) (captures : Bool) (items : List FlagItem) (inner : Expression)
  | alternation (span : Span) (branches : List Expression)
  | concat (span : Span) (parts : List Expression)

def Expression.span : Expression → Span
  | empty span => span
  | flags span _ => span
  | primitive p => p.span
  | bracketed span .. => span
  | repetition span .. => span
  | group span .. => span
  | alternation span _ => span
  | concat span _ => span

end LoxSyntax.Pattern
