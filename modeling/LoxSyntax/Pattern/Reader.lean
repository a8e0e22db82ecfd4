import LoxSyntax.Pattern.Basic
import LoxSyntax.Text.Blank

/-!
# Reading a pattern

What lies ahead, where it stands, and the moves over it. In a spaced pattern white space and
comments mean nothing where a move may pass them.
-/
namespace LoxSyntax.Pattern

open Text (isBlank)

/-- A pattern partly read: what lies ahead, whether it is spaced, and the group names so far. -/
structure Place where
  rest : List Char
  position : Position
  spaced : Bool
  names : List (List Char × Span)

def Place.start (pattern : List Char) : Place := ⟨pattern, .start, false, []⟩

abbrev Reader := StateT Place (Except Fault)

/-- Passes one character, if there is one. -/
def Place.move (p : Place) : Place :=
  match p.rest with
  | [] => p
  | c :: more => { p with rest := more, position := p.position.past c }

/-- Passes the characters in front of which a text has ended. -/
def Place.moveTo (p : Place) (rest : List Char) : Place :=
  (p.rest.take (p.rest.length - rest.length)).foldl (fun p _ => p.move) p

/-- A text behind the comment it begins in. -/
def afterComment (text : List Char) : List Char := (text.dropWhile (· ≠ '\n')).drop 1

/-- A text behind white space and comments. -/
def afterSpace : (bound : Nat) → List Char → List Char
  | 0, text => text
  | bound + 1, text =>
    match text.dropWhile isBlank with
    | '#' :: more => afterSpace bound (afterComment more)
    | text => text

def ahead : Reader (Option Char) := fun p => .ok (p.rest.head?, p)

def atEnd : Reader Bool := fun p => .ok (p.rest.isEmpty, p)

def here : Reader Position := fun p => .ok (p.position, p)

/-- The empty span at this place. -/
def hereSpan : Reader Span := fun p => .ok (⟨p.position, p.position⟩, p)

/-- The span from an earlier place to this one. -/
def spanFrom (first : Position) : Reader Span := fun p => .ok (⟨first, p.position⟩, p)

/-- The span of the character ahead. -/
def charSpan : Reader Span := fun p => .ok (⟨p.position, p.move.position⟩, p)

def skip : Reader Unit := fun p => .ok ((), p.move)

/-- Passes white space and comments of a spaced pattern. -/
def skipSpace : Reader Unit := fun p =>
  .ok ((), if p.spaced then p.moveTo (afterSpace (p.rest.length + 1) p.rest) else p)

/-- Passes a character and the space behind it; says whether more lies ahead. -/
def advance : Reader Bool := do
  skip
  skipSpace
  return !(← atEnd)

/-- Passes a mark, if it lies ahead. -/
def skipMark (mark : String) : Reader Bool := fun p =>
  if mark.toList.isPrefixOf p.rest then .ok (true, p.moveTo (p.rest.drop mark.length))
  else .ok (false, p)

def fail {α : Type} (cause : Cause) (span : Span) : Reader α := throw ⟨cause, span, none⟩

def failBetween {α : Type} (cause : Cause) (first : Position) : Reader α := do
  fail cause (← spanFrom first)

def failHere {α : Type} (cause : Cause) : Reader α := do
  fail cause (← hereSpan)

def failAtChar {α : Type} (cause : Cause) : Reader α := do
  fail cause (← charSpan)

/-- The character after the one ahead. -/
def second : Reader (Option Char) := fun p => .ok ((p.rest.drop 1).head?, p)

/-- The character that a spaced pattern goes on with. A number sign hides only the white space
behind it. -/
def afterMark : (inComment : Bool) → List Char → Option Char
  | _, [] => none
  | inComment, c :: more =>
    if isBlank c then afterMark inComment more
    else if c = '#' && !inComment then afterMark true more
    else some c

/-- The character after the one ahead and, in a spaced pattern, the space behind it; where nothing
but space follows, that counts. -/
def secondSpaced : Reader (Option Char) := fun p =>
  let rest := p.rest.drop 1
  if p.spaced then .ok ((afterMark false rest).or rest.head?, p) else .ok (rest.head?, p)

end LoxSyntax.Pattern
