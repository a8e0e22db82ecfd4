/-!
# Text on a plain screen

A text for a terminal may hold commands: control characters, and sequences that an escape character
opens. Where there is no terminal they are left out, all but white space.
-/
namespace LoxSyntax.Text

/-- Where in a command a text stands. -/
inductive CommandState
  | ground
  | escape
  | escapeMore
  | parameters
  | title
  | message
  deriving DecidableEq, Repr

namespace CommandState

/-- The state after a character. -/
def next (s : CommandState) (c : Char) : CommandState :=
  if c = '\x1b' then escape
  else if c = '\x18' || c = '\x1a' then ground
  else
    match s with
    | ground => ground
    | escape =>
      if c < ' ' || '\x7f' ≤ c then escape
      else if c < '0' then escapeMore
      else if c = '[' then parameters
      else if c = ']' then title
      else if c = 'P' || c = 'X' || c = '^' || c = '_' then message
      else ground
    | escapeMore => if '0' ≤ c && c < '\x7f' then ground else escapeMore
    | parameters => if '@' ≤ c && c < '\x7f' then ground else parameters
    | title => if c = '\x07' then ground else title
    | message => message

/-- Whether controls within a command take effect at once. -/
def letsControlsThrough : CommandState → Bool
  | title | message => false
  | _ => true

end CommandState

def isControlSpace (c : Char) : Bool := c = '\t' || c = '\n' || c = '\x0c' || c = '\r'

def isShown (c : Char) : Bool := isControlSpace c || (' ' ≤ c && c ≠ '\x7f')

/-- What is shown of a text. White space within a command is shown, and so is what follows it up to
the next control; only then the command goes on. -/
def shownFrom (showing : Bool) (s : CommandState) : List Char → List Char
  | [] => []
  | c :: more =>
    let shown :=
      if showing || s = .ground then isShown c else s.letsControlsThrough && isControlSpace c
    if shown then c :: shownFrom true s more else shownFrom false (s.next c) more

/-- A text without commands. -/
def screenText (text : String) : String := String.ofList (shownFrom true .ground text.toList)

end LoxSyntax.Text
