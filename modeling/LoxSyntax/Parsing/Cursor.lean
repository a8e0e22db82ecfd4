import LoxSyntax.Token.Basic

/-!
# A place in a token list

What lies ahead decides everything that parsing does; behind are only a count and the last token.
No move passes an end marker, and beyond the list one is read.
-/
namespace LoxSyntax.Parsing

structure Cursor where
  consumed : Nat
  last : Option Token
  rest : List Token
  deriving DecidableEq, Repr

namespace Cursor

def ofTokens (tokens : List Token) : Cursor := ⟨0, none, tokens⟩

/-- The token ahead. -/
def peek (c : Cursor) : Token := c.rest.head?.getD (.endOfFile 0)

/-- The token just passed; the one ahead before any move. -/
def previous (c : Cursor) : Token := c.last.getD c.peek

def isAtEnd (c : Cursor) : Bool := c.peek.isEndOfFile

/-- Whether an end marker closes what is ahead. -/
def endsProperly (c : Cursor) : Bool := c.rest.getLast?.any (·.isEndOfFile)

/-- One token onwards, unless at the end. -/
def advance (c : Cursor) : Cursor :=
  match c.rest with
  | t :: more => if t.isEndOfFile then c else ⟨c.consumed + 1, some t, more⟩
  | [] => c

/-- Passes the token ahead if it is no end marker and its kind is admitted. -/
def accept? (c : Cursor) (admits : TokenKind → Bool) : Option (Token × Cursor) :=
  match c.rest with
  | t :: more =>
    if !t.isEndOfFile && admits t.kind then some (t, ⟨c.consumed + 1, some t, more⟩) else none
  | [] => none

theorem accept?_eq_some_iff {c d : Cursor} {admits : TokenKind → Bool} {t : Token} :
    c.accept? admits = some (t, d) ↔
      ∃ more, c.rest = t :: more ∧ t.isEndOfFile = false ∧ admits t.kind = true ∧
        d = ⟨c.consumed + 1, some t, more⟩ := by
  unfold accept?
  split
  · rename_i u more h
    split
    · rename_i ha
      simp only [Bool.and_eq_true, Bool.not_eq_true'] at ha
      constructor
      · intro he
        obtain ⟨rfl, rfl⟩ := Prod.mk.inj (Option.some.inj he)
        exact ⟨more, h, ha.1, ha.2, rfl⟩
      · rintro ⟨more', h', -, -, rfl⟩
        obtain ⟨rfl, rfl⟩ := List.cons.inj (h.symm.trans h')
        rfl
    · rename_i ha
      constructor
      · intro he
        exact absurd he (by simp)
      · rintro ⟨more', h', he, hk, rfl⟩
        obtain ⟨rfl, rfl⟩ := List.cons.inj (h.symm.trans h')
        simp [he, hk] at ha
  · rename_i h
    simp [h]

/-- Moves on until a statement boundary: just after a semicolon, or before a token that starts a
statement. -/
def seekBoundary (consumed : Nat) (last : Option Token) : List Token → Cursor
  | [] => ⟨consumed, last, []⟩
  | t :: more =>
    if t.isEndOfFile || last.any (·.kind = .semicolon) || t.kind.startsStatement then
      ⟨consumed, last, t :: more⟩
    else seekBoundary (consumed + 1) (some t) more

/-- Discards one token and then all up to the next statement boundary. -/
def synchronize (c : Cursor) : Cursor :=
  let c := c.advance
  seekBoundary c.consumed c.last c.rest

end Cursor

end LoxSyntax.Parsing
