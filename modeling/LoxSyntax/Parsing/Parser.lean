import LoxSyntax.Parsing.Expression

/-!
# A parser and its moves

A cursor, the levels that a failed expression left open, and the reporter that failures go to.
-/
namespace LoxSyntax.Parsing

structure Parser where
  cursor : Cursor
  depth : Nat
  reporter : Reporter
  deriving DecidableEq, Repr

namespace Parser

def ofTokens (tokens : List Token) (reporter : Reporter) : Parser := ⟨.ofTokens tokens, 0, reporter⟩

/-- Whether the token ahead has this kind; never at the end. -/
def check (p : Parser) (kind : TokenKind) : Bool := (p.cursor.accept? (· = kind)).isSome

/-- Moves on and gives the token passed, or the last one at the end. -/
def advance (p : Parser) : Token × Parser :=
  let cursor := p.cursor.advance
  (cursor.previous, { p with cursor })

/-- Passes the token ahead if its kind is listed. -/
def matchKinds (p : Parser) (kinds : List TokenKind) : Bool × Parser :=
  match p.cursor.accept? (· ∈ kinds) with
  | some (_, cursor) => (true, { p with cursor })
  | none => (false, p)

/-- Passes a token of this kind, or reports the message at the token ahead. -/
def consume (p : Parser) (kind : TokenKind) (message : String) : Option Token × Parser :=
  match p.cursor.accept? (· = kind) with
  | some (t, cursor) => (some t, { p with cursor })
  | none => (none, { p with reporter := p.reporter.report (.atToken p.cursor.peek message) })

/-- Discards tokens until a likely statement boundary. -/
def synchronize (p : Parser) : Parser := { p with cursor := p.cursor.synchronize }

/-- Reads an expression below the levels already open; a failure is reported and stays where it
happened. -/
def expression (p : Parser) : Option Expr × Parser :=
  match parseExpression (maxDepth - p.depth) p.cursor with
  | .ok (e, cursor) => (some e, { p with cursor })
  | .error f => (none, ⟨f.cursor, f.depth, p.reporter.report f.diagnostic⟩)

/-- Reads an expression with no level open; tokens without a closing end marker are refused. -/
def parse (p : Parser) : Option Expr × Parser :=
  if p.cursor.endsProperly then expression { p with depth := 0 } else (none, p)

end Parser

/-- Parses one expression from the start of a token list. -/
def parse (tokens : List Token) (reporter : Reporter) : Option Expr × Reporter :=
  let (e, p) := (Parser.ofTokens tokens reporter).parse
  (e, p.reporter)

end LoxSyntax.Parsing
