import LoxSyntax.Proofs.Parsing.Invariant
import Mathlib.Data.List.Basic

/-!
# Parsing again

Whatever happened to a parser before, parsing goes on as a new parser over the tokens ahead would.
So a parser that parses again and again reads what new parsers read, each where the one before it
stopped.
-/
namespace LoxSyntax.Parsing

private theorem Cursor.Passes.endsProperly_eq {c d : Cursor} {ts : List Token} (h : c.Passes ts d) :
    d.endsProperly = c.endsProperly := by
  cases ends : c.endsProperly with
  | true =>
    have ahead := h.rest_ne_nil ends
    rw [Cursor.endsProperly, h.rest, List.getLast?_append_of_ne_nil _ ahead] at ends
    exact ends
  | false =>
    refine Bool.eq_false_iff.2 fun closed => ?_
    rw [h.endsProperly closed] at ends
    cases ends

namespace Parser

variable {p q : Parser} {tokens : List Token} {r : Reporter}

/-- Two parsers parse alike: with the same result, the same number of tokens and the same
diagnostics. -/
structure ParsesAlike (p q : Parser) : Prop where
  result : p.parse.1 = q.parse.1
  consumed : ∃ n, p.parse.2.cursor.consumed = p.cursor.consumed + n ∧
    q.parse.2.cursor.consumed = q.cursor.consumed + n
  reported : ∃ ds, p.parse.2.reporter = p.reporter.record ds ∧
    q.parse.2.reporter = q.reporter.record ds

/-- The tokens ahead decide how a parser parses. -/
theorem parsesAlike_of_rest_eq (same : q.cursor.rest = p.cursor.rest) : p.ParsesAlike q := by
  have alike : q.cursor.endsProperly = p.cursor.endsProperly := by
    rw [Cursor.endsProperly, same, Cursor.endsProperly]
  by_cases ends : p.cursor.endsProperly = true
  · have own : p.parse = expression { p with depth := 0 } := if_pos ends
    have other : q.parse = expression { q with depth := 0 } := if_pos (alike.trans ends)
    have agrees : AgreesNext { p with depth := 0 } { q with depth := 0 } :=
      agreesNext_of_room same rfl (.inl rfl)
    refine ⟨?_, ?_, ?_⟩
    · rw [own, other]
      exact agrees.result
    · rw [own, other]
      exact agrees.consumed
    · rw [own, other]
      exact agrees.reported
  · have own : p.parse = (none, p) := if_neg ends
    have other : q.parse = (none, q) := if_neg (alike ▸ ends)
    refine ⟨by rw [own, other], ⟨0, ?_, ?_⟩, [], ?_, ?_⟩
    · rw [own, Nat.add_zero]
    · rw [other, Nat.add_zero]
    · rw [own, Reporter.record_nil]
    · rw [other, Reporter.record_nil]

private theorem rest_parse (ahead : p.cursor.rest = tokens.drop p.cursor.consumed) :
    p.parse.2.cursor.rest = tokens.drop p.parse.2.cursor.consumed := by
  obtain ⟨ts, passes⟩ := (Move.parse.follows p).passes
  have rest : p.cursor.rest = ts ++ p.parse.2.cursor.rest := passes.rest
  have consumed : p.parse.2.cursor.consumed = p.cursor.consumed + ts.length := passes.consumed
  rw [consumed, ← List.drop_drop, ← ahead, rest, List.drop_left]

/-- The results of parsing so many times, and the parser after that. -/
def parses : Nat → Parser → List (Option Expr) × Parser
  | 0, p => ([], p)
  | n + 1, p =>
    let (e, p) := p.parse
    let (es, p) := parses n p
    (e :: es, p)

/-- The results of so many parsers, each new where the one before it stopped, first at this place;
the last place and the reporter that all of them shared. -/
def parsesAnew (tokens : List Token) :
    Nat → Nat → Reporter → List (Option Expr) × Nat × Reporter
  | 0, place, r => ([], place, r)
  | n + 1, place, r =>
    let (e, p) := (ofTokens (tokens.drop place) r).parse
    let (es, place, r) := parsesAnew tokens n (place + p.cursor.consumed) p.reporter
    (e :: es, place, r)

private theorem parsesAnew_eq (n : Nat) (ahead : p.cursor.rest = tokens.drop p.cursor.consumed) :
    parsesAnew tokens n p.cursor.consumed p.reporter =
      ((p.parses n).1, (p.parses n).2.cursor.consumed, (p.parses n).2.reporter) := by
  induction n generalizing p with
  | zero => rfl
  | succ n ih =>
    obtain ⟨result, ⟨k, own, other⟩, ds, reported, reported'⟩ :=
      parsesAlike_of_rest_eq (q := ofTokens (tokens.drop p.cursor.consumed) p.reporter) ahead.symm
    have place :
        (ofTokens (tokens.drop p.cursor.consumed) p.reporter).parse.2.cursor.consumed = k :=
      other.trans (Nat.zero_add k)
    have reporter : (ofTokens (tokens.drop p.cursor.consumed) p.reporter).parse.2.reporter =
        p.parse.2.reporter := reported'.trans reported.symm
    rw [parsesAnew, parses]
    dsimp only
    rw [place, ← own, reporter, ← result, ih (rest_parse ahead)]

/-- After any requests a parser parses as a new one over the tokens ahead, whatever reporter that
one has. An end marker closes the tokens ahead exactly if one closes all tokens. Parsing again and
again gives what new parsers give, each over the tokens that the one before it left and with its
reporter. -/
theorem parse_restarts (tokens : List Token) (r r' : Reporter) (requests : List Request) :
    let p := (ofTokens tokens r).asked requests
    p.parse = (if tokens.getLast?.any (·.isEndOfFile) then expression { p with depth := 0 }
      else (none, p)) ∧
    p.ParsesAlike (ofTokens (tokens.drop p.cursor.consumed) r') ∧
    ∀ n, parsesAnew tokens n p.cursor.consumed p.reporter =
      ((p.parses n).1, (p.parses n).2.cursor.consumed, (p.parses n).2.reporter) := by
  intro p
  have follows : (ofTokens tokens r).Follows p := follows_asked (ofTokens tokens r) requests
  have ahead : p.cursor.rest = tokens.drop p.cursor.consumed :=
    (follows.within (depth_asked_le (Nat.zero_le maxDepth))).ahead
  obtain ⟨ts, passes⟩ := follows.passes
  have ends : p.cursor.endsProperly = tokens.getLast?.any (·.isEndOfFile) := passes.endsProperly_eq
  refine ⟨?_, parsesAlike_of_rest_eq ahead.symm, fun n => parsesAnew_eq n ahead⟩
  rw [parse, ends]

/-- A group that is not closed leaves its level open; the next parse starts with none open. -/
example : ((ofTokens [.plain (.keyword .trueWord) "true", .plain .leftParen "(",
    .plain (.keyword .falseWord) "false", .plain (.keyword .nilWord) "nil", .endOfFile 1]
      .empty).parses 3).1.map (·.map Expr.render) = [some "true", none, some "nil"] := by
  decide +kernel

end Parser

end LoxSyntax.Parsing
