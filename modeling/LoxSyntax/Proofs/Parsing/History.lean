import LoxSyntax.Proofs.Parsing.Faults

/-!
# What earlier moves leave behind

After any moves a parser stands at some place of its tokens, with the levels open that the last
failed expression left. The next expression is read as from that place by a new parser, unless those
levels are missed: then, and only then, the nesting is reported where it is not too deep.
-/
namespace LoxSyntax.Parsing

private theorem SyntaxError.message_inj {a b : SyntaxError} (h : a.message = b.message) :
    a = b := by
  cases a <;> cases b <;> first | rfl | exact absurd h (by decide)

namespace Cursor

variable {tokens : List Token}

private theorem exists_passes_advance (c : Cursor) : ∃ ts, c.Passes ts c.advance := by
  unfold advance
  split
  · rename_i t more h
    split
    · exact ⟨[], .refl c⟩
    · rename_i ends
      exact ⟨[t], h, rfl, rfl, by simpa using ends⟩
  · exact ⟨[], .refl c⟩

theorem exists_passes_seekBoundary (consumed : Nat) (last : Option Token) (rest : List Token) :
    ∃ ts, Passes ⟨consumed, last, rest⟩ ts (seekBoundary consumed last rest) := by
  fun_induction seekBoundary consumed last rest with
  | case1 consumed last => exact ⟨[], .refl _⟩
  | case2 consumed last t more stops => exact ⟨[], .refl _⟩
  | case3 consumed last t more goes ih =>
    obtain ⟨ts, passes⟩ := ih
    have ends : t.isEndOfFile = false := by
      cases he : t.isEndOfFile <;> simp_all
    have one : Passes ⟨consumed, last, t :: more⟩ [t] ⟨consumed + 1, some t, more⟩ :=
      ⟨rfl, rfl, rfl, by simpa using ends⟩
    exact ⟨_, one.trans passes⟩

private theorem exists_passes_synchronize (c : Cursor) : ∃ ts, c.Passes ts c.synchronize := by
  obtain ⟨ts, passes⟩ := c.exists_passes_advance
  obtain ⟨us, others⟩ := exists_passes_seekBoundary c.advance.consumed c.advance.last c.advance.rest
  exact ⟨_, passes.trans others⟩

end Cursor

/-- What can be asked of a parser. -/
inductive Move
  | advance
  | matchKinds (kinds : List TokenKind)
  | consume (kind : TokenKind) (message : String)
  | synchronize
  | expression
  | parse

def Move.run : Move → Parser → Parser
  | advance, p => p.advance.2
  | matchKinds kinds, p => (p.matchKinds kinds).2
  | consume kind message, p => (p.consume kind message).2
  | synchronize, p => p.synchronize
  | expression, p => p.expression.2
  | parse, p => p.parse.2

namespace Parser

/-- The parser after some moves. -/
def after (p : Parser) (moves : List Move) : Parser := moves.foldl (fun p m => m.run p) p

/-- How an expression is read, with the levels left to open. -/
def reading (p : Parser) : Outcome := parseExpression (maxDepth - p.depth) p.cursor

variable {p q : Parser} {e : Expr} {d : Cursor} {f : Failure}

theorem expression_of_ok (h : p.reading = .ok (e, d)) :
    p.expression = (some e, { p with cursor := d }) := by
  rw [expression, ← reading, h]

theorem expression_of_error (h : p.reading = .error f) :
    p.expression = (none, ⟨f.cursor, f.depth, p.reporter.report f.diagnostic⟩) := by
  rw [expression, ← reading, h]

/-- A parser some moves later: behind more tokens, with more reported; where nothing was reported,
no level was opened that stays open. -/
structure Follows (p q : Parser) : Prop where
  passes : ∃ ts, p.cursor.Passes ts q.cursor
  reports : ∃ ds, q.reporter = p.reporter.record ds ∧ (ds = [] → p.depth = 0 → q.depth = 0)

namespace Follows

variable {r : Parser} {ts : List Token}

private theorem of_passes (h : p.cursor.Passes ts d) : p.Follows { p with cursor := d } :=
  ⟨⟨ts, h⟩, [], p.reporter.record_nil.symm, fun _ closed => closed⟩

theorem refl (p : Parser) : p.Follows p := .of_passes (.refl p.cursor)

theorem trans (h : p.Follows q) (h' : q.Follows r) : p.Follows r := by
  obtain ⟨⟨ts, passes⟩, ds, reported, silent⟩ := h
  obtain ⟨⟨us, others⟩, es, later, silent'⟩ := h'
  refine ⟨⟨_, passes.trans others⟩, ds ++ es, ?_, fun none closed => ?_⟩
  · rw [later, reported, Reporter.record_append]
  · obtain ⟨rfl, rfl⟩ := List.append_eq_nil_iff.1 none
    exact silent' rfl (silent rfl closed)

/-- Only an expression that fails leaves levels open, and it reports that. -/
theorem expression (p : Parser) : p.Follows p.expression.2 := by
  cases h : p.reading with
  | ok r =>
    obtain ⟨e, d⟩ := r
    have read : Reads (.level (some .equality)) (maxDepth - p.depth) p.cursor e d := .of_parse h
    obtain ⟨ts, passes, -⟩ := read.carried
    rw [expression_of_ok h]
    exact .of_passes passes
  | error f =>
    have failed : Fails (.level (some .equality)) (maxDepth - p.depth) p.cursor f := .of_parse h
    obtain ⟨ts, passes, -⟩ := failed.carried
    rw [expression_of_error h]
    exact ⟨⟨ts, passes⟩, [f.diagnostic], rfl, by simp⟩

end Follows

end Parser

theorem Move.follows (m : Move) (p : Parser) : p.Follows (m.run p) := by
  cases m with
  | advance =>
    obtain ⟨ts, passes⟩ := p.cursor.exists_passes_advance
    exact .of_passes passes
  | matchKinds kinds =>
    rw [run, Parser.matchKinds]
    split
    · exact .of_passes (.of_accept? ‹_›)
    · exact .refl p
  | consume kind message =>
    rw [run, Parser.consume]
    split
    · exact .of_passes (.of_accept? ‹_›)
    · exact ⟨⟨[], .refl _⟩, [.atToken p.cursor.peek message], rfl, by simp⟩
  | synchronize =>
    obtain ⟨ts, passes⟩ := p.cursor.exists_passes_synchronize
    exact .of_passes passes
  | expression => exact .expression p
  | parse =>
    rw [run, Parser.parse]
    split
    · obtain ⟨passes, ds, reported, silent⟩ := Parser.Follows.expression { p with depth := 0 }
      exact ⟨passes, ds, reported, fun none _ => silent none rfl⟩
    · exact .refl p

namespace Parser

variable {p q : Parser} {e : Expr}

private theorem follows_after (p : Parser) (moves : List Move) : p.Follows (p.after moves) := by
  induction moves generalizing p with
  | nil => exact .refl p
  | cons m moves ih => exact (m.follows p).trans (ih (m.run p))

private theorem rest_after (tokens : List Token) (r : Reporter) (moves : List Move) :
    tokens.drop ((ofTokens tokens r).after moves).cursor.consumed =
      ((ofTokens tokens r).after moves).cursor.rest := by
  obtain ⟨ts, passes⟩ := ((ofTokens tokens r).follows_after moves).passes
  have whole : tokens = ts ++ ((ofTokens tokens r).after moves).cursor.rest := passes.rest
  have count : ((ofTokens tokens r).after moves).cursor.consumed = ts.length :=
    passes.consumed.trans (Nat.zero_add _)
  rw [count]
  exact (congrArg (List.drop ts.length) whole).trans List.drop_left

/-- Moves that report nothing leave no level open. -/
theorem depth_after_eq_zero {r : Reporter} {tokens : List Token} {moves : List Move}
    (silent : ((ofTokens tokens r).after moves).reporter = r) :
    ((ofTokens tokens r).after moves).depth = 0 := by
  obtain ⟨ds, reported, closed⟩ := ((ofTokens tokens r).follows_after moves).reports
  refine closed ?_ rfl
  have listed : r.diagnostics ++ ds = r.diagnostics :=
    congrArg Reporter.diagnostics (reported.symm.trans silent)
  simpa using listed

/-- Two parsers read the next expression alike: with the same result, the same number of tokens and
the same diagnostics. -/
structure AgreesNext (p q : Parser) : Prop where
  result : p.expression.1 = q.expression.1
  consumed : ∃ n, p.expression.2.cursor.consumed = p.cursor.consumed + n ∧
    q.expression.2.cursor.consumed = q.cursor.consumed + n
  reported : ∃ ds, p.expression.2.reporter = p.reporter.record ds ∧
    q.expression.2.reporter = q.reporter.record ds

/-- The next expression is refused for its nesting. -/
def RefusesNext (p : Parser) : Prop :=
  ∃ d, p.expression.2.reporter = p.reporter.report d ∧ d.message = "Too much nesting."

private theorem agreesNext_of_alike (h : Alike p.cursor q.cursor p.reading q.reading) :
    p.AgreesNext q := by
  generalize hp : p.reading = o at h
  generalize hq : q.reading = o' at h
  cases h with
  | @read ts e d d' own other =>
    have ep := expression_of_ok hp
    have eq := expression_of_ok hq
    refine ⟨by rw [ep, eq], ⟨ts.length, ?_, ?_⟩, ⟨[], ?_, ?_⟩⟩
    · rw [ep]
      exact own.consumed
    · rw [eq]
      exact other.consumed
    · rw [ep, Reporter.record_nil]
    · rw [eq, Reporter.record_nil]
  | @failed ts f f' own other cause token =>
    have ep := expression_of_error hp
    have eq := expression_of_error hq
    refine ⟨by rw [ep, eq], ⟨ts.length, ?_, ?_⟩, ⟨[f.diagnostic], ?_, ?_⟩⟩
    · rw [ep]
      exact own.consumed
    · rw [eq]
      exact other.consumed
    · rw [ep]
      rfl
    · rw [eq, Failure.diagnostic, cause, token]
      rfl

/-- A refusal for nesting is a failure for want of room. -/
theorem refusesNext_iff :
    p.RefusesNext ↔ ∃ f, p.reading = .error f ∧ f.cause = .tooMuchNesting := by
  constructor
  · rintro ⟨d, reported, message⟩
    cases h : p.reading with
    | ok r =>
      have listed := congrArg Reporter.diagnostics reported
      rw [expression_of_ok h] at listed
      simp [Reporter.report] at listed
    | error f =>
      have listed := congrArg Reporter.diagnostics reported
      rw [expression_of_error h] at listed
      obtain rfl : f.diagnostic = d := by simpa [Reporter.report] using listed
      exact ⟨f, rfl, SyntaxError.message_inj message⟩
  · rintro ⟨f, h, cause⟩
    refine ⟨f.diagnostic, by rw [expression_of_error h], ?_⟩
    rw [Failure.diagnostic, cause]
    rfl

section Same

variable (same : q.cursor.rest = p.cursor.rest)

include same

/-- What one parser reads as a tree another reads so too exactly if the levels it has left cover the
need of the tree. -/
theorem agreesNext_iff_need (read : q.expression.1 = some e) :
    p.AgreesNext q ↔ e.need ≤ maxDepth - p.depth := by
  obtain ⟨d', hq⟩ : ∃ d', q.reading = .ok (e, d') := by
    cases hq : q.reading with
    | error f =>
      rw [expression_of_error hq] at read
      cases read
    | ok r =>
      rw [expression_of_ok hq] at read
      cases read
      exact ⟨r.2, rfl⟩
  constructor
  · intro agrees
    have result := agrees.result.trans read
    cases hp : p.reading with
    | error f =>
      rw [expression_of_error hp] at result
      cases result
    | ok r =>
      rw [expression_of_ok hp] at result
      cases result
      obtain ⟨⟨ts, built⟩, -⟩ := built_of_parseExpression hp
      exact built.fits
  · intro fits
    obtain ⟨⟨ts, built⟩, front⟩ := built_of_parseExpression hq
    obtain ⟨d, own, rest⟩ := built.passes.transport same.symm
    have front' : operatorAhead? d.rest = none := by rwa [rest]
    have hp : p.reading = .ok (e, d) :=
      (gated_parseExpression _ built.canonical built.yields own front').fits fits
    refine agreesNext_of_alike ?_
    rw [hp, hq]
    exact .read own built.passes

variable (fresh : q.depth = 0)

include fresh

/-- With no level open, or with levels enough, an expression is read as by a new parser. -/
theorem agreesNext_of_room (room : p.depth = 0 ∨ ¬p.RefusesNext) : p.AgreesNext q := by
  have alike (f : Failure) (run : p.reading = .error f) (deep : f.cause = .tooMuchNesting) :
      maxDepth - q.depth = maxDepth - p.depth := by
    rcases room with closed | enough
    · rw [closed, fresh]
    · exact absurd (refusesNext_iff.2 ⟨f, run, deep⟩) enough
  have enough : maxDepth - p.depth ≤ maxDepth - q.depth := by omega
  exact agreesNext_of_alike (alike_of_rest_eq (.level (some .equality)) same enough alike)

private theorem not_agreesNext (opened : p.depth ≠ 0) (refused : p.RefusesNext) :
    ¬p.AgreesNext q := by
  intro agrees
  obtain ⟨f, hp, deep⟩ := refusesNext_iff.1 refused
  obtain ⟨f', hq, deep'⟩ : ∃ f', q.reading = .error f' ∧ f'.cause = .tooMuchNesting := by
    obtain ⟨ds, ep, eq⟩ := agrees.reported
    obtain ⟨d, reported, message⟩ := refused
    refine refusesNext_iff.1 ⟨d, ?_, message⟩
    have listed := congrArg Reporter.diagnostics (ep.symm.trans reported)
    obtain rfl : ds = [d] := by simpa [Reporter.report] using listed
    exact eq
  obtain ⟨n, np, nq⟩ := agrees.consumed
  rw [expression_of_error hp] at np
  rw [expression_of_error hq] at nq
  change f.cursor.consumed = p.cursor.consumed + n at np
  change f'.cursor.consumed = q.cursor.consumed + n at nq
  have fails : Fails (.level (some .equality)) (maxDepth - p.depth) p.cursor f := .of_parse hp
  have fails' : Fails (.level (some .equality)) (maxDepth - q.depth) q.cursor f' := .of_parse hq
  obtain ⟨ts, own, -⟩ := fails.carried
  obtain ⟨us, other, -⟩ := fails'.carried
  have count : ts.length = us.length := by
    have := own.consumed
    have := other.consumed
    omega
  have tokens : ts ++ f.cursor.rest = us ++ f'.cursor.rest :=
    own.rest.symm.trans (same.symm.trans other.rest)
  obtain ⟨rfl, -⟩ := List.append_inj tokens count
  have demands := fails.demands deep own
  have demands' := fails'.demands deep' other
  have less := demands.mono demands' (List.prefix_refl _)
  have more := demands'.mono demands (List.prefix_refl _)
  rw [fresh] at less more
  simp only [maxDepth] at less more
  omega

end Same

/-- After any moves the next expression is read as by a new parser over the tokens ahead exactly if
no level was left open or what was left open is not missed. What the new parser reads as a tree is
read so exactly if the levels left cover its need. Moves that reported nothing change nothing. -/
theorem agreesNext_iff (tokens : List Token) (r r' : Reporter) (moves : List Move) :
    let p := (ofTokens tokens r).after moves
    let fresh := ofTokens (tokens.drop p.cursor.consumed) r'
    (p.AgreesNext fresh ↔ p.depth = 0 ∨ ¬p.RefusesNext) ∧
      (∀ e, fresh.expression.1 = some e → (p.AgreesNext fresh ↔ e.need ≤ maxDepth - p.depth)) ∧
      (p.reporter = r → p.AgreesNext fresh) := by
  intro p fresh
  have same : fresh.cursor.rest = p.cursor.rest := rest_after tokens r moves
  refine ⟨⟨fun agrees => ?_, agreesNext_of_room same rfl⟩, fun e => agreesNext_iff_need same,
    fun silent => agreesNext_of_room same rfl (.inl (depth_after_eq_zero silent))⟩
  by_cases closed : p.depth = 0
  · exact .inl closed
  · exact .inr fun refused => not_agreesNext same rfl closed refused agrees

/-- A group and a sign that are left open where a statement ends are not missed by a literal. -/
theorem agreesNext_iff_open_group :
    ∃ tokens moves, ∃ p fresh : Parser, p = (ofTokens tokens .empty).after moves ∧
      fresh = ofTokens (tokens.drop p.cursor.consumed) .empty ∧
      tokens = [.plain .leftParen "(", .plain .minus "-", .plain .semicolon ";",
        .plain (.keyword .nilWord) "nil", .endOfFile 1] ∧
      moves = [.expression, .synchronize] ∧ p.depth = 2 ∧
      fresh.expression.1 = some (.literal .nil) ∧ p.AgreesNext fresh := by
  let tokens : List Token := [.plain .leftParen "(", .plain .minus "-", .plain .semicolon ";",
    .plain (.keyword .nilWord) "nil", .endOfFile 1]
  let moves : List Move := [.expression, .synchronize]
  let p := (ofTokens tokens .empty).after moves
  have depth : p.depth = 2 := by decide +kernel
  have read : (ofTokens (tokens.drop p.cursor.consumed) .empty).expression.1 =
      some (.literal .nil) := by decide +kernel
  have need : (Expr.literal .nil).need ≤ maxDepth - p.depth := by
    rw [depth]
    decide
  exact ⟨tokens, moves, p, _, rfl, rfl, rfl, rfl, depth, read,
    ((agreesNext_iff tokens .empty .empty moves).2.1 _ read).2 need⟩

/-- Behind as many unclosed groups as may be opened even one group is refused. -/
theorem exists_not_agreesNext :
    ∃ tokens moves, ∃ p fresh : Parser, p = (ofTokens tokens .empty).after moves ∧
      fresh = ofTokens (tokens.drop p.cursor.consumed) .empty ∧
      tokens = List.replicate maxDepth (.plain .leftParen "(") ++ [.plain .semicolon ";",
        .plain .leftParen "(", .plain (.keyword .nilWord) "nil", .plain .rightParen ")",
        .endOfFile 1] ∧
      moves = [.expression, .synchronize] ∧ p.expression.1 = none ∧
      fresh.expression.1 = some (.grouping (.literal .nil)) ∧ ¬p.AgreesNext fresh := by
  let tokens : List Token := List.replicate maxDepth (.plain .leftParen "(") ++
    [.plain .semicolon ";", .plain .leftParen "(", .plain (.keyword .nilWord) "nil",
      .plain .rightParen ")", .endOfFile 1]
  let moves : List Move := [.expression, .synchronize]
  let p := (ofTokens tokens .empty).after moves
  have refused : p.expression.1 = none := by decide +kernel
  have read : (ofTokens (tokens.drop p.cursor.consumed) .empty).expression.1 =
      some (.grouping (.literal .nil)) := by decide +kernel
  refine ⟨tokens, moves, p, _, rfl, rfl, rfl, rfl, refused, read, fun agrees => ?_⟩
  have result := agrees.result
  rw [refused, read] at result
  cases result

end Parser

end LoxSyntax.Parsing
