import LoxSyntax.Proofs.Parsing.Counter
import LoxSyntax.Proofs.Parsing.History

/-!
# What holds of a parser at any time

Whatever a parser was asked before, it stands within its tokens and behind no end marker, with no
more levels open than may be, and keeps what it recorded. From any such state an expression is read
as with a counter of levels that is never lowered below zero and that a tree leaves as it was.
-/
namespace LoxSyntax

private theorem Expr.Yields.ne_nil {e : Expr} {ts : List Token} (h : e.Yields ts) : ts ≠ [] := by
  cases h <;> simp

namespace Parsing

/-- What a parser can be asked: to look ahead, behind or for a kind, or to move. -/
inductive Request
  | peek
  | previous
  | check (kind : TokenKind)
  | move (m : Move)

/-- The parser behind a request. A look leaves it as it is. -/
def Request.run : Request → Parser → Parser
  | peek, p | previous, p | check _, p => p
  | move m, p => m.run p

private theorem Fails.depth_le {phrase : Phrase} {room : Nat} {c : Cursor} {f : Failure}
    (h : Fails phrase room c f) : f.depth ≤ maxDepth := by
  induction h with
  | noValue | noOperand | groupTooDeep | unclosed | unaryTooDeep | chainTooDeep =>
    exact Nat.sub_le _ _
  | groupContent _ _ ih | bare _ _ ih | unary _ _ ih | operand _ ih | first _ ih | others _ _ ih
  | next _ _ ih | later _ _ _ ih => exact ih

namespace Parser

variable {p q : Parser} {e : Expr} {tokens : List Token}

/-- The parser after some requests. -/
def asked (p : Parser) (requests : List Request) : Parser := requests.foldl (fun p r => r.run p) p

private theorem expression_depth_le (bounded : p.depth ≤ maxDepth) :
    p.expression.2.depth ≤ maxDepth := by
  cases h : p.reading with
  | ok r =>
    rw [expression_of_ok h]
    exact bounded
  | error f =>
    have fails : Fails (.level (some .equality)) (maxDepth - p.depth) p.cursor f := .of_parse h
    rw [expression_of_error h]
    exact fails.depth_le

end Parser

/-- No move opens more levels than may be open. -/
theorem Move.depth_le (m : Move) {p : Parser} (bounded : p.depth ≤ maxDepth) :
    (m.run p).depth ≤ maxDepth := by
  cases m with
  | advance | synchronize => exact bounded
  | matchKinds kinds =>
    rw [run, Parser.matchKinds]
    split <;> exact bounded
  | consume kind message =>
    rw [run, Parser.consume]
    split <;> exact bounded
  | expression => exact Parser.expression_depth_le bounded
  | parse =>
    rw [run, Parser.parse]
    split
    · exact Parser.expression_depth_le (Nat.zero_le maxDepth)
    · exact bounded

theorem Request.follows (r : Request) (p : Parser) : p.Follows (r.run p) := by
  cases r with
  | peek | previous | check => exact .refl p
  | move m => exact m.follows p

private theorem Request.depth_le (r : Request) {p : Parser} (bounded : p.depth ≤ maxDepth) :
    (r.run p).depth ≤ maxDepth := by
  cases r with
  | peek | previous | check => exact bounded
  | move m => exact m.depth_le bounded

namespace Parser

variable {p q : Parser} {e : Expr} {tokens : List Token} {requests : List Request}

theorem follows_asked (p : Parser) (requests : List Request) : p.Follows (p.asked requests) := by
  induction requests generalizing p with
  | nil => exact .refl p
  | cons r requests ih => exact (r.follows p).trans (ih (r.run p))

theorem depth_asked_le (bounded : p.depth ≤ maxDepth) : (p.asked requests).depth ≤ maxDepth := by
  induction requests generalizing p with
  | nil => exact bounded
  | cons r requests ih => exact ih (r.depth_le bounded)

/-- Where a parser over these tokens stands: within them, with no end marker behind it, and with no
more levels open than may be. -/
structure Within (tokens : List Token) (p : Parser) : Prop where
  count : p.cursor.consumed ≤ tokens.length
  ahead : p.cursor.rest = tokens.drop p.cursor.consumed
  proper : ∀ t ∈ tokens.take p.cursor.consumed, t.isEndOfFile = false
  depth : p.depth ≤ maxDepth

theorem Follows.within {r : Reporter} (h : (ofTokens tokens r).Follows p)
    (bounded : p.depth ≤ maxDepth) : p.Within tokens := by
  obtain ⟨ts, passes⟩ := h.passes
  have whole : tokens = ts ++ p.cursor.rest := passes.rest
  have count : p.cursor.consumed = ts.length := passes.consumed.trans (Nat.zero_add _)
  refine ⟨?_, ?_, ?_, bounded⟩
  · rw [whole, count, List.length_append]
    exact Nat.le_add_right _ _
  · rw [count]
    exact ((congrArg (List.drop ts.length) whole).trans List.drop_left).symm
  · rw [count, whole, List.take_left]
    exact passes.proper

theorem Within.peek (h : p.Within tokens) :
    p.cursor.peek = tokens[p.cursor.consumed]?.getD (.endOfFile 0) := by
  rw [Cursor.peek, h.ahead, List.head?_drop]

/-- What reading an expression with the counter comes to, from the levels that are open. -/
def Counts (p : Parser) (outcome : Counting (Expr × Cursor × Nat)) : Prop :=
  (Phrase.level (some .equality)).Counts p.depth p.cursor outcome

/-- An expression is read as with the counter: where that run comes to a tree, with the counter as
before; where it halts, with a report of that. Neither is an underflow, of which nothing is
reported, and one of the two is the case, so the run ends. -/
inductive Counted (p : Parser) : Prop
  | read {e : Expr} {d : Cursor} (counting : p.Counts (pure (e, d, p.depth)))
      (expression : p.expression = (some e, { p with cursor := d }))
  | halted {halt : Halt} {f : Failure} (counting : p.Counts (throw halt))
      (reports : halt.Reports f)
      (expression : p.expression = (none, ⟨f.cursor, f.depth, p.reporter.report f.diagnostic⟩))

theorem counted (bounded : p.depth ≤ maxDepth) : p.Counted := by
  have within : p.depth + (maxDepth - p.depth) = maxDepth := Nat.add_sub_of_le bounded
  cases h : p.reading with
  | ok r =>
    obtain ⟨e, d⟩ := r
    have reads : Reads (.level (some .equality)) (maxDepth - p.depth) p.cursor e d := .of_parse h
    obtain ⟨_, rfl, counting⟩ := reads.counted within
    exact .read counting (expression_of_ok h)
  | error f =>
    have fails : Fails (.level (some .equality)) (maxDepth - p.depth) p.cursor f := .of_parse h
    obtain ⟨halt, reports, counting⟩ := fails.counted within
    exact .halted counting reports (expression_of_error h)

/-- Where all number and string tokens have their values, no counting run halts for want of one. -/
theorem not_counts_valueless (valued : ∀ t ∈ tokens, t.Valued) (r : Reporter) (t : Token)
    (after : Cursor) (depth : Nat) :
    ¬(ofTokens tokens r).Counts (throw (.valueless t after depth)) := by
  intro stopped
  cases (ofTokens tokens r).counted (Nat.zero_le maxDepth) with
  | read counting => cases counting.unique stopped
  | halted counting reports failed =>
    obtain rfl := throw_inj (counting.unique stopped)
    obtain ⟨ts, passes⟩ := (Follows.expression (ofTokens tokens r)).passes
    rw [failed] at passes
    cases reports with
    | valueless passed kind value =>
      have last : some t = ts.getLast?.or none := passed.symm.trans passes.last
      rw [Option.or_none] at last
      have front : tokens = ts ++ after.rest := passes.rest
      have among : t ∈ tokens := by
        rw [front]
        exact List.mem_append_left _ (List.mem_of_getLast? last.symm)
      have some := operandValue?_isSome kind (valued t among)
      rw [value] at some
      cases some

theorem progress_of_expression (h : p.expression = (some e, q)) :
    q.depth = p.depth ∧ p.cursor.consumed < q.cursor.consumed := by
  cases read : p.reading with
  | error f =>
    rw [expression_of_error read] at h
    cases h
  | ok r =>
    obtain ⟨e', d⟩ := r
    rw [expression_of_ok read] at h
    cases h
    obtain ⟨⟨ts, built⟩, -⟩ := built_of_parseExpression read
    have passed : 0 < ts.length := List.length_pos_iff.2 built.yields.ne_nil
    refine ⟨rfl, ?_⟩
    rw [built.passes.consumed]
    exact Nat.lt_add_of_pos_right passed

private theorem eq_of_matchKinds_eq_false {kinds : List TokenKind}
    (h : p.matchKinds kinds = (false, q)) :
    q = p := by
  unfold matchKinds at h
  split at h
  · cases h
  · exact (Prod.mk.inj h).2.symm

private theorem eq_of_consume_eq_none {kind : TokenKind} {message : String}
    (h : p.consume kind message = (none, q)) :
    q = { p with reporter := p.reporter.report (.atToken p.cursor.peek message) } := by
  unfold consume at h
  split at h
  · cases h
  · exact (Prod.mk.inj h).2.symm

/-- What a parser keeps when a request fails, and what a tree takes. -/
structure Steady (tokens : List Token) (p : Parser) : Prop where
  expression : ∀ e q, p.expression = (some e, q) →
    q.depth = p.depth ∧ p.cursor.consumed < q.cursor.consumed
  matchKinds : ∀ kinds q, p.matchKinds kinds = (false, q) → q = p
  consume : ∀ kind message q, p.consume kind message = (none, q) →
    let t := tokens[p.cursor.consumed]?.getD (.endOfFile 0)
    q = { p with reporter := p.reporter.report (.atToken t message) }

private theorem Within.steady (h : p.Within tokens) : p.Steady tokens := by
  refine ⟨fun e q => progress_of_expression, fun kinds q => eq_of_matchKinds_eq_false,
    fun kind message q refused => ?_⟩
  rw [← h.peek]
  exact eq_of_consume_eq_none refused

/-- After any requests a parser stands within its tokens. Further requests take it only onwards and
only add to what it recorded. An expression, also one that is read with all levels closed, goes as
with the counter, a tree leaves the levels and takes tokens, and what fails otherwise changes
nothing but for the one report of a token that was missed. -/
theorem invariant_asked (tokens : List Token) (r : Reporter) (before later : List Request) :
    let p := (ofTokens tokens r).asked before
    let q := p.asked later
    p.Within tokens ∧ p.Counted ∧ Counted { p with depth := 0 } ∧ p.Steady tokens ∧
      p.cursor.consumed ≤ q.cursor.consumed ∧
      p.reporter.diagnostics <+: q.reporter.diagnostics := by
  intro p q
  have bounded : p.depth ≤ maxDepth := depth_asked_le (Nat.zero_le maxDepth)
  have within : p.Within tokens := ((ofTokens tokens r).follows_asked before).within bounded
  obtain ⟨⟨ts, passes⟩, ds, reported, -⟩ := p.follows_asked later
  refine ⟨within, counted bounded, counted (Nat.zero_le maxDepth), within.steady, ?_, ds, ?_⟩
  · rw [passes.consumed]
    exact Nat.le_add_right _ _
  · exact (congrArg Reporter.diagnostics reported).symm

end Parser

end Parsing

end LoxSyntax
