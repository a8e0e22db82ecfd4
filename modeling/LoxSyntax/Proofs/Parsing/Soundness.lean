import LoxSyntax.Parsing.Parser
import LoxSyntax.Proofs.Parsing.Ahead
import LoxSyntax.Proofs.Parsing.Reading

/-!
# Accepted trees

A tree that the parser accepts is written as the tokens it passed, has the shape that the grammar
prescribes, and ends in front of no binary operator.
-/
namespace LoxSyntax.Parsing

open Precedence (levelRank)

theorem operandValue?_eq_some_iff {t : Token} {v : Value} :
    operandValue? t = some v ↔ t.Denotes v := by
  constructor
  · intro h
    unfold operandValue? at h
    split at h
    · cases h
      exact .falseWord ‹_›
    · cases h
      exact .trueWord ‹_›
    · cases h
      exact .nilWord ‹_›
    · obtain ⟨l, hl, rfl⟩ := Option.map_eq_some_iff.1 h
      exact .number ‹_› hl
    · obtain ⟨l, hl, rfl⟩ := Option.map_eq_some_iff.1 h
      exact .string ‹_› hl
    · cases h
  · intro h
    cases h <;> simp_all [operandValue?]

/-- A tree of operators up to a level, written as the tokens between two cursors, for which the room
was enough. -/
structure Built (c : Cursor) (ts : List Token) (level : Option Precedence) (room : Nat) (e : Expr)
    (d : Cursor) : Prop where
  passes : c.Passes ts d
  yields : e.Yields ts
  canonical : e.Canonical
  within : e.rank ≤ levelRank level
  fits : e.need ≤ room

namespace Built

variable {b c d m : Cursor} {ts ls rs : List Token} {level : Option Precedence} {p : Precedence}
  {room : Nat} {e left right : Expr} {operator : Token}

theorem toChain (h : Built c ts p.tighter? room e d) :
    Built c ts (some p) (room + e.spine p) e d ∧ e.spine p = 0 := by
  have hp := p.rank_eq_levelRank_tighter
  have hr := h.within
  refine ⟨⟨h.passes, h.yields, h.canonical, ?_, ?_⟩, h.canonical.spine_eq_zero (by omega)⟩
  · simp only [Precedence.levelRank_some]
    omega
  · have := h.fits
    omega

theorem next (hl : Built b ls (some p) (room + 1 + left.spine p) left c)
    (taken : c.accept? p.admits = some (operator, m))
    (hr : Built m rs p.tighter? room right d) :
    Built b (ls ++ operator :: rs) (some p) (room + (Expr.binary left operator right).spine p)
      (.binary left operator right) d := by
  have hk := ofKind?_of_accept? taken
  have hp := p.rank_eq_levelRank_tighter
  have hw := hr.within
  refine ⟨hl.passes.trans (Cursor.Passes.of_accept? taken |>.trans hr.passes),
    .binary hl.yields hr.yields, .binary hk hl.canonical hl.within hr.canonical (by omega), ?_, ?_⟩
  · exact Nat.le_of_eq (Expr.rank_binary hk left right)
  · have hfl := hl.fits
    have hfr := hr.fits
    rw [Expr.need_binary hk, Expr.spine_binary hk]
    omega

end Built

/-- What a reading comes to. The operators of a chain extend any tree already built. -/
def Phrase.Sound : Phrase → Nat → Cursor → Expr → Cursor → Prop
  | primary, room, c, e, d | unary, room, c, e, d => ∃ ts, Built c ts none room e d
  | level l, room, c, e, d => (∃ ts, Built c ts l room e d) ∧ Clear l d.rest
  | chain p left, room, c, e, d =>
    ∀ b ls, Built b ls (some p) (room + left.spine p) left c → Clear p.tighter? c.rest →
      (∃ ts, Built b ts (some p) (room + left.spine p) e d) ∧ Clear (some p) d.rest

theorem Reads.sound {phrase : Phrase} {room : Nat} {c d : Cursor} {e : Expr}
    (h : Reads phrase room c e d) : phrase.Sound room c e d := by
  induction h with
  | @literal room c t d v taken value =>
    have hv := operandValue?_eq_some_iff.1 value
    exact ⟨[t], .of_accept? taken, .literal hv, .literal v, Nat.le_refl 0, Nat.zero_le room⟩
  | @grouping room c opening inner e m closing d opens content closes ih =>
    obtain ⟨⟨ts, hb⟩, -⟩ := ih
    have ho := Cursor.admits_of_accept? opens
    have hc := Cursor.admits_of_accept? closes
    refine ⟨opening :: ts ++ [closing], ?_, ?_, .grouping hb.canonical, Nat.le_refl 0, ?_⟩
    · exact (Cursor.Passes.of_accept? opens).trans hb.passes |>.trans (.of_accept? closes)
    · exact .grouping (of_decide_eq_true ho) hb.yields (of_decide_eq_true hc)
    · have := hb.fits
      simp only [Expr.need]
      omega
  | bare refused operand ih => exact ih
  | @unary room c operator m e d taken operand ih =>
    obtain ⟨ts, hb⟩ := ih
    have ha := Cursor.admits_of_accept? taken
    refine ⟨operator :: ts, (Cursor.Passes.of_accept? taken).trans hb.passes, .unary hb.yields,
      .unary ha hb.canonical (Nat.le_zero.1 hb.within), Nat.le_refl 0, ?_⟩
    have := hb.fits
    simp only [Expr.need]
    omega
  | @operand room c e d operand ih => exact ⟨ih, clear_none d.rest⟩
  | @first p room c left m e d operand others ih ihc =>
    obtain ⟨⟨ts, hb⟩, hclear⟩ := ih
    obtain ⟨hchain, hk⟩ := hb.toChain
    have hrest := ihc c ts hchain hclear
    rw [hk, Nat.add_zero] at hrest
    exact hrest
  | @stop p left room c refused =>
    intro b ls hb hclear
    exact ⟨⟨ls, hb⟩, clear_some_iff.2 ⟨hclear, accept?_admits_eq_none_iff.1 refused⟩⟩
  | @next p left room c operator m right n e d taken operand others ih ihc =>
    intro b ls hb _
    obtain ⟨⟨rs, hr⟩, hclear⟩ := ih
    have hnext := ihc b (ls ++ operator :: rs) (hb.next taken hr) hclear
    rw [Expr.spine_binary (ofKind?_of_accept? taken), ← Nat.add_assoc] at hnext
    exact hnext

/-- An accepted expression is built from the cursor on, and no operator follows it. -/
theorem built_of_parseExpression {room : Nat} {c d : Cursor} {e : Expr}
    (h : parseExpression room c = .ok (e, d)) :
    (∃ ts, Built c ts (some .equality) room e d) ∧ operatorAhead? d.rest = none := by
  have reads : Reads (.level (some .equality)) room c e d := .of_parse h
  exact reads.sound.imp_right operatorAhead?_eq_none_of_clear

namespace Parser

variable {p q : Parser} {e : Expr}

theorem parse_eq (ends : p.cursor.endsProperly = true) :
    p.parse = match parseExpression maxDepth p.cursor with
      | .ok (e, cursor) => (some e, ⟨cursor, 0, p.reporter⟩)
      | .error f => (none, ⟨f.cursor, f.depth, p.reporter.report f.diagnostic⟩) := by
  rw [parse, if_pos ends, expression]
  rfl

theorem parseExpression_of_parse (h : p.parse = (some e, q)) :
    p.cursor.endsProperly = true ∧ q.reporter = p.reporter ∧
      parseExpression maxDepth p.cursor = .ok (e, q.cursor) := by
  by_cases ends : p.cursor.endsProperly = true
  · rw [parse_eq ends] at h
    cases read : parseExpression maxDepth p.cursor with
    | error f =>
      rw [read] at h
      cases h
    | ok r =>
      obtain ⟨e', d⟩ := r
      rw [read] at h
      cases h
      exact ⟨ends, rfl, rfl⟩
  · rw [parse, if_neg ends] at h
    cases h

/-- What a parser accepts is built from its cursor on, within the depth allowed. -/
theorem built_of_parse (h : p.parse = (some e, q)) :
    ∃ ts, Built p.cursor ts (some .equality) maxDepth e q.cursor := by
  obtain ⟨-, -, read⟩ := parseExpression_of_parse h
  exact (built_of_parseExpression read).1

/-- Acceptance is sound: the tree is written as exactly the tokens passed, with operators and
operands as they stand there, it has the grammar's shape, the token behind it is no binary operator,
and the reporter is as before. -/
theorem parse_sound {tokens : List Token} {r : Reporter}
    (h : (ofTokens tokens r).parse = (some e, q)) :
    e.Yields (tokens.take q.cursor.consumed) ∧ e.Canonical ∧
      (∃ t, tokens[q.cursor.consumed]? = some t ∧ Precedence.ofKind? t.kind = none) ∧
      q.reporter = r := by
  obtain ⟨ends, hr, read⟩ := parseExpression_of_parse h
  obtain ⟨⟨ts, built⟩, front⟩ := built_of_parseExpression read
  have hrest : tokens = ts ++ q.cursor.rest := built.passes.rest
  have hcount : q.cursor.consumed = ts.length := by
    rw [built.passes.consumed]
    exact Nat.zero_add _
  obtain ⟨t, more, ht⟩ := List.exists_cons_of_ne_nil (built.passes.rest_ne_nil ends)
  refine ⟨?_, built.canonical, ⟨t, ?_, ?_⟩, hr⟩
  · rw [hcount, hrest, List.take_left]
    exact built.yields
  · rw [hcount, hrest, List.getElem?_append_right (Nat.le_refl _), ht]
    simp
  · simpa [operatorAhead?, ht] using front

/-- A product of a negated text and a group, in front of an end marker that more tokens follow. -/
theorem parse_sound_product :
    ∃ e q, (ofTokens [.plain .minus "-", ⟨.string, "\"a\"", some (.text "a"), 2⟩, .plain .star "*",
        .plain .leftParen "(", .plain (.keyword .nilWord) "nil", .plain .rightParen ")",
        .endOfFile 3, .plain .plus "+", .endOfFile 4] .empty).parse = (some e, q) ∧
      e.Yields [.plain .minus "-", ⟨.string, "\"a\"", some (.text "a"), 2⟩, .plain .star "*",
        .plain .leftParen "(", .plain (.keyword .nilWord) "nil", .plain .rightParen ")"] ∧
      e.Canonical ∧ q.cursor.rest.head? = some (.endOfFile 3) ∧ q.reporter = .empty := by
  let tokens : List Token := [.plain .minus "-", ⟨.string, "\"a\"", some (.text "a"), 2⟩,
    .plain .star "*", .plain .leftParen "(", .plain (.keyword .nilWord) "nil",
    .plain .rightParen ")", .endOfFile 3, .plain .plus "+", .endOfFile 4]
  let e : Expr := .binary (.unary (.plain .minus "-") (.literal (.text "a"))) (.plain .star "*")
    (.grouping (.literal .nil))
  let q : Parser := ⟨⟨6, some (.plain .rightParen ")"), tokens.drop 6⟩, 0, .empty⟩
  have h : (ofTokens tokens .empty).parse = (some e, q) := by decide +kernel
  obtain ⟨yields, canonical, -, recorded⟩ := parse_sound h
  exact ⟨e, q, h, yields, canonical, rfl, recorded⟩

end Parser

end LoxSyntax.Parsing
