import LoxSyntax.Parsing.Parser
import LoxSyntax.Proofs.Parsing.Ahead
import LoxSyntax.Proofs.Parsing.Soundness

/-!
# Reading back what a tree is written as

From its own tokens a tree of the grammar is read again exactly when the room covers its need; with
less room the only fault is that of nesting. Hence no token list is written by two trees.
-/
namespace LoxSyntax.Parsing

open Precedence (levelRank)

/-- With enough room a run ends as expected, with less it fails for want of room. -/
structure Gated (need room : Nat) (expected o : Outcome) : Prop where
  fits : need ≤ room → o = expected
  refused : room < need → ∃ f, o = .error f ∧ f.cause = .tooMuchNesting

/-- What is left to do at a level behind a tree: nothing for a unary one, else the operators of the
level that follow. -/
def resume (level : Option Precedence) (e : Expr) (room : Nat) (d : Cursor) : Outcome :=
  match level with
  | none => .ok (e, d)
  | some p => parseChain p e (room - e.spine p) d

/-- Reading at this level passes exactly the tokens of the tree before it looks for more operators
of the level. -/
def Reaches (e : Expr) (ts : List Token) (level : Option Precedence) : Prop :=
  ∀ room c d, c.Passes ts d → Clear (level.bind Precedence.tighter?) d.rest →
    Gated e.need room (resume level e room d) (parseAt level room c)

section Levels

variable {e left right : Expr} {ts ls rs : List Token} {level : Option Precedence}
  {p : Precedence} {room : Nat} {c d : Cursor} {operator : Token}

private theorem resume_of_clear (clear : Clear level d.rest) :
    resume level e room d = .ok (e, d) := by
  cases level with
  | none => rfl
  | some p =>
    have refused := accept?_admits_eq_none_iff.2 (clear_some_iff.1 clear).2
    rw [resume, parseChain]
    simp only [refused]

private theorem Reaches.gated (h : Reaches e ts level) (room : Nat) (passes : c.Passes ts d)
    (clear : Clear level d.rest) : Gated e.need room (.ok (e, d)) (parseAt level room c) := by
  have tighter : Clear (level.bind Precedence.tighter?) d.rest := by
    cases level with
    | none => exact clear_none d.rest
    | some p => exact (clear_some_iff.1 clear).1
  have gated := h room c d passes tighter
  rwa [resume_of_clear clear] at gated

theorem Reaches.looser (canonical : e.Canonical) (tight : e.rank < p.rank)
    (h : Reaches e ts p.tighter?) : Reaches e ts (some p) := by
  intro room c d passes clear
  have gated := h.gated room passes clear
  constructor
  · intro fits
    rw [parseAt, gated.fits fits, resume, canonical.spine_eq_zero tight]
    rfl
  · intro short
    obtain ⟨f, hf, hc⟩ := gated.refused short
    refine ⟨f, ?_, hc⟩
    rw [parseAt, hf]

private theorem parseChain_zero {m : Cursor} (taken : c.accept? p.admits = some (operator, m)) :
    parseChain p left 0 c = failAhead .tooMuchNesting 0 m := by
  rw [parseChain]
  simp only [taken]

private theorem parseChain_succ {m : Cursor} (taken : c.accept? p.admits = some (operator, m)) :
    parseChain p left (room + 1) c =
      match parseAt p.tighter? room m with
      | .error f => .error f
      | .ok (right, n) => parseChain p (.binary left operator right) room n := by
  have unfolded := parseChain.eq_def p left (room + 1) c
  rw [taken] at unfolded
  exact unfolded

/-- A chain is reached with its last operator when it is reached without. -/
theorem Reaches.binary (admitted : Precedence.ofKind? operator.kind = some p)
    (hl : Reaches left ls (some p)) (hr : Reaches right rs p.tighter?) :
    Reaches (.binary left operator right) (ls ++ operator :: rs) (some p) := by
  intro room c d passes clear
  obtain ⟨m, lefts, others⟩ := passes.split
  obtain ⟨n, taken, rights⟩ := others.uncons
  have ahead : operatorAhead? m.rest = some p := by simp [operatorAhead?, taken.rest, admitted]
  have hclear : Clear p.tighter? m.rest := by
    intro q hq
    have hp := p.rank_eq_levelRank_tighter
    obtain rfl : p = q := Option.some.inj (ahead.symm.trans hq)
    omega
  have gl := hl room c m lefts hclear
  have accepted := taken.accept? (Precedence.admits_iff.2 admitted)
  have hneed := Expr.need_binary admitted left right
  constructor
  · intro fits
    obtain ⟨inner, hi⟩ : ∃ inner, room = inner + 1 + left.spine p :=
      ⟨room - (1 + left.spine p), by omega⟩
    have gr := hr.gated inner rights clear
    rw [gl.fits (by omega), resume, resume, Expr.spine_binary admitted]
    rw [show room - left.spine p = inner + 1 by omega, parseChain_succ accepted,
      gr.fits (by omega), show room - (1 + left.spine p) = inner by omega]
  · intro short
    by_cases hroom : room < left.need
    · exact gl.refused hroom
    · rw [gl.fits (by omega), resume]
      cases hk : room - left.spine p with
      | zero =>
        rw [parseChain_zero accepted]
        exact ⟨_, rfl, rfl⟩
      | succ inner =>
        have gr := hr.gated inner rights clear
        obtain ⟨f, hf, hc⟩ := gr.refused (by omega)
        refine ⟨f, ?_, hc⟩
        rw [parseChain_succ accepted, hf]

private theorem isOperandKind_of_denotes {t : Token} {v : Value} (h : t.Denotes v) :
    isOperandKind t.kind = true := by
  cases h <;> simp [*, isOperandKind]

private theorem isUnaryOperator_of_denotes {t : Token} {v : Value} (h : t.Denotes v) :
    t.kind.isUnaryOperator = false := by
  cases h <;> simp [*, TokenKind.isUnaryOperator]

theorem Reaches.literal {t : Token} {v : Value} (denotes : t.Denotes v) :
    Reaches (.literal v) [t] none := by
  intro room c d passes _
  have taken := passes.accept? (isOperandKind_of_denotes denotes)
  have bare := Cursor.accept?_eq_none passes.rest (isUnaryOperator_of_denotes denotes)
  constructor
  · intro _
    rw [parseAt, parseUnary]
    simp only [bare]
    rw [parsePrimary]
    simp only [taken, operandValue?_eq_some_iff.2 denotes]
    rfl
  · intro short
    exact absurd short (Nat.not_lt_zero room)

theorem Reaches.unary (admitted : operator.kind.isUnaryOperator = true)
    (h : Reaches e ts none) : Reaches (.unary operator e) (operator :: ts) none := by
  intro room c d passes clear
  obtain ⟨m, taken, operand⟩ := passes.uncons
  have accepted := taken.accept? admitted
  cases room with
  | zero =>
    refine ⟨fun fits => ?_, fun _ => ?_⟩
    · simp only [Expr.need] at fits
      omega
    · rw [parseAt, parseUnary]
      simp only [accepted]
      exact ⟨_, rfl, rfl⟩
  | succ inner =>
    have gated := h inner m d operand clear
    rw [parseAt] at gated
    refine ⟨fun fits => ?_, fun short => ?_⟩
    · simp only [Expr.need] at fits
      rw [parseAt, parseUnary]
      simp only [accepted, gated.fits (by omega)]
      rfl
    · simp only [Expr.need] at short
      obtain ⟨f, hf, hc⟩ := gated.refused (by omega)
      rw [parseAt, parseUnary]
      simp only [accepted, hf]
      exact ⟨f, rfl, hc⟩

theorem Reaches.grouping {opening closing : Token} (opens : opening.kind = .leftParen)
    (closes : closing.kind = .rightParen) (h : Reaches e ts (some .equality)) :
    Reaches (.grouping e) (opening :: ts ++ [closing]) none := by
  intro room c d passes _
  obtain ⟨m, taken, others⟩ := passes.uncons
  obtain ⟨n, content, last⟩ := others.split
  have bare : c.accept? (·.isUnaryOperator) = none :=
    Cursor.accept?_eq_none taken.rest (by simp [opens, TokenKind.isUnaryOperator])
  have plain : c.accept? isOperandKind = none :=
    Cursor.accept?_eq_none taken.rest (by simp [opens, isOperandKind])
  have accepted : c.accept? (· = .leftParen) = some (opening, m) := taken.accept? (by simp [opens])
  have closed : n.accept? (· = .rightParen) = some (closing, d) := last.accept? (by simp [closes])
  have clear : Clear (some .equality) n.rest := by
    apply clear_of_operatorAhead?_eq_none
    simp [operatorAhead?, last.rest, closes, Precedence.ofKind?]
  cases room with
  | zero =>
    refine ⟨fun fits => ?_, fun _ => ?_⟩
    · simp only [Expr.need] at fits
      omega
    · rw [parseAt, parseUnary]
      simp only [bare]
      rw [parsePrimary]
      simp only [plain, accepted]
      exact ⟨_, rfl, rfl⟩
  | succ inner =>
    have gated := h.gated inner content clear
    refine ⟨fun fits => ?_, fun short => ?_⟩
    · simp only [Expr.need] at fits
      rw [parseAt, parseUnary]
      simp only [bare]
      rw [parsePrimary]
      simp only [plain, accepted, gated.fits (by omega), closed]
      rfl
    · simp only [Expr.need] at short
      obtain ⟨f, hf, hc⟩ := gated.refused (by omega)
      rw [parseAt, parseUnary]
      simp only [bare]
      rw [parsePrimary]
      simp only [plain, accepted, hf]
      exact ⟨f, rfl, hc⟩

end Levels

/-- A tree of the grammar is reached at each level that covers its operator. -/
theorem reaches_of_canonical {e : Expr} (canonical : e.Canonical) :
    ∀ {ts : List Token}, e.Yields ts → ∀ level, e.rank ≤ levelRank level → Reaches e ts level := by
  have unary {e : Expr} {ts : List Token} (canonical : e.Canonical) (tight : e.rank = 0)
      (h : Reaches e ts none) : ∀ level, e.rank ≤ levelRank level → Reaches e ts level := by
    refine Precedence.level_induction ?_ fun p tighter h => h.looser canonical tighter
    rintro (_ | p) own
    · exact h
    · have := p.rank_pos
      simp only [Precedence.levelRank_some] at own
      omega
  induction canonical with
  | literal v =>
    intro ts yields
    cases yields with
    | literal denotes => exact unary (.literal v) rfl (.literal denotes)
  | @grouping inner canonical ih =>
    intro ts yields
    cases yields with
    | grouping opens yields closes =>
      have reached := ih yields (some .equality) inner.rank_le
      exact unary (.grouping canonical) rfl (.grouping opens closes reached)
  | @unary operator operand admitted canonical tight ih =>
    intro ts yields
    cases yields with
    | unary yields =>
      have reached := ih yields none (Nat.le_of_eq tight)
      exact unary (.unary admitted canonical tight) rfl (.unary admitted reached)
  | @binary p operator left right admitted lefts loose rights tight ihl ihr =>
    intro ts yields
    cases yields with
    | binary yl yr =>
      have hp := p.rank_eq_levelRank_tighter
      have reached := Reaches.binary admitted (ihl yl (some p) loose) (ihr yr p.tighter? (by omega))
      have canonical := Expr.Canonical.binary admitted lefts loose rights tight
      refine Precedence.level_induction ?_ fun p tighter h => h.looser canonical tighter
      rintro (_ | q) own
      · have := p.rank_pos
        rw [Expr.rank_binary admitted, Precedence.levelRank_none] at own
        omega
      · rw [Precedence.rank_injective (own.trans (Expr.rank_binary admitted left right))]
        exact reached

/-- Reading an expression in front of no operator comes back to the tree its tokens write. -/
theorem gated_parseExpression {e : Expr} {ts : List Token} {c d : Cursor} (room : Nat)
    (canonical : e.Canonical) (yields : e.Yields ts) (passes : c.Passes ts d)
    (front : operatorAhead? d.rest = none) :
    Gated e.need room (.ok (e, d)) (parseExpression room c) :=
  (reaches_of_canonical canonical yields (some .equality) e.rank_le).gated room passes
    (clear_of_operatorAhead?_eq_none front)

theorem passes_ofTokens {ts : List Token} (rest : List Token)
    (proper : ∀ t ∈ ts, t.isEndOfFile = false) :
    (Cursor.ofTokens (ts ++ rest)).Passes ts ⟨ts.length, ts.getLast?, rest⟩ :=
  ⟨rfl, (Nat.zero_add _).symm, Option.or_none.symm, proper⟩

/-- No token list is written by two trees of the grammar. -/
theorem unique_of_yields {e e' : Expr} {ts : List Token} (canonical : e.Canonical)
    (canonical' : e'.Canonical) (yields : e.Yields ts) (yields' : e'.Yields ts) : e = e' := by
  have passes := passes_ofTokens [] (yields.proper canonical)
  have read := (gated_parseExpression (max e.need e'.need) canonical yields passes rfl).fits
    (Nat.le_max_left _ _)
  have read' := (gated_parseExpression (max e.need e'.need) canonical' yields' passes rfl).fits
    (Nat.le_max_right _ _)
  cases read.symm.trans read'
  rfl

namespace Parser

section Yield

variable {e : Expr} {ts rest : List Token} (r : Reporter) (canonical : e.Canonical)
  (yields : e.Yields ts) (ends : rest.getLast?.any (·.isEndOfFile) = true)
  (front : operatorAhead? rest = none)

include canonical yields ends front

theorem parse_of_need_le (fits : e.need ≤ maxDepth) :
    (ofTokens (ts ++ rest) r).parse = (some e, ⟨⟨ts.length, ts.getLast?, rest⟩, 0, r⟩) := by
  have passes := passes_ofTokens rest (yields.proper canonical)
  have read := (gated_parseExpression maxDepth canonical yields passes front).fits fits
  rw [parse_eq (passes.endsProperly ends)]
  simp only [ofTokens, read]

private theorem parse_of_lt_need (deep : maxDepth < e.need) :
    ∃ f : Failure, f.cause = .tooMuchNesting ∧
      (ofTokens (ts ++ rest) r).parse = (none, ⟨f.cursor, f.depth, r.report f.diagnostic⟩) := by
  have passes := passes_ofTokens rest (yields.proper canonical)
  have refused := (gated_parseExpression maxDepth canonical yields passes front).refused deep
  obtain ⟨f, read, hc⟩ := refused
  refine ⟨f, hc, ?_⟩
  rw [parse_eq (passes.endsProperly ends)]
  simp only [ofTokens, read]

end Yield

/-- Parsing undoes the yield: a tree of the grammar, written out in front of anything but an
operator, is parsed again exactly when its need is at most the depth allowed, and otherwise the
nesting is the one thing reported. No other tree is written so. -/
theorem parse_yield {e : Expr} {ts rest : List Token} (r : Reporter) (canonical : e.Canonical)
    (yields : e.Yields ts) (ends : rest.getLast?.any (·.isEndOfFile) = true)
    (front : ∀ t ∈ rest.head?, Precedence.ofKind? t.kind = none) :
    (e.need ≤ maxDepth → (ofTokens (ts ++ rest) r).parse =
      (some e, ⟨⟨ts.length, ts.getLast?, rest⟩, 0, r⟩)) ∧
    (maxDepth < e.need → ∃ q d, (ofTokens (ts ++ rest) r).parse = (none, q) ∧
      q.reporter = r.report d ∧ d.message = "Too much nesting.") ∧
    ∀ e' : Expr, e'.Canonical → e'.Yields ts → e' = e := by
  have clear : operatorAhead? rest = none := Option.bind_eq_none_iff.2 front
  refine ⟨parse_of_need_le r canonical yields ends clear, fun deep => ?_,
    fun e' canonical' yields' => ?_⟩
  · obtain ⟨f, hc, h⟩ := parse_of_lt_need r canonical yields ends clear deep
    refine ⟨_, f.diagnostic, h, rfl, ?_⟩
    simp [Failure.diagnostic, Diagnostic.atToken, hc, SyntaxError.message]
  · exact unique_of_yields canonical' canonical yields' yields

/-- A difference of a sum and a negated group, in front of a semicolon: two levels are needed for
the operators of the chain, two more for its last operand. -/
theorem parse_yield_difference :
    ∃ (e : Expr) (ts : List Token), e.need = 4 ∧
      ts.map (·.lexeme) = ["true", "+", "true", "-", "-", "(", "true", ")"] ∧
      (ofTokens (ts ++ [.plain .semicolon ";", .endOfFile 1]) .empty).parse =
        (some e, ⟨⟨8, ts.getLast?, [.plain .semicolon ";", .endOfFile 1]⟩, 0, .empty⟩) := by
  let word : Token := .plain (.keyword .trueWord) "true"
  let plus : Token := .plain .plus "+"
  let minus : Token := .plain .minus "-"
  let value : Expr := .literal (.boolean true)
  let sum : Expr := .binary value plus value
  let negated : Expr := .unary minus (.grouping value)
  let group : List Token := [.plain .leftParen "(", word, .plain .rightParen ")"]
  have leaf : value.Yields [word] := .literal (.trueWord rfl)
  have grouped : (Expr.grouping value).Yields group := .grouping rfl leaf rfl
  have yields : (Expr.binary sum minus negated).Yields
      ([word] ++ plus :: [word] ++ minus :: minus :: group) :=
    .binary (.binary leaf leaf) (.unary grouped)
  have sumCanonical : sum.Canonical :=
    .binary (p := .term) rfl (.literal _) (by decide) (.literal _) (by decide)
  have canonical : (Expr.binary sum minus negated).Canonical :=
    .binary (p := .term) rfl sumCanonical (by decide) (.unary rfl (.grouping (.literal _)) rfl)
      (by decide)
  exact ⟨_, _, rfl, rfl, (parse_yield .empty canonical yields rfl (by simp; rfl)).1 (by decide)⟩

end Parser

end LoxSyntax.Parsing
