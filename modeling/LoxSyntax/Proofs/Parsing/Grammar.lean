import LoxSyntax.Parsing.Expression

/-!
# The grammar of expressions

How a tree is written as tokens, which trees the grammar prescribes, and how many levels reading a
tree opens at once. Nothing here looks at the reader.
-/
namespace LoxSyntax

namespace Precedence

/-- Rank of a level, where no level stands for the operands of the tightest one. -/
def levelRank (level : Option Precedence) : Nat := level.elim 0 rank

@[simp] theorem levelRank_none : levelRank none = 0 := rfl

@[simp] theorem levelRank_some (p : Precedence) : levelRank (some p) = p.rank := rfl

theorem rank_pos (p : Precedence) : 0 < p.rank := by cases p <;> decide

theorem rank_injective {p q : Precedence} (h : p.rank = q.rank) : p = q := by
  cases p <;> cases q <;> first | rfl | exact absurd h (by decide)

theorem rank_eq_levelRank_tighter (p : Precedence) : p.rank = levelRank p.tighter? + 1 := by
  cases p <;> rfl

/-- What holds at the level of a rank and goes from each level to the next looser one holds at all
levels from that rank on. -/
theorem level_induction {motive : Option Precedence → Prop} {n : Nat}
    (own : ∀ level, levelRank level = n → motive level)
    (looser : ∀ p : Precedence, n < p.rank → motive p.tighter? → motive (some p)) :
    ∀ level, n ≤ levelRank level → motive level := by
  have step (p : Precedence) (ih : n ≤ levelRank p.tighter? → motive p.tighter?)
      (h : n ≤ p.rank) : motive (some p) := by
    have hp := p.rank_eq_levelRank_tighter
    rcases Nat.lt_or_eq_of_le h with hlt | heq
    · exact looser p hlt (ih (by omega))
    · exact own (some p) heq.symm
  have unary (h : n ≤ 0) : motive none := own none (Nat.le_zero.1 h).symm
  have factor := step .factor unary
  have term := step .term factor
  have comparison := step .comparison term
  rintro (_ | p) h
  · exact unary h
  · cases p with
    | equality => exact step .equality comparison h
    | comparison => exact comparison h
    | term => exact term h
    | factor => exact factor h

theorem admits_iff {p : Precedence} {kind : TokenKind} :
    p.admits kind = true ↔ ofKind? kind = some p := by
  simp [admits]

end Precedence

theorem Token.isEndOfFile_eq_false {t : Token} (h : t.kind ≠ .endOfFile) :
    t.isEndOfFile = false := by
  simpa [isEndOfFile] using h

theorem Token.isEndOfFile_eq_false_of_ofKind? {t : Token} {p : Precedence}
    (h : Precedence.ofKind? t.kind = some p) : t.isEndOfFile = false := by
  apply isEndOfFile_eq_false
  intro hk
  rw [hk] at h
  cases h

/-- A token of the first line without a value. -/
def Token.plain (kind : TokenKind) (lexeme : String) : Token := ⟨kind, lexeme, none, 1⟩

/-- The value that a token stands for as an operand. -/
inductive Token.Denotes : Token → Value → Prop
  | number {t : Token} {l : Literal} (kind : t.kind = .number) (literal : t.literal = some l) :
      Denotes t (.ofLiteral l)
  | string {t : Token} {l : Literal} (kind : t.kind = .string) (literal : t.literal = some l) :
      Denotes t (.ofLiteral l)
  | falseWord {t : Token} (kind : t.kind = .keyword .falseWord) : Denotes t (.boolean false)
  | trueWord {t : Token} (kind : t.kind = .keyword .trueWord) : Denotes t (.boolean true)
  | nilWord {t : Token} (kind : t.kind = .keyword .nilWord) : Denotes t .nil

namespace Expr

/-- The level of the operator at the root, if the root is a binary one. -/
def level? : Expr → Option Precedence
  | binary _ operator _ => Precedence.ofKind? operator.kind
  | _ => none

/-- Rank of the operator at the root; unary, grouped and literal trees have none. -/
def rank (e : Expr) : Nat := Precedence.levelRank e.level?

theorem rank_le (e : Expr) : e.rank ≤ Precedence.equality.rank := by
  unfold rank
  cases e.level? with
  | none => decide
  | some p => exact p.rank_le

/-- The tokens of a tree in order, with parentheses around each group. -/
inductive Yields : Expr → List Token → Prop
  | literal {t : Token} {v : Value} (denotes : t.Denotes v) : Yields (.literal v) [t]
  | grouping {opening closing : Token} {inner : Expr} {ts : List Token}
      (opens : opening.kind = .leftParen) (yields : Yields inner ts)
      (closes : closing.kind = .rightParen) :
      Yields (.grouping inner) (opening :: ts ++ [closing])
  | unary {operator : Token} {operand : Expr} {ts : List Token} (yields : Yields operand ts) :
      Yields (.unary operator operand) (operator :: ts)
  | binary {operator : Token} {left right : Expr} {ls rs : List Token}
      (lefts : Yields left ls) (rights : Yields right rs) :
      Yields (.binary left operator right) (ls ++ operator :: rs)

/-- The shape that precedence and left associativity give: an operand of a unary operator is no
binary tree, a left operand binds no looser than its operator, a right operand binds tighter. -/
inductive Canonical : Expr → Prop
  | literal (v : Value) : Canonical (.literal v)
  | grouping {inner : Expr} (canonical : Canonical inner) : Canonical (.grouping inner)
  | unary {operator : Token} {operand : Expr} (admitted : operator.kind.isUnaryOperator = true)
      (canonical : Canonical operand) (tight : operand.rank = 0) :
      Canonical (.unary operator operand)
  | binary {p : Precedence} {operator : Token} {left right : Expr}
      (admitted : Precedence.ofKind? operator.kind = some p)
      (lefts : Canonical left) (loose : left.rank ≤ p.rank)
      (rights : Canonical right) (tight : right.rank < p.rank) :
      Canonical (.binary left operator right)

/-- The operators of a level on the left spine. -/
def spine (p : Precedence) : Expr → Nat
  | binary left operator _ => (if Precedence.ofKind? operator.kind = some p then 1 else 0) +
      left.spine p
  | _ => 0

/-- The levels that reading a tree opens at once. A chain opens one for each operator and closes
them behind its last operand, so a right operand is read below the operators in front of it, and
the first operand below none. -/
def need : Expr → Nat
  | binary left operator right =>
    max left.need ((Precedence.ofKind? operator.kind).elim 0 (binary left operator right).spine +
      right.need)
  | grouping inner => 1 + inner.need
  | literal _ => 0
  | unary _ operand => 1 + operand.need

section Binary

variable {p : Precedence} {operator : Token}

theorem rank_binary (admitted : Precedence.ofKind? operator.kind = some p) (left right : Expr) :
    (binary left operator right).rank = p.rank := by
  simp [rank, level?, admitted]

theorem spine_binary (admitted : Precedence.ofKind? operator.kind = some p) (left right : Expr) :
    (binary left operator right).spine p = 1 + left.spine p := by
  simp [spine, admitted]

theorem need_binary (admitted : Precedence.ofKind? operator.kind = some p) (left right : Expr) :
    (binary left operator right).need =
      max left.need (1 + left.spine p + right.need) := by
  simp [need, admitted, spine_binary admitted]

end Binary

theorem Canonical.spine_eq_zero {e : Expr} (h : e.Canonical) {p : Precedence}
    (tighter : e.rank < p.rank) : e.spine p = 0 := by
  induction h with
  | literal | grouping | unary => rfl
  | @binary q operator left right admitted lefts loose rights tight ihl ihr =>
    have hq : q.rank < p.rank := by rwa [rank_binary admitted] at tighter
    have hne : q ≠ p := fun he => absurd (he ▸ hq) (Nat.lt_irrefl _)
    simp [spine, admitted, hne, ihl (by omega)]

theorem Yields.proper {e : Expr} {ts : List Token} (yields : e.Yields ts)
    (canonical : e.Canonical) : ∀ t ∈ ts, t.isEndOfFile = false := by
  induction yields with
  | literal denotes =>
    intro t ht
    obtain rfl := List.mem_singleton.1 ht
    apply Token.isEndOfFile_eq_false
    cases denotes <;> simp [*]
  | @grouping opening closing inner ts opens yields closes ih =>
    intro t ht
    cases canonical with
    | grouping canonical =>
      simp only [List.cons_append, List.mem_cons, List.mem_append, List.not_mem_nil,
        or_false] at ht
      rcases ht with rfl | ht | rfl
      · exact Token.isEndOfFile_eq_false (by simp [opens])
      · exact ih canonical t ht
      · exact Token.isEndOfFile_eq_false (by simp [closes])
  | @unary operator operand ts yields ih =>
    intro t ht
    cases canonical with
    | unary admitted canonical tight =>
      rcases List.mem_cons.1 ht with rfl | ht
      · apply Token.isEndOfFile_eq_false
        intro hk
        simp [hk, TokenKind.isUnaryOperator] at admitted
      · exact ih canonical t ht
  | @binary operator left right ls rs lefts rights ihl ihr =>
    intro t ht
    cases canonical with
    | binary admitted cl loose cr tight =>
      rcases List.mem_append.1 ht with ht | ht
      · exact ihl cl t ht
      · rcases List.mem_cons.1 ht with rfl | ht
        · exact Token.isEndOfFile_eq_false_of_ofKind? admitted
        · exact ihr cr t ht

end Expr

end LoxSyntax
