import LoxSyntax.Proofs.Parsing.Grammar

/-!
# Sentences

The rules of the grammar on tokens alone, without trees. A token list is derived exactly when some
tree of the grammar is written as it, as far as its number and string tokens have values.
-/
namespace LoxSyntax

open Precedence (levelRank)

/-- The tokens that the grammar derives from a level: an operand or a chain of the operators of that
level, and with no level a value, a group or an operand behind a sign. -/
inductive Derives : Option Precedence → List Token → Prop
  | value {t : Token} (kind : t.kind ∈ [TokenKind.number, .string, .keyword .trueWord,
      .keyword .falseWord, .keyword .nilWord]) : Derives none [t]
  | group {opening closing : Token} {ts : List Token} (opens : opening.kind = .leftParen)
      (content : Derives (some .equality) ts) (closes : closing.kind = .rightParen) :
      Derives none (opening :: ts ++ [closing])
  | unary {operator : Token} {ts : List Token}
      (sign : operator.kind = .bang ∨ operator.kind = .minus) (operand : Derives none ts) :
      Derives none (operator :: ts)
  | operand {p : Precedence} {ts : List Token} (operand : Derives p.tighter? ts) :
      Derives (some p) ts
  | chain {p : Precedence} {operator : Token} {ls rs : List Token} (first : Derives (some p) ls)
      (admitted : Precedence.ofKind? operator.kind = some p) (last : Derives p.tighter? rs) :
      Derives (some p) (ls ++ operator :: rs)

/-- What the grammar derives as a whole expression. -/
def Sentence (ts : List Token) : Prop := Derives (some .equality) ts

namespace Token

/-- A number or string token has the value it stands for. -/
def Valued (t : Token) : Prop := t.kind = .number ∨ t.kind = .string → t.literal.isSome = true

instance (t : Token) : Decidable t.Valued := inferInstanceAs (Decidable (_ → _))

/-- The same token with some value where one is missing. -/
def valued (t : Token) : Token := if t.Valued then t else { t with literal := some (.text "") }

private theorem kind_valued (t : Token) : t.valued.kind = t.kind := by
  unfold valued
  split <;> rfl

private theorem valued_eq {t : Token} (h : t.Valued) : t.valued = t := if_pos h

private theorem valued_valued (t : Token) : t.valued.Valued := by
  unfold valued
  split
  · assumption
  · exact fun _ => rfl

end Token

section Trees

variable {e : Expr} {ts : List Token} {level : Option Precedence} {n : Nat}

private theorem derives_of_levelRank (own : ∀ level, levelRank level = n → Derives level ts) :
    ∀ level, n ≤ levelRank level → Derives level ts :=
  Precedence.level_induction own fun _ _ operand => .operand operand

private theorem eq_none_of_levelRank (h : levelRank level = 0) : level = none := by
  cases level with
  | none => rfl
  | some p => exact absurd h (Nat.ne_of_gt p.rank_pos)

/-- What a tree of the grammar is written as is derived from its level and from all looser ones. -/
theorem Expr.Yields.derives (yields : e.Yields ts) (canonical : e.Canonical) :
    ∀ level, e.rank ≤ levelRank level → Derives level ts := by
  induction yields with
  | literal denotes =>
    refine derives_of_levelRank fun level own => ?_
    obtain rfl := eq_none_of_levelRank own
    refine .value ?_
    cases denotes <;> simp [*]
  | grouping opens yields closes ih =>
    cases canonical with
    | grouping canonical =>
      refine derives_of_levelRank fun level own => ?_
      obtain rfl := eq_none_of_levelRank own
      exact .group opens (ih canonical _ (Expr.rank_le _)) closes
  | unary yields ih =>
    cases canonical with
    | unary admitted canonical tight =>
      refine derives_of_levelRank fun level own => ?_
      obtain rfl := eq_none_of_levelRank own
      refine .unary ?_ (ih canonical none (Nat.le_of_eq tight))
      simpa [TokenKind.isUnaryOperator] using admitted
  | binary lefts rights ihl ihr =>
    cases canonical with
    | @binary p _ left right admitted cl loose cr tight =>
      have hp := p.rank_eq_levelRank_tighter
      refine derives_of_levelRank fun level own => ?_
      rw [Expr.rank_binary admitted] at own
      obtain rfl : level = some p := by
        cases level with
        | none => exact absurd own.symm (Nat.ne_of_gt p.rank_pos)
        | some q => rw [Precedence.rank_injective own]
      exact .chain (ihl cl (some p) loose) admitted (ihr cr p.tighter? (by omega))

/-- What is derived is written by some tree, if all values are there. -/
theorem Derives.exists_yields (h : Derives level ts) (valued : ∀ t ∈ ts, t.Valued) :
    ∃ e : Expr, e.Canonical ∧ e.Yields ts ∧ e.rank ≤ levelRank level := by
  induction h with
  | @value t kind =>
    obtain ⟨v, denotes⟩ : ∃ v, t.Denotes v := by
      have own := valued t (by simp)
      simp only [List.mem_cons, List.not_mem_nil, or_false] at kind
      rcases kind with h | h | h | h | h
      · obtain ⟨l, hl⟩ := Option.isSome_iff_exists.1 (own (.inl h))
        exact ⟨_, .number h hl⟩
      · obtain ⟨l, hl⟩ := Option.isSome_iff_exists.1 (own (.inr h))
        exact ⟨_, .string h hl⟩
      · exact ⟨_, .trueWord h⟩
      · exact ⟨_, .falseWord h⟩
      · exact ⟨_, .nilWord h⟩
    exact ⟨.literal v, .literal v, .literal denotes, Nat.le_refl 0⟩
  | group opens content closes ih =>
    obtain ⟨e, canonical, yields, -⟩ := ih fun t ht => valued t (by simp [ht])
    exact ⟨.grouping e, .grouping canonical, .grouping opens yields closes, Nat.le_refl 0⟩
  | @unary operator ts sign operand ih =>
    obtain ⟨e, canonical, yields, rank⟩ := ih fun t ht => valued t (by simp [ht])
    have admitted : operator.kind.isUnaryOperator = true := by
      simpa [TokenKind.isUnaryOperator] using sign
    exact ⟨.unary operator e, .unary admitted canonical (Nat.le_zero.1 rank), .unary yields,
      Nat.le_refl 0⟩
  | @operand p ts operand ih =>
    obtain ⟨e, canonical, yields, rank⟩ := ih valued
    have hp := p.rank_eq_levelRank_tighter
    refine ⟨e, canonical, yields, ?_⟩
    rw [Precedence.levelRank_some]
    omega
  | @chain p operator ls rs first admitted last ihl ihr =>
    obtain ⟨left, cl, lefts, loose⟩ := ihl fun t ht => valued t (by simp [ht])
    obtain ⟨right, cr, rights, tight⟩ := ihr fun t ht => valued t (by simp [ht])
    have hp := p.rank_eq_levelRank_tighter
    exact ⟨.binary left operator right, .binary admitted cl loose cr (by omega),
      .binary lefts rights, Nat.le_of_eq (Expr.rank_binary admitted left right)⟩

theorem Derives.map {g : Token → Token} (h : Derives level ts) (kinds : ∀ t, (g t).kind = t.kind) :
    Derives level (ts.map g) := by
  induction h with
  | value kind => exact .value (by rwa [kinds])
  | group opens content closes ih =>
    rw [List.map_append, List.map_cons]
    exact .group (by rw [kinds, opens]) ih (by rw [kinds, closes])
  | unary sign operand ih => exact .unary (by rwa [kinds]) ih
  | operand operand ih => exact .operand ih
  | chain first admitted last ihl ihr =>
    rw [List.map_append, List.map_cons]
    exact .chain ihl (by rwa [kinds]) ihr

/-- A sentence is written by some tree once its missing values are filled in behind a front that has
all of its own. -/
theorem Sentence.exists_yields_append {more : List Token} (h : Sentence (ts ++ more))
    (valued : ∀ t ∈ ts, t.Valued) :
    ∃ e : Expr, e.Canonical ∧ e.Yields (ts ++ more.map Token.valued) := by
  have filled := Derives.map h Token.kind_valued
  have front : ts.map Token.valued = ts :=
    (List.map_congr_left fun t ht => Token.valued_eq (valued t ht)).trans (List.map_id ts)
  rw [List.map_append, front] at filled
  obtain ⟨e, canonical, yields, -⟩ := filled.exists_yields fun t ht => by
    rcases List.mem_append.1 ht with ht | ht
    · exact valued t ht
    · obtain ⟨u, -, rfl⟩ := List.mem_map.1 ht
      exact u.valued_valued
  exact ⟨e, canonical, yields⟩

end Trees

end LoxSyntax
