import Mathlib.Tactic.Linarith
import Mathlib.Tactic.Ring
import LoxSyntax.Pipeline
import LoxSyntax.Proofs.Parsing.RoundTrip

/-!
# How high an accepted tree is

The reader counts the levels it has open and closes those of a chain behind its last operand, while
in the tree all operators of a chain stand above the first operand. So the count bounds the need of
a tree but not its height: a left operand is read as if no operator were to follow.
-/
namespace LoxSyntax

open Precedence (levelRank)

namespace Expr

/-- Every left operand along the right edge stays within the levels left there. -/
def LeftsFit : Expr → Nat → Prop
  | binary left _ right, room => left.height < room ∧ right.LeftsFit (room - 1)
  | grouping inner, room => inner.LeftsFit (room - 1)
  | literal _, _ => True
  | unary _ operand, room => operand.LeftsFit (room - 1)

variable {e : Expr} {level : Option Precedence} {p : Precedence} {n : Nat}

/-- Under a sufficient room the left operands alone decide whether the height fits as well. -/
theorem Canonical.height_le_iff (canonical : e.Canonical) :
    ∀ room, e.need ≤ room → (e.height ≤ room ↔ e.LeftsFit room) := by
  induction canonical with
  | literal v =>
    intro room _
    simp [height, LeftsFit]
  | @grouping inner canonical ih =>
    intro room fits
    simp only [need] at fits
    have hi := ih (room - 1) (by omega)
    simp only [height, LeftsFit, ← hi]
    omega
  | @unary operator operand admitted canonical tight ih =>
    intro room fits
    simp only [need] at fits
    have hi := ih (room - 1) (by omega)
    simp only [height, LeftsFit, ← hi]
    omega
  | @binary p operator left right admitted lefts loose rights tight ihl ihr =>
    intro room fits
    rw [need_binary admitted] at fits
    have hr := ihr (room - 1) (by omega)
    simp only [height, LeftsFit, ← hr]
    omega

private theorem Canonical.spine_le_need (canonical : e.Canonical) (p : Precedence) :
    e.spine p ≤ e.need := by
  induction canonical with
  | literal | grouping | unary => exact Nat.zero_le _
  | @binary q operator left right admitted lefts loose rights tight ihl ihr =>
    rw [need_binary admitted]
    by_cases hq : q = p
    · subst hq
      rw [spine_binary admitted]
      omega
    · simp only [spine, admitted, Option.some.injEq, hq, if_false]
      omega

/-- A bound on the height that counts a chain of the level only as far as it goes. -/
def Within (e : Expr) (n : Nat) (level : Option Precedence) : Prop :=
  e.height + n ≤ 2 * n * n + levelRank (level.bind Precedence.tighter?) * n +
    level.elim 0 (e.spine ·)

private theorem Within.height_le (h : e.Within n level) (canonical : e.Canonical)
    (fits : e.need ≤ n) :
    e.height + n ≤ 2 * n * n + levelRank level * n := by
  cases level with
  | none => simpa [Within] using h
  | some p =>
    have hs := canonical.spine_le_need p
    have hp := p.rank_eq_levelRank_tighter
    simp only [Within, Option.bind_some, Option.elim_some] at h
    simp only [Precedence.levelRank_some, hp]
    nlinarith

theorem Within.looser (canonical : e.Canonical) (fits : e.need ≤ n)
    (h : e.Within n p.tighter?) : e.Within n (some p) := by
  have hh := h.height_le canonical fits
  simp only [Within, Option.bind_some, Option.elim_some]
  omega

/-- Each level adds at most the need to the height, and each group starts anew with one level
fewer. -/
theorem Canonical.within (canonical : e.Canonical) :
    ∀ n, e.need ≤ n → ∀ level, e.rank ≤ levelRank level → e.Within n level := by
  have unary {e : Expr} {n : Nat} (canonical : e.Canonical) (tight : e.rank = 0)
      (fits : e.need ≤ n) (h : e.height + n ≤ 2 * n * n) :
      ∀ level, e.rank ≤ levelRank level → e.Within n level := by
    refine Precedence.level_induction ?_ fun p _ h => h.looser canonical fits
    rintro (_ | p) own
    · simpa [Within] using h
    · have := p.rank_pos
      simp only [Precedence.levelRank_some] at own
      omega
  induction canonical with
  | literal v =>
    intro n fits
    refine unary (.literal v) rfl fits ?_
    have := Nat.le_mul_self n
    simp only [height]
    nlinarith
  | @grouping inner canonical ih =>
    intro n fits
    simp only [need] at fits
    obtain ⟨m, rfl⟩ : ∃ m, n = m + 1 := ⟨n - 1, by omega⟩
    have hh := (ih m (by omega) (some .equality) inner.rank_le).height_le canonical (by omega)
    refine unary (.grouping canonical) rfl (by simpa [need] using fits) ?_
    simp only [height, Precedence.levelRank_some, Precedence.rank] at hh ⊢
    nlinarith
  | @unary operator operand admitted canonical tight ih =>
    intro n fits
    simp only [need] at fits
    obtain ⟨m, rfl⟩ : ∃ m, n = m + 1 := ⟨n - 1, by omega⟩
    have hh := (ih m (by omega) none (Nat.le_of_eq tight)).height_le canonical (by omega)
    refine unary (.unary admitted canonical tight) rfl (by simpa [need] using fits) ?_
    simp only [height, Precedence.levelRank_none] at hh ⊢
    nlinarith
  | @binary p operator left right admitted lefts loose rights tight ihl ihr =>
    intro n fits
    have hp := p.rank_eq_levelRank_tighter
    have hneed := need_binary admitted left right
    obtain ⟨m, rfl⟩ : ∃ m, n = m + (1 + left.spine p) := ⟨n - (1 + left.spine p), by omega⟩
    have hl := ihl (m + (1 + left.spine p)) (by omega) (some p) loose
    have hr := (ihr m (by omega) p.tighter? (by omega)).height_le rights (by omega)
    have canonical := Canonical.binary admitted lefts loose rights tight
    refine Precedence.level_induction ?_ fun p _ h => h.looser canonical fits
    rintro (_ | q) own
    · have := p.rank_pos
      rw [rank_binary admitted, Precedence.levelRank_none] at own
      omega
    · rw [Precedence.rank_injective (own.trans (rank_binary admitted left right))]
      simp only [Within, Option.bind_some, Option.elim_some, spine_binary admitted, height] at hl ⊢
      rcases Nat.le_total left.height right.height with hle | hle
      · rw [Nat.max_eq_right hle]
        nlinarith
      · rw [Nat.max_eq_left hle]
        omega

/-- A tree of the grammar is at most quadratically higher than the levels it needs. -/
theorem Canonical.height_le (canonical : e.Canonical) (fits : e.need ≤ n) :
    e.height ≤ n * (2 * n + 3) := by
  have hh := (canonical.within n fits (some .equality) e.rank_le).height_le canonical fits
  simp only [Precedence.levelRank_some, Precedence.rank] at hh
  nlinarith

/-- Some tree of the grammar has this height, while its need and its rank stay within these. -/
def Attains (n r h : Nat) : Prop :=
  ∃ (e : Expr) (ts : List Token),
    e.Canonical ∧ e.Yields ts ∧ e.need ≤ n ∧ e.rank ≤ r ∧ e.height = h

variable {r h : Nat}

theorem Attains.grouping (attained : Attains n r h) : Attains (n + 1) 0 (1 + h) := by
  obtain ⟨e, ts, canonical, yields, fits, -, rfl⟩ := attained
  have written := @Yields.grouping (.plain .leftParen "(") (.plain .rightParen ")") e ts rfl
    yields rfl
  refine ⟨.grouping e, _, .grouping canonical, written, ?_, Nat.le_refl 0, rfl⟩
  simp only [need]
  omega

/-- A chain puts as many operators above its first operand as there are levels, though that operand
may need them all. -/
theorem Attains.chain {operator : Token} (admitted : Precedence.ofKind? operator.kind = some p)
    (tight : r < p.rank) (attained : Attains n r h) : Attains n p.rank (n + h) := by
  have chains : ∀ k ≤ n, ∃ (e : Expr) (ts : List Token), e.Canonical ∧ e.Yields ts ∧ e.need ≤ n ∧
      e.rank ≤ p.rank ∧ e.height = k + h ∧ e.spine p = k := by
    intro k
    induction k with
    | zero =>
      intro _
      obtain ⟨e, ts, canonical, yields, fits, rank, height⟩ := attained
      exact ⟨e, ts, canonical, yields, fits, by omega, by omega,
        canonical.spine_eq_zero (by omega)⟩
    | succ k ih =>
      intro hk
      obtain ⟨e, ts, canonical, yields, fits, rank, height, spine⟩ := ih (by omega)
      have nilWord := @Yields.literal (.plain (.keyword .nilWord) "nil") .nil (.nilWord rfl)
      refine ⟨.binary e operator (.literal .nil), _, ?_, .binary yields nilWord, ?_, ?_, ?_, ?_⟩
      · exact .binary admitted canonical rank (.literal .nil) p.rank_pos
      · rw [need_binary admitted, spine]
        simp only [need]
        omega
      · exact Nat.le_of_eq (rank_binary admitted e _)
      · simp only [Expr.height, height]
        omega
      · rw [spine_binary admitted, spine, Nat.add_comm]
  obtain ⟨e, ts, canonical, yields, fits, rank, height, -⟩ := chains n (Nat.le_refl n)
  exact ⟨e, ts, canonical, yields, fits, rank, height⟩

/-- The bound on the height is met: groups within chains of all four levels. -/
theorem attains_height_le (n : Nat) : Attains n 4 (n * (2 * n + 3)) := by
  induction n with
  | zero =>
    have nilWord := @Yields.literal (.plain (.keyword .nilWord) "nil") .nil (.nilWord rfl)
    exact ⟨.literal .nil, _, .literal .nil, nilWord, Nat.le_refl 0, Nat.zero_le 4, rfl⟩
  | succ n ih =>
    have factor := @Attains.chain .factor (n + 1) 0 _ (.plain .star "*") rfl (by decide)
      ih.grouping
    have term := @Attains.chain .term (n + 1) 1 _ (.plain .plus "+") rfl (by decide) factor
    have comparison := @Attains.chain .comparison (n + 1) 2 _ (.plain .less "<") rfl
      (by decide) term
    have equality := @Attains.chain .equality (n + 1) 3 _ (.plain .equalEqual "==") rfl
      (by decide) comparison
    obtain ⟨e, ts, canonical, yields, fits, rank, height⟩ := equality
    refine ⟨e, ts, canonical, yields, fits, rank, height.trans ?_⟩
    ring

end Expr

namespace Parsing

private theorem exists_parse_of_parseSource {source : String} {r r' : Reporter} {e : Expr}
    (h : parseSource source r = (some e, r')) : ∃ p q : Parser, p.parse = (some e, q) := by
  simp only [parseSource] at h
  split at h
  · cases h
  · obtain ⟨he, -⟩ := Prod.mk.inj h
    exact ⟨_, _, Prod.ext he rfl⟩

/-- A tree that a parser accepts, whatever its state, or that is parsed from a source needs at most
the depth allowed. Its height stays within that depth exactly when its left operands do, and is
otherwise bounded only by about twice the square of it. -/
theorem height_le_maxDepth_iff {e : Expr}
    (accepted : (∃ p q : Parser, p.parse = (some e, q)) ∨
      ∃ source r r', parseSource source r = (some e, r')) :
    e.need ≤ maxDepth ∧ (e.height ≤ maxDepth ↔ e.LeftsFit maxDepth) ∧
      e.height ≤ maxDepth * (2 * maxDepth + 3) := by
  obtain ⟨p, q, h⟩ : ∃ p q : Parser, p.parse = (some e, q) := by
    rcases accepted with h | ⟨source, r, r', h⟩
    · exact h
    · exact exists_parse_of_parseSource h
  obtain ⟨ts, built⟩ := Parser.built_of_parse h
  exact ⟨built.fits, built.canonical.height_le_iff maxDepth built.fits,
    built.canonical.height_le built.fits⟩

/-- A group in front of an operator, for a parser whose last expression failed. -/
theorem height_le_maxDepth_iff_group_sum :
    ∃ p q : Parser, ∃ e : Expr, p.depth = 7 ∧ p.parse = (some e, q) ∧
      p.cursor.rest = [.plain .leftParen "(", .plain .minus "-", .plain (.keyword .nilWord) "nil",
        .plain .rightParen ")", .plain .plus "+", .plain (.keyword .trueWord) "true",
        .endOfFile 1] ∧
      e.need ≤ maxDepth ∧ (e.height ≤ maxDepth ↔ e.LeftsFit maxDepth) ∧
      e.height ≤ maxDepth * (2 * maxDepth + 3) := by
  let p : Parser := ⟨⟨3, some (.plain .star "*"), [.plain .leftParen "(", .plain .minus "-",
    .plain (.keyword .nilWord) "nil", .plain .rightParen ")", .plain .plus "+",
    .plain (.keyword .trueWord) "true", .endOfFile 1]⟩, 7, .empty⟩
  let e : Expr := .binary (.grouping (.unary (.plain .minus "-") (.literal .nil)))
    (.plain .plus "+") (.literal (.boolean true))
  have h : p.parse = (some e, p.parse.2) := Prod.ext (by decide +kernel) rfl
  exact ⟨p, p.parse.2, e, rfl, h, rfl, height_le_maxDepth_iff (.inl ⟨p, p.parse.2, h⟩)⟩

/-- An operator behind as many signs as may be opened puts one level more above them. -/
theorem exists_height_gt_maxDepth :
    ∃ e q, (Parser.ofTokens (List.replicate maxDepth (.plain .minus "-") ++
      [.plain (.keyword .nilWord) "nil", .plain .plus "+", .plain (.keyword .nilWord) "nil",
        .endOfFile 1]) .empty).parse = (some e, q) ∧ ¬e.height ≤ maxDepth := by
  have h : (Parser.ofTokens (List.replicate maxDepth (.plain .minus "-") ++
      [.plain (.keyword .nilWord) "nil", .plain .plus "+", .plain (.keyword .nilWord) "nil",
        .endOfFile 1]) .empty).parse.1.map Expr.height = some 257 := by decide +kernel
  obtain ⟨e, he, hh⟩ := Option.map_eq_some_iff.1 h
  exact ⟨e, _, Prod.ext he rfl, by rw [hh]; decide⟩

/-- No smaller bound on the height holds of all accepted trees. -/
theorem exists_parse_height_eq (r : Reporter) :
    ∃ tokens e q, (Parser.ofTokens tokens r).parse = (some e, q) ∧
      e.height = maxDepth * (2 * maxDepth + 3) := by
  obtain ⟨e, ts, canonical, yields, fits, -, height⟩ := Expr.attains_height_le maxDepth
  exact ⟨ts ++ [.endOfFile 1], e, _,
    Parser.parse_of_need_le r canonical yields rfl rfl fits, height⟩

end Parsing

end LoxSyntax
