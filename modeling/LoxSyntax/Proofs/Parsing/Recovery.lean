import LoxSyntax.Proofs.Parsing.Invariant
import Mathlib.Order.Bounds.Basic

/-!
# Recovery from a syntax error

Synchronizing drops one token and then runs a loop whose test looks one token back and one ahead.
From any place it stops at the first statement boundary behind that place, so a loop that recovers
from every failed expression leaves at least one token behind in each round.
-/
namespace LoxSyntax.Parsing

namespace Cursor

variable {c d : Cursor} {tokens : List Token} {place : Nat}

/-- The cursor at a place of some tokens. -/
def standing (tokens : List Token) (place : Nat) : Cursor :=
  ⟨place, if place = 0 then none else tokens[place - 1]?, tokens.drop place⟩

private theorem peek_standing (tokens : List Token) (place : Nat) :
    (standing tokens place).peek = tokens[place]?.getD (.endOfFile 0) := by
  rw [peek, standing, List.head?_drop]

private theorem previous_standing (behind : 0 < place) :
    (standing tokens place).previous =
      tokens[place - 1]?.getD (standing tokens place).peek := by
  rw [previous]
  congr 1
  exact if_neg (Nat.ne_of_gt behind)

private theorem isAtEnd_standing (tokens : List Token) (place : Nat) :
    (standing tokens place).isAtEnd = tokens[place]?.all (·.isEndOfFile) := by
  rw [isAtEnd, peek_standing]
  cases tokens[place]? <;> rfl

private theorem exists_advance_eq (goes : c.isAtEnd = false) :
    ∃ t more, c.rest = t :: more ∧ t.isEndOfFile = false ∧
      c.advance = ⟨c.consumed + 1, some t, more⟩ := by
  obtain ⟨consumed, last, rest⟩ := c
  cases rest with
  | nil => exact absurd goes (by simp [isAtEnd, peek])
  | cons t more =>
    have proper : t.isEndOfFile = false := goes
    exact ⟨t, more, rfl, proper, by simp [advance, proper]⟩

private theorem advance_of_isAtEnd (stops : c.isAtEnd = true) : c.advance = c := by
  obtain ⟨consumed, last, rest⟩ := c
  cases rest with
  | nil => rfl
  | cons t more =>
    have ends : t.isEndOfFile = true := stops
    simp [advance, ends]

private theorem advance_standing (goes : (standing tokens place).isAtEnd = false) :
    (standing tokens place).advance = standing tokens (place + 1) := by
  obtain ⟨t, more, rest, -, advanced⟩ := exists_advance_eq goes
  have whole : tokens.drop place = t :: more := rest
  have own : tokens[place]? = some t := by rw [← List.head?_drop, whole, List.head?_cons]
  have later : tokens.drop (place + 1) = more := by rw [← List.drop_drop, whole, List.drop_one,
    List.tail_cons]
  rw [advanced]
  simp [standing, own, later]

private theorem Passes.eq_standing {ts : List Token} (h : (ofTokens tokens).Passes ts c) :
    c = standing tokens c.consumed := by
  obtain ⟨consumed, last, rest⟩ := c
  obtain ⟨whole, count, passed, -⟩ := h
  obtain rfl : tokens = ts ++ rest := whole
  obtain rfl : consumed = ts.length := count.trans (Nat.zero_add _)
  have own : last = ts.getLast? := passed.trans (Option.or_none ..)
  rw [standing, List.drop_left, own]
  congr 1
  rcases List.eq_nil_or_concat ts with rfl | ⟨front, t, rfl⟩
  · rfl
  · simp

/-- The test of the loop that discards tokens. -/
def goesOn (c : Cursor) : Bool :=
  !c.isAtEnd && !(c.previous.kind = .semicolon || c.peek.kind.startsStatement)

/-- The loop that discards tokens ends here. -/
inductive Discards : Cursor → Cursor → Prop
  | stop {c : Cursor} (stops : c.goesOn = false) : Discards c c
  | more {c d : Cursor} (goes : c.goesOn = true) (later : Discards c.advance d) : Discards c d

/-- A place where recovery stops: at the end, behind a semicolon, or in front of a word that starts
a statement. -/
inductive IsBoundary (tokens : List Token) (n : Nat) : Prop
  | atEnd (ends : tokens[n]?.all (·.isEndOfFile) = true)
  | behind {t : Token} (last : tokens[n - 1]? = some t) (separates : t.kind = .semicolon)
  | before {t : Token} (ahead : tokens[n]? = some t) (starts : t.kind.startsStatement = true)

private theorem goesOn_standing_iff (behind : 0 < place) :
    (standing tokens place).goesOn = false ↔ IsBoundary tokens place := by
  rw [goesOn, previous_standing behind, isAtEnd_standing, peek_standing]
  constructor
  · intro stops
    cases ahead : tokens[place]? with
    | none => exact .atEnd (by simp [ahead])
    | some t =>
      have within : place < tokens.length := (List.getElem?_eq_some_iff.1 ahead).1
      have last : tokens[place - 1]? = some tokens[place - 1] := List.getElem?_eq_getElem (by omega)
      rw [ahead, last] at stops
      simp only [Option.all_some, Option.getD_some, Bool.and_eq_false_iff, Bool.not_eq_false',
        Bool.or_eq_true, decide_eq_true_eq] at stops
      rcases stops with ends | separates | starts
      · exact .atEnd (by simpa [ahead] using ends)
      · exact .behind last separates
      · exact .before ahead starts
  · rintro (ends | ⟨last, separates⟩ | ⟨ahead, starts⟩)
    · simp [ends]
    · simp [last, separates]
    · simp [ahead, starts]

private theorem discards_seekBoundary (passed : c.last.isSome = true ∨ c.isAtEnd = true) :
    Discards c (seekBoundary c.consumed c.last c.rest) := by
  obtain ⟨consumed, last, rest⟩ := c
  dsimp only at passed ⊢
  fun_induction seekBoundary consumed last rest with
  | case1 consumed last => exact .stop rfl
  | case2 consumed last t more stops =>
    refine .stop ?_
    cases last with
    | none =>
      rcases passed with passed | ends
      · cases passed
      · simp [goesOn, ends]
    | some u =>
      simp only [Option.any_some, Bool.or_eq_true, decide_eq_true_eq, or_assoc] at stops
      rcases stops with ends | separates | starts
      · simp [goesOn, isAtEnd, peek, ends]
      · simp [goesOn, previous, separates]
      · simp [goesOn, peek, starts]
  | case3 consumed last t more goes ih =>
    simp only [Bool.or_eq_true, not_or, Bool.not_eq_true] at goes
    obtain ⟨⟨proper, inner⟩, starts⟩ := goes
    have next : advance ⟨consumed, last, t :: more⟩ = ⟨consumed + 1, some t, more⟩ := by
      simp [advance, proper]
    refine .more ?_ (next ▸ ih (.inl rfl))
    cases last with
    | none => simp [isAtEnd, peek, proper] at passed
    | some u =>
      have inner : u.kind ≠ .semicolon := of_decide_eq_false inner
      simp [goesOn, isAtEnd, peek, previous, proper, inner, starts]

private theorem discards_synchronize (c : Cursor) : Discards c.advance c.synchronize := by
  refine discards_seekBoundary ?_
  cases ends : c.isAtEnd with
  | true =>
    rw [advance_of_isAtEnd ends]
    exact .inr ends
  | false =>
    obtain ⟨t, more, -, -, advanced⟩ := exists_advance_eq ends
    rw [advanced]
    exact .inl rfl

/-- From a place behind some token the loop stops at the first boundary. -/
theorem Discards.exists_least (h : Discards c d) (behind : 0 < place)
    (own : c = standing tokens place) :
    ∃ stop, d = standing tokens stop ∧ IsLeast {n | place ≤ n ∧ IsBoundary tokens n} stop := by
  induction h generalizing place with
  | stop stops =>
    rw [own, goesOn_standing_iff behind] at stops
    exact ⟨place, own, ⟨Nat.le_refl place, stops⟩, fun n hn => hn.1⟩
  | @more c d goes later ih =>
    have inner : ¬IsBoundary tokens place := by
      rw [← goesOn_standing_iff behind, ← own, goes]
      exact Bool.noConfusion
    have moves : (standing tokens place).isAtEnd = false := by
      rw [goesOn, own] at goes
      exact (Bool.not_eq_true' _).mp (Bool.and_eq_true_iff.1 goes).1
    obtain ⟨stop, rfl, ⟨later, boundary⟩, least⟩ :=
      ih (Nat.succ_pos place) (own ▸ advance_standing moves)
    refine ⟨stop, rfl, ⟨Nat.le_of_succ_le later, boundary⟩, fun n ⟨le, other⟩ => least ⟨?_, other⟩⟩
    refine Nat.lt_of_le_of_ne le ?_
    rintro rfl
    exact inner other

private theorem synchronize_of_isAtEnd (stops : c.isAtEnd = true) : c.synchronize = c := by
  have loop := discards_synchronize c
  rw [advance_of_isAtEnd stops] at loop
  generalize c.synchronize = d at loop ⊢
  cases loop with
  | stop => rfl
  | more goes => simp [goesOn, stops] at goes

/-- Synchronizing passes at least one token, unless at the end. -/
theorem length_rest_synchronize_lt (goes : c.isAtEnd = false) :
    c.synchronize.rest.length < c.rest.length := by
  obtain ⟨ts, passes⟩ := exists_passes_seekBoundary c.advance.consumed c.advance.last c.advance.rest
  have later : c.advance.rest = ts ++ c.synchronize.rest := passes.rest
  have shorter : c.synchronize.rest.length ≤ c.advance.rest.length := by simp [later]
  obtain ⟨t, more, rest, -, advanced⟩ := exists_advance_eq goes
  rw [advanced] at shorter
  rw [rest]
  exact Nat.lt_succ_of_le shorter

end Cursor

namespace Parser

variable {p q : Parser}

/-- One round of recovery: an expression, and behind one that fails all up to the next boundary. -/
def round (p : Parser) : Parser :=
  match p.expression with
  | (some _, q) => q
  | (none, q) => q.synchronize

/-- The parser after so many rounds, with further requests at the end of each. -/
def rounds (further : Nat → List Request) (p : Parser) : Nat → Parser
  | 0 => p
  | n + 1 => (rounds further p n).round.asked (further n)

private theorem Follows.length_rest_le (h : p.Follows q) :
    q.cursor.rest.length ≤ p.cursor.rest.length := by
  obtain ⟨ts, passes⟩ := h.passes
  simp [passes.rest]

private theorem length_rest_round_lt (goes : p.cursor.isAtEnd = false) :
    p.round.cursor.rest.length < p.cursor.rest.length := by
  have follows : p.Follows p.expression.2 := .expression p
  obtain ⟨ts, passes⟩ := follows.passes
  unfold round
  split
  · rename_i e q h
    rw [h] at passes
    have progress : p.cursor.consumed < q.cursor.consumed := (progress_of_expression h).2
    have count : q.cursor.consumed = p.cursor.consumed + ts.length := passes.consumed
    have whole : p.cursor.rest = ts ++ q.cursor.rest := passes.rest
    rw [whole, List.length_append]
    omega
  · rename_i q h
    rw [h] at passes follows
    cases stops : q.cursor.isAtEnd with
    | false =>
      exact Nat.lt_of_lt_of_le (Cursor.length_rest_synchronize_lt stops) follows.length_rest_le
    | true =>
      have still : q.synchronize.cursor = q.cursor := Cursor.synchronize_of_isAtEnd stops
      rw [still, passes.rest, List.length_append]
      refine Nat.lt_add_of_pos_left (List.length_pos_iff.2 ?_)
      rintro rfl
      have same : q.cursor.rest = p.cursor.rest := passes.rest.symm
      rw [Cursor.isAtEnd, Cursor.peek, same] at stops
      exact absurd (stops.symm.trans goes) (by decide)

private theorem rounds_end_or_progress (further : Nat → List Request) (p : Parser) (n : Nat) :
    (∃ m < n, (p.rounds further m).cursor.isAtEnd = true) ∨
      (p.rounds further n).cursor.rest.length + n ≤ p.cursor.rest.length := by
  induction n with
  | zero => exact .inr (Nat.le_refl _)
  | succ n ih =>
    rcases ih with ⟨m, hm, ends⟩ | progress
    · exact .inl ⟨m, Nat.lt_succ_of_lt hm, ends⟩
    · cases ends : (p.rounds further n).cursor.isAtEnd with
      | true => exact .inl ⟨n, Nat.lt_succ_self n, ends⟩
      | false =>
        have less := length_rest_round_lt ends
        have later := (follows_asked (p.rounds further n).round (further n)).length_rest_le
        refine .inr ?_
        rw [rounds]
        omega

private theorem exists_rounds_isAtEnd (further : Nat → List Request) (p : Parser) :
    ∃ n ≤ p.cursor.rest.length, (p.rounds further n).cursor.isAtEnd = true := by
  rcases rounds_end_or_progress further p p.cursor.rest.length with ⟨m, hm, ends⟩ | progress
  · exact ⟨m, Nat.le_of_lt hm, ends⟩
  · refine ⟨_, Nat.le_refl _, ?_⟩
    have empty : (p.rounds further p.cursor.rest.length).cursor.rest = [] :=
      List.eq_nil_of_length_eq_zero (by omega)
    rw [Cursor.isAtEnd, Cursor.peek, empty]
    rfl

/-- After any requests a parser stands at a place of its tokens. From any place, also one behind an
end marker, synchronizing changes nothing but the cursor: it stays at the end, and else goes on to
the first boundary behind it, where the loop that discards tokens ends. A loop of expressions, each
with a recovery if it fails and with any further requests, comes to the end after no more rounds
than there are tokens ahead. -/
theorem synchronize_first_boundary (tokens : List Token) (place depth : Nat) (r : Reporter)
    (further : Nat → List Request) :
    let p : Parser := ⟨.standing tokens place, depth, r⟩
    (∃ stop, p.synchronize = ⟨.standing tokens stop, depth, r⟩ ∧
      if p.cursor.isAtEnd then stop = place
      else IsLeast {n | place < n ∧ Cursor.IsBoundary tokens n} stop) ∧
    p.cursor.advance.Discards p.synchronize.cursor ∧
    (∃ n ≤ tokens.length - place, (p.rounds further n).cursor.isAtEnd = true) ∧
    ∀ requests, ∃ place' depth' r',
      (ofTokens tokens r).asked requests = ⟨.standing tokens place', depth', r'⟩ := by
  intro p
  refine ⟨?_, p.cursor.discards_synchronize, ?_, fun requests => ?_⟩
  · cases stops : p.cursor.isAtEnd with
    | true =>
      refine ⟨place, ?_, rfl⟩
      rw [synchronize, Cursor.synchronize_of_isAtEnd stops]
    | false =>
      have loop := p.cursor.discards_synchronize
      rw [show p.cursor.advance = .standing tokens (place + 1) from
        Cursor.advance_standing stops] at loop
      obtain ⟨stop, cursor, least⟩ := loop.exists_least (Nat.succ_pos place) rfl
      refine ⟨stop, ?_, ?_⟩
      · rw [synchronize, cursor]
      · exact least
  · have ahead : p.cursor.rest.length = tokens.length - place := List.length_drop ..
    exact ahead ▸ exists_rounds_isAtEnd further p
  · obtain ⟨ts, passes⟩ := (follows_asked (ofTokens tokens r) requests).passes
    have own := Cursor.Passes.eq_standing passes
    generalize (ofTokens tokens r).asked requests = q at own
    exact ⟨q.cursor.consumed, q.depth, q.reporter, by rw [← own]⟩

/-- The word ahead is dropped also where it starts a statement itself. -/
example : (Cursor.standing [.plain (.keyword .varWord) "var", .plain .identifier "x",
    .plain (.keyword .printWord) "print", .endOfFile 1] 0).synchronize.consumed = 2 := by decide

end Parser

end LoxSyntax.Parsing
