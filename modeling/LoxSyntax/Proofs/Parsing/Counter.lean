import LoxSyntax.Proofs.Parsing.Ahead
import LoxSyntax.Proofs.Parsing.Reading
import Mathlib.Order.Filter.AtTopBot.Basic

/-!
# The counter of open levels

A reader that counts the levels it has open raises its counter for each of them, lowers it behind
the operand of a sign and the content of a group, and puts it back behind a chain. It is the reader
by room the other way round: every run ends, and no counter at zero is lowered.
-/
namespace LoxSyntax.Parsing

open Filter (atTop map_add_atTop_eq_nat)

/-- Why a counting run halts without a tree: for what is ahead, for a number or string token that
was passed and has no value, or because a counter at zero was to be lowered. -/
inductive Halt
  | ahead (cause : SyntaxError) (c : Cursor) (depth : Nat)
  | valueless (t : Token) (after : Cursor) (depth : Nat)
  | underflow

/-- Runs with a counter; one that has not ended gives nothing. -/
abbrev Counting (α : Type) := ExceptT Halt Option α

/-- The counter with one level more, if one may still be opened. -/
def raise (depth : Nat) (c : Cursor) : Counting Nat :=
  if maxDepth ≤ depth then throw (.ahead .tooMuchNesting c depth) else pure (depth + 1)

/-- The counter with one level less. -/
def lower : Nat → Counting Nat
  | 0 => throw .underflow
  | depth + 1 => pure depth

/-- Reads a phrase with the counter in at most so many nested steps, and gives the counter behind
it. -/
def Phrase.count : Nat → Phrase → Nat → Cursor → Counting (Expr × Cursor × Nat)
  | 0, _, _, _ => ExceptT.mk none
  | steps + 1, primary, depth, c =>
    match c.accept? isOperandKind with
    | some (t, after) =>
      match operandValue? t with
      | some value => pure (.literal value, after, depth)
      | none => throw (.valueless t after depth)
    | none =>
      match c.accept? (· = .leftParen) with
      | none => throw (.ahead .expectExpression c depth)
      | some (_, after) => do
        let depth ← raise depth after
        let (e, closing, depth) ← count steps (level (some .equality)) depth after
        let depth ← lower depth
        match closing.accept? (· = .rightParen) with
        | some (_, done) => pure (.grouping e, done, depth)
        | none => throw (.ahead .expectClosing closing depth)
  | steps + 1, unary, depth, c =>
    match c.accept? (·.isUnaryOperator) with
    | none => count steps primary depth c
    | some (operator, after) => do
      let depth ← raise depth after
      let (operand, done, depth) ← count steps unary depth after
      let depth ← lower depth
      pure (.unary operator operand, done, depth)
  | steps + 1, level none, depth, c => count steps unary depth c
  | steps + 1, level (some p), depth, c => do
    let (left, after, counter) ← count steps (level p.tighter?) depth c
    let (e, done, _) ← count steps (chain p left) counter after
    pure (e, done, depth)
  | steps + 1, chain p left, depth, c =>
    match c.accept? p.admits with
    | none => pure (left, c, depth)
    | some (operator, after) => do
      let depth ← raise depth after
      let (right, done, depth) ← count steps (level p.tighter?) depth after
      count steps (chain p (.binary left operator right)) depth done

section Counts

variable {phrase : Phrase} {depth : Nat} {c : Cursor}
  {outcome outcome' : Counting (Expr × Cursor × Nat)}

/-- What a run comes to once the steps suffice. -/
def Phrase.Counts (phrase : Phrase) (depth : Nat) (c : Cursor)
    (outcome : Counting (Expr × Cursor × Nat)) : Prop :=
  ∀ᶠ steps in atTop, phrase.count steps depth c = outcome

private theorem Phrase.Counts.of_succ
    (h : ∀ᶠ steps in atTop, phrase.count (steps + 1) depth c = outcome) :
    phrase.Counts depth c outcome := by
  rw [Counts, ← map_add_atTop_eq_nat 1]
  exact h

theorem Phrase.Counts.unique (h : phrase.Counts depth c outcome)
    (h' : phrase.Counts depth c outcome') : outcome = outcome' := by
  obtain ⟨steps, now, now'⟩ := (Filter.Eventually.and h h').exists
  exact now.symm.trans now'

end Counts

/-- The counter behind a phrase: as before, save that the operators of a chain leave their levels
open for the chain to close. -/
def Phrase.Restores : Phrase → Nat → Nat → Prop
  | chain .., depth, counter => depth ≤ counter
  | _, depth, counter => counter = depth

/-- What the reader reports where a counting run halts. Of an underflow nothing is reported. -/
inductive Halt.Reports : Halt → Failure → Prop
  | ahead {cause c depth} : Reports (.ahead cause c depth) ⟨cause, c.peek, c, depth⟩
  | valueless {t after depth} (passed : after.last = some t) (kind : isOperandKind t.kind = true)
      (value : operandValue? t = none) :
      Reports (.valueless t after depth) ⟨.expectExpression, t, after, depth⟩

section Steps

variable {α β : Type} {room depth : Nat} {c d : Cursor} {t : Token} {admits : TokenKind → Bool}

private theorem room_inner (within : depth + (room + 1) = maxDepth) :
    depth + 1 + room = maxDepth := by
  omega

private theorem raise_of_room (within : depth + (room + 1) = maxDepth) (c : Cursor) :
    raise depth c = pure (depth + 1) :=
  if_neg (by omega)

private theorem raise_maxDepth (c : Cursor) :
    raise maxDepth c = throw (.ahead .tooMuchNesting c maxDepth) :=
  if_pos (Nat.le_refl maxDepth)

private theorem lower_succ (depth : Nat) : lower (depth + 1) = pure depth := rfl

private theorem throw_bind (halt : Halt) (next : α → Counting β) :
    ((throw halt : Counting α) >>= next) = throw halt := rfl

theorem throw_inj {halt halt' : Halt} (h : (throw halt : Counting α) = throw halt') :
    halt = halt' :=
  Except.error.inj (Option.some.inj h)

private theorem last_of_accept? (h : c.accept? admits = some (t, d)) : d.last = some t := by
  obtain ⟨more, -, -, -, rfl⟩ := Cursor.accept?_eq_some_iff.1 h
  rfl

private theorem Halt.reports_ahead (cause : SyntaxError) (c : Cursor)
    (within : depth + room = maxDepth) :
    (Halt.ahead cause c depth).Reports (.ahead cause room c) := by
  have counter : maxDepth - room = depth := by omega
  rw [Failure.ahead, counter]
  exact .ahead

end Steps

variable {phrase : Phrase} {room depth : Nat} {c d : Cursor} {e : Expr} {f : Failure}

/-- Where the reader comes to a tree with the room that the counter leaves, so does the counting
run, and it restores the counter. -/
theorem Reads.counted (h : Reads phrase room c e d) (within : depth + room = maxDepth) :
    ∃ counter, phrase.Restores depth counter ∧ phrase.Counts depth c (pure (e, d, counter)) := by
  induction h generalizing depth with
  | literal taken value =>
    refine ⟨depth, rfl, .of_succ ?_⟩
    filter_upwards with steps
    rw [Phrase.count]
    simp only [taken, value]
  | grouping opens content closes ih =>
    obtain ⟨_, rfl, counted⟩ := ih (room_inner within)
    refine ⟨depth, rfl, .of_succ ?_⟩
    filter_upwards [counted] with steps counted
    rw [Phrase.count]
    simp only [accept?_isOperandKind_eq_none opens, opens, raise_of_room within, pure_bind, counted,
      lower_succ, closes]
  | bare refused operand ih =>
    obtain ⟨_, rfl, counted⟩ := ih within
    refine ⟨_, rfl, .of_succ ?_⟩
    filter_upwards [counted] with steps counted
    rw [Phrase.count]
    simp only [refused]
    exact counted
  | unary taken operand ih =>
    obtain ⟨_, rfl, counted⟩ := ih (room_inner within)
    refine ⟨depth, rfl, .of_succ ?_⟩
    filter_upwards [counted] with steps counted
    rw [Phrase.count]
    simp only [taken, raise_of_room within, pure_bind, counted, lower_succ]
  | operand operand ih =>
    obtain ⟨_, rfl, counted⟩ := ih within
    refine ⟨_, rfl, .of_succ ?_⟩
    filter_upwards [counted] with steps counted
    rw [Phrase.count]
    exact counted
  | first operand others ih ihc =>
    obtain ⟨_, rfl, counted⟩ := ih within
    obtain ⟨counter, -, chained⟩ := ihc within
    refine ⟨_, rfl, .of_succ ?_⟩
    filter_upwards [counted, chained] with steps counted chained
    rw [Phrase.count]
    simp only [counted, chained, pure_bind]
  | stop refused =>
    refine ⟨depth, Nat.le_refl depth, .of_succ ?_⟩
    filter_upwards with steps
    rw [Phrase.count]
    simp only [refused]
  | next taken operand others ih ihc =>
    obtain ⟨_, rfl, counted⟩ := ih (room_inner within)
    obtain ⟨counter, above, chained⟩ := ihc (room_inner within)
    refine ⟨counter, Nat.le_of_succ_le above, .of_succ ?_⟩
    filter_upwards [counted, chained] with steps counted chained
    rw [Phrase.count]
    simp only [taken, raise_of_room within, pure_bind, counted, chained]

theorem Fails.counted (h : Fails phrase room c f) (within : depth + room = maxDepth) :
    ∃ halt : Halt, halt.Reports f ∧ phrase.Counts depth c (throw halt) := by
  induction h generalizing depth with
  | @noValue room c t d taken value =>
    have counter : maxDepth - room = depth := by omega
    rw [counter]
    refine ⟨_, .valueless (last_of_accept? taken) (Cursor.admits_of_accept? taken) value,
      .of_succ ?_⟩
    filter_upwards with steps
    rw [Phrase.count]
    simp only [taken, value]
  | noOperand refused closed =>
    refine ⟨_, Halt.reports_ahead _ _ within, .of_succ ?_⟩
    filter_upwards with steps
    rw [Phrase.count]
    simp only [refused, closed]
  | groupTooDeep opens =>
    obtain rfl : depth = maxDepth := within
    refine ⟨_, Halt.reports_ahead _ _ (Nat.add_zero maxDepth), .of_succ ?_⟩
    filter_upwards with steps
    rw [Phrase.count]
    simp only [accept?_isOperandKind_eq_none opens, opens, raise_maxDepth, throw_bind]
  | groupContent opens content ih =>
    obtain ⟨halt, reports, counted⟩ := ih (room_inner within)
    refine ⟨halt, reports, .of_succ ?_⟩
    filter_upwards [counted] with steps counted
    rw [Phrase.count]
    simp only [accept?_isOperandKind_eq_none opens, opens, raise_of_room within, pure_bind, counted,
      throw_bind]
  | unclosed opens content closes =>
    obtain ⟨_, rfl, counted⟩ := content.counted (room_inner within)
    refine ⟨_, Halt.reports_ahead _ _ within, .of_succ ?_⟩
    filter_upwards [counted] with steps counted
    rw [Phrase.count]
    simp only [accept?_isOperandKind_eq_none opens, opens, raise_of_room within, pure_bind, counted,
      lower_succ, closes]
  | bare refused operand ih =>
    obtain ⟨halt, reports, counted⟩ := ih within
    refine ⟨halt, reports, .of_succ ?_⟩
    filter_upwards [counted] with steps counted
    rw [Phrase.count]
    simp only [refused]
    exact counted
  | unaryTooDeep taken =>
    obtain rfl : depth = maxDepth := within
    refine ⟨_, Halt.reports_ahead _ _ (Nat.add_zero maxDepth), .of_succ ?_⟩
    filter_upwards with steps
    rw [Phrase.count]
    simp only [taken, raise_maxDepth, throw_bind]
  | unary taken operand ih =>
    obtain ⟨halt, reports, counted⟩ := ih (room_inner within)
    refine ⟨halt, reports, .of_succ ?_⟩
    filter_upwards [counted] with steps counted
    rw [Phrase.count]
    simp only [taken, raise_of_room within, pure_bind, counted, throw_bind]
  | operand operand ih =>
    obtain ⟨halt, reports, counted⟩ := ih within
    refine ⟨halt, reports, .of_succ ?_⟩
    filter_upwards [counted] with steps counted
    rw [Phrase.count]
    exact counted
  | first operand ih =>
    obtain ⟨halt, reports, counted⟩ := ih within
    refine ⟨halt, reports, .of_succ ?_⟩
    filter_upwards [counted] with steps counted
    rw [Phrase.count]
    simp only [counted, throw_bind]
  | others operand others ih =>
    obtain ⟨_, rfl, counted⟩ := operand.counted within
    obtain ⟨halt, reports, chained⟩ := ih within
    refine ⟨halt, reports, .of_succ ?_⟩
    filter_upwards [counted, chained] with steps counted chained
    rw [Phrase.count]
    simp only [counted, chained, pure_bind, throw_bind]
  | chainTooDeep taken =>
    obtain rfl : depth = maxDepth := within
    refine ⟨_, Halt.reports_ahead _ _ (Nat.add_zero maxDepth), .of_succ ?_⟩
    filter_upwards with steps
    rw [Phrase.count]
    simp only [taken, raise_maxDepth, throw_bind]
  | next taken operand ih =>
    obtain ⟨halt, reports, counted⟩ := ih (room_inner within)
    refine ⟨halt, reports, .of_succ ?_⟩
    filter_upwards [counted] with steps counted
    rw [Phrase.count]
    simp only [taken, raise_of_room within, pure_bind, counted, throw_bind]
  | later taken operand others ih =>
    obtain ⟨_, rfl, counted⟩ := operand.counted (room_inner within)
    obtain ⟨halt, reports, chained⟩ := ih (room_inner within)
    refine ⟨halt, reports, .of_succ ?_⟩
    filter_upwards [counted, chained] with steps counted chained
    rw [Phrase.count]
    simp only [taken, raise_of_room within, pure_bind, counted, chained]

end LoxSyntax.Parsing
