import LoxSyntax.Proofs.Parsing.Soundness

/-!
# How deep reading nests

Reading a rule of the grammar calls the readers of its operands, of the operand of a sign and of the
content of a group. Seven frames for each level that can be open are enough for every call, however
many tokens there are, and with fewer some tokens cannot be read.
-/
namespace LoxSyntax.Parsing

/-- The rules of the grammar that are read by a function each: a whole expression, the operators of
a level, what a sign may stand in front of, and an operand by itself. -/
inductive Rule
  | expression
  | level (p : Precedence)
  | unary
  | primary

namespace Rule

def parse : Rule → Nat → Cursor → Outcome
  | expression => parseExpression
  | level p => parseAt (some p)
  | unary => parseUnary
  | primary => parsePrimary

/-- What the operands of a level are read by. -/
def operand (p : Precedence) : Rule := p.tighter?.elim unary level

private theorem parse_operand (p : Precedence) (room : Nat) (c : Cursor) :
    (operand p).parse room c = parseAt p.tighter? room c := by
  cases p with
  | factor => exact (parseAt.eq_def none room c).symm
  | equality | comparison | term => rfl

end Rule

/-- The operators of one level that follow a left operand, with a reader for their right operands
that may give up. The loop calls only that reader. -/
def chainWithin (operand : Nat → Cursor → Option Outcome) (p : Precedence) (room : Nat)
    (left : Expr) (c : Cursor) : Option Outcome :=
  match c.accept? p.admits with
  | none => some (.ok (left, c))
  | some (operator, after) =>
    match room with
    | 0 => some (failAhead .tooMuchNesting 0 after)
    | inner + 1 => do
      match ← operand inner after with
      | .error f => some (.error f)
      | .ok (right, done) => chainWithin operand p inner (.binary left operator right) done

namespace Rule

/-- Reads a rule on a stack of so many frames: the rule takes one of them while it is read, and
without one it gives up. -/
def parseWithin : Nat → Rule → Nat → Cursor → Option Outcome
  | 0, _, _, _ => none
  | frames + 1, expression, room, c => parseWithin frames (level .equality) room c
  | frames + 1, level p, room, c => do
    match ← parseWithin frames (operand p) room c with
    | .error f => some (.error f)
    | .ok (left, after) => chainWithin (parseWithin frames (operand p)) p room left after
  | frames + 1, unary, room, c =>
    match c.accept? (·.isUnaryOperator) with
    | none => parseWithin frames primary room c
    | some (operator, after) =>
      match room with
      | 0 => some (failAhead .tooMuchNesting 0 after)
      | inner + 1 => do
        match ← parseWithin frames unary inner after with
        | .error f => some (.error f)
        | .ok (operand, done) => some (.ok (.unary operator operand, done))
  | frames + 1, primary, room, c =>
    match c.accept? isOperandKind with
    | some (t, after) =>
      match operandValue? t with
      | some value => some (.ok (.literal value, after))
      | none => some (.error ⟨.expectExpression, t, after, maxDepth - room⟩)
    | none =>
      match c.accept? (· = .leftParen) with
      | none => some (failAhead .expectExpression room c)
      | some (_, after) =>
        match room with
        | 0 => some (failAhead .tooMuchNesting 0 after)
        | inner + 1 => do
          match ← parseWithin frames expression inner after with
          | .error f => some (.error f)
          | .ok (e, closing) =>
            match closing.accept? (· = .rightParen) with
            | some (_, done) => some (.ok (.grouping e, done))
            | none => some (failAhead .expectClosing (inner + 1) closing)

/-- The frames that a rule takes at most: seven for each level that may still be opened, and those
of the rules between it and an operand. -/
def frames (room : Nat) : Rule → Nat
  | expression => 7 * room + 7
  | level p => 7 * room + 2 + p.rank
  | unary => 7 * room + 2
  | primary => 7 * room + 1

private theorem frames_operand (p : Precedence) (room : Nat) :
    (operand p).frames room + 1 = (level p).frames room := by
  cases p <;> rfl

private theorem frames_mono (rule : Rule) {inner room : Nat} (h : inner ≤ room) :
    rule.frames inner ≤ rule.frames room := by
  cases rule <;> simp only [frames] <;> omega

/-- With so many frames a rule is read as without a bound. -/
def Suffices (frames : Nat) (rule : Rule) (room : Nat) : Prop :=
  ∀ c, parseWithin frames rule room c = some (rule.parse room c)

section Suffices

variable {n room : Nat} {p : Precedence}

private theorem suffices_expression (h : Suffices n (level .equality) room) :
    Suffices (n + 1) expression room := fun c => h c

private theorem chainWithin_eq {operand : Nat → Cursor → Option Outcome}
    (reads : ∀ inner < room, ∀ c, operand inner c = some (parseAt p.tighter? inner c))
    (left : Expr) (c : Cursor) :
    chainWithin operand p room left c = some (parseChain p left room c) := by
  induction room generalizing left c with
  | zero =>
    rw [chainWithin, parseChain]
    cases c.accept? p.admits <;> rfl
  | succ room ih =>
    have others := ih fun inner less => reads inner (Nat.lt_succ_of_lt less)
    rw [chainWithin, parseChain]
    cases c.accept? p.admits with
    | none => rfl
    | some taken =>
      simp only [reads room (Nat.lt_succ_self room), Option.bind_eq_bind, Option.bind_some]
      cases parseAt p.tighter? room taken.2 with
      | error f => rfl
      | ok r => exact others _ _

private theorem suffices_level (h : ∀ inner ≤ room, Suffices n (operand p) inner) :
    Suffices (n + 1) (level p) room := by
  intro c
  have reads (inner : Nat) (le : inner ≤ room) (c : Cursor) :
      parseWithin n (operand p) inner c = some (parseAt p.tighter? inner c) := by
    rw [h inner le c, parse_operand]
  have whole : (level p).parse room c = parseAt (some p) room c := rfl
  rw [parseWithin, reads room (Nat.le_refl room), whole, parseAt]
  simp only [Option.bind_eq_bind, Option.bind_some]
  cases parseAt p.tighter? room c with
  | error f => rfl
  | ok r => exact chainWithin_eq (fun inner less => reads inner (Nat.le_of_lt less)) _ _

private theorem suffices_unary (bare : Suffices n primary room)
    (signed : ∀ inner < room, Suffices n unary inner) : Suffices (n + 1) unary room := by
  intro c
  have whole : unary.parse room c = parseUnary room c := rfl
  rw [parseWithin, whole, parseUnary]
  cases c.accept? (·.isUnaryOperator) with
  | none => exact bare c
  | some taken =>
    cases room with
    | zero => rfl
    | succ inner =>
      have operand : parseWithin n unary inner taken.2 = some (parseUnary inner taken.2) :=
        signed inner (Nat.lt_succ_self inner) taken.2
      simp only [operand, Option.bind_eq_bind, Option.bind_some]
      cases parseUnary inner taken.2 <;> rfl

private theorem suffices_primary (content : ∀ inner < room, Suffices n expression inner) :
    Suffices (n + 1) primary room := by
  intro c
  have whole : primary.parse room c = parsePrimary room c := rfl
  rw [parseWithin, whole, parsePrimary]
  cases c.accept? isOperandKind with
  | some taken =>
    dsimp only
    cases operandValue? taken.1 <;> rfl
  | none =>
    cases c.accept? (· = .leftParen) with
    | none => rfl
    | some opens =>
      cases room with
      | zero => rfl
      | succ inner =>
        have group : parseWithin n expression inner opens.2 =
            some (parseAt (some .equality) inner opens.2) :=
          content inner (Nat.lt_succ_self inner) opens.2
        simp only [group, Option.bind_eq_bind, Option.bind_some]
        cases parseAt (some .equality) inner opens.2 with
        | error f => rfl
        | ok r =>
          obtain ⟨e, closing⟩ := r
          dsimp only
          cases closing.accept? (· = .rightParen) <;> rfl

/-- Its frames suffice for a rule, since whatever it calls needs one less. -/
theorem suffices_of_frames_le {rule : Rule} (enough : rule.frames room ≤ n) :
    Suffices n rule room := by
  induction n generalizing rule room with
  | zero => cases rule <;> simp [frames] at enough
  | succ n ih =>
    cases rule with
    | expression => exact suffices_expression (ih (Nat.le_of_succ_le_succ enough))
    | level p =>
      have calls : (operand p).frames room ≤ n := by
        have := frames_operand p room
        omega
      exact suffices_level fun inner le => ih (Nat.le_trans ((operand p).frames_mono le) calls)
    | unary =>
      refine suffices_unary (ih (Nat.le_of_succ_le_succ enough)) fun inner less => ih ?_
      simp only [frames] at enough ⊢
      omega
    | primary =>
      refine suffices_primary fun inner less => ih ?_
      simp only [frames] at enough ⊢
      omega

end Suffices

/-- A stack of fewer frames than these does not suffice for a rule. -/
def GivesUp (rule : Rule) (room : Nat) (c : Cursor) (n : Nat) : Prop :=
  ∀ frames < n, parseWithin frames rule room c = none

section GivesUp

variable {rule callee : Rule} {room inner n : Nat} {c m : Cursor} {p : Precedence}

private theorem GivesUp.caller (h : GivesUp callee inner m n)
    (calls : ∀ frames, parseWithin frames callee inner m = none →
      parseWithin (frames + 1) rule room c = none) : GivesUp rule room c (n + 1) := by
  intro frames less
  cases frames with
  | zero => rfl
  | succ frames => exact calls frames (h frames (Nat.lt_of_succ_lt_succ less))

private theorem givesUp_one (rule : Rule) (room : Nat) (c : Cursor) : GivesUp rule room c 1 := by
  intro frames less
  obtain rfl := Nat.lt_one_iff.1 less
  rfl

private theorem givesUp_level (h : GivesUp (operand p) room c n) :
    GivesUp (level p) room c (n + 1) := by
  refine h.caller fun frames none => ?_
  rw [parseWithin, none]
  rfl

private theorem givesUp_primary {opening : Token}
    (opens : c.accept? (· = .leftParen) = some (opening, m))
    (h : GivesUp expression room m n) : GivesUp primary (room + 1) c (n + 1) := by
  refine h.caller fun frames none => ?_
  rw [parseWithin]
  simp only [accept?_isOperandKind_eq_none opens, opens, none]
  rfl

private theorem givesUp_expression (refused : c.accept? (·.isUnaryOperator) = none)
    (h : GivesUp primary room c n) : GivesUp expression room c (n + 6) := by
  have operand : GivesUp unary room c (n + 1) := by
    refine h.caller fun frames none => ?_
    rw [parseWithin]
    simp only [refused, none]
  have factor : GivesUp (level .factor) room c (n + 2) := givesUp_level operand
  have term : GivesUp (level .term) room c (n + 3) := givesUp_level factor
  have comparison : GivesUp (level .comparison) room c (n + 4) := givesUp_level term
  have equality : GivesUp (level .equality) room c (n + 5) := givesUp_level comparison
  exact equality.caller fun frames none => none

end GivesUp

/-- As many groups as may be opened take all the frames. -/
theorem givesUp_groups {room : Nat} {c : Cursor}
    (ahead : c.rest = List.replicate room (.plain .leftParen "(") ++ [.endOfFile 1]) :
    GivesUp expression room c (7 * room + 7) := by
  induction room generalizing c with
  | zero => exact givesUp_expression (Cursor.accept?_eq_none ahead rfl) (givesUp_one primary 0 c)
  | succ room ih =>
    have opens : c.accept? (· = .leftParen) = some (.plain .leftParen "(",
        ⟨c.consumed + 1, some (.plain .leftParen "("),
          List.replicate room (.plain .leftParen "(") ++ [.endOfFile 1]⟩) :=
      Cursor.accept?_eq_some_iff.2 ⟨_, ahead, rfl, rfl, rfl⟩
    exact givesUp_expression (Cursor.accept?_eq_none ahead rfl) (givesUp_primary opens (ih rfl))

end Rule

namespace Parser

/-- Parsing on a stack of so many frames. -/
def parseWithin (frames : Nat) (p : Parser) : Option (Option Expr × Parser) :=
  if p.cursor.endsProperly then do
    match ← Rule.expression.parseWithin frames maxDepth p.cursor with
    | .ok (e, cursor) => some (some e, ⟨cursor, 0, p.reporter⟩)
    | .error f => some (none, ⟨f.cursor, f.depth, p.reporter.report f.diagnostic⟩)
  else some (none, p)

/-- Seven frames for each level that may be open and for the outermost are enough to parse any
tokens from any state, with the same result, cursor, levels left open and diagnostics as without a
bound. No smaller stack is: it does not suffice for as many groups as may be opened. -/
theorem parseWithin_eq_parse_iff (frames : Nat) :
    (∀ p : Parser, p.parseWithin frames = some p.parse) ↔ 7 * (maxDepth + 1) ≤ frames := by
  constructor
  · intro parsed
    refine Nat.le_of_not_lt fun few => ?_
    let tokens : List Token := List.replicate maxDepth (.plain .leftParen "(") ++ [.endOfFile 1]
    have ends : (ofTokens tokens .empty).cursor.endsProperly = true := by
      simp [ofTokens, Cursor.ofTokens, Cursor.endsProperly, tokens]
    have stopped := Rule.givesUp_groups (c := .ofTokens tokens) rfl frames few
    have none : (ofTokens tokens .empty).parseWithin frames = none := by
      rw [parseWithin, if_pos ends, ofTokens, stopped]
      rfl
    cases none.symm.trans (parsed (ofTokens tokens .empty))
  · intro enough p
    by_cases ends : p.cursor.endsProperly = true
    · have read : Rule.expression.parseWithin frames maxDepth p.cursor =
          some (parseExpression maxDepth p.cursor) :=
        Rule.suffices_of_frames_le enough p.cursor
      rw [parseWithin, if_pos ends, read, parse_eq ends]
      simp only [Option.bind_eq_bind, Option.bind_some]
      cases parseExpression maxDepth p.cursor <;> rfl
    · rw [parseWithin, if_neg ends, parse, if_neg ends]

end Parser

end LoxSyntax.Parsing
