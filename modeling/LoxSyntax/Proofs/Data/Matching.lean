import LoxSyntax.Proofs.Data.Forms
import LoxSyntax.Proofs.Data.Json
import LoxSyntax.Proofs.Lexing.Stream

/-!
# Trees that JSON does not tell apart

What JSON keeps of a scanned token is the token, and what it keeps of a tree is its shape, its
operators and what it keeps of each literal. Of literals it loses the numbers that are not finite:
they look like nil.
-/
namespace LoxSyntax

open Lexing (Scanned)

/-- The types of literals. -/
inductive ValueType
  | number
  | text
  | boolean
  | nil
  deriving DecidableEq, Repr

namespace Value

def type : Value → ValueType
  | number _ => .number
  | text _ => .text
  | boolean _ => .boolean
  | nil => .nil

def SameType (v w : Value) : Prop := v.type = w.type

/-- The values that JSON has no word for but null. -/
def Vanishes : Value → Prop
  | number x => x.isFinite = false
  | nil => True
  | text _ | boolean _ => False

/-- JSON does not tell the values apart. -/
def Blurs (v w : Value) : Prop := v = w ∨ v.Vanishes ∧ w.Vanishes

variable {v w : Value}

private theorem toData_inj (h : v.toData = w.toData) : v = w := by
  cases v <;> cases w <;> cases h <;> rfl

private theorem plain_eq_null_iff : v.toData.plain = .null ↔ v.Vanishes := by
  cases v with
  | number x => cases finite : x.isFinite <;> simp [toData, Data.plain, Vanishes, finite]
  | text | boolean | nil => simp [toData, Data.plain, Vanishes]

private theorem plain_of_not_vanishes (h : ¬v.Vanishes) : v.toData.plain = v.toData := by
  cases v with
  | number x =>
    have finite : x.isFinite = true := by rwa [Vanishes, Bool.not_eq_false] at h
    rw [toData, Data.plain, if_pos finite]
  | text | boolean | nil => rw [toData, Data.plain]

/-- JSON keeps a value, or nothing of it. -/
theorem blurs_of_plain_eq (h : v.toData.plain = w.toData.plain) : v.Blurs w := by
  by_cases vanishes : v.Vanishes
  · exact .inr ⟨vanishes, plain_eq_null_iff.1 (h ▸ plain_eq_null_iff.2 vanishes)⟩
  · have stays : ¬w.Vanishes := fun hw =>
      vanishes (plain_eq_null_iff.1 (h.trans (plain_eq_null_iff.2 hw)))
    rw [plain_of_not_vanishes vanishes, plain_of_not_vanishes stays] at h
    exact .inl (toData_inj h)

end Value

namespace Expr

/-- Trees of one shape with the same operators, whose literals are related one by one. -/
inductive Matches (R : Value → Value → Prop) : Expr → Expr → Prop
  | binary {left left' right right' : Expr} (operator : Token) (lefts : Matches R left left')
      (rights : Matches R right right') :
      Matches R (.binary left operator right) (.binary left' operator right')
  | grouping {inner inner' : Expr} (inners : Matches R inner inner') :
      Matches R (.grouping inner) (.grouping inner')
  | literal {v w : Value} (values : R v w) : Matches R (.literal v) (.literal w)
  | unary {operand operand' : Expr} (operator : Token) (operands : Matches R operand operand') :
      Matches R (.unary operator operand) (.unary operator operand')

variable {R S : Value → Value → Prop} {e e' : Expr}

theorem Matches.refl (same : ∀ v, R v v) (e : Expr) : e.Matches R e := by
  induction e with
  | binary left operator right ihl ihr => exact .binary operator ihl ihr
  | grouping inner ih => exact .grouping ih
  | literal v => exact .literal (same v)
  | unary operator operand ih => exact .unary operator ih

theorem Matches.imp (h : e.Matches R e')
    (step : ∀ v ∈ e.literals, ∀ w ∈ e'.literals, R v w → S v w) : e.Matches S e' := by
  induction h with
  | binary operator lefts rights ihl ihr =>
    refine .binary operator (ihl fun v hv w hw => ?_) (ihr fun v hv w hw => ?_)
    · exact step v (List.mem_append_left _ hv) w (List.mem_append_left _ hw)
    · exact step v (List.mem_append_right _ hv) w (List.mem_append_right _ hw)
  | grouping inners ih => exact .grouping (ih step)
  | literal values => exact .literal (step _ (by simp [literals]) _ (by simp [literals]) values)
  | unary operator operands ih => exact .unary operator (ih step)

theorem Matches.and (h : e.Matches R e') (h' : e.Matches S e') :
    e.Matches (fun v w => R v w ∧ S v w) e' := by
  induction h with
  | binary operator lefts rights ihl ihr =>
    cases h' with
    | binary _ lefts' rights' => exact .binary operator (ihl lefts') (ihr rights')
  | grouping inners ih =>
    cases h' with
    | grouping inners' => exact .grouping (ih inners')
  | literal values =>
    cases h' with
    | literal values' => exact .literal ⟨values, values'⟩
  | unary operator operands ih =>
    cases h' with
    | unary _ operands' => exact .unary operator (ih operands')

theorem Matches.eq (h : e.Matches (· = ·) e') : e = e' := by
  induction h with
  | binary operator lefts rights ihl ihr => rw [ihl, ihr]
  | grouping inners ih => rw [ih]
  | literal values => rw [values]
  | unary operator operands ih => rw [ih]

end Expr

section Kept

private theorem Data.plain_record_cons_inj {name name' : String} {d d' : Data}
    {fields fields' : List (String × Data)} :
    (record ((name, d) :: fields)).plain = (record ((name', d') :: fields')).plain ↔
      name = name' ∧ d.plain = d'.plain ∧ (record fields).plain = (record fields').plain := by
  simp [plain, and_assoc]

theorem TokenKind.label_injective {k k' : TokenKind} (h : k.label = k'.label) : k = k' := by
  have distinct : (all.map label).Nodup := by decide
  exact List.inj_on_of_nodup_map distinct k.mem_all k'.mem_all h

/-- A scanned token is determined by what JSON keeps of it. -/
theorem Token.eq_of_plain_eq {t u : Token} (ht : Scanned t) (hu : Scanned u)
    (h : t.data.plain = u.data.plain) : t = u := by
  simp only [data, Data.plain_record_cons_inj] at h
  obtain ⟨-, kind, -, lexeme, -, -, -, line, -⟩ := h
  simp only [Data.plain, Data.text.injEq, Data.natural.injEq] at kind lexeme line
  exact ht.eq hu (TokenKind.label_injective kind) lexeme line

theorem Token.list_eq_of_plain_eq {ts us : List Token} (scanned : ∀ t ∈ ts, Scanned t)
    (scanned' : ∀ u ∈ us, Scanned u)
    (h : ts.map (fun t => t.data.plain) = us.map fun u => u.data.plain) : ts = us := by
  induction ts generalizing us with
  | nil => exact (List.map_eq_nil_iff.1 h.symm).symm
  | cons t ts ih =>
    cases us with
    | nil => cases h
    | cons u us =>
      obtain ⟨own, others⟩ := List.cons.inj h
      rw [List.forall_mem_cons] at scanned scanned'
      rw [eq_of_plain_eq scanned.1 scanned'.1 own, ih scanned.2 scanned'.2 others]

/-- What JSON keeps of a tree tells its shape, its operators and what JSON keeps of its literals. -/
theorem Expr.matches_of_plain_eq {e e' : Expr} (operators : ∀ t ∈ e.operators, Scanned t)
    (operators' : ∀ t ∈ e'.operators, Scanned t) (h : e.data.plain = e'.data.plain) :
    e.Matches (fun v w => v.toData.plain = w.toData.plain) e' := by
  induction e generalizing e' with
  | binary left operator right ihl ihr =>
    cases e' with
    | grouping | literal | unary => simp [data, Data.plain] at h
    | binary left' operator' right' =>
      simp only [data, Data.plain_record_cons_inj] at h
      obtain ⟨-, -, -, lefts, -, own, -, rights, -⟩ := h
      simp only [Expr.operators, List.mem_append, List.mem_cons] at operators operators'
      obtain rfl := Token.eq_of_plain_eq (operators operator (.inr (.inl rfl)))
        (operators' operator' (.inr (.inl rfl))) own
      exact .binary operator
        (ihl (fun t ht => operators t (.inl ht)) (fun t ht => operators' t (.inl ht)) lefts)
        (ihr (fun t ht => operators t (.inr (.inr ht))) (fun t ht => operators' t (.inr (.inr ht)))
          rights)
  | grouping inner ih =>
    cases e' with
    | binary | literal | unary => simp [data, Data.plain] at h
    | grouping inner' =>
      simp only [data, Data.plain_record_cons_inj] at h
      obtain ⟨-, -, -, inners, -⟩ := h
      exact .grouping (ih operators operators' inners)
  | literal v =>
    cases e' with
    | binary | grouping | unary => simp [data, Data.plain] at h
    | literal w =>
      simp only [data, Data.plain_record_cons_inj] at h
      obtain ⟨-, -, -, values, -⟩ := h
      exact .literal values
  | unary operator operand ih =>
    cases e' with
    | binary | grouping | literal => simp [data, Data.plain] at h
    | unary operator' operand' =>
      simp only [data, Data.plain_record_cons_inj] at h
      obtain ⟨-, -, -, own, -, operands, -⟩ := h
      simp only [Expr.operators, List.forall_mem_cons] at operators operators'
      obtain rfl := Token.eq_of_plain_eq operators.1 operators'.1 own
      exact .unary operator (ih operators.2 operators'.2 operands)

end Kept

end LoxSyntax
