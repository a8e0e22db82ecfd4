import LoxSyntax.Proofs.Lexing.Shape
import LoxSyntax.Proofs.Number.Written
import LoxSyntax.Proofs.Parsing.Lineless
import LoxSyntax.Proofs.Pipeline.Verdict

/-!
# The rendered form is read in one way

Words have no space and no parenthesis, so a rendered word ends where the next of them begins. The
name behind an opening parenthesis and the number of trees up to the closing one tell the kind of a
node, as no operator is spelled as the name of groups. A text literal may be any of this, so trees
are told apart by their rendered forms where they have none.
-/
namespace LoxSyntax

open Lexing (Run scan)
open Number (Binary64 Layout)

/-- The characters of rendered words. -/
def Solid (c : Char) : Prop := c ≠ ' ' ∧ c ≠ '(' ∧ c ≠ ')'

instance : DecidablePred Solid := fun _ => inferInstanceAs (Decidable (_ ∧ _))

private theorem solid_of_all {w : List Char} (h : w.all (Solid ·) = true) : ∀ c ∈ w, Solid c := by
  simpa using h

namespace Value

/-- A value of a source other than a text: no number of a source has a sign. -/
inductive Legible : Value → Prop
  | number {x : Binary64} (nonneg : x.isNegative = false) (real : x.isNaN = false) :
      Legible (.number x)
  | boolean (b : Bool) : Legible (.boolean b)
  | nil : Legible .nil

/-- The value that a rendered word stands for. -/
def ofWord (w : List Char) : Value :=
  if w = "true".toList then .boolean true
  else if w = "false".toList then .boolean false
  else if w = "nil".toList then .nil
  else if w = "inf".toList then .number .infinity
  else .number (.ofWritten w)

private theorem readable_display : Layout.display.Readable := .inl rfl

private theorem solid_of_isMark {c : Char} (h : Layout.IsMark c) : Solid c := by
  refine ⟨?_, ?_, ?_⟩
  all_goals
    rintro rfl
    revert h
    simp [Layout.IsMark]

theorem ofWord_of_number {c : Char} {more : List Char} (front : c.isDigit = true ∨ c = '-') :
    ofWord (c :: more) = .number (.ofWritten (c :: more)) := by
  have other (d : Char) (letter : '9' < d) : c ≠ d := Layout.ne_of_front front letter
  rw [ofWord, if_neg (by simp [other 't' (by decide)]), if_neg (by simp [other 'f' (by decide)]),
    if_neg (by simp [other 'n' (by decide)]), if_neg (by simp [other 'i' (by decide)])]

/-- A value other than a text is rendered as a word, which stands for it. -/
structure Worded (v : Value) : Prop where
  nonempty : v.display.toList ≠ []
  solid : ∀ c ∈ v.display.toList, Solid c
  ofWord_eq : ofWord v.display.toList = v

private theorem worded_infinity : Worded (.number .infinity) := by
  have shown : (number Binary64.infinity).display = "inf" := rfl
  refine ⟨?_, ?_, ?_⟩ <;> rw [shown]
  · decide
  · exact solid_of_all (by decide)
  · rfl

private theorem Legible.worded {v : Value} (h : v.Legible) : v.Worded := by
  cases h with
  | @number x nonneg real =>
    rcases Binary64.finite_or_infinite real with finite | infinite
    · obtain ⟨marks, c, more, he, front⟩ := Layout.write_marks readable_display finite
      have shown : (Value.number x).display.toList = c :: more := he
      refine ⟨shown ▸ List.cons_ne_nil c more, fun d hd => solid_of_isMark (marks d hd), ?_⟩
      rw [shown, ofWord_of_number front, ← he, Layout.ofWritten_write readable_display finite]
    · rw [Binary64.eq_infinity nonneg infinite]
      exact worded_infinity
  | boolean b => cases b <;> exact ⟨by decide, solid_of_all (by decide), rfl⟩
  | nil => exact ⟨by decide, solid_of_all (by decide), rfl⟩

theorem Worded.eq {v w : Value} (hv : v.Worded) (hw : w.Worded)
    (h : v.display.toList = w.display.toList) : v = w := by
  rw [← hv.ofWord_eq, h, hw.ofWord_eq]

end Value

/-- A token in front of or between operands, as scanning makes it. -/
structure Token.IsOperator (t : Token) : Prop where
  spelled : (t.lexeme.toList, t.kind) ∈ Lexing.operators
  paren : t.kind ≠ .leftParen ∧ t.kind ≠ .rightParen
  literal : t.literal = none

namespace Token.IsOperator

variable {t u : Token}

theorem solid (h : t.IsOperator) :
    (∀ c ∈ t.lexeme.toList, Solid c) ∧ t.lexeme.toList ≠ "group".toList := by
  have table : ∀ o ∈ Lexing.operators, o.2 ≠ .leftParen ∧ o.2 ≠ .rightParen →
      o.1.all (Solid ·) = true ∧ o.1 ≠ "group".toList := by decide
  exact (table _ h.spelled h.paren).imp_left solid_of_all

theorem lineless_eq (h : t.IsOperator) (h' : u.IsOperator)
    (same : t.lexeme.toList = u.lexeme.toList) : t.lineless = u.lineless := by
  have table : ∀ o ∈ Lexing.operators, ∀ o' ∈ Lexing.operators, o.1 = o'.1 → o.2 = o'.2 := by
    decide
  have kind : t.kind = u.kind := table _ h.spelled _ h'.spelled same
  rw [lineless, lineless, h.literal, h'.literal, kind, String.toList_injective same]

end Token.IsOperator

namespace Expr

/-- A tree of operators and of values other than texts. -/
inductive Legible : Expr → Prop
  | binary {left right : Expr} {t : Token} (lefts : Legible left) (operator : t.IsOperator)
      (rights : Legible right) : Legible (.binary left t right)
  | grouping {inner : Expr} (inners : Legible inner) : Legible (.grouping inner)
  | literal {v : Value} (value : v.Legible) : Legible (.literal v)
  | unary {operand : Expr} {t : Token} (operator : t.IsOperator) (operands : Legible operand) :
      Legible (.unary t operand)

private theorem legible_of_forall {e : Expr} (operators : ∀ t ∈ e.operators, t.IsOperator)
    (literals : ∀ v ∈ e.literals, v.Legible) : e.Legible := by
  induction e with
  | binary left operator right ihl ihr =>
    obtain ⟨fronts, others⟩ := List.forall_mem_append.1 operators
    obtain ⟨own, behinds⟩ := List.forall_mem_cons.1 others
    obtain ⟨lefts, rights⟩ := List.forall_mem_append.1 literals
    exact .binary (ihl fronts lefts) own (ihr behinds rights)
  | grouping inner ih => exact .grouping (ih operators literals)
  | literal v => exact .literal (List.forall_mem_singleton.1 literals)
  | unary operator operand ih =>
    obtain ⟨own, others⟩ := List.forall_mem_cons.1 operators
    exact .unary own (ih others literals)

/-- How a tree looks from outside. -/
inductive Shape
  | word (text : List Char)
  | node (name : List Char) (inner : List Expr)

def shape : Expr → Shape
  | binary left operator right => .node operator.lexeme.toList [left, right]
  | grouping inner => .node "group".toList [inner]
  | literal value => .word value.display.toList
  | unary operator operand => .node operator.lexeme.toList [operand]

/-- Trees with a space in front of each, and the closing parenthesis. -/
def writeInner (es : List Expr) (tail : List Char) : List Char :=
  match es with
  | [] => ')' :: tail
  | e :: es => ' ' :: (e.render.toList ++ writeInner es tail)

namespace Shape

/-- The trees right inside. -/
def inner : Shape → List Expr
  | word _ => []
  | node _ inner => inner

def lineless : Shape → Shape
  | word w => word w
  | node name inner => node name (inner.map Expr.lineless)

def write (tail : List Char) : Shape → List Char
  | word w => w ++ tail
  | node name inner => '(' :: (name ++ writeInner inner tail)

/-- Words and names have no marks in them, and a word has some character. -/
def Proper : Shape → Prop
  | word w => w ≠ [] ∧ ∀ c ∈ w, Solid c
  | node name _ => ∀ c ∈ name, Solid c

end Shape

variable {e e' : Expr} {t t' : List Char}

private theorem render_append (e : Expr) (t : List Char) :
    e.render.toList ++ t = e.shape.write t := by
  cases e <;> simp [render, shape, Shape.write, writeInner]

theorem Legible.inner (h : e.Legible) {i : Expr} (hi : i ∈ e.shape.inner) : i.Legible := by
  cases h with
  | literal => cases hi
  | grouping inners =>
    obtain rfl := List.mem_singleton.1 hi
    exact inners
  | unary operator operands =>
    obtain rfl := List.mem_singleton.1 hi
    exact operands
  | binary lefts operator rights =>
    rcases List.mem_cons.1 hi with rfl | hi
    · exact lefts
    · obtain rfl := List.mem_singleton.1 hi
      exact rights

theorem Legible.proper_shape (h : e.Legible) : e.shape.Proper := by
  cases h with
  | literal value => exact ⟨value.worded.nonempty, value.worded.solid⟩
  | grouping => exact solid_of_all (w := "group".toList) (by decide)
  | unary operator operands => exact operator.solid.1
  | binary lefts operator rights => exact operator.solid.1

theorem Legible.lineless_eq (h : e.Legible) (h' : e'.Legible)
    (same : e.shape.lineless = e'.shape.lineless) : e.lineless = e'.lineless := by
  cases h with
  | literal value =>
    cases h' with
    | binary | grouping | unary => simp [shape, Shape.lineless] at same
    | literal value' => rw [value.worded.eq value'.worded (Shape.word.inj same)]
  | grouping inners =>
    cases h' with
    | binary | literal => simp [shape, Shape.lineless] at same
    | grouping inners' =>
      obtain ⟨-, trees⟩ := Shape.node.inj same
      exact congrArg Expr.grouping (List.singleton_inj.1 trees)
    | unary operator' operands' => exact absurd (Shape.node.inj same).1.symm operator'.solid.2
  | unary operator operands =>
    cases h' with
    | binary | literal => simp [shape, Shape.lineless] at same
    | grouping inners' => exact absurd (Shape.node.inj same).1 operator.solid.2
    | unary operator' operands' =>
      obtain ⟨names, trees⟩ := Shape.node.inj same
      rw [lineless, lineless, operator.lineless_eq operator' names, List.singleton_inj.1 trees]
  | binary lefts operator rights =>
    cases h' with
    | grouping | literal | unary => simp [shape, Shape.lineless] at same
    | binary lefts' operator' rights' =>
      obtain ⟨names, trees⟩ := Shape.node.inj same
      obtain ⟨left, right⟩ := List.cons.inj trees
      rw [lineless, lineless, operator.lineless_eq operator' names, left,
        List.singleton_inj.1 right]

/-- What follows a tree goes on with no word. -/
def Stops (t : List Char) : Prop := ∀ c ∈ t.head?, ¬Solid c

private theorem stops_writeInner (es : List Expr) (t : List Char) : Stops (writeInner es t) := by
  cases es <;> simp [writeInner, Stops, Solid]

/-- A tree, and what follows it, are determined by the rendered text, up to lines. -/
def Determines (e : Expr) : Prop :=
  ∀ (e' : Expr) (t t' : List Char), e'.Legible → Stops t → Stops t' →
    e.render.toList ++ t = e'.render.toList ++ t' → e.lineless = e'.lineless ∧ t = t'

private theorem writeInner_inj {es es' : List Expr} (all : ∀ e ∈ es, Determines e)
    (legible : ∀ e ∈ es', e.Legible) (h : writeInner es t = writeInner es' t') :
    es.map lineless = es'.map lineless ∧ t = t' := by
  induction es generalizing es' with
  | nil =>
    cases es' with
    | nil => exact ⟨rfl, (List.cons.inj h).2⟩
    | cons e' es' => exact absurd (List.cons.inj h).1 (by decide)
  | cons e es ih =>
    cases es' with
    | nil => exact absurd (List.cons.inj h).1 (by decide)
    | cons e' es' =>
      obtain ⟨own, others⟩ := List.forall_mem_cons.1 all
      obtain ⟨own', others'⟩ := List.forall_mem_cons.1 legible
      obtain ⟨same, rest⟩ := own e' _ _ own' (stops_writeInner es t) (stops_writeInner es' t')
        (List.cons.inj h).2
      obtain ⟨mapped, tails⟩ := ih others others' rest
      exact ⟨by rw [List.map_cons, List.map_cons, same, mapped], tails⟩

/-- If the trees inside are determined by their texts, a tree of their shape is. -/
theorem Shape.write_inj {s s' : Shape} (all : ∀ e ∈ s.inner, Determines e)
    (legible : ∀ e ∈ s'.inner, e.Legible) (proper : s.Proper) (proper' : s'.Proper)
    (stops : Stops t) (stops' : Stops t') (h : s.write t = s'.write t') :
    s.lineless = s'.lineless ∧ t = t' := by
  have front (w u : List Char) (proper : (word w).Proper) : (w ++ u).head? ≠ some '(' := by
    obtain ⟨c, more, rfl⟩ := List.exists_cons_of_ne_nil proper.1
    rintro ⟨⟩
    exact (proper.2 '(' (by simp)).2.1 rfl
  cases s with
  | word w =>
    cases s' with
    | node name' inner' => exact absurd (congrArg List.head? h) (front w t proper)
    | word w' =>
      obtain ⟨words, tails⟩ := (Run.mk proper.2 stops).append_inj (.mk proper'.2 stops') h
      exact ⟨congrArg word words, tails⟩
  | node name inner =>
    cases s' with
    | word w' => exact absurd (congrArg List.head? h.symm) (front w' t' proper')
    | node name' inner' =>
      obtain ⟨names, rest⟩ := (Run.mk proper (stops_writeInner inner t)).append_inj
        (.mk proper' (stops_writeInner inner' t')) (List.cons.inj h).2
      obtain ⟨inners, tails⟩ := writeInner_inj all legible rest
      exact ⟨congrArg₂ node names inners, tails⟩

/-- A property that passes from the trees right inside a tree to it holds of all trees. -/
theorem inner_induction {motive : Expr → Prop}
    (step : ∀ e, (∀ i ∈ e.shape.inner, motive i) → motive e) (e : Expr) : motive e := by
  induction e with
  | literal v => exact step _ nofun
  | grouping inner ih => exact step _ (List.forall_mem_singleton.2 ih)
  | unary operator operand ih => exact step _ (List.forall_mem_singleton.2 ih)
  | binary left operator right ihl ihr =>
    exact step _ (List.forall_mem_cons.2 ⟨ihl, List.forall_mem_singleton.2 ihr⟩)

private theorem Legible.determines (h : e.Legible) : Determines e := by
  induction e using inner_induction with
  | step e ih =>
    intro e' t t' h' stops stops' same
    rw [render_append, render_append] at same
    obtain ⟨shapes, tails⟩ := Shape.write_inj (fun i hi => ih i hi (h.inner hi))
      (fun _ => h'.inner) h.proper_shape h'.proper_shape stops stops' same
    exact ⟨h.lineless_eq h' shapes, tails⟩

end Expr

section Sources

variable {source source' : String} {r r' : Reporter} {e e' : Expr}

private theorem Expr.Canonical.operator_kind (h : e.Canonical) : ∀ t ∈ e.operators,
    t.kind.isUnaryOperator = true ∨ ∃ p, Precedence.ofKind? t.kind = some p := by
  induction h with
  | literal v => nofun
  | grouping canonical ih => exact ih
  | unary admitted canonical tight ih => exact List.forall_mem_cons.2 ⟨.inl admitted, ih⟩
  | binary admitted lefts loose rights tight ihl ihr =>
    exact List.forall_mem_append.2 ⟨ihl, List.forall_mem_cons.2 ⟨.inr ⟨_, admitted⟩, ihr⟩⟩

private theorem exists_spelling {kind : TokenKind}
    (h : kind.isUnaryOperator = true ∨ ∃ p, Precedence.ofKind? kind = some p) :
    (∃ spelling, (spelling, kind) ∈ Lexing.operators) ∧ kind ≠ .leftParen ∧ kind ≠ .rightParen := by
  cases kind <;> simp_all [TokenKind.isUnaryOperator, Precedence.ofKind?, Lexing.operators]

/-- A tree that a source is parsed to has operators and values of sources. -/
theorem legible_of_parseSource (parsed : (parseSource source r).1 = some e)
    (textless : ∀ s, .text s ∉ e.literals) : e.Legible := by
  obtain ⟨canonical, ts, yields, among⟩ := exists_yields_of_parseSource parsed
  refine Expr.legible_of_forall (fun t ht => ?_) fun v hv => ?_
  · obtain ⟨⟨spelling, operator⟩, paren⟩ := exists_spelling (canonical.operator_kind t ht)
    obtain ⟨spelled, literal⟩ :=
      Lexing.spelled_of_mem (among (yields.operators_subset ht)) operator
    exact ⟨spelled, paren, literal⟩
  · cases v with
    | text s => exact absurd hv (textless s)
    | boolean b => exact .boolean b
    | nil => exact .nil
    | number x =>
      obtain ⟨t, ht, denotes⟩ := yields.exists_denotes hv
      obtain ⟨-, rfl⟩ := (Lexing.scanned_of_mem (among ht)).number denotes
      exact .number (Binary64.isNegative_ofDecimal _) (Binary64.isNaN_ofDecimal _)

/-- Trees that sources are parsed to, without text literals, are rendered alike exactly if they are
the same but for the lines of operators. -/
theorem render_eq_iff (parsed : (parseSource source r).1 = some e)
    (parsed' : (parseSource source' r').1 = some e') (textless : ∀ s, .text s ∉ e.literals)
    (textless' : ∀ s, .text s ∉ e'.literals) :
    e.render = e'.render ↔ e.lineless = e'.lineless := by
  constructor
  · intro same
    have determined := (legible_of_parseSource parsed textless).determines e' [] []
      (legible_of_parseSource parsed' textless') nofun nofun
    exact (determined (by rw [same])).1
  · intro same
    rw [← e.render_lineless, same, e'.render_lineless]

end Sources

/-- A difference in a negated group, on one line and on two. -/
theorem render_eq_iff_lines : ∃ e e', (parseSource "-(1 - 2)" .empty).1 = some e ∧
    (parseSource "-(1\n- 2)" .empty).1 = some e' ∧ (∀ s, .text s ∉ e.literals) ∧
    (∀ s, .text s ∉ e'.literals) ∧ e.render = e'.render ∧ e.lineless = e'.lineless ∧ e ≠ e' := by
  let difference (line : Nat) : Expr := .unary ⟨.minus, "-", none, 1⟩ (.grouping
    (.binary (.literal (.number ⟨0x3FF0000000000000⟩)) ⟨.minus, "-", none, line⟩
      (.literal (.number ⟨0x4000000000000000⟩))))
  have parsed : (parseSource "-(1 - 2)" .empty).1 = some (difference 1) := by decide +kernel
  have parsed' : (parseSource "-(1\n- 2)" .empty).1 = some (difference 2) := by decide +kernel
  have textless (line : Nat) : ∀ s, .text s ∉ (difference line).literals := by
    simp [difference, Expr.literals]
  have same : (difference 1).render = (difference 2).render := rfl
  exact ⟨_, _, parsed, parsed', textless 1, textless 2, same,
    (render_eq_iff parsed parsed' (textless 1) (textless 2)).1 same, by decide⟩

/-- A text may look like a tree. -/
example : (Expr.literal (.text "(- nil)")).render =
    (Expr.unary (.plain .minus "-") (.literal .nil)).render := by decide

end LoxSyntax
