import LoxSyntax.Parsing.Expression

/-!
# Runs of the reader as derivations

One rule for each way in which reading a phrase can come to a tree or end in a failure. Facts about
accepted trees and about faults are inductions on these rules and need not open the reader.
-/
namespace LoxSyntax.Parsing

/-- What is asked for at a cursor: an operand without an operator in front, a unary one, the
operators of a level and tighter, or those of one level behind a left operand. -/
inductive Phrase
  | primary
  | unary
  | level (level : Option Precedence)
  | chain (p : Precedence) (left : Expr)

def Phrase.parse : Phrase → Nat → Cursor → Outcome
  | primary => parsePrimary
  | unary => parseUnary
  | level l => parseAt l
  | chain p left => parseChain p left

/-- With this room, a phrase read at one cursor comes to a tree and a later cursor. -/
inductive Reads : Phrase → Nat → Cursor → Expr → Cursor → Prop
  | literal {room c t d v} (taken : c.accept? isOperandKind = some (t, d))
      (value : operandValue? t = some v) : Reads .primary room c (.literal v) d
  | grouping {room c opening inner e m closing d}
      (opens : c.accept? (· = .leftParen) = some (opening, inner))
      (content : Reads (.level (some .equality)) room inner e m)
      (closes : m.accept? (· = .rightParen) = some (closing, d)) :
      Reads .primary (room + 1) c (.grouping e) d
  | bare {room c e d} (refused : c.accept? (·.isUnaryOperator) = none)
      (operand : Reads .primary room c e d) : Reads .unary room c e d
  | unary {room c operator m e d} (taken : c.accept? (·.isUnaryOperator) = some (operator, m))
      (operand : Reads .unary room m e d) : Reads .unary (room + 1) c (.unary operator e) d
  | operand {room c e d} (operand : Reads .unary room c e d) : Reads (.level none) room c e d
  | first {p room c left m e d} (operand : Reads (.level p.tighter?) room c left m)
      (others : Reads (.chain p left) room m e d) : Reads (.level (some p)) room c e d
  | stop {p left room c} (refused : c.accept? p.admits = none) :
      Reads (.chain p left) room c left c
  | next {p left room c operator m right n e d}
      (taken : c.accept? p.admits = some (operator, m))
      (operand : Reads (.level p.tighter?) room m right n)
      (others : Reads (.chain p (.binary left operator right)) room n e d) :
      Reads (.chain p left) (room + 1) c e d

/-- A failure at the token ahead, with `room` levels left to open. -/
def Failure.ahead (cause : SyntaxError) (room : Nat) (c : Cursor) : Failure :=
  ⟨cause, c.peek, c, maxDepth - room⟩

/-- With this room, a phrase read at one cursor ends in a failure. -/
inductive Fails : Phrase → Nat → Cursor → Failure → Prop
  | noValue {room c t d} (taken : c.accept? isOperandKind = some (t, d))
      (value : operandValue? t = none) :
      Fails .primary room c ⟨.expectExpression, t, d, maxDepth - room⟩
  | noOperand {room c} (refused : c.accept? isOperandKind = none)
      (closed : c.accept? (· = .leftParen) = none) :
      Fails .primary room c (.ahead .expectExpression room c)
  | groupTooDeep {c opening inner} (opens : c.accept? (· = .leftParen) = some (opening, inner)) :
      Fails .primary 0 c (.ahead .tooMuchNesting 0 inner)
  | groupContent {room c opening inner f}
      (opens : c.accept? (· = .leftParen) = some (opening, inner))
      (content : Fails (.level (some .equality)) room inner f) : Fails .primary (room + 1) c f
  | unclosed {room c opening inner e m}
      (opens : c.accept? (· = .leftParen) = some (opening, inner))
      (content : Reads (.level (some .equality)) room inner e m)
      (closes : m.accept? (· = .rightParen) = none) :
      Fails .primary (room + 1) c (.ahead .expectClosing (room + 1) m)
  | bare {room c f} (refused : c.accept? (·.isUnaryOperator) = none)
      (operand : Fails .primary room c f) : Fails .unary room c f
  | unaryTooDeep {c operator m} (taken : c.accept? (·.isUnaryOperator) = some (operator, m)) :
      Fails .unary 0 c (.ahead .tooMuchNesting 0 m)
  | unary {room c operator m f} (taken : c.accept? (·.isUnaryOperator) = some (operator, m))
      (operand : Fails .unary room m f) : Fails .unary (room + 1) c f
  | operand {room c f} (operand : Fails .unary room c f) : Fails (.level none) room c f
  | first {p room c f} (operand : Fails (.level p.tighter?) room c f) :
      Fails (.level (some p)) room c f
  | others {p room c left m f} (operand : Reads (.level p.tighter?) room c left m)
      (others : Fails (.chain p left) room m f) : Fails (.level (some p)) room c f
  | chainTooDeep {p left c operator m} (taken : c.accept? p.admits = some (operator, m)) :
      Fails (.chain p left) 0 c (.ahead .tooMuchNesting 0 m)
  | next {p left room c operator m f} (taken : c.accept? p.admits = some (operator, m))
      (operand : Fails (.level p.tighter?) room m f) : Fails (.chain p left) (room + 1) c f
  | later {p left room c operator m right n f} (taken : c.accept? p.admits = some (operator, m))
      (operand : Reads (.level p.tighter?) room m right n)
      (others : Fails (.chain p (.binary left operator right)) room n f) :
      Fails (.chain p left) (room + 1) c f

/-- A run of the reader, by how it ends. -/
def Ends (phrase : Phrase) (room : Nat) (c : Cursor) : Outcome → Prop
  | .ok (e, d) => Reads phrase room c e d
  | .error f => Fails phrase room c f

theorem Ends.imp {phrase phrase' : Phrase} {room room' : Nat} {c c' : Cursor} {o : Outcome}
    (reads : ∀ e d, Reads phrase room c e d → Reads phrase' room' c' e d)
    (fails : ∀ f, Fails phrase room c f → Fails phrase' room' c' f) (h : Ends phrase room c o) :
    Ends phrase' room' c' o := by
  cases o with
  | ok r => exact reads _ _ h
  | error f => exact fails _ h

/-- Every run of the reader is derived by the rules. -/
theorem ends_parse (phrase : Phrase) (room : Nat) (c : Cursor) :
    Ends phrase room c (phrase.parse room c) := by
  have runs := parsePrimary.mutual_induct
    (fun room c => Ends .primary room c (parsePrimary room c))
    (fun level room c => Ends (.level level) room c (parseAt level room c))
    (fun p left room c => Ends (.chain p left) room c (parseChain p left room c))
    (fun room c => Ends .unary room c (parseUnary room c))
    ?literal ?noValue ?noOperand ?groupTooDeep ?groupContent ?grouping ?unclosed
    ?operand ?firstFails ?first ?stop ?chainTooDeep ?nextFails ?next
    ?bare ?unaryTooDeep ?unaryFails ?unary
  · obtain ⟨primary, level, chain, unary⟩ := runs
    cases phrase with
    | primary => exact primary room c
    | unary => exact unary room c
    | level l => exact level l room c
    | chain p left => exact chain p left room c
  case literal =>
    intro room c t d taken v value
    rw [parsePrimary]
    simp only [taken, value]
    exact .literal taken value
  case noValue =>
    intro room c t d taken value
    rw [parsePrimary]
    simp only [taken, value]
    exact .noValue taken value
  case noOperand =>
    intro room c refused closed
    rw [parsePrimary]
    simp only [refused, closed]
    exact .noOperand refused closed
  case groupTooDeep =>
    intro c refused opening inner opens
    rw [parsePrimary]
    simp only [refused, opens]
    exact .groupTooDeep opens
  case groupContent =>
    intro c refused opening inner opens room f content ih
    rw [parsePrimary]
    simp only [refused, opens, content] at ih ⊢
    exact .groupContent opens ih
  case grouping =>
    intro c refused opening inner opens room e m content closing d closes ih
    rw [parsePrimary]
    simp only [refused, opens, content, closes] at ih ⊢
    exact .grouping opens ih closes
  case unclosed =>
    intro c refused opening inner opens room e m content closes ih
    rw [parsePrimary]
    simp only [refused, opens, content, closes] at ih ⊢
    exact .unclosed opens ih closes
  case operand =>
    intro room c ih
    rw [parseAt]
    exact ih.imp (fun _ _ => .operand) (fun _ => .operand)
  case firstFails =>
    intro room c p f operand ih
    rw [parseAt]
    simp only [operand] at ih ⊢
    exact .first ih
  case first =>
    intro room c p left m operand ih ih'
    rw [parseAt]
    simp only [operand] at ih ⊢
    exact ih'.imp (fun _ _ => .first ih) (fun _ => .others ih)
  case stop =>
    intro p left room c refused
    rw [parseChain]
    simp only [refused]
    exact .stop refused
  case chainTooDeep =>
    intro p left c operator m taken
    rw [parseChain]
    simp only [taken]
    exact .chainTooDeep taken
  case nextFails =>
    intro p left c operator m taken room f operand ih
    rw [parseChain]
    simp only [taken, operand] at ih ⊢
    exact .next taken ih
  case next =>
    intro p left c operator m taken room right n operand ih ih'
    rw [parseChain]
    simp only [taken, operand] at ih ⊢
    exact ih'.imp (fun _ _ => .next taken ih) (fun _ => .later taken ih)
  case bare =>
    intro room c refused ih
    rw [parseUnary]
    simp only [refused]
    exact ih.imp (fun _ _ => .bare refused) (fun _ => .bare refused)
  case unaryTooDeep =>
    intro c operator m taken
    rw [parseUnary]
    simp only [taken]
    exact .unaryTooDeep taken
  case unaryFails =>
    intro c operator m taken room f operand ih
    rw [parseUnary]
    simp only [taken, operand] at ih ⊢
    exact .unary taken ih
  case unary =>
    intro c operator m taken room e m' operand ih
    rw [parseUnary]
    simp only [taken, operand] at ih ⊢
    exact .unary taken ih

theorem Reads.of_parse {phrase : Phrase} {room : Nat} {c d : Cursor} {e : Expr}
    (h : phrase.parse room c = .ok (e, d)) : Reads phrase room c e d := by
  have ends := ends_parse phrase room c
  rw [h] at ends
  exact ends

theorem Fails.of_parse {phrase : Phrase} {room : Nat} {c : Cursor} {f : Failure}
    (h : phrase.parse room c = .error f) : Fails phrase room c f := by
  have ends := ends_parse phrase room c
  rw [h] at ends
  exact ends

theorem accept?_isOperandKind_eq_none {c inner : Cursor} {opening : Token}
    (opens : c.accept? (· = .leftParen) = some (opening, inner)) :
    c.accept? isOperandKind = none := by
  obtain ⟨more, hr, -, kind, -⟩ := Cursor.accept?_eq_some_iff.1 opens
  simp [Cursor.accept?, hr, of_decide_eq_true kind, isOperandKind]

/-- A derivation of a tree is what the reader comes to. -/
theorem Reads.parse_eq {phrase : Phrase} {room : Nat} {c d : Cursor} {e : Expr}
    (h : Reads phrase room c e d) : phrase.parse room c = .ok (e, d) := by
  induction h with
  | literal taken value =>
    rw [Phrase.parse, parsePrimary]
    simp only [taken, value]
  | grouping opens content closes ih =>
    rw [Phrase.parse] at ih
    rw [Phrase.parse, parsePrimary]
    simp only [accept?_isOperandKind_eq_none opens, opens, ih, closes]
  | bare refused operand ih =>
    rw [Phrase.parse, parseUnary]
    simp only [refused]
    exact ih
  | unary taken operand ih =>
    rw [Phrase.parse] at ih
    rw [Phrase.parse, parseUnary]
    simp only [taken, ih]
  | operand operand ih =>
    rw [Phrase.parse, parseAt]
    exact ih
  | first operand others ih ihc =>
    rw [Phrase.parse] at ih
    rw [Phrase.parse, parseAt]
    simp only [ih]
    exact ihc
  | stop refused =>
    rw [Phrase.parse, parseChain]
    simp only [refused]
  | next taken operand others ih ihc =>
    rw [Phrase.parse] at ih
    rw [Phrase.parse, parseChain]
    simp only [taken, ih]
    exact ihc

theorem Fails.parse_eq {phrase : Phrase} {room : Nat} {c : Cursor} {f : Failure}
    (h : Fails phrase room c f) : phrase.parse room c = .error f := by
  induction h with
  | noValue taken value =>
    rw [Phrase.parse, parsePrimary]
    simp only [taken, value]
  | noOperand refused closed =>
    rw [Phrase.parse, parsePrimary]
    simp only [refused, closed]
    rfl
  | groupTooDeep opens =>
    rw [Phrase.parse, parsePrimary]
    simp only [accept?_isOperandKind_eq_none opens, opens]
    rfl
  | groupContent opens content ih =>
    rw [Phrase.parse] at ih
    rw [Phrase.parse, parsePrimary]
    simp only [accept?_isOperandKind_eq_none opens, opens, ih]
  | unclosed opens content closes =>
    have read := content.parse_eq
    rw [Phrase.parse] at read
    rw [Phrase.parse, parsePrimary]
    simp only [accept?_isOperandKind_eq_none opens, opens, read, closes]
    rfl
  | bare refused operand ih =>
    rw [Phrase.parse, parseUnary]
    simp only [refused]
    exact ih
  | unaryTooDeep taken =>
    rw [Phrase.parse, parseUnary]
    simp only [taken]
    rfl
  | unary taken operand ih =>
    rw [Phrase.parse] at ih
    rw [Phrase.parse, parseUnary]
    simp only [taken, ih]
  | operand operand ih =>
    rw [Phrase.parse, parseAt]
    exact ih
  | first operand ih =>
    rw [Phrase.parse] at ih
    rw [Phrase.parse, parseAt]
    simp only [ih]
  | others operand others ih =>
    have read := operand.parse_eq
    rw [Phrase.parse] at read
    rw [Phrase.parse, parseAt]
    simp only [read]
    exact ih
  | chainTooDeep taken =>
    rw [Phrase.parse, parseChain]
    simp only [taken]
    rfl
  | next taken operand ih =>
    rw [Phrase.parse] at ih
    rw [Phrase.parse, parseChain]
    simp only [taken, ih]
  | later taken operand others ih =>
    have read := operand.parse_eq
    rw [Phrase.parse] at read
    rw [Phrase.parse, parseChain]
    simp only [taken, read]
    exact ih

end LoxSyntax.Parsing
