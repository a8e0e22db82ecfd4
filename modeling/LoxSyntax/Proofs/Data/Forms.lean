import LoxSyntax.Pipeline
import LoxSyntax.Proofs.Parsing.Grammar

/-!
# Data forms of tokens and trees

Only the kind of blanks has no data form. Tokens without it, and trees whose operators are such
tokens, have the forms given here, so no format of a stage refuses them.
-/
namespace LoxSyntax

/-- The data form of a token of any kind but that of blanks. -/
def Token.data (t : Token) : Data :=
  .record [("kind", .text t.kind.label), ("lexeme", .text t.lexeme),
    ("literal", t.literal.elim .null Literal.toData), ("line", .natural t.line)]

namespace Expr

/-- The data form of a tree whose operators have one. -/
def data : Expr → Data
  | binary left operator right => .record [("type", .text "Binary"), ("left", left.data),
      ("operator", operator.data), ("right", right.data)]
  | grouping inner => .record [("type", .text "Grouping"), ("expression", inner.data)]
  | literal value => .record [("type", .text "Literal"), ("value", value.toData)]
  | unary operator operand => .record [("type", .text "Unary"), ("operator", operator.data),
      ("right", operand.data)]

/-- The operators of a tree, in the order of its tokens. -/
def operators : Expr → List Token
  | binary left operator right => left.operators ++ operator :: right.operators
  | grouping inner => inner.operators
  | literal _ => []
  | unary operator operand => operator :: operand.operators

/-- The values at the leaves of a tree, from left to right. -/
def literals : Expr → List Value
  | binary left _ right => left.literals ++ right.literals
  | grouping inner => inner.literals
  | literal value => [value]
  | unary _ operand => operand.literals

theorem Yields.operators_subset {e : Expr} {ts : List Token} (h : e.Yields ts) :
    e.operators ⊆ ts := by
  induction h with
  | literal denotes => exact List.nil_subset _
  | grouping opens yields closes ih =>
    intro t ht
    simp [ih ht]
  | unary yields ih =>
    intro t ht
    rcases List.mem_cons.1 ht with rfl | ht
    · simp
    · simp [ih ht]
  | binary lefts rights ihl ihr =>
    intro t ht
    rcases List.mem_append.1 ht with ht | ht
    · simp [ihl ht]
    · rcases List.mem_cons.1 ht with rfl | ht
      · simp
      · simp [ihr ht]

theorem Yields.exists_denotes {e : Expr} {ts : List Token} (h : e.Yields ts) {v : Value}
    (hv : v ∈ e.literals) : ∃ t ∈ ts, t.Denotes v := by
  induction h with
  | @literal t w denotes =>
    obtain rfl := List.mem_singleton.1 hv
    exact ⟨t, by simp, denotes⟩
  | grouping opens yields closes ih =>
    obtain ⟨t, ht, denotes⟩ := ih hv
    exact ⟨t, by simp [ht], denotes⟩
  | unary yields ih =>
    obtain ⟨t, ht, denotes⟩ := ih hv
    exact ⟨t, by simp [ht], denotes⟩
  | binary lefts rights ihl ihr =>
    rcases List.mem_append.1 hv with hv | hv
    · obtain ⟨t, ht, denotes⟩ := ihl hv
      exact ⟨t, by simp [ht], denotes⟩
    · obtain ⟨t, ht, denotes⟩ := ihr hv
      exact ⟨t, by simp [ht], denotes⟩

end Expr

section Forms

variable {t : Token} {ts : List Token} {e : Expr}

private theorem Token.toData_eq (plain : t.kind ≠ .trivia) : t.toData = .ok t.data := by
  rw [toData, TokenKind.toData, if_neg plain]
  rfl

private theorem Token.listToData_eq (plain : ∀ t ∈ ts, t.kind ≠ .trivia) :
    listToData ts = .ok (.list (ts.map data)) := by
  have items : ts.mapM toData = Except.ok (ε := Unserializable) (ts.map data) := by
    induction ts with
    | nil => rfl
    | cons t ts ih =>
      obtain ⟨own, others⟩ := List.forall_mem_cons.1 plain
      rw [List.mapM_cons, toData_eq own, ih others]
      rfl
  rw [listToData, items]
  rfl

private theorem Expr.toData_eq (plain : ∀ t ∈ e.operators, t.kind ≠ .trivia) :
    e.toData = .ok e.data := by
  induction e with
  | binary left operator right ihl ihr =>
    simp only [operators, List.mem_append, List.mem_cons] at plain
    rw [toData, ihl fun t ht => plain t (.inl ht), ihr fun t ht => plain t (.inr (.inr ht)),
      Token.toData_eq (plain operator (.inr (.inl rfl)))]
    rfl
  | grouping inner ih =>
    rw [toData, ih plain]
    rfl
  | literal value => rfl
  | unary operator operand ih =>
    obtain ⟨own, others⟩ := List.forall_mem_cons.1 plain
    rw [toData, ih others, Token.toData_eq own]
    rfl

theorem formatTokens_json (plain : ∀ t ∈ ts, t.kind ≠ .trivia) :
    formatTokens .json ts = .ok (Json.pretty (.list (ts.map Token.data))) := by
  rw [formatTokens, Token.listToData_eq plain]
  rfl

theorem formatTree_json (plain : ∀ t ∈ e.operators, t.kind ≠ .trivia) :
    formatTree .json e = .ok (Json.pretty e.data) := by
  rw [formatTree, Expr.toData_eq plain]
  rfl

theorem exists_formatTokens {format : Format} (plain : ∀ t ∈ ts, t.kind ≠ .trivia)
    (fits : format ≠ .sexpr) : ∃ out, formatTokens format ts = .ok out := by
  cases format with
  | simple => exact ⟨_, rfl⟩
  | json => exact ⟨_, formatTokens_json plain⟩
  | yaml => exact ⟨Yaml.write (.list (ts.map Token.data)), by
      rw [formatTokens, Token.listToData_eq plain]
      rfl⟩
  | sexpr => exact absurd rfl fits

theorem exists_formatTree {format : Format} (plain : ∀ t ∈ e.operators, t.kind ≠ .trivia)
    (fits : format ≠ .simple) : ∃ out, formatTree format e = .ok out := by
  cases format with
  | simple => exact absurd rfl fits
  | json => exact ⟨_, formatTree_json plain⟩
  | yaml => exact ⟨Yaml.write e.data, by
      rw [formatTree, Expr.toData_eq plain]
      rfl⟩
  | sexpr => exact ⟨_, rfl⟩

end Forms

theorem Spec.mem_available_of_ofString {text : String} {spec : Spec}
    (known : ofString text = .ok spec) : spec ∈ available := by
  unfold ofString at known
  split at known
  · cases known
  · unfold ofNames at known
    split at known
    · cases known
    · split at known
      · cases known
      · rename_i stage _ _ format _
        cases stage <;> cases format <;> cases known <;> decide

/-- What can be met pairs tokens and trees with formats of their own. -/
theorem Spec.format_of_mem_available {spec : Spec} (known : spec ∈ available) :
    (spec.stage = .token → spec.format ≠ .sexpr) ∧ (spec.stage = .ast → spec.format ≠ .simple) := by
  have pairs : ∀ spec ∈ available, (spec.stage = .token → spec.format ≠ .sexpr) ∧
      (spec.stage = .ast → spec.format ≠ .simple) := by decide
  exact pairs spec known

end LoxSyntax
