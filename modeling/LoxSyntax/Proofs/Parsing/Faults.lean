import LoxSyntax.Proofs.Parsing.Lookahead
import LoxSyntax.Proofs.Parsing.RoundTrip
import LoxSyntax.Proofs.Parsing.Sentences

/-!
# Where and why reading fails

What a failing run has passed is the beginning of a sentence. If it failed for a token, no sentence
goes on with that token; if it failed for want of room, the last token passed asks for one level
more than there are.
-/
namespace LoxSyntax

open Precedence (levelRank)

/-- A parenthesis, a sign or an operator: each opens one level for what follows it. -/
def Token.OpensLevel (t : Token) : Prop :=
  t.kind = .leftParen ∨ t.kind.isUnaryOperator = true ∨ (Precedence.ofKind? t.kind).isSome = true

/-- The trees that are written with these tokens in front need at least so many levels, and one of
them needs no more. -/
structure Demands (ts : List Token) (n : Nat) : Prop where
  attained : ∃ (e : Expr) (more : List Token), e.Canonical ∧ e.Yields (ts ++ more) ∧ e.need = n
  least : ∀ (e : Expr) (more : List Token), e.Canonical → e.Yields (ts ++ more) → n ≤ e.need

theorem Demands.mono {ts us : List Token} {m n : Nat} (h : Demands us m) (h' : Demands ts n)
    (front : us <+: ts) : m ≤ n := by
  obtain ⟨more, rfl⟩ := front
  obtain ⟨e, rest, canonical, yields, rfl⟩ := h'.attained
  rw [List.append_assoc] at yields
  exact h.least e _ canonical yields

namespace Parsing

/-- Some tree of operators up to a level begins with the tokens between two cursors and needs no
more than so many levels. -/
def Begun (c : Cursor) (level : Option Precedence) (n : Nat) (d : Cursor) : Prop :=
  ∃ (ts more : List Token) (e : Expr), c.Passes ts d ∧ e.Yields (ts ++ more) ∧ e.Canonical ∧
    e.rank ≤ levelRank level ∧ e.need ≤ n

namespace Begun

variable {b c d m : Cursor} {ls : List Token} {level : Option Precedence} {p : Precedence}
  {room n : Nat} {left : Expr} {operator opening : Token}

theorem nil (c : Cursor) (level : Option Precedence) (n : Nat) : Begun c level n c := by
  have nilWord := @Expr.Yields.literal (.plain (.keyword .nilWord) "nil") .nil (.nilWord rfl)
  exact ⟨[], _, .literal .nil, .refl c, nilWord, .literal .nil, Nat.zero_le _, Nat.zero_le n⟩

private theorem of_built {ts : List Token} {e : Expr} (h : Built c ts level n e d) :
    Begun c level n d := by
  refine ⟨ts, [], e, h.passes, ?_, h.canonical, h.within, h.fits⟩
  rw [List.append_nil]
  exact h.yields

theorem grouping (opens : c.accept? (· = .leftParen) = some (opening, m))
    (h : Begun m (some .equality) n d) : Begun c none (n + 1) d := by
  obtain ⟨ts, more, e, passes, yields, canonical, -, fits⟩ := h
  have kind := of_decide_eq_true (Cursor.admits_of_accept? opens)
  have written := @Expr.Yields.grouping opening (.plain .rightParen ")") e _ kind yields rfl
  refine ⟨opening :: ts, more ++ [.plain .rightParen ")"], .grouping e,
    (Cursor.Passes.of_accept? opens).trans passes, ?_, .grouping canonical, Nat.le_refl 0, ?_⟩
  · simpa using written
  · simp only [Expr.need]
    omega

theorem unary (taken : c.accept? (·.isUnaryOperator) = some (operator, m)) (h : Begun m none n d) :
    Begun c none (n + 1) d := by
  obtain ⟨ts, more, e, passes, yields, canonical, rank, fits⟩ := h
  refine ⟨operator :: ts, more, .unary operator e, (Cursor.Passes.of_accept? taken).trans passes,
    .unary yields, .unary (Cursor.admits_of_accept? taken) canonical (Nat.le_zero.1 rank),
    Nat.le_refl 0, ?_⟩
  simp only [Expr.need]
  omega

theorem looser (h : Begun c p.tighter? n d) : Begun c (some p) n d := by
  obtain ⟨ts, more, e, passes, yields, canonical, rank, fits⟩ := h
  have hp := p.rank_eq_levelRank_tighter
  refine ⟨ts, more, e, passes, yields, canonical, ?_, fits⟩
  rw [Precedence.levelRank_some]
  omega

theorem next (hl : Built b ls (some p) (room + 1 + left.spine p) left c)
    (taken : c.accept? p.admits = some (operator, m)) (h : Begun m p.tighter? (room + n) d) :
    Begun b (some p) (room + 1 + left.spine p + n) d := by
  obtain ⟨ts, more, e, passes, yields, canonical, rank, fits⟩ := h
  have hk := ofKind?_of_accept? taken
  have hp := p.rank_eq_levelRank_tighter
  refine ⟨ls ++ operator :: ts, more, .binary left operator e,
    hl.passes.trans ((Cursor.Passes.of_accept? taken).trans passes), ?_,
    .binary hk hl.canonical hl.within canonical (by omega),
    Nat.le_of_eq (Expr.rank_binary hk left e), ?_⟩
  · rw [List.append_assoc]
    exact .binary hl.yields yields
  · have hfl := hl.fits
    rw [Expr.need_binary hk]
    omega

private theorem exists_sentence {ts : List Token} (h : Begun c (some .equality) n d)
    (own : c.Passes ts d) :
    ∃ more, Sentence (ts ++ more) := by
  obtain ⟨us, more, e, passes, yields, canonical, rank, -⟩ := h
  obtain rfl := passes.tokens_eq own
  exact ⟨more, yields.derives canonical _ rank⟩

end Begun

/-- What it means that a phrase is begun, with levels beyond its room: the operators of a chain go
on with any tree already built. -/
def Phrase.Begun : Phrase → Nat → Cursor → Nat → Cursor → Prop
  | primary, room, c, n, d | unary, room, c, n, d => Parsing.Begun c none (room + n) d
  | level l, room, c, n, d => Parsing.Begun c l (room + n) d
  | chain p left, room, c, n, d =>
    ∀ b ls, Built b ls (some p) (room + left.spine p) left c →
      Parsing.Begun b (some p) (room + left.spine p + n) d

section Steps

variable {c d m : Cursor} {p : Precedence} {room n : Nat} {left right : Expr}
  {operator opening : Token}

theorem Phrase.Begun.grouping (opens : c.accept? (· = .leftParen) = some (opening, m))
    (h : (Phrase.level (some .equality)).Begun room m n d) :
    Phrase.primary.Begun (room + 1) c n d := by
  have begun := Parsing.Begun.grouping opens h
  rwa [Nat.add_right_comm] at begun

theorem Phrase.Begun.unary (taken : c.accept? (·.isUnaryOperator) = some (operator, m))
    (h : Phrase.unary.Begun room m n d) : Phrase.unary.Begun (room + 1) c n d := by
  have begun := Parsing.Begun.unary taken h
  rwa [Nat.add_right_comm] at begun

theorem Phrase.Begun.others (operand : Reads (.level p.tighter?) room c left m)
    (h : (Phrase.chain p left).Begun room m n d) : (Phrase.level (some p)).Begun room c n d := by
  obtain ⟨⟨ts, built⟩, -⟩ := operand.sound
  obtain ⟨chain, spine⟩ := built.toChain
  have begun := h c ts chain
  rwa [spine, Nat.add_zero] at begun

theorem Phrase.Begun.next (taken : c.accept? p.admits = some (operator, m))
    (h : (Phrase.level p.tighter?).Begun room m n d) :
    (Phrase.chain p left).Begun (room + 1) c n d :=
  fun _ _ built => .next built taken h

theorem Phrase.Begun.later (taken : c.accept? p.admits = some (operator, m)) {k : Cursor}
    (operand : Reads (.level p.tighter?) room m right k)
    (h : (Phrase.chain p (.binary left operator right)).Begun room k n d) :
    (Phrase.chain p left).Begun (room + 1) c n d := by
  intro b ls built
  obtain ⟨⟨rs, last⟩, -⟩ := operand.sound
  have begun := h b _ (built.next taken last)
  rwa [Expr.spine_binary (ofKind?_of_accept? taken), ← Nat.add_assoc] at begun

private theorem Phrase.begun_chain (p : Precedence) (left : Expr) (room : Nat) (c : Cursor) :
    (Phrase.chain p left).Begun room c 0 c :=
  fun _ _ built => .of_built built

private theorem Phrase.begun_chain_succ (taken : c.accept? p.admits = some (operator, m)) :
    (Phrase.chain p left).Begun 0 c 1 m := by
  intro b ls built
  have wider : Built b ls (some p) (0 + 1 + left.spine p) left c :=
    { built with fits := by have := built.fits; omega }
  have begun := Parsing.Begun.next (n := 0) wider taken (.nil m _ _)
  rwa [Nat.add_zero, Nat.add_right_comm] at begun

end Steps

/-- Why a run fails, as the tokens it passed show: a number or string token has no value, or no tree
goes on with the token ahead, or the last token passed opens a level beyond the room. -/
inductive Phrase.Explains (phrase : Phrase) (room : Nat) (c : Cursor) (f : Failure) : Prop
  | valueless {ts : List Token} (cause : f.cause ≠ .tooMuchNesting)
      (passes : c.Passes (ts ++ [f.token]) f.cursor) (kind : isOperandKind f.token.kind = true)
      (value : operandValue? f.token = none)
  | unexpected (cause : f.cause ≠ .tooMuchNesting) (token : f.token = f.cursor.peek)
      (begun : phrase.Begun room c 0 f.cursor)
  | nested {d : Cursor} {t : Token} (cause : f.cause = .tooMuchNesting)
      (token : f.token = f.cursor.peek) (before : phrase.Begun room c 0 d)
      (passes : d.Passes [t] f.cursor) (opens : t.OpensLevel)
      (begun : phrase.Begun room c 1 f.cursor)

theorem Phrase.Explains.lift {phrase inner : Phrase} {room room' : Nat} {c c' : Cursor}
    {f : Failure} {ts : List Token} (h : inner.Explains room' c' f) (passes : c.Passes ts c')
    (step : ∀ n d, inner.Begun room' c' n d → phrase.Begun room c n d) :
    phrase.Explains room c f := by
  cases h with
  | valueless cause own kind value =>
    have whole := passes.trans own
    rw [← List.append_assoc] at whole
    exact .valueless cause whole kind value
  | unexpected cause token begun => exact .unexpected cause token (step _ _ begun)
  | nested cause token before own opens begun =>
    exact .nested cause token (step _ _ before) own opens (step _ _ begun)

theorem Fails.explained {phrase : Phrase} {room : Nat} {c : Cursor} {f : Failure}
    (h : Fails phrase room c f) : phrase.Explains room c f := by
  induction h with
  | @noValue room c t d taken value =>
    have passes : c.Passes ([] ++ [t]) d := .of_accept? taken
    exact .valueless (by simp) passes (Cursor.admits_of_accept? taken) value
  | @noOperand room c refused closed =>
    exact .unexpected (by simp [Failure.ahead]) rfl (.nil c _ _)
  | @groupTooDeep c opening inner opens =>
    have kind := of_decide_eq_true (Cursor.admits_of_accept? opens)
    exact .nested rfl rfl (.nil c _ _) (.of_accept? opens) (.inl kind)
      (Parsing.Begun.grouping opens (.nil inner _ 0))
  | groupContent opens content ih =>
    exact ih.lift (.of_accept? opens) fun _ _ => .grouping opens
  | @unclosed room c opening inner e m opens content closes =>
    obtain ⟨⟨ts, built⟩, -⟩ := content.sound
    exact .unexpected (by simp [Failure.ahead]) rfl (.grouping opens (.of_built built))
  | bare refused operand ih => exact ih.lift (.refl _) fun _ _ h => h
  | @unaryTooDeep c operator m taken =>
    have kind := Cursor.admits_of_accept? taken
    exact .nested rfl rfl (.nil c _ _) (.of_accept? taken) (.inr (.inl kind))
      (Parsing.Begun.unary taken (.nil m _ 0))
  | unary taken operand ih => exact ih.lift (.of_accept? taken) fun _ _ => .unary taken
  | operand operand ih => exact ih.lift (.refl _) fun _ _ h => h
  | first operand ih => exact ih.lift (.refl _) fun _ _ => .looser
  | others operand others ih =>
    obtain ⟨⟨ts, built⟩, -⟩ := operand.sound
    exact ih.lift built.passes fun _ _ => .others operand
  | @chainTooDeep p left c operator m taken =>
    have kind := ofKind?_of_accept? taken
    exact .nested rfl rfl (Phrase.begun_chain p left 0 c) (.of_accept? taken)
      (.inr (.inr (by simp [kind]))) (Phrase.begun_chain_succ taken)
  | next taken operand ih => exact ih.lift (.of_accept? taken) fun _ _ => .next taken
  | later taken operand others ih =>
    obtain ⟨⟨ts, built⟩, -⟩ := operand.sound
    exact ih.lift ((Cursor.Passes.of_accept? taken).trans built.passes)
      fun _ _ => .later taken operand

section Runs

variable {room : Nat} {c : Cursor} {f : Failure} {ts us more : List Token} {e : Expr} {t : Token}

/-- A failing run and a tree that begins with the tokens it passed: the failure is for want of room,
and the tree needs more. Where it is for the token ahead, no tree goes on with that token. -/
theorem Fails.lt_need (h : Fails (.level (some .equality)) room c f) (own : c.Passes ts f.cursor)
    (canonical : e.Canonical) (yields : e.Yields (ts ++ more))
    (ahead : f.cause ≠ .tooMuchNesting → more.head? = f.cursor.rest.head?) :
    f.cause = .tooMuchNesting ∧ room < e.need := by
  obtain ⟨us, passes, -, again⟩ := h.carried
  obtain rfl := passes.tokens_eq own
  have whole := passes_ofTokens [] (yields.proper canonical)
  obtain ⟨d, front, others⟩ := whole.split
  have rest : d.rest = more := by simpa using others.rest
  have clash (room' : Nat) (recurs : f.Recurs room room' d) (fits : e.need ≤ room') : False := by
    obtain ⟨f', fails, -⟩ := again recurs front
    have read := (gated_parseExpression room' canonical yields whole rfl).fits fits
    cases fails.parse_eq.symm.trans read
  by_cases deep : f.cause = .tooMuchNesting
  · refine ⟨deep, Nat.lt_of_not_le fun fits => ?_⟩
    exact clash room ⟨Nat.le_refl room, fun _ => rfl, fun shallow => absurd deep shallow⟩ fits
  · exfalso
    refine clash (max room e.need) ⟨Nat.le_max_left _ _, fun h => absurd h deep, fun _ => ?_⟩
      (Nat.le_max_right _ _)
    rw [rest, ahead deep]

/-- A run that fails for want of room has passed tokens that ask for one level more. -/
theorem Fails.demands (h : Fails (.level (some .equality)) room c f)
    (deep : f.cause = .tooMuchNesting) (own : c.Passes ts f.cursor) : Demands ts (room + 1) := by
  have least (e : Expr) (more : List Token) (canonical : e.Canonical)
      (yields : e.Yields (ts ++ more)) : room + 1 ≤ e.need :=
    (h.lt_need own canonical yields fun shallow => absurd deep shallow).2
  refine ⟨?_, least⟩
  cases h.explained with
  | valueless cause | unexpected cause => exact absurd deep cause
  | nested cause token before passes opens begun =>
    obtain ⟨us, more, e, front, yields, canonical, -, fits⟩ := begun
    obtain rfl := front.tokens_eq own
    exact ⟨e, more, canonical, yields, Nat.le_antisymm fits (least e more canonical yields)⟩

private theorem Fails.of_less_room {phrase : Phrase} (h : Fails phrase (room + 1) c f)
    (deep : f.cause = .tooMuchNesting) :
    ∃ f', Fails phrase room c f' ∧ f'.cause = .tooMuchNesting := by
  refine Classical.byContradiction fun enough => ?_
  have alike : Alike c c (phrase.parse room c) (phrase.parse (room + 1) c) :=
    alike_of_rest_eq phrase rfl (Nat.le_succ room) fun f' run cause =>
      absurd ⟨f', .of_parse run, cause⟩ enough
  rw [h.parse_eq] at alike
  generalize run : phrase.parse room c = o at alike
  cases alike with
  | failed own other cause token => exact enough ⟨_, .of_parse run, cause.symm.trans deep⟩

private theorem Fails.le_need_of_front (h : Fails (.level (some .equality)) room c f)
    (deep : f.cause = .tooMuchNesting) (own : c.Passes (us ++ [t]) f.cursor)
    (canonical : e.Canonical) (yields : e.Yields (us ++ more)) : room ≤ e.need := by
  cases room with
  | zero => exact Nat.zero_le _
  | succ room =>
    obtain ⟨f', fails, deep'⟩ := h.of_less_room deep
    obtain ⟨ts, own', -⟩ := fails.carried
    have demands := h.demands deep own
    have demands' := fails.demands deep' own'
    have fronts := List.prefix_or_prefix_of_prefix ⟨f.cursor.rest, own.rest.symm⟩
      ⟨f'.cursor.rest, own'.rest.symm⟩
    rcases fronts with later | earlier
    · have := demands.mono demands' later
      omega
    · rcases List.prefix_concat_iff.1 earlier with rfl | ⟨others, rfl⟩
      · have := demands.mono demands' (List.prefix_refl _)
        omega
      · rw [List.append_assoc] at yields
        exact demands'.least e _ canonical yields

private theorem Fails.exists_opener (h : Fails (.level (some .equality)) room c f)
    (deep : f.cause = .tooMuchNesting) :
    ∃ us t, c.Passes (us ++ [t]) f.cursor ∧ t.OpensLevel ∧ Demands us room ∧
      Demands (us ++ [t]) (room + 1) := by
  cases h.explained with
  | valueless cause | unexpected cause => exact absurd deep cause
  | @nested d t cause token before last opens begun =>
    obtain ⟨us, more, e, front, yields, canonical, -, fits⟩ := before
    have own := front.trans last
    have least (e : Expr) (more : List Token) (canonical : e.Canonical)
        (yields : e.Yields (us ++ more)) : room ≤ e.need :=
      h.le_need_of_front deep own canonical yields
    exact ⟨us, t, own, opens,
      ⟨⟨e, more, canonical, yields, Nat.le_antisymm fits (least e more canonical yields)⟩, least⟩,
      h.demands deep own⟩

end Runs

section Parse

variable {tokens ts : List Token} {c d : Cursor} {t : Token}

theorem operandValue?_isSome {t : Token} (kind : isOperandKind t.kind = true) (valued : t.Valued) :
    (operandValue? t).isSome = true := by
  revert kind valued
  unfold operandValue? Token.Valued
  fun_cases isOperandKind t.kind <;> simp_all

private theorem valued_of_passes (valued : ∀ t ∈ c.rest.takeWhile (!·.isEndOfFile), t.Valued)
    (passes : c.Passes ts d) : (∀ t ∈ ts, t.Valued) ∧ ∀ t ∈ d.rest.head?, t.Valued := by
  have front : c.rest.takeWhile (!·.isEndOfFile) =
      ts ++ d.rest.takeWhile (!·.isEndOfFile) := by
    rw [passes.rest, List.takeWhile_append_of_pos]
    intro t ht
    simp [passes.proper t ht]
  rw [front] at valued
  refine ⟨fun t ht => valued t (List.mem_append_left _ ht), fun t ht => ?_⟩
  by_cases ends : t.isEndOfFile = true
  · have kind : t.kind = .endOfFile := by simpa [Token.isEndOfFile] using ends
    simp [Token.Valued, kind]
  · obtain ⟨more, hr⟩ := List.head?_eq_some_iff.1 ht
    exact valued t (List.mem_append_right _ (by simp [hr, ends]))

theorem exists_ahead (passes : (Cursor.ofTokens tokens).Passes ts d)
    (ends : tokens.getLast?.any (·.isEndOfFile) = true) :
    ∃ t, d.rest.head? = some t ∧ d.peek = t ∧ tokens[d.consumed]? = some t ∧
      tokens.take d.consumed = ts ∧ tokens.take (d.consumed + 1) = ts ++ [t] := by
  obtain ⟨t, more, ht⟩ := List.exists_cons_of_ne_nil (passes.rest_ne_nil ends)
  have whole : tokens = ts ++ t :: more := by
    rw [← ht]
    exact passes.rest
  have count : d.consumed = ts.length := passes.consumed.trans (Nat.zero_add _)
  refine ⟨t, by simp [ht], by simp [Cursor.peek, ht], ?_, ?_, ?_⟩
  · simp [whole, count]
  · simp [whole, count]
  · simp [whole, count, List.take_append, List.take_of_length_le (Nat.le_succ ts.length)]

/-- A parser over tokens that an end marker closes gives no tree only after a failure, which is the
one thing that it reports. -/
theorem exists_failure_of_parse {p q : Parser} (ends : p.cursor.endsProperly = true)
    (h : p.parse = (none, q)) :
    ∃ f, Fails (.level (some .equality)) maxDepth p.cursor f ∧ q.cursor = f.cursor ∧
      q.reporter = p.reporter.report f.diagnostic := by
  rw [Parser.parse_eq ends] at h
  cases run : parseExpression maxDepth p.cursor with
  | ok r =>
    rw [run] at h
    cases h
  | error f =>
    rw [run] at h
    cases h
    exact ⟨f, .of_parse run, rfl, rfl⟩

/-- A failing parse reports one fault, at the first token that is wrong. The tokens before it are
the beginning of a sentence. Where the fault is one of syntax, no sentence has that token there;
where it is one of nesting, the token passed last is a parenthesis, a sign or an operator, and with
it the tokens ask for one level more than may be opened. -/
theorem parse_first_fault {tokens : List Token} {r : Reporter} {q : Parser}
    (ends : tokens.getLast?.any (·.isEndOfFile) = true)
    (valued : ∀ t ∈ tokens.takeWhile (!·.isEndOfFile), t.Valued)
    (h : (Parser.ofTokens tokens r).parse = (none, q)) :
    ∃ t message, tokens[q.cursor.consumed]? = some t ∧
      q.reporter = r.report ⟨t.line, if t.isEndOfFile then .atEnd else .at t.lexeme, message⟩ ∧
      (∃ more, Sentence (tokens.take q.cursor.consumed ++ more)) ∧
      ((message = "Expect expression." ∨ message = "Expect ')' after expression.") ∧
          (∀ more, ¬Sentence (tokens.take (q.cursor.consumed + 1) ++ more)) ∨
        message = "Too much nesting." ∧
          ∃ i opener, q.cursor.consumed = i + 1 ∧ tokens[i]? = some opener ∧ opener.OpensLevel ∧
            Demands (tokens.take i) maxDepth ∧ Demands (tokens.take (i + 1)) (maxDepth + 1)) := by
  have proper : (Parser.ofTokens tokens r).cursor.endsProperly = true := ends
  obtain ⟨f, fails, cursor, reported⟩ := exists_failure_of_parse proper h
  rw [cursor, reported]
  cases fails.explained with
  | valueless cause passes kind value =>
    have own := (valued_of_passes valued passes).1 f.token (by simp)
    have some := operandValue?_isSome kind own
    rw [value] at some
    cases some
  | unexpected cause token begun =>
    obtain ⟨ts, passes, -⟩ := fails.carried
    obtain ⟨t, head, peek, place, front, next⟩ := exists_ahead passes ends
    obtain ⟨values, value⟩ := valued_of_passes valued passes
    have named : f.cause.message = "Expect expression." ∨
        f.cause.message = "Expect ')' after expression." := by
      cases hc : f.cause with
      | expectExpression => exact .inl rfl
      | expectClosing => exact .inr rfl
      | tooMuchNesting => exact absurd hc cause
    refine ⟨t, f.cause.message, place, ?_, ?_, .inl ⟨named, fun more sentence => ?_⟩⟩
    · rw [Failure.diagnostic, token, peek]
      rfl
    · rw [front]
      exact begun.exists_sentence passes
    · have all : ∀ u ∈ ts ++ [t], u.Valued := by
        simpa [or_imp, forall_and] using ⟨values, value t head⟩
      rw [next] at sentence
      obtain ⟨e, canonical, yields⟩ := sentence.exists_yields_append all
      rw [List.append_assoc] at yields
      exact cause (fails.lt_need passes canonical yields fun _ => head.symm).1
  | nested cause token before last opens begun =>
    obtain ⟨us, opener, passes, opens, demands, demands'⟩ := fails.exists_opener cause
    obtain ⟨t, head, peek, place, front, next⟩ := exists_ahead passes ends
    have count : f.cursor.consumed = us.length + 1 := by
      rw [passes.consumed, List.length_append]
      exact Nat.zero_add _
    rw [count] at front
    have whole : tokens = (us ++ [opener]) ++ f.cursor.rest := passes.rest
    refine ⟨t, f.cause.message, place, ?_, ?_, .inr ⟨by rw [cause]; rfl, us.length, opener, count,
      by simp [whole], opens, ?_, ?_⟩⟩
    · rw [Failure.diagnostic, token, peek]
      rfl
    · rw [count, front]
      exact begun.exists_sentence passes
    · simpa [whole] using demands
    · rw [front]
      exact demands'

/-- A group that goes on with a second operand, before an end marker that more tokens follow. -/
theorem parse_first_fault_unclosed_group :
    ∃ tokens q, (Parser.ofTokens tokens .empty).parse = (none, q) ∧
      tokens = [.plain .leftParen "(", .plain (.keyword .nilWord) "nil",
        ⟨.string, "\"a\"", some (.text "a"), 2⟩, .endOfFile 3, .plain .rightParen ")",
        .endOfFile 4] ∧
      tokens.getLast?.any (·.isEndOfFile) = true ∧
      (∀ t ∈ tokens.takeWhile (!·.isEndOfFile), t.Valued) ∧
      q.reporter.diagnostics = [⟨2, .at "\"a\"", "Expect ')' after expression."⟩] ∧
      (∃ more, Sentence (tokens.take 2 ++ more)) ∧ ∀ more, ¬Sentence (tokens.take 3 ++ more) := by
  let tokens : List Token := [.plain .leftParen "(", .plain (.keyword .nilWord) "nil",
    ⟨.string, "\"a\"", some (.text "a"), 2⟩, .endOfFile 3, .plain .rightParen ")", .endOfFile 4]
  have h : (Parser.ofTokens tokens .empty).parse =
      (none, (Parser.ofTokens tokens .empty).parse.2) := Prod.ext (by decide +kernel) rfl
  have count : (Parser.ofTokens tokens .empty).parse.2.cursor.consumed = 2 := by decide +kernel
  have listed : (Parser.ofTokens tokens .empty).parse.2.reporter.diagnostics =
      [⟨2, .at "\"a\"", "Expect ')' after expression."⟩] := by decide +kernel
  have ends : tokens.getLast?.any (·.isEndOfFile) = true := rfl
  have valued : ∀ t ∈ tokens.takeWhile (!·.isEndOfFile), t.Valued := by decide
  obtain ⟨t, message, -, reported, begun, fault⟩ := parse_first_fault ends valued h
  rw [count] at begun fault
  rcases fault with ⟨-, wrong⟩ | ⟨rfl, -⟩
  · exact ⟨tokens, _, h, rfl, ends, valued, listed, begun, wrong⟩
  · rw [reported] at listed
    simp [Reporter.report, Reporter.empty] at listed

end Parse

end Parsing

end LoxSyntax
