import LoxSyntax.Proofs.Parsing.Ahead
import LoxSyntax.Proofs.Parsing.Reading

/-!
# What a run of the reader looks at

The reader looks at the tokens it passes and at the one behind them, and at nothing else. More room
than a run had changes it only where room ran out.
-/
namespace LoxSyntax.Parsing

namespace Cursor

variable {c d c' d' : Cursor} {ts us : List Token} {t : Token} {admits : TokenKind → Bool}

private theorem Passes.head?_eq (h : c.Passes ts d) (h' : c'.Passes ts d')
    (ahead : ts = [] → d'.rest.head? = d.rest.head?) : c'.rest.head? = c.rest.head? := by
  rw [h.rest, h'.rest]
  cases ts with
  | nil => exact ahead rfl
  | cons t ts => rfl

theorem Passes.transport (h : c.Passes ts d) (same : c'.rest = c.rest) :
    ∃ d', c'.Passes ts d' ∧ d'.rest = d.rest :=
  ⟨⟨c'.consumed + ts.length, ts.getLast?.or c'.last, d.rest⟩,
    ⟨same.trans h.rest, rfl, rfl, h.proper⟩, rfl⟩

private theorem accept?_eq_none_of_head? (h : c'.rest.head? = c.rest.head?)
    (refused : c.accept? admits = none) : c'.accept? admits = none := by
  cases hc : c.rest with
  | nil =>
    rw [hc, List.head?_nil, List.head?_eq_none_iff] at h
    simp [accept?, h]
  | cons t more =>
    rw [hc, List.head?_cons, List.head?_eq_some_iff] at h
    obtain ⟨more', h⟩ := h
    simpa [accept?, hc, h] using refused

private theorem peek_eq_of_head? (h : c'.rest.head? = c.rest.head?) : c'.peek = c.peek := by
  rw [peek, peek, h]

private theorem Passes.accept?_cons (h : c'.Passes (t :: ts) d')
    (taken : c.accept? admits = some (t, d)) :
    ∃ m, c'.accept? admits = some (t, m) ∧ m.Passes ts d' := by
  obtain ⟨m, one, others⟩ := h.uncons
  exact ⟨m, one.accept? (admits_of_accept? taken), others⟩

end Cursor

variable {phrase : Phrase} {room : Nat} {c d : Cursor} {e : Expr} {f : Failure}

/-- Where the same tokens are passed with the same one behind them, a phrase comes to the same tree
again with that room or more. -/
theorem Reads.carried (h : Reads phrase room c e d) :
    ∃ ts, c.Passes ts d ∧ ∀ {room' c' d'}, room ≤ room' → c'.Passes ts d' →
      d'.rest.head? = d.rest.head? → Reads phrase room' c' e d' := by
  induction h with
  | @literal room c t d v taken value =>
    refine ⟨[t], .of_accept? taken, fun {room' c' d'} _ passes _ => ?_⟩
    exact .literal (passes.accept? (Cursor.admits_of_accept? taken)) value
  | @grouping room c opening inner e m closing d opens content closes ih =>
    obtain ⟨ts, own, again⟩ := ih
    have last : m.Passes [closing] d := .of_accept? closes
    refine ⟨opening :: (ts ++ [closing]), (Cursor.Passes.of_accept? opens).trans (own.trans last),
      fun {room' c' d'} enough passes _ => ?_⟩
    obtain ⟨inner', opens', others⟩ := passes.accept?_cons opens
    obtain ⟨m', content', last'⟩ := others.split
    obtain ⟨room', rfl⟩ : ∃ n, room' = n + 1 := ⟨room' - 1, by omega⟩
    have ahead := last.head?_eq last' (by simp)
    exact .grouping opens' (again (by omega) content' ahead)
      (last'.accept? (Cursor.admits_of_accept? closes))
  | bare refused operand ih =>
    obtain ⟨ts, own, again⟩ := ih
    refine ⟨ts, own, fun {room' c' d'} enough passes ahead => ?_⟩
    have front := own.head?_eq passes fun _ => ahead
    exact .bare (Cursor.accept?_eq_none_of_head? front refused) (again enough passes ahead)
  | @unary room c operator m e d taken operand ih =>
    obtain ⟨ts, own, again⟩ := ih
    refine ⟨operator :: ts, (Cursor.Passes.of_accept? taken).trans own,
      fun {room' c' d'} enough passes ahead => ?_⟩
    obtain ⟨m', taken', others⟩ := passes.accept?_cons taken
    obtain ⟨room', rfl⟩ : ∃ n, room' = n + 1 := ⟨room' - 1, by omega⟩
    exact .unary taken' (again (by omega) others ahead)
  | operand operand ih =>
    obtain ⟨ts, own, again⟩ := ih
    exact ⟨ts, own, fun enough passes ahead => .operand (again enough passes ahead)⟩
  | first operand others ih ihc =>
    obtain ⟨ts, own, again⟩ := ih
    obtain ⟨us, own', again'⟩ := ihc
    refine ⟨ts ++ us, own.trans own', fun {room' c' d'} enough passes ahead => ?_⟩
    obtain ⟨m', operand', others'⟩ := passes.split
    have front := own'.head?_eq others' fun _ => ahead
    exact .first (again enough operand' front) (again' enough others' ahead)
  | @stop p left room c refused =>
    refine ⟨[], .refl c, fun {room' c' d'} _ passes ahead => ?_⟩
    obtain rfl : c' = d' := (Cursor.Passes.refl c').eq passes
    exact .stop (Cursor.accept?_eq_none_of_head? ahead refused)
  | @next p left room c operator m right n e d taken operand others ih ihc =>
    obtain ⟨ts, own, again⟩ := ih
    obtain ⟨us, own', again'⟩ := ihc
    refine ⟨operator :: (ts ++ us), (Cursor.Passes.of_accept? taken).trans (own.trans own'),
      fun {room' c' d'} enough passes ahead => ?_⟩
    obtain ⟨m', taken', rest⟩ := passes.accept?_cons taken
    obtain ⟨n', operand', others'⟩ := rest.split
    obtain ⟨room', rfl⟩ : ∃ n, room' = n + 1 := ⟨room' - 1, by omega⟩
    have front := own'.head?_eq others' fun _ => ahead
    exact .next taken' (again (by omega) operand' front) (again' (by omega) others' ahead)

/-- Where a failure comes again: with no less room, and where it was not for want of room in front
of the same token; otherwise with no more room. -/
structure Failure.Recurs (f : Failure) (room room' : Nat) (d' : Cursor) : Prop where
  enough : room ≤ room'
  deep : f.cause = .tooMuchNesting → room' = room
  ahead : f.cause ≠ .tooMuchNesting → d'.rest.head? = f.cursor.rest.head?

/-- The same failure at another cursor; in front of the same token it is reported there too. -/
structure Failure.Like (f' f : Failure) (d' : Cursor) : Prop where
  cause : f'.cause = f.cause
  cursor : f'.cursor = d'
  token : d'.rest.head? = f.cursor.rest.head? → f'.token = f.token

theorem Failure.Recurs.inner {room' : Nat} {d' : Cursor} (h : f.Recurs (room + 1) room' d') :
    ∃ inner, room' = inner + 1 ∧ f.Recurs room inner d' := by
  have := h.enough
  refine ⟨room' - 1, by omega, by omega, fun deep => ?_, h.ahead⟩
  have := h.deep deep
  omega

private theorem Failure.like_ahead (cause : SyntaxError) (room room' : Nat) (d d' : Cursor) :
    (Failure.ahead cause room' d').Like (.ahead cause room d) d' :=
  ⟨rfl, rfl, Cursor.peek_eq_of_head?⟩

private theorem Failure.Recurs.head?_eq {ts : List Token} {room' : Nat} {c c' d' : Cursor}
    (h : f.Recurs room room' d') (own : c.Passes ts f.cursor) (passes : c'.Passes ts d')
    (passed : f.cause = .tooMuchNesting → ts ≠ []) : c'.rest.head? = c.rest.head? := by
  refine own.head?_eq passes fun empty => h.ahead fun deep => ?_
  exact passed deep empty

theorem Fails.carried (h : Fails phrase room c f) :
    ∃ ts, c.Passes ts f.cursor ∧ (f.cause = .tooMuchNesting → ts ≠ []) ∧
      ∀ {room' c' d'}, f.Recurs room room' d' → c'.Passes ts d' →
        ∃ f', Fails phrase room' c' f' ∧ f'.Like f d' := by
  induction h with
  | @noValue room c t d taken value =>
    refine ⟨[t], .of_accept? taken, by simp, fun {room' c' d'} _ passes => ?_⟩
    have taken' := passes.accept? (Cursor.admits_of_accept? taken)
    exact ⟨_, .noValue taken' value, rfl, rfl, fun _ => rfl⟩
  | @noOperand room c refused closed =>
    refine ⟨[], .refl c, by simp [Failure.ahead],
      fun {room' c' d'} recurs passes => ?_⟩
    obtain rfl : c' = d' := (Cursor.Passes.refl c').eq passes
    have front := recurs.ahead (by simp [Failure.ahead])
    exact ⟨_, .noOperand (Cursor.accept?_eq_none_of_head? front refused)
      (Cursor.accept?_eq_none_of_head? front closed), Failure.like_ahead _ _ _ _ _⟩
  | @groupTooDeep c opening inner opens =>
    refine ⟨[opening], .of_accept? opens, by simp, fun {room' c' d'} recurs passes => ?_⟩
    obtain rfl := recurs.deep rfl
    exact ⟨_, .groupTooDeep (passes.accept? (Cursor.admits_of_accept? opens)),
      Failure.like_ahead _ _ _ _ _⟩
  | @groupContent room c opening inner f opens content ih =>
    obtain ⟨ts, own, -, again⟩ := ih
    refine ⟨opening :: ts, (Cursor.Passes.of_accept? opens).trans own, by simp,
      fun {room' c' d'} recurs passes => ?_⟩
    obtain ⟨m', opens', content'⟩ := passes.accept?_cons opens
    obtain ⟨room', rfl, below⟩ := recurs.inner
    obtain ⟨f', fails, like⟩ := again below content'
    exact ⟨f', .groupContent opens' fails, like⟩
  | @unclosed room c opening inner e m opens content closes =>
    obtain ⟨ts, own, again⟩ := content.carried
    refine ⟨opening :: ts, (Cursor.Passes.of_accept? opens).trans own, by simp,
      fun {room' c' d'} recurs passes => ?_⟩
    obtain ⟨m', opens', content'⟩ := passes.accept?_cons opens
    have front := recurs.ahead (by simp [Failure.ahead])
    obtain ⟨room', rfl, below⟩ := recurs.inner
    exact ⟨_, .unclosed opens' (again below.enough content' front)
      (Cursor.accept?_eq_none_of_head? front closes), Failure.like_ahead _ _ _ _ _⟩
  | @bare room c f refused operand ih =>
    obtain ⟨ts, own, passed, again⟩ := ih
    refine ⟨ts, own, passed, fun {room' c' d'} recurs passes => ?_⟩
    have front := recurs.head?_eq own passes passed
    obtain ⟨f', fails, like⟩ := again recurs passes
    exact ⟨f', .bare (Cursor.accept?_eq_none_of_head? front refused) fails, like⟩
  | @unaryTooDeep c operator m taken =>
    refine ⟨[operator], .of_accept? taken, by simp, fun {room' c' d'} recurs passes => ?_⟩
    obtain rfl := recurs.deep rfl
    exact ⟨_, .unaryTooDeep (passes.accept? (Cursor.admits_of_accept? taken)),
      Failure.like_ahead _ _ _ _ _⟩
  | @unary room c operator m f taken operand ih =>
    obtain ⟨ts, own, -, again⟩ := ih
    refine ⟨operator :: ts, (Cursor.Passes.of_accept? taken).trans own, by simp,
      fun {room' c' d'} recurs passes => ?_⟩
    obtain ⟨m', taken', operand'⟩ := passes.accept?_cons taken
    obtain ⟨room', rfl, below⟩ := recurs.inner
    obtain ⟨f', fails, like⟩ := again below operand'
    exact ⟨f', .unary taken' fails, like⟩
  | operand operand ih =>
    obtain ⟨ts, own, passed, again⟩ := ih
    refine ⟨ts, own, passed, fun {room' c' d'} recurs passes => ?_⟩
    obtain ⟨f', fails, like⟩ := again recurs passes
    exact ⟨f', .operand fails, like⟩
  | first operand ih =>
    obtain ⟨ts, own, passed, again⟩ := ih
    refine ⟨ts, own, passed, fun {room' c' d'} recurs passes => ?_⟩
    obtain ⟨f', fails, like⟩ := again recurs passes
    exact ⟨f', .first fails, like⟩
  | others operand others ih =>
    obtain ⟨ts, own, read⟩ := operand.carried
    obtain ⟨us, own', passed, again⟩ := ih
    refine ⟨ts ++ us, own.trans own', fun deep => ?_, fun {room' c' d'} recurs passes => ?_⟩
    · have := passed deep
      simp [this]
    · obtain ⟨m', operand', others'⟩ := passes.split
      have front := recurs.head?_eq own' others' passed
      obtain ⟨f', fails, like⟩ := again recurs others'
      exact ⟨f', .others (read recurs.enough operand' front) fails, like⟩
  | @chainTooDeep p left c operator m taken =>
    refine ⟨[operator], .of_accept? taken, by simp, fun {room' c' d'} recurs passes => ?_⟩
    obtain rfl := recurs.deep rfl
    exact ⟨_, .chainTooDeep (passes.accept? (Cursor.admits_of_accept? taken)),
      Failure.like_ahead _ _ _ _ _⟩
  | @next p left room c operator m f taken operand ih =>
    obtain ⟨ts, own, -, again⟩ := ih
    refine ⟨operator :: ts, (Cursor.Passes.of_accept? taken).trans own, by simp,
      fun {room' c' d'} recurs passes => ?_⟩
    obtain ⟨m', taken', operand'⟩ := passes.accept?_cons taken
    obtain ⟨room', rfl, below⟩ := recurs.inner
    obtain ⟨f', fails, like⟩ := again below operand'
    exact ⟨f', .next taken' fails, like⟩
  | @later p left room c operator m right n f taken operand others ih =>
    obtain ⟨ts, own, read⟩ := operand.carried
    obtain ⟨us, own', passed, again⟩ := ih
    refine ⟨operator :: (ts ++ us), (Cursor.Passes.of_accept? taken).trans (own.trans own'),
      by simp, fun {room' c' d'} recurs passes => ?_⟩
    obtain ⟨m', taken', rest⟩ := passes.accept?_cons taken
    obtain ⟨n', operand', others'⟩ := rest.split
    obtain ⟨room', rfl, below⟩ := recurs.inner
    have front := recurs.head?_eq own' others' passed
    obtain ⟨f', fails, like⟩ := again below others'
    exact ⟨f', .later taken' (read below.enough operand' front) fails, like⟩

/-- Two runs end alike: in the same tree, or in a failure for the same cause at the same token, each
behind the same tokens. -/
inductive Alike (c c' : Cursor) : Outcome → Outcome → Prop
  | read {ts : List Token} {e : Expr} {d d' : Cursor} (own : c.Passes ts d)
      (other : c'.Passes ts d') :
      Alike c c' (.ok (e, d)) (.ok (e, d'))
  | failed {ts : List Token} {f f' : Failure} (own : c.Passes ts f.cursor)
      (other : c'.Passes ts f'.cursor) (cause : f'.cause = f.cause) (token : f'.token = f.token) :
      Alike c c' (.error f) (.error f')

/-- Runs over the same tokens ahead end alike, and more room than was enough changes nothing. -/
theorem alike_of_rest_eq (phrase : Phrase) {room room' : Nat} {c c' : Cursor}
    (same : c'.rest = c.rest) (enough : room ≤ room')
    (deep : ∀ f, phrase.parse room c = .error f → f.cause = .tooMuchNesting → room' = room) :
    Alike c c' (phrase.parse room c) (phrase.parse room' c') := by
  cases run : phrase.parse room c with
  | ok r =>
    obtain ⟨e, d⟩ := r
    obtain ⟨ts, own, again⟩ := Reads.carried (.of_parse run)
    obtain ⟨d', other, rest⟩ := own.transport same
    rw [(again enough other (by rw [rest])).parse_eq]
    exact .read own other
  | error f =>
    obtain ⟨ts, own, -, again⟩ := Fails.carried (.of_parse run)
    obtain ⟨d', other, rest⟩ := own.transport same
    obtain ⟨f', fails, cause, rfl, token⟩ :=
      again ⟨enough, deep f run, fun _ => by rw [rest]⟩ other
    rw [fails.parse_eq]
    exact .failed own other cause (token (by rw [rest]))

end LoxSyntax.Parsing
