import LoxSyntax.Parsing.Cursor
import LoxSyntax.Proofs.Parsing.Grammar

/-!
# Moves of a cursor and what is ahead of it

Which tokens lie between two cursors, and which operator, if any, stands in front of a token list.
-/
namespace LoxSyntax.Parsing

open Precedence (levelRank)

namespace Cursor

variable {c d e : Cursor} {ts us : List Token} {t : Token} {admits : TokenKind → Bool}

/-- The move to a later cursor over these tokens, none of which is an end marker. -/
structure Passes (c : Cursor) (ts : List Token) (d : Cursor) : Prop where
  rest : c.rest = ts ++ d.rest
  consumed : d.consumed = c.consumed + ts.length
  last : d.last = ts.getLast?.or c.last
  proper : ∀ t ∈ ts, t.isEndOfFile = false

theorem Passes.refl (c : Cursor) : c.Passes [] c := ⟨rfl, rfl, rfl, by simp⟩

theorem Passes.trans (h : c.Passes ts d) (h' : d.Passes us e) : c.Passes (ts ++ us) e := by
  refine ⟨?_, ?_, ?_, ?_⟩
  · rw [h.rest, h'.rest, List.append_assoc]
  · rw [h'.consumed, h.consumed, List.length_append, Nat.add_assoc]
  · rw [h'.last, h.last, List.getLast?_append, Option.or_assoc]
  · intro t ht
    rcases List.mem_append.1 ht with ht | ht
    · exact h.proper t ht
    · exact h'.proper t ht

/-- The cursor that a move comes to is fixed by its start and its tokens. -/
theorem Passes.eq (h : c.Passes ts d) (h' : c.Passes ts e) : d = e := by
  have hr : d.rest = e.rest := List.append_cancel_left (h.rest.symm.trans h'.rest)
  have hc : d.consumed = e.consumed := h.consumed.trans h'.consumed.symm
  have hl : d.last = e.last := h.last.trans h'.last.symm
  cases d
  cases e
  simp_all

theorem Passes.tokens_eq (h : c.Passes ts d) (h' : c.Passes us d) : ts = us :=
  List.append_cancel_right (h.rest.symm.trans h'.rest)

theorem Passes.of_accept? (h : c.accept? admits = some (t, d)) : c.Passes [t] d := by
  obtain ⟨more, hr, he, -, rfl⟩ := accept?_eq_some_iff.1 h
  exact ⟨hr, rfl, rfl, by simpa using he⟩

theorem Passes.rest_ne_nil (h : c.Passes ts d) (ends : c.endsProperly = true) : d.rest ≠ [] := by
  intro hd
  have hr : c.rest = ts := by simpa [hd] using h.rest
  obtain ⟨t, ht, he⟩ := (Option.any_eq_true _ _).1 ends
  rw [hr] at ht
  rw [h.proper t (List.mem_of_getLast? ht)] at he
  cases he

theorem Passes.endsProperly (h : c.Passes ts d)
    (ends : d.rest.getLast?.any (·.isEndOfFile) = true) : c.endsProperly = true := by
  obtain ⟨t, ht, he⟩ := (Option.any_eq_true _ _).1 ends
  simp [Cursor.endsProperly, h.rest, List.getLast?_append, ht, he]

theorem admits_of_accept? (h : c.accept? admits = some (t, d)) : admits t.kind = true := by
  obtain ⟨more, -, -, ha, -⟩ := accept?_eq_some_iff.1 h
  exact ha

theorem Passes.split (h : c.Passes (ts ++ us) d) : ∃ m, c.Passes ts m ∧ m.Passes us d := by
  refine ⟨⟨c.consumed + ts.length, ts.getLast?.or c.last, us ++ d.rest⟩, ⟨?_, rfl, rfl, ?_⟩,
    ⟨rfl, ?_, ?_, ?_⟩⟩
  · rw [h.rest, List.append_assoc]
  · exact fun t ht => h.proper t (List.mem_append_left us ht)
  · rw [h.consumed, List.length_append, Nat.add_assoc]
  · rw [h.last, List.getLast?_append, Option.or_assoc]
  · exact fun t ht => h.proper t (List.mem_append_right ts ht)

theorem Passes.uncons (h : c.Passes (t :: ts) d) : ∃ m, c.Passes [t] m ∧ m.Passes ts d := by
  rw [← List.singleton_append] at h
  exact h.split

theorem Passes.accept? (h : c.Passes [t] d) (admitted : admits t.kind = true) :
    c.accept? admits = some (t, d) := by
  have he := h.proper t (by simp)
  have ha : c.accept? admits = some (t, ⟨c.consumed + 1, some t, d.rest⟩) :=
    accept?_eq_some_iff.2 ⟨d.rest, h.rest, he, admitted, rfl⟩
  rw [ha, h.eq (.of_accept? ha)]

theorem accept?_eq_none {more : List Token} (h : c.rest = t :: more)
    (refused : admits t.kind = false) : c.accept? admits = none := by
  simp [accept?, h, refused]

end Cursor

/-- The level of the binary operator in front, if one is. -/
def operatorAhead? (ts : List Token) : Option Precedence :=
  ts.head?.bind fun t => Precedence.ofKind? t.kind

/-- No operator of this level or a tighter one is in front. -/
def Clear (level : Option Precedence) (ts : List Token) : Prop :=
  ∀ q, operatorAhead? ts = some q → levelRank level < q.rank

section Ahead

variable {p q : Precedence} {level : Option Precedence} {ts : List Token} {c : Cursor}

theorem clear_none (ts : List Token) : Clear none ts := fun q _ => q.rank_pos

theorem clear_of_operatorAhead?_eq_none (h : operatorAhead? ts = none) : Clear level ts := by
  intro q hq
  rw [h] at hq
  cases hq

theorem clear_some_iff :
    Clear (some p) ts ↔ Clear p.tighter? ts ∧ operatorAhead? ts ≠ some p := by
  have hp := p.rank_eq_levelRank_tighter
  constructor
  · intro h
    refine ⟨fun q hq => ?_, fun hq => ?_⟩
    · have := h q hq
      simp only [Precedence.levelRank_some] at this
      omega
    · exact absurd (h p hq) (by simp)
  · rintro ⟨h, hne⟩ q hq
    have hlt := h q hq
    have hpq : p.rank ≠ q.rank := fun he => hne (Precedence.rank_injective he ▸ hq)
    simp only [Precedence.levelRank_some]
    omega

theorem operatorAhead?_eq_none_of_clear (h : Clear (some .equality) ts) :
    operatorAhead? ts = none := by
  cases hq : operatorAhead? ts with
  | none => rfl
  | some q =>
    have := h q hq
    have := q.rank_le
    simp only [Precedence.levelRank_some, Precedence.rank] at *
    omega

theorem accept?_admits_eq_none_iff :
    c.accept? p.admits = none ↔ operatorAhead? c.rest ≠ some p := by
  cases h : c.rest with
  | nil => simp [Cursor.accept?, operatorAhead?, h]
  | cons t more =>
    by_cases ha : Precedence.ofKind? t.kind = some p
    · have he : t.isEndOfFile = false := t.isEndOfFile_eq_false_of_ofKind? ha
      simp [operatorAhead?, Cursor.accept?, h, he, Precedence.admits, ha]
    · have hn : p.admits t.kind = false := by simp [Precedence.admits, ha]
      simp [operatorAhead?, Cursor.accept?_eq_none h hn, ha]

theorem ofKind?_of_accept? {operator : Token} {d : Cursor}
    (h : c.accept? p.admits = some (operator, d)) :
    Precedence.ofKind? operator.kind = some p :=
  Precedence.admits_iff.1 (Cursor.admits_of_accept? h)

end Ahead

end LoxSyntax.Parsing
