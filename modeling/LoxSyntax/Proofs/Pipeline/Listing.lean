import LoxSyntax.Pipeline
import LoxSyntax.Proofs.Lexing.Shape
import LoxSyntax.Proofs.Parsing.Lineless
import Mathlib.Data.List.Nodup

/-!
# A token listing is read in one way

The text of a string and its value may look like any lines of a listing. But kinds are listed
without a space, the next quote closes a string, no other text has a space, and what is listed last
follows from kind and text. So entries are told apart from the front on, and all that a listing
leaves out is the lines.
-/
namespace LoxSyntax

open Lexing (Run Scanned scan)

theorem TokenKind.name_injective {k k' : TokenKind} (h : k.name = k'.name) : k = k' := by
  have distinct : (all.map name).Nodup := by decide
  exact List.inj_on_of_nodup_map distinct k.mem_all k'.mem_all h

private theorem TokenKind.ne_space_of_mem_name (k : TokenKind) : ∀ c ∈ k.name.toList, c ≠ ' ' := by
  have table : ∀ k ∈ all, k.name.toList.all (· ≠ ' ') = true := by decide
  simpa using table k k.mem_all

namespace Token

/-- A token whose text shows where it ends in front of a space. -/
structure Delimited (t : Token) : Prop where
  scanned : Scanned t
  quoted : t.kind = .string → ∃ body, '"' ∉ body ∧ t.lexeme.toList = '"' :: body ++ ['"']
  solid : t.kind ≠ .string → ∀ c ∈ t.lexeme.toList, c ≠ ' '

variable {t u : Token} {ts us : List Token} {rest rest' : List Char}

private theorem delimited_of_mem {source : String} (h : t ∈ (scan source).tokens) :
    t.Delimited := by
  refine ⟨Lexing.scanned_of_mem h, fun string => ?_, fun string => ?_⟩
  · obtain ⟨body, inner, text, -⟩ := (Lexing.wellFormed_of_mem h).string string
    exact ⟨body, inner, text⟩
  · obtain ⟨ts, n, he, origin⟩ := Lexing.exists_tokens_eq source
    rw [he, List.mem_append, List.mem_singleton] at h
    rcases h with own | rfl
    · obtain ⟨⟨rest, picked⟩, -⟩ := origin t own
      rintro c hc rfl
      exact picked.solid string _ hc (.inl rfl)
    · nofun

private theorem Delimited.lexeme_eq (h : t.Delimited) (h' : u.Delimited) (kind : t.kind = u.kind)
    (same : t.lexeme.toList ++ ' ' :: rest = u.lexeme.toList ++ ' ' :: rest') :
    t.lexeme = u.lexeme := by
  by_cases string : t.kind = .string
  · obtain ⟨body, inner, text⟩ := h.quoted string
    obtain ⟨body', inner', text'⟩ := h'.quoted (kind ▸ string)
    have run (body more : List Char) (inner : '"' ∉ body) : Run (· ≠ '"') body ('"' :: more) :=
      ⟨fun c hc he => inner (he ▸ hc), by simp⟩
    simp only [text, text', List.cons_append, List.append_assoc, List.nil_append] at same
    obtain ⟨rfl, -⟩ := (run body _ inner).append_inj (run body' _ inner') (List.cons.inj same).2
    exact String.toList_injective (text.trans text'.symm)
  · have texts := (Run.mk (h.solid string) (by simp)).append_inj
      (.mk (h'.solid (kind ▸ string)) (by simp)) same
    exact String.toList_injective texts.1

private theorem toList_display (t : Token) : t.display.toList =
    t.kind.name.toList ++ ' ' :: (t.lexeme.toList ++
      ' ' :: (t.literal.elim "" Literal.display).toList) := by
  simp [display]

/-- An entry, and what follows it, are determined by the text, up to the line. -/
theorem Delimited.display_append_inj (h : t.Delimited) (h' : u.Delimited)
    (same : t.display.toList ++ rest = u.display.toList ++ rest') :
    t.lineless = u.lineless ∧ rest = rest' := by
  simp only [toList_display, List.append_assoc, List.cons_append] at same
  obtain ⟨names, texts⟩ := (Run.mk t.kind.ne_space_of_mem_name (by simp)).append_inj
    (.mk u.kind.ne_space_of_mem_name (by simp)) same
  have kind : t.kind = u.kind := TokenKind.name_injective (String.toList_injective names)
  have lexeme : t.lexeme = u.lexeme := h.lexeme_eq h' kind (List.cons.inj texts).2
  have literal : t.literal = u.literal := by
    rw [h.scanned.literal, h'.scanned.literal, kind, lexeme]
  rw [lexeme, literal] at texts
  refine ⟨by rw [lineless, lineless, kind, lexeme, literal], ?_⟩
  exact List.append_cancel_left (List.cons.inj (List.append_cancel_left (List.cons.inj texts).2)).2

/-- Entries with a line break in front of each. -/
def entries (ts : List Token) : List Char := (ts.map fun t => '\n' :: t.display.toList).flatten

private theorem cons_listing (nonempty : ts ≠ []) : '\n' :: (listing ts).toList = entries ts := by
  induction ts with
  | nil => exact absurd rfl nonempty
  | cons t ts ih =>
    cases ts with
    | nil => simp [listing, entries]
    | cons u us =>
      have later := ih (List.cons_ne_nil u us)
      have first : (listing (t :: u :: us)).toList =
          t.display.toList ++ '\n' :: (listing (u :: us)).toList := by
        simp [listing, String.intercalate_cons_cons]
      rw [first, later]
      rfl

private theorem map_lineless_of_entries (all : ∀ t ∈ ts, t.Delimited) (all' : ∀ t ∈ us, t.Delimited)
    (same : entries ts = entries us) : ts.map lineless = us.map lineless := by
  induction ts generalizing us with
  | nil =>
    cases us with
    | nil => rfl
    | cons u us => cases same
  | cons t ts ih =>
    cases us with
    | nil => cases same
    | cons u us =>
      obtain ⟨own, others⟩ := List.forall_mem_cons.1 all
      obtain ⟨own', others'⟩ := List.forall_mem_cons.1 all'
      obtain ⟨first, later⟩ := own.display_append_inj own' (List.cons.inj same).2
      rw [List.map_cons, List.map_cons, first, ih others others' later]

end Token

/-- Two sources have the same listing exactly if their scans have the same tokens up to lines: as
many, and each with the same kind, text and value as the other at its place. -/
theorem process_simple_eq_iff (source source' : String) (r r' : Reporter) :
    (process ⟨.token, .simple⟩ source r).1 = (process ⟨.token, .simple⟩ source' r').1 ↔
      (scan source).tokens.map Token.lineless = (scan source').tokens.map Token.lineless := by
  have listed (source : String) (r : Reporter) : (process ⟨.token, .simple⟩ source r).1 =
      .ok (some (Token.listing (scan source).tokens)) := rfl
  rw [listed, listed]
  constructor
  · intro same
    have nonempty (source : String) : (scan source).tokens ≠ [] := by
      obtain ⟨ts, n, whole, -⟩ := Lexing.exists_tokens_eq source
      simp [whole]
    refine Token.map_lineless_of_entries (fun t => Token.delimited_of_mem)
      (fun t => Token.delimited_of_mem) ?_
    rw [← Token.cons_listing (nonempty source), ← Token.cons_listing (nonempty source'),
      Option.some.inj (Except.ok.inj same)]
  · intro same
    have shown (ts : List Token) : Token.listing ts = Token.listing (ts.map Token.lineless) := by
      rw [Token.listing, Token.listing, List.map_map]
      rfl
    rw [shown, same, ← shown]

/-- A string may hold what looks like an entry. -/
example : (process ⟨.token, .simple⟩ "\"\nEOF  \"" .empty).1 =
    .ok (some "STRING \"\nEOF  \" \nEOF  \nEOF  ") := by decide +kernel

end LoxSyntax
