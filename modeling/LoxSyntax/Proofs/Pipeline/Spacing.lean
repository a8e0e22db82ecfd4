import LoxSyntax.Proofs.Parsing.Lineless
import LoxSyntax.Proofs.Pipeline.Verdict

/-!
# Blanks and comments do not change a tree

Kinds and texts of the tokens decide what a source is parsed to. What stands between them moves
tokens to other lines, which a tree keeps with its operators and a diagnostic shows, and no more.
-/
namespace LoxSyntax

open Lexing (scan Scanned)
open Parsing (SameButLines)

theorem Lexing.Scanned.lineless_eq {t : Token} (h : Scanned t) :
    t.lineless = ⟨t.kind, t.lexeme, literalOf t.kind t.lexeme.toList, 0⟩ := by
  rw [Token.lineless, h.literal]

private theorem map_lineless_of_lexemes {source source' : String}
    (same : (scan source).tokens.map (fun t => (t.kind, t.lexeme)) =
      (scan source').tokens.map fun t => (t.kind, t.lexeme)) :
    (scan source).tokens.map Token.lineless = (scan source').tokens.map Token.lineless := by
  let ofLexeme (k : TokenKind × String) : Token := ⟨k.1, k.2, Lexing.literalOf k.1 k.2.toList, 0⟩
  have decided (source : String) : (scan source).tokens.map Token.lineless =
      ((scan source).tokens.map fun t => (t.kind, t.lexeme)).map ofLexeme := by
    rw [List.map_map]
    exact List.map_congr_left fun t ht => (Lexing.scanned_of_mem ht).lineless_eq
  rw [decided, decided, same]

/-- Two sources without lexical faults that have tokens of the same kinds and texts give the same
rendered text or both none. Parsing them comes to trees that differ in the lines of operators only,
or to one diagnostic each, which differ in the line only. -/
theorem process_sexpr_of_lexemes {source source' : String}
    (clean : (scan source).diagnostics = []) (clean' : (scan source').diagnostics = [])
    (same : (scan source).tokens.map (fun t => (t.kind, t.lexeme)) =
      (scan source').tokens.map fun t => (t.kind, t.lexeme)) :
    (∃ out, (process ⟨.ast, .sexpr⟩ source .empty).1 = .ok out ∧
      (process ⟨.ast, .sexpr⟩ source' .empty).1 = .ok out) ∧
    SameButLines .empty .empty (parseSource source .empty) (parseSource source' .empty) ∧
    (process ⟨.ast, .sexpr⟩ source .empty).2 = (parseSource source .empty).2 ∧
    (process ⟨.ast, .sexpr⟩ source' .empty).2 = (parseSource source' .empty).2 := by
  have run {source : String} (clean : (scan source).diagnostics = []) :
      parseSource source .empty = Parsing.parse (scan source).tokens .empty ∧
        process ⟨.ast, .sexpr⟩ source .empty =
          (.ok ((Parsing.parse (scan source).tokens .empty).1.map Expr.render),
            (Parsing.parse (scan source).tokens .empty).2) := by
    obtain ⟨parsed, processed⟩ : _ ∧ process ⟨.ast, .sexpr⟩ source .empty = _ :=
      process_of_no_faults rfl rfl clean
    refine ⟨parsed, processed.trans ?_⟩
    rcases Parsing.parse (scan source).tokens .empty with ⟨_ | e, r⟩ <;> rfl
  obtain ⟨parsed, processed⟩ := run clean
  obtain ⟨parsed', processed'⟩ := run clean'
  have alike := Parsing.sameButLines_parse .empty .empty (Lexing.endsProperly_scan source)
    (Lexing.endsProperly_scan source') (map_lineless_of_lexemes same)
  rw [parsed, parsed', processed, processed']
  exact ⟨⟨_, rfl, congrArg Except.ok alike.map_render.symm⟩, alike, rfl, rfl⟩

/-- A sum with a comment and a line break within, and without. -/
theorem process_sexpr_of_lexemes_comment :
    (scan "- 1 // x\n + nil").diagnostics = [] ∧ (scan "-1+nil").diagnostics = [] ∧
      (scan "- 1 // x\n + nil").tokens.map (fun t => (t.kind, t.lexeme)) =
        (scan "-1+nil").tokens.map (fun t => (t.kind, t.lexeme)) ∧
      (∃ out, (process ⟨.ast, .sexpr⟩ "- 1 // x\n + nil" .empty).1 = .ok out ∧
        (process ⟨.ast, .sexpr⟩ "-1+nil" .empty).1 = .ok out) ∧
      SameButLines .empty .empty (parseSource "- 1 // x\n + nil" .empty)
        (parseSource "-1+nil" .empty) := by
  have clean : (scan "- 1 // x\n + nil").diagnostics = [] := by decide +kernel
  have clean' : (scan "-1+nil").diagnostics = [] := by decide +kernel
  have same : (scan "- 1 // x\n + nil").tokens.map (fun t => (t.kind, t.lexeme)) =
      (scan "-1+nil").tokens.map fun t => (t.kind, t.lexeme) := by decide +kernel
  obtain ⟨out, alike, -⟩ := process_sexpr_of_lexemes clean clean' same
  exact ⟨clean, clean', same, out, alike⟩

end LoxSyntax
