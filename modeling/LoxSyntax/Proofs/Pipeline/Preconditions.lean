import LoxSyntax.Proofs.Lexing.Shape
import LoxSyntax.Proofs.Parsing.Invariant
import LoxSyntax.Proofs.Pipeline.Refusal

/-!
# What scanning promises to what follows

The parser asks for an end marker and for the values of number and string tokens, the data forms for
kinds other than that of blanks. Scans have all of that, so none of the three is ever refused.
-/
namespace LoxSyntax

open Lexing (scan)
open Parsing (Parser)

private theorem exists_refusal_of_process {spec : Spec} {source : String} {r : Reporter}
    {cause : ProcessError} (h : (process spec source r).1 = .error cause) :
    ∃ refusal, cause = .spec refusal := by
  by_cases known : spec ∈ Spec.available
  · obtain ⟨out, met⟩ := Spec.exists_process_eq_ok source r known
    cases met.symm.trans h
  · obtain ⟨e, refused⟩ := Spec.exists_refused_name known
    rcases Spec.process_of_refused source r refused with ⟨-, halted⟩ | ⟨-, failed⟩
    · cases halted.symm.trans h
    · exact ⟨e, Except.error.inj (h.symm.trans failed)⟩

/-- Whatever the source, only the last token of its scan is an end marker or empty, and each token
has the value that its kind and its text ask for. So parsing does not refuse the tokens, no operand
is found without a value, and no output fails for want of a data form. -/
theorem scan_wellFormed (source : String) (r : Reporter) :
    let p := Parser.ofTokens (scan source).tokens r
    (∃ ts n, (scan source).tokens = ts ++ [.endOfFile n] ∧
      ∀ t ∈ ts, t.kind ≠ .endOfFile ∧ t.lexeme ≠ "") ∧
    (∀ t ∈ (scan source).tokens, t.WellFormed) ∧
    (p.cursor.endsProperly = true ∧ p.Counted ∧
      ∀ t after depth, ¬p.Counts (throw (.valueless t after depth))) ∧
    ∀ spec cause, (process spec source r).1 = .error cause → ∃ refusal, cause = .spec refusal := by
  intro p
  obtain ⟨ts, n, whole, origin⟩ := Lexing.exists_tokens_eq source
  refine ⟨⟨ts, n, whole, fun t ht => ?_⟩, fun t => Lexing.wellFormed_of_mem, ⟨?_, ?_, ?_⟩,
    fun spec cause => exists_refusal_of_process⟩
  · obtain ⟨⟨rest, picked⟩, -⟩ := origin t ht
    refine ⟨(picked.kind_ne rfl).2, fun empty => picked.text_ne_nil ?_⟩
    simp [empty]
  · exact Lexing.endsProperly_scan source
  · exact Parser.counted (Nat.zero_le _)
  · exact Parser.not_counts_valueless (fun t ht => (Lexing.scanned_of_mem ht).valued) r

end LoxSyntax
