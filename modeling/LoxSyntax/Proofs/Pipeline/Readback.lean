import LoxSyntax.Proofs.Data.Matching
import LoxSyntax.Proofs.Pipeline.Verdict

/-!
# What JSON output tells

The JSON text of a scan gives back its tokens. That of a tree gives back its shape, its operators
and its literals, save that a number beyond double precision cannot be told from nil.
-/
namespace LoxSyntax

open Lexing (scan Scanned)
open Number (Binary64 Decimal)

section Sources

variable {source source' : String} {r r' : Reporter} {out : String} {t : Token} {x : Binary64}

private theorem Lexing.Scanned.literal_of_number (scanned : Scanned t) (kind : t.kind = .number) :
    t.literal = some (.number (.ofDecimal (.ofText t.lexeme.toList))) := by
  rw [scanned.literal, kind]
  rfl

/-- A tree that was read from the tokens of a source. -/
structure Expr.ReadFrom (e : Expr) (source : String) : Prop where
  operators : ∀ t ∈ e.operators, Scanned t
  literals : ∀ v ∈ e.literals, ∃ t ∈ (scan source).tokens, t.Denotes v

private theorem exists_tree_of_process (h : (process ⟨.ast, .json⟩ source r).1 = .ok (some out)) :
    ∃ e, (parseSource source r).1 = some e ∧ e.ReadFrom source ∧ out = Json.pretty e.data := by
  have clean : r.hadError = false := by
    cases raised : r.hadError with
    | false => rfl
    | true =>
      have kept : (r.record (scan source).diagnostics).hadError = true := by
        simp [Reporter.record, raised]
      simp only [process, kept, if_true] at h
      cases h
  have available : (⟨.ast, .json⟩ : Spec) ∈ Spec.available := by decide
  rcases process_ast rfl clean available with
    ⟨e, ts, out', parsed, yields, among, written, processed⟩ | ⟨-, r', -, -, processed, -⟩
  · have operators : ∀ t ∈ e.operators, Scanned t := fun t ht =>
      Lexing.scanned_of_mem (among (yields.operators_subset ht))
    rw [processed] at h
    obtain rfl : out' = out := Option.some.inj (Except.ok.inj h)
    refine ⟨e, by rw [parsed], ⟨operators, fun v hv => ?_⟩, ?_⟩
    · obtain ⟨t, ht, denotes⟩ := yields.exists_denotes hv
      exact ⟨t, among ht, denotes⟩
    · rw [formatTree_json fun t ht => (operators t ht).kind] at written
      exact (Except.ok.inj written).symm
  · rw [processed] at h
    cases h

/-- All number tokens have finite values. -/
def FiniteNumbers (ts : List Token) : Prop :=
  ∀ t ∈ ts, t.kind = .number → ∀ x, t.literal = some (.number x) → x.isFinite = true

/-- The double-precision numbers end half a unit in the last place below `2 ^ 1024`. -/
def numberLimit : ℚ := 2 ^ 1024 - 2 ^ 970

private theorem Expr.ReadFrom.eq_nil {e : Expr} (h : e.ReadFrom source)
    (finite : FiniteNumbers (scan source).tokens) {v : Value} (hv : v ∈ e.literals)
    (vanishes : v.Vanishes) : v = .nil := by
  obtain ⟨t, ht, denotes⟩ := h.literals v hv
  cases v with
  | number x =>
    have scanned := Lexing.scanned_of_mem ht
    obtain ⟨kind, rfl⟩ := scanned.number denotes
    have small := finite t ht kind _ (scanned.literal_of_number kind)
    rw [Value.Vanishes, small] at vanishes
    cases vanishes
  | text | boolean => exact vanishes.elim
  | nil => rfl

private theorem Expr.ReadFrom.eq_of_vanishes {e e' : Expr} (h : e.ReadFrom source)
    (h' : e'.ReadFrom source') {v w : Value} (hv : v ∈ e.literals) (hw : w ∈ e'.literals)
    (same : v.SameType w) (vanishes : v.Vanishes) (vanishes' : w.Vanishes) : v = w := by
  obtain ⟨t, ht, denotes⟩ := h.literals v hv
  obtain ⟨u, hu, denotes'⟩ := h'.literals w hw
  cases v with
  | number x =>
    cases w with
    | text | boolean | nil => cases same
    | number y =>
      obtain ⟨-, rfl⟩ := (Lexing.scanned_of_mem ht).number denotes
      obtain ⟨-, rfl⟩ := (Lexing.scanned_of_mem hu).number denotes'
      rw [Binary64.ofDecimal_eq_of_not_finite vanishes vanishes']
  | text | boolean => exact vanishes.elim
  | nil =>
    cases w with
    | number | text | boolean => cases same
    | nil => rfl

/-- Sources with the same JSON text of a tree have trees that differ only in vanishing literals. -/
theorem exists_matches_of_process (h : (process ⟨.ast, .json⟩ source r).1 = .ok (some out))
    (h' : (process ⟨.ast, .json⟩ source' r').1 = .ok (some out)) :
    ∃ e e', (parseSource source r).1 = some e ∧ (parseSource source' r').1 = some e' ∧
      e.ReadFrom source ∧ e'.ReadFrom source' ∧ e.Matches Value.Blurs e' := by
  obtain ⟨e, parsed, read, written⟩ := exists_tree_of_process h
  obtain ⟨e', parsed', read', written'⟩ := exists_tree_of_process h'
  have kept := Json.plain_eq_of_pretty_eq (written.symm.trans written')
  refine ⟨e, e', parsed, parsed', read, read', ?_⟩
  exact (Expr.matches_of_plain_eq read.operators read'.operators kept).imp fun v _ w _ =>
    Value.blurs_of_plain_eq

private theorem Expr.Matches.eq_of_finite {e e' : Expr} (h : e.Matches Value.Blurs e')
    (read : e.ReadFrom source) (read' : e'.ReadFrom source')
    (finite : FiniteNumbers (scan source).tokens) (finite' : FiniteNumbers (scan source').tokens) :
    e = e' := by
  refine (h.imp fun v hv w hw blurs => ?_).eq
  rcases blurs with rfl | ⟨vanishes, vanishes'⟩
  · rfl
  · rw [read.eq_nil finite hv vanishes, read'.eq_nil finite' hw vanishes']

/-- Sources with the same JSON text of their tokens have the same tokens. Sources with the same JSON
text of their trees have the same tree, if all their numbers are finite. -/
theorem process_json_determines (source source' : String) (r r' : Reporter) :
    ((process ⟨.token, .json⟩ source r).1 = (process ⟨.token, .json⟩ source' r').1 →
      (scan source).tokens = (scan source').tokens) ∧
    ∀ out, (process ⟨.ast, .json⟩ source r).1 = .ok (some out) →
      (process ⟨.ast, .json⟩ source' r').1 = .ok (some out) →
      FiniteNumbers (scan source).tokens → FiniteNumbers (scan source').tokens →
      ∃ e, (parseSource source r).1 = some e ∧ (parseSource source' r').1 = some e := by
  constructor
  · intro h
    have available : (⟨.token, .json⟩ : Spec) ∈ Spec.available := by decide
    have scanned (source : String) : ∀ t ∈ (scan source).tokens, Scanned t :=
      fun _ => Lexing.scanned_of_mem
    have text (source : String) (r : Reporter) : (process ⟨.token, .json⟩ source r).1 =
        .ok (some (Json.pretty (.list ((scan source).tokens.map Token.data)))) := by
      obtain ⟨out, written, processed⟩ := process_token available rfl source r
      rw [formatTokens_json fun t ht => (scanned source t ht).kind] at written
      rw [processed, Except.ok.inj written]
    rw [text, text] at h
    have kept := Json.plain_eq_of_pretty_eq (Option.some.inj (Except.ok.inj h))
    rw [Data.plain, Data.plain, List.map_map, List.map_map] at kept
    exact Token.list_eq_of_plain_eq (scanned source) (scanned source') (Data.list.inj kept)
  · intro out h h' finite finite'
    obtain ⟨e, e', parsed, parsed', read, read', blurs⟩ := exists_matches_of_process h h'
    obtain rfl := blurs.eq_of_finite read read' finite finite'
    exact ⟨e, parsed, parsed'⟩

/-- A source and the same with other blanks and a comment. -/
theorem process_json_determines_blanks :
    (process ⟨.token, .json⟩ "-1" .empty).1 = (process ⟨.token, .json⟩ "- 1 // x" .empty).1 ∧
      (scan "-1").tokens = (scan "- 1 // x").tokens ∧
      ∃ out, (process ⟨.ast, .json⟩ "-1" .empty).1 = .ok (some out) ∧
        (process ⟨.ast, .json⟩ "- 1 // x" .empty).1 = .ok (some out) ∧
        FiniteNumbers (scan "-1").tokens ∧ FiniteNumbers (scan "- 1 // x").tokens ∧
        ∃ e, (parseSource "-1" .empty).1 = some e ∧ (parseSource "- 1 // x" .empty).1 = some e := by
  have same : scan "- 1 // x" = scan "-1" := by decide +kernel
  have scanned : scan "-1" = ⟨[⟨.minus, "-", none, 1⟩,
      ⟨.number, "1", some (.number ⟨0x3FF0000000000000⟩), 1⟩, .endOfFile 1], []⟩ := by
    decide +kernel
  have alike (spec : Spec) : (process spec "-1" .empty).1 = (process spec "- 1 // x" .empty).1 := by
    rw [process, process, same]
  obtain ⟨out, written⟩ : ∃ out, (process ⟨.ast, .json⟩ "-1" .empty).1 = .ok (some out) := by
    have available : (⟨.ast, .json⟩ : Spec) ∈ Spec.available := by decide
    rcases process_ast rfl (r := .empty) rfl available with
      ⟨e, ts, out, -, -, -, -, processed⟩ | ⟨ending, r', -, parsed, -⟩
    · exact ⟨out, by rw [processed]⟩
    · have answered : (parseSource "-1" .empty).1.isSome = true := by decide +kernel
      rw [parsed] at answered
      cases answered
  have finite : FiniteNumbers (scan "-1").tokens := by
    rw [scanned]
    simp [FiniteNumbers, Token.endOfFile]
    decide
  obtain ⟨tokens, trees⟩ := process_json_determines "-1" "- 1 // x" .empty .empty
  exact ⟨alike _, tokens (alike _), out, written, (alike _).symm.trans written, finite,
    same ▸ finite, trees out written ((alike _).symm.trans written) finite (same ▸ finite)⟩

/-- The condition on the numbers of a source in terms of their texts. -/
theorem finiteNumbers_scan_iff : FiniteNumbers (scan source).tokens ↔
    ∀ t ∈ (scan source).tokens, t.kind = .number →
      (Decimal.ofText t.lexeme.toList).value < numberLimit := by
  refine forall₃_congr fun t ht kind => ?_
  rw [(Lexing.scanned_of_mem ht).literal_of_number kind, numberLimit,
    ← Binary64.isFinite_ofDecimal_iff]
  constructor
  · exact fun h => h _ rfl
  · rintro h x ⟨⟩
    exact h

private theorem write_number_eq_write_nil_iff (ht : t ∈ (scan source).tokens)
    (kind : t.kind = .number) :
    ∃ x, t.literal = some (.number x) ∧ ∀ style depth tail,
      Json.write style depth (Value.number x).toData tail =
        Json.write style depth Value.nil.toData tail ↔
      numberLimit ≤ (Decimal.ofText t.lexeme.toList).value := by
  refine ⟨_, (Lexing.scanned_of_mem ht).literal_of_number kind, fun style depth tail => ?_⟩
  rw [Value.toData, Value.toData, Json.write, Json.write, List.append_left_inj, String.toList_inj,
    Json.write_json_eq_null_iff, ← Bool.not_eq_true, Binary64.isFinite_ofDecimal_iff, not_lt,
    numberLimit]

/-- Sources with the same JSON text of their trees have trees that differ only where one has nil and
the other a number beyond the limit, so the types of their literals agree exactly if the trees are
the same. They are where no number is beyond the limit; a number is written as nil is exactly where
it is beyond. -/
theorem process_json_types (h : (process ⟨.ast, .json⟩ source r).1 = .ok (some out))
    (h' : (process ⟨.ast, .json⟩ source' r').1 = .ok (some out)) :
    ∃ e e', (parseSource source r).1 = some e ∧ (parseSource source' r').1 = some e' ∧
      e.Matches Value.Blurs e' ∧ (e.Matches Value.SameType e' ↔ e = e') ∧
      ((∀ t ∈ (scan source).tokens ++ (scan source').tokens, t.kind = .number →
          (Decimal.ofText t.lexeme.toList).value < numberLimit) → e.Matches Value.SameType e') ∧
      ∀ t ∈ (scan source).tokens, t.kind = .number → ∃ x, t.literal = some (.number x) ∧
        ∀ style depth tail, Json.write style depth (Value.number x).toData tail =
            Json.write style depth Value.nil.toData tail ↔
          numberLimit ≤ (Decimal.ofText t.lexeme.toList).value := by
  obtain ⟨e, e', parsed, parsed', read, read', blurs⟩ := exists_matches_of_process h h'
  have same : e = e' → e.Matches Value.SameType e' := by
    rintro rfl
    exact Expr.Matches.refl (R := Value.SameType) (fun _ => rfl) e
  refine ⟨e, e', parsed, parsed', blurs, ⟨fun types => ?_, same⟩, fun small => ?_,
    fun t => write_number_eq_write_nil_iff⟩
  · refine ((blurs.and types).imp fun v hv w hw ⟨alike, type⟩ => ?_).eq
    rcases alike with rfl | ⟨vanishes, vanishes'⟩
    · rfl
    · exact read.eq_of_vanishes read' hv hw type vanishes vanishes'
  · rw [List.forall_mem_append] at small
    exact same (blurs.eq_of_finite read read' (finiteNumbers_scan_iff.2 small.1)
      (finiteNumbers_scan_iff.2 small.2))

/-- Ten to the 309, the least power of ten beyond the limit. -/
def tooLarge : String := String.ofList ('1' :: List.replicate 309 '0')

private theorem scan_tooLarge : scan tooLarge =
    ⟨[⟨.number, tooLarge, some (.number ⟨0x7FF0000000000000⟩), 1⟩, .endOfFile 1], []⟩ := by
  have scanned (cs : List Char) : scan (String.ofList cs) =
      .ofFindings (Lexing.findings 1 (Lexing.segments cs)) := by
    rw [scan, String.toList_ofList]
  exact (scanned _).trans (by decide +kernel)

private theorem process_tooLarge :
    parseSource tooLarge .empty = (some (.literal (.number ⟨0x7FF0000000000000⟩)), .empty) ∧
      process ⟨.ast, .json⟩ tooLarge .empty =
        (.ok (some "\x7b\n  \"type\": \"Literal\",\n  \"value\": null\n\x7d"), .empty) := by
  rw [parseSource, process, scan_tooLarge]
  decide +kernel

theorem process_json_types_too_large : ∃ out,
    (process ⟨.ast, .json⟩ tooLarge .empty).1 = .ok (some out) ∧
      (process ⟨.ast, .json⟩ "nil" .empty).1 = .ok (some out) ∧
      ∃ e e', (parseSource tooLarge .empty).1 = some e ∧ (parseSource "nil" .empty).1 = some e' ∧
        e.Matches Value.Blurs e' ∧ (e.Matches Value.SameType e' ↔ e = e') := by
  have large := congrArg Prod.fst process_tooLarge.2
  have small : (process ⟨.ast, .json⟩ "nil" .empty).1 =
      .ok (some "\x7b\n  \"type\": \"Literal\",\n  \"value\": null\n\x7d") := by
    decide +kernel
  obtain ⟨e, e', parsed, parsed', blurs, types, -⟩ := process_json_types large small
  exact ⟨_, large, small, e, e', parsed, parsed', blurs, types⟩

/-- A number and nil with the same text. -/
theorem exists_type_changed : ∃ out e e',
    (process ⟨.ast, .json⟩ tooLarge .empty).1 = .ok (some out) ∧
      (process ⟨.ast, .json⟩ "nil" .empty).1 = .ok (some out) ∧
      (parseSource tooLarge .empty).1 = some e ∧ (parseSource "nil" .empty).1 = some e' ∧
      ¬e.Matches Value.SameType e' := by
  obtain ⟨parsed, processed⟩ := process_tooLarge
  refine ⟨_, .literal (.number ⟨0x7FF0000000000000⟩), .literal .nil, by rw [processed],
    by decide +kernel, by rw [parsed], by decide +kernel, ?_⟩
  rintro (_ | _ | types | _)
  cases types

end Sources

end LoxSyntax
