import LoxSyntax.Proofs.Lexing.Joining
import LoxSyntax.Proofs.Lexing.Stream
import LoxSyntax.Proofs.Parsing.Lineless

/-!
# Scanning the texts of tokens again

The text of a token is taken whole and alone wherever a blank or the end of a text follows it. So
the texts of scanned tokens with blanks between them, whichever these are, are scanned to the same
tokens, and nothing is wrong in them any more.
-/
namespace LoxSyntax.Lexing

section Rules

variable {kind : TokenKind} {text rest rest' : List Char}

private theorem Picks.before_blank (h : Picks ⟨.token kind, text⟩ rest)
    (blank : ∀ c ∈ rest'.head?, Blank c) : Picks ⟨.token kind, text⟩ rest' := by
  have noDigit : ∀ c ∈ rest'.head?, ¬Digit c := fun c hc digit => digit.not_blank (blank c hc)
  have noPart : ∀ c ∈ rest'.head?, ¬(Letter c ∨ Digit c) := fun c hc part =>
    part.elim (fun letter => letter.not_blank (blank c hc)) (noDigit c hc)
  have stops (w : List Char) (solid : w.any isBlank = false) : ∀ c ∈ rest'.head?, c ∉ w :=
    fun c hc inside => List.any_eq_false.1 solid c inside (isBlank_iff.2 (blank c hc))
  cases h with
  | name start longest named => exact .name start ⟨longest.all, noPart⟩ named
  | whole nonempty longest point =>
    refine .whole nonempty ⟨longest.all, noDigit⟩ ?_
    rintro d more rfl
    exact absurd (blank '.' rfl) (by decide)
  | fraction nonempty all decimal longest =>
    exact .fraction nonempty all decimal ⟨longest.all, noDigit⟩
  | string first => exact .string first
  | operator spelled longest noLine noBlock =>
    have spelling : ∀ o ∈ operators, o.1.any isBlank = false := by decide
    refine .operator spelled (fun longer hl front => ?_) (fun front => noLine ?_)
      fun front => noBlock ?_
    · exact (prefix_of_prefix_append (stops _ (spelling longer hl)) front).length_le
    · exact (prefix_of_prefix_append (stops _ (by decide)) front).trans (List.prefix_append _ _)
    · exact (prefix_of_prefix_append (stops _ (by decide)) front).trans (List.prefix_append _ _)

end Rules

/-- The texts of tokens, each with its gap behind it. -/
def spaced (ts : List Token) (gaps : List String) : String :=
  String.join (List.zipWith (fun t gap => t.lexeme ++ gap) ts gaps)

private theorem toList_spaced_cons (t : Token) (ts : List Token) (gap : String)
    (gaps : List String) :
    (spaced (t :: ts) (gap :: gaps)).toList =
      t.lexeme.toList ++ (gap.toList ++ (spaced ts gaps).toList) := by
  simp [spaced, String.join_cons]

/-- Gaps of blanks that keep tokens apart, one behind each of them; only the last may be empty. -/
structure Apart (ts : List Token) (gaps : List String) : Prop where
  length_eq : gaps.length = ts.length
  blank : ∀ gap ∈ gaps, ∀ c ∈ gap.toList, Blank c
  nonempty : "" ∉ gaps.dropLast

private theorem ofFindings_token (us : List Token) (t : Token) :
    Scan.ofFindings (us.map .token ++ [.token t]) = ⟨us ++ [t], []⟩ := by
  have tokens : (us.map Finding.token).filterMap (·.token?) = us := by
    rw [List.filterMap_map]
    exact List.filterMap_some
  rw [Scan.ofFindings, List.filterMap_append, tokens]
  simp [Finding.token?, Finding.diagnostic?]

section Spaced

variable {t : Token} {ts : List Token} {gap : String} {gaps : List String}

theorem Apart.tail (h : Apart (t :: ts) (gap :: gaps)) : Apart ts gaps := by
  refine ⟨Nat.succ.inj h.length_eq, fun g hg => h.blank g (by simp [hg]), fun empty => ?_⟩
  cases gaps with
  | nil => cases empty
  | cons g gaps => exact h.nonempty (List.mem_cons_of_mem gap empty)

theorem Apart.head (h : Apart (t :: ts) (gap :: gaps)) :
    ∀ c ∈ (gap.toList ++ (spaced ts gaps).toList).head?, Blank c := by
  intro c hc
  cases hgap : gap.toList with
  | cons b bs =>
    obtain rfl : b = c := by simpa [hgap] using hc
    exact h.blank gap (by simp) b (by simp [hgap])
  | nil =>
    obtain rfl : gap = "" := String.toList_eq_nil_iff.1 hgap
    cases gaps with
    | nil => simp [spaced] at hc
    | cons g gaps => exact absurd List.mem_cons_self h.nonempty

/-- Spaced tokens give themselves back, each on the line that it stands on now. -/
theorem findings_spaced (h : Apart ts gaps)
    (picked : ∀ t ∈ ts, (∃ rest, Picks ⟨.token t.kind, t.lexeme.toList⟩ rest) ∧
      t.literal = literalOf t.kind t.lexeme.toList) (line : Nat) :
    ∃ (us : List Token) (n : Nat), findings line (segments (spaced ts gaps).toList) =
        us.map .token ++ [.token (.endOfFile n)] ∧
      us.map Token.lineless = ts.map Token.lineless := by
  induction ts generalizing gaps line with
  | nil => exact ⟨[], line, by simp [spaced, segments, findings], rfl⟩
  | cons t ts ih =>
    cases gaps with
    | nil => cases h.length_eq
    | cons gap gaps =>
      obtain ⟨⟨⟨rest, own⟩, literal⟩, others⟩ := List.forall_mem_cons.1 picked
      have alone := own.before_blank h.head
      let s : Segment := ⟨.token t.kind, t.lexeme.toList⟩
      obtain ⟨us, n, found, same⟩ :=
        ih h.tail others (line + s.counted + newlines gap.toList)
      let u : Token := { t with line := line + s.counted - newlines t.lexeme.toList }
      have first : s.finding? (line + s.counted) = some (.token u) := by
        simp [s, u, Segment.finding?, literal]
      refine ⟨u :: us, n, ?_, ?_⟩
      · rw [toList_spaced_cons, alone.segments_append, findings, first,
          findings_blanks (h.blank gap (by simp)), found]
        rfl
      · rw [List.map_cons, List.map_cons, same]
        rfl

end Spaced

/-- The tokens of any scan, one with errors too, come again from their own texts with any blanks in
front and, where there are any, between them, and nothing is reported. Only their lines change. -/
theorem scan_spaced {source front : String} {ts : List Token} {gaps : List String}
    (scanned : (scan source).tokens.filter (!·.isEndOfFile) = ts)
    (blank : ∀ c ∈ front.toList, Blank c) (apart : Apart ts gaps) :
    (scan (front ++ spaced ts gaps)).diagnostics = [] ∧
      (scan (front ++ spaced ts gaps)).tokens.map Token.lineless =
        ts.map Token.lineless ++ [.endOfFile 0] := by
  obtain ⟨us, n, whole, picked⟩ := exists_tokens_eq source
  have proper : ∀ t ∈ us, (!t.isEndOfFile) = true := fun t ht => by
    obtain ⟨⟨rest, own⟩, -⟩ := picked t ht
    simp [Token.isEndOfFile, (own.kind_ne rfl).2]
  obtain rfl : us = ts := by
    rw [← scanned, whole, List.filter_append, List.filter_eq_self.2 proper]
    simp
  obtain ⟨vs, m, found, same⟩ := findings_spaced apart picked (1 + newlines front.toList)
  have again : findings 1 (segments (front ++ spaced us gaps).toList) =
      vs.map .token ++ [.token (.endOfFile m)] := by
    rw [String.toList_append, findings_blanks blank, found]
  rw [scan, again, ofFindings_token]
  refine ⟨rfl, ?_⟩
  rw [List.map_append, same]
  rfl

/-- A source with errors: a number in front of a point, a text over two lines with a comment opener
in it, and a slash. -/
theorem scan_spaced_errors :
    (scan "@7.!=\"a\n//b\"/while \"").diagnostics ≠ [] ∧
      (scan "\n7 . != \"a\n//b\" /\r\nwhile").diagnostics = [] ∧
      (scan "\n7 . != \"a\n//b\" /\r\nwhile").tokens.map Token.lineless =
        ((scan "@7.!=\"a\n//b\"/while \"").tokens.filter (!·.isEndOfFile)).map Token.lineless ++
          [.endOfFile 0] := by
  have errors : (scan "@7.!=\"a\n//b\"/while \"").diagnostics ≠ [] := by decide +kernel
  have text : "\n" ++ spaced ((scan "@7.!=\"a\n//b\"/while \"").tokens.filter (!·.isEndOfFile))
      [" ", " ", " ", " ", "\r\n", ""] = "\n7 . != \"a\n//b\" /\r\nwhile" := by
    decide +kernel
  have apart : Apart ((scan "@7.!=\"a\n//b\"/while \"").tokens.filter (!·.isEndOfFile))
      [" ", " ", " ", " ", "\r\n", ""] :=
    ⟨by decide +kernel, by simp [Blank], by decide⟩
  have again := scan_spaced rfl (by simp [Blank] : ∀ c ∈ "\n".toList, Blank c) apart
  rw [text] at again
  exact ⟨errors, again⟩

end LoxSyntax.Lexing
