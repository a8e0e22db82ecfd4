import LoxSyntax.Proofs.Lexing.Lines

/-!
# Scanning a text of two parts

No rule looks past a line break that it does not take, and those that take one start anew behind it.
So where a first part leaves nothing open, a line break and a second part add the scan of the second
part, moved down.
-/
namespace LoxSyntax

def Token.shift (k : Nat) (t : Token) : Token := { t with line := t.line + k }

def Diagnostic.shift (k : Nat) (d : Diagnostic) : Diagnostic := { d with line := d.line + k }

namespace Lexing

def Finding.shift (k : Nat) : Finding → Finding
  | token t => token (t.shift k)
  | diagnostic d => diagnostic (d.shift k)

private theorem findings_add {segs : List Segment}
    (counted : ∀ s ∈ segs, s.counted = newlines s.text)
    (line k : Nat) : findings (line + k) segs = (findings line segs).map (Finding.shift k) := by
  induction segs generalizing line with
  | nil => rfl
  | cons s segs ih =>
    have own := counted s (by simp)
    have front : line + k + s.counted = line + s.counted + k := Nat.add_right_comm _ _ _
    rw [findings, findings, front, ih fun t ht => counted t (by simp [ht]), List.map_append]
    congr 1
    unfold Segment.finding?
    split
    · have start : line + s.counted + k - newlines s.text =
          line + s.counted - newlines s.text + k := by omega
      simp [Finding.shift, Token.shift, start]
    · rfl
    · rfl

section Rules

variable {s : Segment} {P : Char → Prop} {run rest w : List Char}

private theorem Run.extend (longest : Run P run rest) (stops : ¬P '\n') (more : List Char) :
    Run P run (rest ++ '\n' :: more) := by
  refine ⟨longest.all, ?_⟩
  cases rest with
  | nil =>
    rintro c ⟨⟩
    exact stops
  | cons d rest =>
    rintro c ⟨⟩
    exact longest.stops d rfl

theorem prefix_of_prefix_append {text : List Char} (stops : ∀ c ∈ rest.head?, c ∉ w)
    (h : w <+: text ++ rest) : w <+: text := by
  cases rest with
  | nil => rwa [List.append_nil] at h
  | cons c rest =>
    rcases Nat.lt_or_ge text.length w.length with long | short
    · have whole : text ++ [c] <+: text ++ c :: rest := ⟨rest, by simp⟩
      have inside : text ++ [c] <+: w := List.prefix_of_prefix_length_le whole h (by simpa)
      exact absurd (inside.subset (by simp)) (stops c rfl)
    · exact List.prefix_of_prefix_length_le h (List.prefix_append text _) short

/-- What is picked in front of a text is picked in front of that text and a line break too, unless
it takes the line break or was left open. -/
theorem Picks.extend (h : Picks s rest) (closed : s.verdict ≠ .error .unterminatedString ∧
    s.verdict ≠ .error .unterminatedComment) (more : List Char) :
    Picks s (rest ++ '\n' :: more) ∨ s.verdict = .skipped ∧ ∀ c ∈ s.text, Blank c := by
  cases h with
  | blanks nonempty longest => exact .inr ⟨rfl, longest.all⟩
  | name start longest named => exact .inl (.name start (longest.extend (by decide) more) named)
  | @whole digits _ nonempty longest plain =>
    refine .inl (.whole nonempty (longest.extend (by decide) more) fun d tail he => ?_)
    rcases rest with _ | ⟨a, _ | ⟨b, rest⟩⟩
    · cases he
    · cases he
      decide
    · cases he
      exact plain d rest rfl
  | fraction nonempty all decimal longest =>
    exact .inl (.fraction nonempty all decimal (longest.extend (by decide) more))
  | string first => exact .inl (.string first)
  | openString unclosed => exact absurd rfl closed.1
  | lineComment longest => exact .inl (.lineComment (longest.extend (by simp) more))
  | blockComment first => exact .inl (.blockComment first)
  | openComment unclosed => exact absurd rfl closed.2
  | @operator text kind _ spelled longest noLine noBlock =>
    have stops (w : List Char) (plain : '\n' ∉ w) : ∀ c ∈ ('\n' :: more).head?, c ∉ w := by
      rintro c ⟨⟩
      exact plain
    have plain : ∀ o ∈ operators, '\n' ∉ o.1 := by decide
    refine .inl (.operator spelled (fun longer hl front => ?_) ?_ ?_)
    · rw [← List.append_assoc] at front
      exact longest longer hl (prefix_of_prefix_append (stops _ (plain longer hl)) front)
    · rw [← List.append_assoc]
      exact fun front => noLine (prefix_of_prefix_append (stops _ (by decide)) front)
    · rw [← List.append_assoc]
      exact fun front => noBlock (prefix_of_prefix_append (stops _ (by decide)) front)
  | unexpected noBlank noLetter noDigit noQuote noOperator =>
    exact .inl (.unexpected noBlank noLetter noDigit noQuote noOperator)

theorem Picks.segments_append (h : Picks s rest) :
    segments (s.text ++ rest) = s :: segments rest := by
  obtain ⟨c, more, hs, hcut⟩ := h.cut_eq
  rw [hs, List.cons_append, segments, segmentAt, hcut, ← hs]

end Rules

section Blanks

variable {c : Char} {line : Nat} {run text : List Char}

private theorem findings_dropWhile (line : Nat) (text : List Char) :
    findings line (segments text) =
      findings (line + newlines (text.takeWhile isBlank)) (segments (text.dropWhile isBlank)) := by
  cases text with
  | nil => rfl
  | cons c cs =>
    by_cases blank : isBlank c = true
    · have picked : Picks ⟨.skipped, (c :: cs).takeWhile isBlank⟩ ((c :: cs).dropWhile isBlank) :=
        .blanks (by simp [blank]) (run_takeWhile @isBlank_iff (c :: cs))
      have cut := picked.segments_append
      rw [List.takeWhile_append_dropWhile] at cut
      rw [cut, findings, picked.counted_eq]
      rfl
    · simp [blank, newlines]

private theorem findings_blank (blank : Blank c) (line : Nat) (text : List Char) :
    findings line (segments (c :: text)) = findings (line + newlines [c]) (segments text) := by
  have front : newlines (c :: text.takeWhile isBlank) =
      newlines [c] + newlines (text.takeWhile isBlank) := newlines_append [c] _
  rw [findings_dropWhile line (c :: text), findings_dropWhile (line + newlines [c]) text,
    List.takeWhile_cons_of_pos (isBlank_iff.2 blank),
    List.dropWhile_cons_of_pos (isBlank_iff.2 blank), front, Nat.add_assoc]

theorem findings_blanks (blank : ∀ c ∈ run, Blank c) (line : Nat) (text : List Char) :
    findings line (segments (run ++ text)) = findings (line + newlines run) (segments text) := by
  induction run generalizing line with
  | nil => rfl
  | cons c run ih =>
    obtain ⟨own, others⟩ := List.forall_mem_cons.1 blank
    have front : newlines (c :: run) = newlines [c] + newlines run := newlines_append [c] run
    rw [List.cons_append, findings_blank own, ih others, front, Nat.add_assoc]

end Blanks

/-- Nothing in a cut was left open. -/
def Closed (segs : List Segment) : Prop :=
  ∀ s ∈ segs, s.verdict ≠ .error .unterminatedString ∧ s.verdict ≠ .error .unterminatedComment

/-- The findings of a closed text come again, without the end marker, in front of those that start
behind a line break. -/
theorem findings_append_newline {segs : List Segment} {text : List Char} (h : Tiling segs text)
    (closed : Closed segs) (line : Nat) (more : List Char) :
    ∃ fs, findings line segs = fs ++ [.token (.endOfFile (line + newlines text))] ∧
      findings line (segments (text ++ '\n' :: more)) =
        fs ++ findings (line + newlines text + 1) (segments more) := by
  induction segs generalizing line text with
  | nil =>
    obtain rfl : [] = text := h.covers
    exact ⟨[], rfl, findings_blank (by decide) line more⟩
  | cons s segs ih =>
    have picked : Picks s (segs.map (·.text)).flatten := h.picked [] s segs rfl
    obtain rfl : s.text ++ (segs.map (·.text)).flatten = text := h.covers
    have counted := picked.counted_eq
    obtain ⟨own, others⟩ := List.forall_mem_cons.1 closed
    obtain ⟨fs, ends, continues⟩ := ih h.tail others (line + s.counted)
    have last : line + s.counted + newlines (segs.map (·.text)).flatten =
        line + newlines (s.text ++ (segs.map (·.text)).flatten) := by
      rw [counted, newlines_append, Nat.add_assoc]
    rw [last] at ends continues
    refine ⟨(s.finding? (line + s.counted)).toList ++ fs, ?_, ?_⟩
    · rw [findings, ends, List.append_assoc]
    · rw [List.append_assoc]
      rcases picked.extend own more with extended | ⟨skipped, blank⟩
      · rw [extended.segments_append, findings, continues, List.append_assoc]
      · have none : s.finding? (line + s.counted) = none := by simp [Segment.finding?, skipped]
        rw [findings_blanks blank, ← counted, continues, none]
        rfl

private theorem closed_of_diagnostics {source : String}
    (h : ∀ d ∈ (scan source).diagnostics,
      d.message ≠ "Unterminated string." ∧ d.message ≠ "Unexpected end of file") :
    Closed (segments source.toList) := by
  have reported (s : Segment) (hs : s ∈ segments source.toList) (cause : LexicalError)
      (wrong : s.verdict = .error cause) :
      ∃ d ∈ (scan source).diagnostics, d.message = cause.message := by
    have fault : (Location.line, cause.message) ∈
        (scan source).diagnostics.map fun d => (d.location, d.message) := by
      rw [scan, diagnostics_ofFindings]
      exact List.mem_filterMap.2 ⟨s, hs, by simp [Segment.fault?, wrong]⟩
    obtain ⟨d, hd, he⟩ := List.mem_map.1 fault
    exact ⟨d, hd, (Prod.mk.inj he).2⟩
  intro s hs
  constructor
  · intro wrong
    obtain ⟨d, hd, hm⟩ := reported s hs _ wrong
    exact (h d hd).1 hm
  · intro wrong
    obtain ⟨d, hd, hm⟩ := reported s hs _ wrong
    exact (h d hd).2 hm

section Shift

variable (k : Nat) (fs : List Finding)

private theorem filterMap_token?_shift : (fs.map (Finding.shift k)).filterMap (·.token?) =
    (fs.filterMap (·.token?)).map (Token.shift k) := by
  rw [List.filterMap_map, List.map_filterMap]
  congr 1
  funext f
  cases f <;> rfl

private theorem filterMap_diagnostic?_shift : (fs.map (Finding.shift k)).filterMap (·.diagnostic?) =
    (fs.filterMap (·.diagnostic?)).map (Diagnostic.shift k) := by
  rw [List.filterMap_map, List.map_filterMap]
  congr 1
  funext f
  cases f <;> rfl

end Shift

/-- Scanning composes at a line break: where the first text leaves no string and no comment open,
the tokens of both texts are those of the first without its end marker and those of the second,
moved down by the lines of the first; and so are the diagnostics. -/
theorem scan_append_newline {first second : String}
    (closed : ∀ d ∈ (scan first).diagnostics,
      d.message ≠ "Unterminated string." ∧ d.message ≠ "Unexpected end of file") :
    ∃ ts, (scan first).tokens = ts ++ [.endOfFile (1 + newlines first.toList)] ∧
      (scan (first ++ "\n" ++ second)).tokens =
        ts ++ (scan second).tokens.map (Token.shift (1 + newlines first.toList)) ∧
      (scan (first ++ "\n" ++ second)).diagnostics =
        (scan first).diagnostics ++
          (scan second).diagnostics.map (Diagnostic.shift (1 + newlines first.toList)) := by
  obtain ⟨fs, ends, continues⟩ := findings_append_newline (tiling_segments first.toList)
    (closed_of_diagnostics closed) 1 second.toList
  have joined : (first ++ "\n" ++ second).toList = first.toList ++ '\n' :: second.toList := by simp
  have moved : findings (1 + newlines first.toList + 1) (segments second.toList) =
      (findings 1 (segments second.toList)).map (Finding.shift (1 + newlines first.toList)) := by
    rw [Nat.add_comm (1 + newlines first.toList) 1]
    exact findings_add (counted_of_tiling (tiling_segments second.toList)) 1 _
  rw [moved] at continues
  refine ⟨fs.filterMap (·.token?), ?_, ?_, ?_⟩
  · rw [scan, ends, Scan.ofFindings, List.filterMap_append]
    rfl
  · rw [scan, joined, continues, Scan.ofFindings, List.filterMap_append, filterMap_token?_shift]
    rfl
  · simp only [scan, joined, continues, ends, Scan.ofFindings, List.filterMap_append,
      filterMap_diagnostic?_shift]
    simp [Finding.diagnostic?]

/-- A line comment and a number in front of a point at the end of the first text, a text over two
lines and an error in the second. -/
theorem scan_append_newline_comment :
    (∀ d ∈ (scan "@ x\n1. //").diagnostics,
      d.message ≠ "Unterminated string." ∧ d.message ≠ "Unexpected end of file") ∧
    ∃ ts, (scan "@ x\n1. //").tokens = ts ++ [.endOfFile 2] ∧
      (scan ("@ x\n1. //" ++ "\n" ++ "5 \"a\nb\" #")).tokens =
        ts ++ (scan "5 \"a\nb\" #").tokens.map (Token.shift 2) ∧
      (scan ("@ x\n1. //" ++ "\n" ++ "5 \"a\nb\" #")).diagnostics =
        (scan "@ x\n1. //").diagnostics ++
          (scan "5 \"a\nb\" #").diagnostics.map (Diagnostic.shift 2) := by
  have closed : ∀ d ∈ (scan "@ x\n1. //").diagnostics,
      d.message ≠ "Unterminated string." ∧ d.message ≠ "Unexpected end of file" := by
    decide +kernel
  exact ⟨closed, scan_append_newline closed⟩

end Lexing

end LoxSyntax
