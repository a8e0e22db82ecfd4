import LoxSyntax.Lexing.Scan
import LoxSyntax.Proofs.Lexing.Rules

/-!
# The cut of a text is the only one its rules allow

Each recognizer takes what its rule picks, and whatever a rule picks is what the recognizer takes.
So the cut of a whole text is forced from its front on, and a scan is read off it.
-/
namespace LoxSyntax.Lexing

section Classes

variable {c : Char} {cs : List Char}

private theorem cut_of_blank (h : Blank c) :
    cut c cs = cutWhile (fun _ => .skipped) isBlank cs := by
  simp [cut, isBlank_iff.2 h]

private theorem cut_of_letter (h : Letter c) :
    cut c cs =
      cutWhile (fun more => .token (.ofIdentifier (String.ofList (c :: more)))) isNamePart cs := by
  simp [cut, isBlank_iff, isNameStart_iff, h.not_blank, h]

private theorem cut_of_digit (h : Digit c) : cut c cs = cutNumber cs := by
  simp [cut, isBlank_iff, isNameStart_iff, isDigit_iff, h.not_blank,
    h.not_letter, h]

private theorem cut_quote (cs : List Char) : cut '"' cs = cutString cs := rfl

private theorem cut_slash (cs : List Char) : cut '/' cs = cutSlash cs := rfl

private theorem cut_of_other (noBlank : ¬Blank c) (noLetter : ¬Letter c) (noDigit : ¬Digit c)
    (noQuote : c ≠ '"') (noSlash : c ≠ '/') : cut c cs = cutOperator c cs := by
  simp [cut, isBlank_iff, isNameStart_iff, isDigit_iff, noBlank, noLetter, noDigit, noQuote,
    noSlash]

end Classes

section Recognizers

variable {c : Char} {cs : List Char}

private theorem picks_cutNumber (h : Digit c) (cs : List Char) :
    Picks ⟨(cutNumber cs).verdict, c :: (cutNumber cs).taken⟩ (cutNumber cs).rest := by
  have whole := run_cons_iff.2 ⟨h, run_takeWhile @isDigit_iff cs⟩
  fun_cases cutNumber cs with
  | case1 _ d rest point digit =>
    rw [← List.cons_append]
    exact .fraction (by simp) whole.all (by simp)
      (run_cons_iff.2 ⟨isDigit_iff.1 digit, run_takeWhile @isDigit_iff rest⟩)
  | case2 _ d rest point noDigit =>
    rw [point] at whole
    refine .whole (by simp) whole fun d' more he hd => noDigit ?_
    obtain ⟨rfl, rfl⟩ : d = d' ∧ rest = more := by simpa using he
    exact isDigit_iff.2 hd
  | case3 =>
    rename_i noPoint
    exact .whole (by simp) whole fun d more he _ => noPoint d more he

private theorem picks_cutString (cs : List Char) :
    Picks ⟨(cutString cs).verdict, '"' :: (cutString cs).taken⟩ (cutString cs).rest := by
  have body := run_takeWhile (P := (· ≠ '"')) (p := (· ≠ '"')) (by simp) cs
  have noQuote : '"' ∉ cs.takeWhile (· ≠ '"') := fun h => body.all _ h rfl
  fun_cases cutString cs with
  | case1 _ quote rest he =>
    have close : ¬quote ≠ '"' := by
      rw [he] at body
      exact body.stops quote rfl
    obtain rfl := not_not.1 close
    exact .string noQuote
  | case2 => exact .openString noQuote

private theorem picks_single {kind : TokenKind} (h : single? c = some kind)
    (alone : ∀ longer rest, withEqual? c = some longer → cs ≠ '=' :: rest)
    (noLine : ¬['/', '/'] <+: c :: cs) (noBlock : ¬['/', '*'] <+: c :: cs) :
    Picks ⟨.token kind, [c]⟩ cs := by
  refine .operator (mem_operators_iff.2 (.inl ⟨c, rfl, h⟩)) ?_ noLine noBlock
  rintro ⟨text, longer⟩ spelled front
  rcases mem_operators_iff.1 spelled with ⟨d, rfl, -⟩ | ⟨d, rfl, hl⟩
  · exact Nat.le_refl 1
  · obtain ⟨rest, he⟩ := front
    obtain ⟨rfl, rfl⟩ : d = c ∧ '=' :: rest = cs := by simpa using he
    exact absurd rfl (alone longer rest hl)

private theorem picks_cutOperator (noBlank : ¬Blank c) (noLetter : ¬Letter c) (noDigit : ¬Digit c)
    (noQuote : c ≠ '"') (noSlash : c ≠ '/') (cs : List Char) :
    Picks ⟨(cutOperator c cs).verdict, c :: (cutOperator c cs).taken⟩ (cutOperator c cs).rest := by
  have noComment (d : Char) (cs : List Char) : ¬['/', d] <+: c :: cs := by
    simp [List.cons_prefix_cons, noSlash.symm]
  fun_cases cutOperator c cs with
  | case1 kind rest h =>
    refine .operator (mem_operators_iff.2 (.inr ⟨c, rfl, h⟩)) ?_ (noComment _ _) (noComment _ _)
    exact fun longer spelled _ => (by decide : ∀ o ∈ operators, o.1.length ≤ 2) longer spelled
  | case2 _ _ h alone => exact picks_single h alone (noComment _ _) (noComment _ _)
  | case3 _ h =>
    refine .unexpected noBlank noLetter noDigit noQuote ?_
    rintro ⟨text, kind⟩ spelled
    rcases mem_operators_iff.1 spelled with ⟨d, rfl, hs⟩ | ⟨d, rfl, hw⟩
    · rintro ⟨⟩
      simp [h] at hs
    · rintro ⟨⟩
      simpa [h] using single?_isSome_of_withEqual? hw

private theorem picks_cutSlash (cs : List Char) :
    Picks ⟨(cutSlash cs).verdict, '/' :: (cutSlash cs).taken⟩ (cutSlash cs).rest := by
  fun_cases cutSlash cs with
  | case1 cs => exact .lineComment (run_takeWhile (by simp) cs)
  | case2 cs taken rest h =>
    obtain ⟨body, rfl, first⟩ := throughClose_first h
    exact .blockComment first
  | case3 cs h => exact .openComment (throughClose_eq_none_iff.1 h)
  | case4 cs noSlash noStar =>
    refine picks_single rfl (fun longer _ hl => by simp [withEqual?] at hl) ?_ ?_
    · rintro ⟨more, he⟩
      exact noSlash more (by simpa using he.symm)
    · rintro ⟨more, he⟩
      exact noStar more (by simpa using he.symm)

/-- Each recognizer takes what the rules pick. -/
theorem picks_segmentAt (c : Char) (cs : List Char) : Picks (segmentAt c cs) (cut c cs).rest := by
  unfold segmentAt
  fun_cases cut c cs with
  | case1 h =>
    exact .blanks (by simp) (run_cons_iff.2 ⟨isBlank_iff.1 h, run_takeWhile @isBlank_iff cs⟩)
  | case2 _ h =>
    exact .name (isNameStart_iff.1 h) (run_takeWhile @isNamePart_iff cs) (nameKind_iff.2 rfl)
  | case3 _ _ h => exact picks_cutNumber (isDigit_iff.1 h) cs
  | case4 _ _ _ h => exact h ▸ picks_cutString cs
  | case5 _ _ _ _ h => exact h ▸ picks_cutSlash cs
  | case6 noBlank noLetter noDigit noQuote noSlash =>
    rw [isBlank_iff] at noBlank
    rw [isNameStart_iff] at noLetter
    rw [isDigit_iff] at noDigit
    exact picks_cutOperator noBlank noLetter noDigit noQuote noSlash cs

private theorem cutNumber_of_whole {more rest : List Char} (longest : Run Digit more rest)
    (plain : ∀ d tail, rest = '.' :: d :: tail → ¬Digit d) :
    cutNumber (more ++ rest) = ⟨.token .number, more, rest⟩ := by
  obtain ⟨taken, left⟩ := longest.takeWhile_append @isDigit_iff
  unfold cutNumber
  rw [taken, left]
  split
  · rename_i d tail
    have noDigit : ¬d.isDigit := fun h => plain d tail rfl (isDigit_iff.1 h)
    simp [noDigit]
  · rfl

private theorem cutNumber_of_fraction {more decimals rest : List Char} {d : Char}
    (all : ∀ c ∈ more, Digit c) (digit : Digit d) (longest : Run Digit decimals rest) :
    cutNumber (more ++ '.' :: d :: decimals ++ rest) =
      ⟨.token .number, more ++ '.' :: d :: decimals, rest⟩ := by
  have whole : Run Digit more ('.' :: d :: (decimals ++ rest)) := by
    refine ⟨all, ?_⟩
    rintro _ ⟨⟩
    decide
  obtain ⟨taken, left⟩ := whole.takeWhile_append @isDigit_iff
  obtain ⟨taken', left'⟩ := longest.takeWhile_append @isDigit_iff
  have front : more ++ '.' :: d :: decimals ++ rest = more ++ '.' :: d :: (decimals ++ rest) := by
    simp
  rw [front, cutNumber, taken, left]
  simp [isDigit_iff.2 digit, taken', left']

private theorem cutString_of_closed {body : List Char} (first : '"' ∉ body) (rest : List Char) :
    cutString (body ++ '"' :: rest) = ⟨.token .string, body ++ ['"'], rest⟩ := by
  have run : Run (· ≠ '"') body ('"' :: rest) := by
    refine ⟨fun c hc he => first (he ▸ hc), ?_⟩
    rintro _ ⟨⟩
    exact not_not.2 rfl
  obtain ⟨taken, left⟩ := run.takeWhile_append (p := (· ≠ '"')) (by simp)
  rw [cutString, taken, left]

private theorem cutString_of_open {body : List Char} (unclosed : '"' ∉ body) :
    cutString body = ⟨.error .unterminatedString, body, []⟩ := by
  have run : Run (· ≠ '"') body [] := ⟨fun c hc he => unclosed (he ▸ hc), by simp⟩
  obtain ⟨taken, left⟩ := run.takeWhile_append (p := (· ≠ '"')) (by simp)
  rw [List.append_nil] at taken left
  rw [cutString, taken, left]

private theorem cutSlash_of_alone (noLine : ¬['/', '/'] <+: '/' :: cs)
    (noBlock : ¬['/', '*'] <+: '/' :: cs) : cutSlash cs = ⟨.token .slash, [], cs⟩ := by
  fun_cases cutSlash cs with
  | case1 cs => exact absurd ⟨cs, rfl⟩ noLine
  | case2 cs => exact absurd ⟨cs, rfl⟩ noBlock
  | case3 cs => exact absurd ⟨cs, rfl⟩ noBlock
  | case4 => rfl

private theorem cutOperator_of_alone {kind : TokenKind} (h : single? c = some kind)
    (alone : ∀ longer rest, withEqual? c = some longer → cs ≠ '=' :: rest) :
    cutOperator c cs = ⟨.token kind, [], cs⟩ := by
  fun_cases cutOperator c cs with
  | case1 longer rest hl => exact absurd rfl (alone longer rest hl)
  | case2 _ _ hs =>
    obtain rfl := Option.some.inj (hs.symm.trans h)
    rfl
  | case3 _ hs => simp [hs] at h

private theorem cut_of_operator {text rest : List Char} {kind : TokenKind}
    (spelled : (text, kind) ∈ operators)
    (longest : ∀ longer ∈ operators, longer.1 <+: text ++ rest → longer.1.length ≤ text.length)
    (noLine : ¬['/', '/'] <+: text ++ rest) (noBlock : ¬['/', '*'] <+: text ++ rest) :
    ∃ c more, text = c :: more ∧ cut c (more ++ rest) = ⟨.token kind, more, rest⟩ := by
  rcases mem_operators_iff.1 spelled with ⟨c, rfl, hc⟩ | ⟨c, rfl, hc⟩
  · refine ⟨c, [], rfl, ?_⟩
    by_cases slash : c = '/'
    · subst slash
      obtain rfl : .slash = kind := Option.some.inj hc
      exact cutSlash_of_alone noLine noBlock
    · obtain ⟨noBlank, noLetter, noDigit, noQuote⟩ := classes_of_single? hc
      rw [cut_of_other noBlank noLetter noDigit noQuote slash]
      refine cutOperator_of_alone hc fun longer more hl he => ?_
      have short := longest ([c, '='], longer) (mem_operators_iff.2 (.inr ⟨c, rfl, hl⟩))
        ⟨more, by simpa using he.symm⟩
      exact absurd short (by simp)
  · obtain ⟨single, hs⟩ := Option.isSome_iff_exists.1 (single?_isSome_of_withEqual? hc)
    obtain ⟨noBlank, noLetter, noDigit, noQuote⟩ := classes_of_single? hs
    have noSlash : c ≠ '/' := by
      rintro rfl
      simp [withEqual?] at hc
    refine ⟨c, ['='], rfl, ?_⟩
    rw [cut_of_other noBlank noLetter noDigit noQuote noSlash]
    simp [cutOperator, hc]

private theorem cut_of_unexpected (noBlank : ¬Blank c) (noLetter : ¬Letter c) (noDigit : ¬Digit c)
    (noQuote : c ≠ '"') (noOperator : ∀ spelled ∈ operators, spelled.1.head? ≠ some c)
    (cs : List Char) : cut c cs = ⟨.error .unexpectedCharacter, [], cs⟩ := by
  have noSingle : single? c = none := by
    by_contra some
    obtain ⟨kind, hk⟩ := Option.ne_none_iff_exists'.1 some
    exact noOperator ([c], kind) (mem_operators_iff.2 (.inl ⟨c, rfl, hk⟩)) rfl
  have noSlash : c ≠ '/' := by
    rintro rfl
    simp [single?] at noSingle
  rw [cut_of_other noBlank noLetter noDigit noQuote noSlash]
  have noPair : withEqual? c = none := by
    by_contra some
    obtain ⟨kind, hk⟩ := Option.ne_none_iff_exists'.1 some
    simpa [noSingle] using single?_isSome_of_withEqual? hk
  simp [cutOperator, noSingle, noPair]

/-- What the rules pick is what the recognizers take. -/
theorem Picks.cut_eq {s : Segment} {rest : List Char} (h : Picks s rest) :
    ∃ c more, s.text = c :: more ∧ cut c (more ++ rest) = ⟨s.verdict, more, rest⟩ := by
  cases h with
  | @blanks run _ nonempty longest =>
    obtain ⟨c, more, rfl⟩ := List.exists_cons_of_ne_nil nonempty
    obtain ⟨blank, tail⟩ := run_cons_iff.1 longest
    obtain ⟨taken, left⟩ := tail.takeWhile_append @isBlank_iff
    exact ⟨c, more, rfl, by rw [cut_of_blank blank, cutWhile, taken, left]⟩
  | @name c more _ kind start longest named =>
    obtain ⟨taken, left⟩ := longest.takeWhile_append @isNamePart_iff
    exact ⟨c, more, rfl, by rw [cut_of_letter start, cutWhile, taken, left, nameKind_iff.1 named]⟩
  | @whole digits _ nonempty longest plain =>
    obtain ⟨c, more, rfl⟩ := List.exists_cons_of_ne_nil nonempty
    obtain ⟨digit, tail⟩ := run_cons_iff.1 longest
    refine ⟨c, more, rfl, ?_⟩
    rw [cut_of_digit digit, cutNumber_of_whole tail plain]
  | @fraction digits decimals _ nonempty all decimal longest =>
    obtain ⟨c, more, rfl⟩ := List.exists_cons_of_ne_nil nonempty
    obtain ⟨d, tail, rfl⟩ := List.exists_cons_of_ne_nil decimal
    obtain ⟨digit, more'⟩ := List.forall_mem_cons.1 all
    obtain ⟨digit', tail'⟩ := run_cons_iff.1 longest
    refine ⟨c, more ++ '.' :: d :: tail, rfl, ?_⟩
    rw [cut_of_digit digit, cutNumber_of_fraction more' digit' tail']
  | @string body _ first =>
    refine ⟨'"', body ++ ['"'], rfl, ?_⟩
    rw [cut_quote, List.append_assoc]
    exact cutString_of_closed first rest
  | @openString body unclosed =>
    refine ⟨'"', body, rfl, ?_⟩
    rw [cut_quote, List.append_nil, cutString_of_open unclosed]
  | @lineComment body _ longest =>
    obtain ⟨taken, left⟩ := longest.takeWhile_append (p := (· ≠ '\n')) (by simp)
    refine ⟨'/', '/' :: body, rfl, ?_⟩
    rw [cut_slash, List.cons_append, cutSlash, taken, left]
  | @blockComment body _ first =>
    refine ⟨'/', '*' :: (body ++ ['*', '/']), rfl, ?_⟩
    rw [cut_slash, List.cons_append, cutSlash, throughClose_append_close first]
  | @openComment body unclosed =>
    refine ⟨'/', '*' :: body, rfl, ?_⟩
    rw [cut_slash, List.cons_append, List.append_nil, cutSlash, throughClose_eq_none_iff.2 unclosed]
  | @operator text kind _ spelled longest noLine noBlock =>
    exact cut_of_operator spelled longest noLine noBlock
  | @unexpected c _ noBlank noLetter noDigit noQuote noOperator =>
    exact ⟨c, [], rfl, cut_of_unexpected noBlank noLetter noDigit noQuote noOperator rest⟩

end Recognizers

/-- A cut of a text into non-empty segments, each picked by the rules in front of those after it. -/
structure Tiling (segs : List Segment) (text : List Char) : Prop where
  covers : (segs.map (·.text)).flatten = text
  nonempty : ∀ s ∈ segs, s.text ≠ []
  picked : ∀ before s after, segs = before ++ s :: after → Picks s (after.map (·.text)).flatten

theorem tiling_segments (text : List Char) : Tiling (segments text) text := by
  refine ⟨segments_flatten text, ?_, ?_⟩
  · fun_induction segments text with
    | case1 => simp
    | case2 c cs ih => simpa [segmentAt] using ih
  · fun_induction segments text with
    | case1 => simp
    | case2 c cs ih =>
      rintro (_ | ⟨b, before⟩) s after he
      · obtain ⟨rfl, rfl⟩ := List.cons.inj he
        rw [segments_flatten]
        exact picks_segmentAt c cs
      · exact ih before s after (List.cons.inj he).2

theorem Tiling.tail {s : Segment} {segs : List Segment} {text : List Char}
    (h : Tiling (s :: segs) text) : Tiling segs (segs.map (·.text)).flatten where
  covers := rfl
  nonempty t ht := h.nonempty t (by simp [ht])
  picked before t after he := h.picked (s :: before) t after (by rw [he, List.cons_append])

/-- The rules force a cut from its front on. -/
theorem Tiling.eq_segments {segs : List Segment} {text : List Char} (h : Tiling segs text) :
    segs = segments text := by
  induction segs generalizing text with
  | nil =>
    rw [← h.covers]
    simp [segments]
  | cons s segs ih =>
    obtain ⟨c, more, hs, hcut⟩ := (h.picked [] s segs rfl).cut_eq
    have front : text = c :: (more ++ (segs.map (·.text)).flatten) := by
      rw [← h.covers, List.map_cons, List.flatten_cons, hs, List.cons_append]
    have first : s = segmentAt c (more ++ (segs.map (·.text)).flatten) := by
      rw [segmentAt, hcut, ← hs]
    rw [front, segments, ← first, hcut, ← ih h.tail]

theorem tiling_iff {segs : List Segment} {text : List Char} :
    Tiling segs text ↔ segs = segments text :=
  ⟨Tiling.eq_segments, fun h => h ▸ tiling_segments text⟩

/-- The kind and the text of a token segment. -/
def Segment.token? (s : Segment) : Option (TokenKind × String) :=
  match s.verdict with
  | .token kind => some (kind, String.ofList s.text)
  | _ => none

/-- What is wrong with an error segment. -/
def Segment.fault? (s : Segment) : Option String :=
  match s.verdict with
  | .error cause => some cause.message
  | _ => none

private theorem tokens_ofFindings (line : Nat) (segs : List Segment) :
    (Scan.ofFindings (findings line segs)).tokens.map (fun t => (t.kind, t.lexeme)) =
      segs.filterMap Segment.token? ++ [(.endOfFile, "")] := by
  induction segs generalizing line with
  | nil => rfl
  | cons s segs ih =>
    have more := ih (line + s.counted)
    simp only [Scan.ofFindings] at more ⊢
    rw [findings, List.filterMap_append, List.map_append, more, List.filterMap_cons]
    cases hv : s.verdict <;> simp [Segment.finding?, Segment.token?, Finding.token?, hv]

theorem diagnostics_ofFindings (line : Nat) (segs : List Segment) :
    (Scan.ofFindings (findings line segs)).diagnostics.map (fun d => (d.location, d.message)) =
      segs.filterMap fun s => s.fault?.map fun message => (.line, message) := by
  induction segs generalizing line with
  | nil => rfl
  | cons s segs ih =>
    have more := ih (line + s.counted)
    simp only [Scan.ofFindings] at more ⊢
    rw [findings, List.filterMap_append, List.map_append, more, List.filterMap_cons]
    cases hv : s.verdict <;>
      simp [Segment.finding?, Segment.fault?, Finding.diagnostic?, Diagnostic.atLine, hv]

/-- A text has exactly one cut that the rules allow. The tokens of its scan are the token segments
of that cut and the end marker, the diagnostics are its error segments, both in order. -/
theorem scan_tiling (source : String) :
    ∃ segs, (∀ other, Tiling other source.toList ↔ other = segs) ∧
      (scan source).tokens.map (fun t => (t.kind, t.lexeme)) =
        segs.filterMap Segment.token? ++ [(.endOfFile, "")] ∧
      (scan source).diagnostics.map (fun d => (d.location, d.message)) =
        segs.filterMap fun s => s.fault?.map fun message => (.line, message) := by
  refine ⟨segments source.toList, fun other => ⟨Tiling.eq_segments, ?_⟩,
    tokens_ofFindings 1 _, diagnostics_ofFindings 1 _⟩
  rintro rfl
  exact tiling_segments source.toList

end LoxSyntax.Lexing
