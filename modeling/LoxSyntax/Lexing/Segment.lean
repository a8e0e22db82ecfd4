import LoxSyntax.Token.Kind

/-!
# Cutting source text into segments

At each place of a source exactly one rule applies and takes a non-empty segment: a token, text to
skip, or an error. Every rule takes as much as it can, and nothing of the text is lost.
-/
namespace LoxSyntax.Lexing

inductive LexicalError
  | unexpectedCharacter
  | unterminatedString
  | unterminatedComment
  deriving DecidableEq, Repr

def LexicalError.message : LexicalError → String
  | unexpectedCharacter => "Unexpected character."
  | unterminatedString => "Unterminated string."
  | unterminatedComment => "Unexpected end of file"

/-- What a segment is. -/
inductive Verdict
  | token (kind : TokenKind)
  | skipped
  | error (cause : LexicalError)
  deriving DecidableEq, Repr

structure Segment where
  verdict : Verdict
  text : List Char
  deriving DecidableEq, Repr

/-- A verdict with what it takes after the first character and what it leaves. -/
structure Cut where
  verdict : Verdict
  taken : List Char
  rest : List Char

def isBlank (c : Char) : Bool := c = ' ' || c = '\t' || c = '\r' || c = '\n'

def isNameStart (c : Char) : Bool := c.isAlpha || c = '_'

def isNamePart (c : Char) : Bool := c.isAlphanum || c = '_'

/-- Operators and punctuation of one character. -/
def single? : Char → Option TokenKind
  | '(' => some .leftParen
  | ')' => some .rightParen
  | '{' => some .leftBrace
  | '}' => some .rightBrace
  | ',' => some .comma
  | '.' => some .dot
  | '-' => some .minus
  | '+' => some .plus
  | ';' => some .semicolon
  | '/' => some .slash
  | '*' => some .star
  | '!' => some .bang
  | '=' => some .equal
  | '>' => some .greater
  | '<' => some .less
  | _ => none

/-- Operators of a character and an equals sign. -/
def withEqual? : Char → Option TokenKind
  | '!' => some .bangEqual
  | '=' => some .equalEqual
  | '>' => some .greaterEqual
  | '<' => some .lessEqual
  | _ => none

/-- Text up to and including the first `*/`. -/
def throughClose : List Char → Option (List Char × List Char)
  | [] => none
  | '*' :: '/' :: rest => some (['*', '/'], rest)
  | c :: rest => (throughClose rest).map fun (taken, left) => (c :: taken, left)

/-- Takes the longest run of characters of one class. -/
def cutWhile (verdict : List Char → Verdict) (p : Char → Bool) (cs : List Char) : Cut :=
  ⟨verdict (cs.takeWhile p), cs.takeWhile p, cs.dropWhile p⟩

/-- Digits, then a point and digits if a digit follows the point. -/
def cutNumber (cs : List Char) : Cut :=
  let whole := cs.takeWhile Char.isDigit
  match cs.dropWhile Char.isDigit with
  | '.' :: d :: rest =>
    if d.isDigit then
      ⟨.token .number, whole ++ '.' :: d :: rest.takeWhile Char.isDigit,
        rest.dropWhile Char.isDigit⟩
    else ⟨.token .number, whole, '.' :: d :: rest⟩
  | rest => ⟨.token .number, whole, rest⟩

/-- After an opening quote: through the next quote, or all of the text. -/
def cutString (cs : List Char) : Cut :=
  let body := cs.takeWhile (· ≠ '"')
  match cs.dropWhile (· ≠ '"') with
  | quote :: rest => ⟨.token .string, body ++ [quote], rest⟩
  | [] => ⟨.error .unterminatedString, body, []⟩

/-- After a slash: a comment to the end of the line or to its closing mark, or a lone operator. -/
def cutSlash : List Char → Cut
  | '/' :: cs => ⟨.skipped, '/' :: cs.takeWhile (· ≠ '\n'), cs.dropWhile (· ≠ '\n')⟩
  | '*' :: cs =>
    match throughClose cs with
    | some (taken, rest) => ⟨.skipped, '*' :: taken, rest⟩
    | none => ⟨.error .unterminatedComment, '*' :: cs, []⟩
  | cs => ⟨.token .slash, [], cs⟩

/-- After a character of no other class: the longest operator, or one character in error. -/
def cutOperator (c : Char) (cs : List Char) : Cut :=
  match withEqual? c, cs with
  | some kind, '=' :: rest => ⟨.token kind, ['='], rest⟩
  | _, cs =>
    match single? c with
    | some kind => ⟨.token kind, [], cs⟩
    | none => ⟨.error .unexpectedCharacter, [], cs⟩

/-- The rule that applies at `c :: cs`. -/
def cut (c : Char) (cs : List Char) : Cut :=
  if isBlank c then cutWhile (fun _ => .skipped) isBlank cs
  else if isNameStart c then
    cutWhile (fun more => .token (.ofIdentifier (String.ofList (c :: more)))) isNamePart cs
  else if c.isDigit then cutNumber cs
  else if c = '"' then cutString cs
  else if c = '/' then cutSlash cs
  else cutOperator c cs

theorem throughClose_append {cs taken rest : List Char}
    (h : throughClose cs = some (taken, rest)) : taken ++ rest = cs := by
  fun_induction throughClose cs generalizing taken rest with
  | case1 => simp at h
  | case2 rest =>
    obtain ⟨rfl, rfl⟩ := Prod.mk.inj (Option.some.inj h)
    rfl
  | case3 c cs _ ih =>
    obtain ⟨⟨t, l⟩, ht, he⟩ := Option.map_eq_some_iff.1 h
    obtain ⟨rfl, rfl⟩ := Prod.mk.inj he
    simp [ih ht]

private theorem cutNumber_append (cs : List Char) :
    (cutNumber cs).taken ++ (cutNumber cs).rest = cs := by
  have hw : cs.takeWhile Char.isDigit ++ cs.dropWhile Char.isDigit = cs :=
    List.takeWhile_append_dropWhile
  unfold cutNumber
  split
  · split <;> simp_all
  · exact hw

private theorem cutString_append (cs : List Char) :
    (cutString cs).taken ++ (cutString cs).rest = cs := by
  have hw : cs.takeWhile (· ≠ '"') ++ cs.dropWhile (· ≠ '"') = cs :=
    List.takeWhile_append_dropWhile
  unfold cutString
  split
  · rename_i quote rest he
    rw [he] at hw
    simpa using hw
  · rename_i he
    rw [he] at hw
    exact hw

private theorem cutSlash_append (cs : List Char) :
    (cutSlash cs).taken ++ (cutSlash cs).rest = cs := by
  unfold cutSlash
  split
  · simp
  · split
    · simp [throughClose_append ‹_›]
    · simp
  · simp

private theorem cutOperator_append (c : Char) (cs : List Char) :
    (cutOperator c cs).taken ++ (cutOperator c cs).rest = cs := by
  unfold cutOperator
  split
  · rfl
  · split <;> rfl

/-- No text is lost. -/
theorem cut_append (c : Char) (cs : List Char) : (cut c cs).taken ++ (cut c cs).rest = cs := by
  unfold cut
  repeat' split
  · simp [cutWhile]
  · simp [cutWhile]
  · exact cutNumber_append cs
  · exact cutString_append cs
  · exact cutSlash_append cs
  · exact cutOperator_append c cs

theorem length_rest_cut_le (c : Char) (cs : List Char) : (cut c cs).rest.length ≤ cs.length := by
  have h := congrArg List.length (cut_append c cs)
  simp only [List.length_append] at h
  omega

/-- The segment that starts at `c :: cs`. -/
def segmentAt (c : Char) (cs : List Char) : Segment := ⟨(cut c cs).verdict, c :: (cut c cs).taken⟩

/-- All segments of a text, in order. -/
def segments : List Char → List Segment
  | [] => []
  | c :: cs => segmentAt c cs :: segments (cut c cs).rest
termination_by text => text.length
decreasing_by exact Nat.lt_succ_of_le (length_rest_cut_le c cs)

theorem segments_flatten (text : List Char) : ((segments text).map (·.text)).flatten = text := by
  fun_induction segments text with
  | case1 => rfl
  | case2 c cs ih => simp [segmentAt, ih, cut_append]

end LoxSyntax.Lexing
