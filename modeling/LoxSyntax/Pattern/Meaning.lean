import LoxSyntax.Pattern.Basic

/-!
# What a pattern matches

Patterns are matched against UTF-8 text, and no tables of the Unicode character database are at
hand: classes and cases that need them are refused where Unicode is on, as it is unless a flag turns
it off; without it nothing may match a part of a character. The machine of a pattern may take ten
megabytes.
-/
namespace LoxSyntax.Pattern

/-- Whether letters match in both cases, and whether characters are those of Unicode. -/
structure Modes where
  insensitive : Bool
  unicode : Bool
  deriving DecidableEq, Repr

def Modes.start : Modes := ⟨false, true⟩

def Modes.with (m : Modes) (items : List FlagItem) : Modes :=
  ⟨(flagState? .insensitive false items).getD m.insensitive,
    (flagState? .unicode false items).getD m.unicode⟩

/-! ## Nesting -/

mutual

/-- The first part of a class that lies deeper than is allowed, with `room` levels left. -/
def CharSet.tooDeep? (room : Nat) : CharSet → Option Span
  | .empty _ | .primitive _ | .range .. | .ascii .. => none
  | .bracketed span _ inner =>
    match room with
    | 0 => some span
    | room + 1 => inner.tooDeep? room
  | .union span items =>
    match room with
    | 0 => some span
    | room + 1 => CharSet.listTooDeep? room items
  | .combined span _ left right =>
    match room with
    | 0 => some span
    | room + 1 => (left.tooDeep? room).or (right.tooDeep? room)

def CharSet.listTooDeep? (room : Nat) : List CharSet → Option Span
  | [] => none
  | set :: more => (set.tooDeep? room).or (CharSet.listTooDeep? room more)

end

mutual

/-- The first part of a pattern that lies deeper than is allowed. -/
def Expression.tooDeep? (room : Nat) : Expression → Option Span
  | .empty _ | .flags .. | .primitive _ => none
  | .bracketed span _ set =>
    match room with
    | 0 => some span
    | room + 1 => set.tooDeep? room
  | .repetition span _ _ inner | .group span _ _ inner =>
    match room with
    | 0 => some span
    | room + 1 => inner.tooDeep? room
  | .alternation span parts | .concat span parts =>
    match room with
    | 0 => some span
    | room + 1 => Expression.listTooDeep? room parts

def Expression.listTooDeep? (room : Nat) : List Expression → Option Span
  | [] => none
  | e :: more => (e.tooDeep? room).or (Expression.listTooDeep? room more)

end

/-! ## Classes -/

/-- What a class has become: with Unicode only whether anything was put into it counts, without it
the bytes that it holds. -/
structure Members where
  holdsAny : Bool
  bytes : Nat → Bool

namespace Members

def none : Members := ⟨false, fun _ => false⟩

def union (m n : Members) : Members := ⟨m.holdsAny || n.holdsAny, fun b => m.bytes b || n.bytes b⟩

def negate (m : Members) (negated : Bool) : Members := ⟨m.holdsAny, fun b => m.bytes b != negated⟩

def isAscii (m : Members) : Bool := (List.range 256).all fun b => b < 128 || !m.bytes b

/-- Both cases of every letter. -/
def foldCases (m : Members) : Members where
  holdsAny := m.holdsAny
  bytes b :=
    let c := Char.ofNat b
    m.bytes b || (b < 128 && (m.bytes c.toLower.toNat || m.bytes c.toUpper.toNat))

def combine (operator : SetOperator) (m n : Members) : Members where
  holdsAny := m.holdsAny || n.holdsAny
  bytes b :=
    match operator with
    | .intersection => m.bytes b && n.bytes b
    | .difference => m.bytes b && !n.bytes b
    | .symmetricDifference => m.bytes b != n.bytes b

end Members

abbrev Checked := Except Fault

def refuse {α : Type} (cause : Cause) (span : Span) : Checked α := .error ⟨cause, span, none⟩

/-- A class with both cases, if they are asked for: with Unicode only nothing has both. -/
def inBothCases (modes : Modes) (span : Span) (m : Members) : Checked Members :=
  if !modes.insensitive then .ok m
  else if !modes.unicode then .ok m.foldCases
  else if m.holdsAny then refuse .caseTableMissing span
  else .ok m

/-- A class as it is written in full, with both cases and negated where this is asked for. -/
def closeClass (modes : Modes) (span : Span) (negated : Bool) (m : Members) : Checked Members := do
  let m ← inBothCases modes span m
  let m := m.negate negated
  if modes.unicode || m.isAscii then return m else refuse .invalidUtf8 span

/-- A property's name in lower case, without what makes no difference in it. -/
def plainName (name : List Char) : List Char :=
  let folded := name.map Char.toLower
  let (marked, rest) := match folded with
    | 'i' :: 's' :: rest => (true, rest)
    | rest => (false, rest)
  let kept := rest.filter fun c => c ≠ ' ' && c ≠ '_' && c ≠ '-' && c.toNat < 128
  if marked && kept = ['c'] then ['i', 's', 'c'] else kept

/-- No property is known; for three names that could be values this is found out later. -/
def propertyCause : PropertyQuery → Cause
  | .valued => .propertyUnknown
  | .named name =>
    if String.ofList (plainName name) ∈ ["cf", "sc", "lc"] then .propertyValueUnknown
    else .propertyUnknown

def NamedClass.contains (kind : NamedClass) (b : Nat) : Bool :=
  b < 128 &&
    (let c := Char.ofNat b
    match kind with
    | .digit => c.isDigit
    | .space => c = ' ' || ('\t' ≤ c && c ≤ '\r')
    | .word => c.isAlphanum || c = '_')

/-- A class by escape. -/
def namedMembers (modes : Modes) (span : Span) (kind : NamedClass) (negated : Bool) :
    Checked Members :=
  if modes.unicode then refuse .classTableMissing span
  else
    let m := Members.negate ⟨true, kind.contains⟩ negated
    if m.isAscii then .ok m else refuse .invalidUtf8 span

/-- A character that a class may hold; without Unicode it has to be a byte of its own. -/
def memberChar (modes : Modes) (span : Span) (isByte : Bool) (c : Char) : Checked Nat :=
  if modes.unicode || c.toNat < 128 then .ok c.toNat
  else if isByte then refuse .invalidUtf8 span
  else refuse .unicodeNotAllowed span

/-- One item of a class. -/
def Primitive.members (modes : Modes) : Primitive → Checked Members
  | .literal span isByte c => do
    let n ← memberChar modes span isByte c
    return ⟨true, (· = n)⟩
  | .property span query =>
    if modes.unicode then refuse (propertyCause query) span else refuse .unicodeNotAllowed span
  | .named span kind negated => namedMembers modes span kind negated
  | .dot _ | .assertion .. => .ok .none

def rangeMembers (modes : Modes) : (low high : Primitive) → Checked Members
  | .literal lowSpan lowByte low, .literal highSpan highByte high => do
    let low ← memberChar modes lowSpan lowByte low
    let high ← memberChar modes highSpan highByte high
    return ⟨true, fun b => low ≤ b && b ≤ high⟩
  | _, _ => .ok .none

mutual

def CharSet.members (modes : Modes) : CharSet → Checked Members
  | .empty _ => .ok .none
  | .primitive p => p.members modes
  | .range _ low high => rangeMembers modes low high
  | .ascii span contains negated =>
    closeClass modes span negated ⟨true, fun b => b < 128 && contains (Char.ofNat b)⟩
  | .bracketed span negated inner => do
    let m ← inner.members modes
    closeClass modes span negated m
  | .union _ items => CharSet.listMembers modes items
  | .combined _ operator left right => do
    let m ← left.members modes
    let n ← right.members modes
    let n ← inBothCases modes right.span n
    let m ← inBothCases modes left.span m
    return m.combine operator n

def CharSet.listMembers (modes : Modes) : List CharSet → Checked Members
  | [] => .ok .none
  | set :: more => do
    let m ← set.members modes
    let n ← CharSet.listMembers modes more
    return m.union n

end

/-! ## Machines -/

/-- What a part of a pattern becomes: the bytes its machine takes, whether it matches no text, some
text or only the empty text, and whether it asks for the boundary of a word in Unicode. -/
structure Machine where
  bytes : Nat
  needsText : Bool
  takesText : Bool
  asksForWord : Bool
  deriving DecidableEq, Repr

namespace Machine

/-- The size of a state. -/
def stateSize : Nat := 32

/-- The size of a choice between two states. -/
def choiceSize : Nat := stateSize + 8

/-- So many bytes are allowed. -/
def limit : Nat := 10485760

def empty : Machine := ⟨stateSize, false, false, false⟩

/-- Text of so many bytes. -/
def text (length : Nat) : Machine := ⟨length * stateSize, true, true, false⟩

/-- Any one character but a few. -/
def character : Machine := ⟨9 * stateSize + 80, true, true, false⟩

def andThen (m n : Machine) : Machine :=
  ⟨m.bytes + n.bytes, m.needsText || n.needsText, m.takesText || n.takesText,
    m.asksForWord || n.asksForWord⟩

def orElse (m n : Machine) : Machine :=
  ⟨m.bytes + n.bytes + choiceSize, m.needsText && n.needsText, m.takesText || n.takesText,
    m.asksForWord || n.asksForWord⟩

/-- The parentheses of a group, which mark where its text begins and ends. -/
def captured (m : Machine) : Machine := { m with bytes := m.bytes + 2 * stateSize }

/-- Copies for every count; what takes no text is not repeated more than once. -/
def repeated (m : Machine) (low : Nat) (high : Option Nat) : Machine :=
  let (low, high) := if m.takesText then (low, high) else (min low 1, some (min (high.getD 1) 1))
  let bytes := match high with
    | none => max low 1 * m.bytes + (if low = 0 && !m.needsText then 2 else 1) * choiceSize
    | some high =>
      if high = low then max stateSize (low * m.bytes)
      else high * m.bytes + (high - low) * choiceSize + stateSize
  if high = some 0 then empty else ⟨bytes, m.needsText && 0 < low, m.takesText, m.asksForWord⟩

end Machine

def Primitive.machine (modes : Modes) (p : Primitive) : Checked Machine :=
  match p with
  | .literal span isByte c =>
    if !modes.unicode && isByte && 128 ≤ c.toNat then refuse .invalidUtf8 span
    else if modes.insensitive && modes.unicode then refuse .caseTableMissing span
    else .ok (.text c.utf8Size)
  | .dot span => if modes.unicode then .ok .character else refuse .invalidUtf8 span
  | .assertion _ isWordBoundary =>
    .ok { Machine.empty with asksForWord := isWordBoundary && modes.unicode }
  | p => do
    let _ ← p.members modes
    return .text 1

mutual

/-- The machine of a pattern under the modes before it, and the modes behind it. -/
def Expression.machine (modes : Modes) : Expression → Checked (Machine × Modes)
  | .empty _ => .ok (.empty, modes)
  | .flags _ items => .ok (.empty, modes.with items)
  | .primitive p => do
    let m ← p.machine modes
    return (m, modes)
  | .bracketed span negated set => do
    let m ← set.members modes
    let _ ← closeClass modes span negated m
    return (if negated then .character else .text 1, modes)
  | .repetition _ low high inner => do
    let (m, modes) ← inner.machine modes
    return (m.repeated low high, modes)
  | .group _ captures items inner => do
    let (m, _) ← inner.machine (modes.with items)
    return (if captures then m.captured else m, modes)
  | .alternation _ branches => Expression.choiceMachine modes branches
  | .concat _ parts => Expression.rowMachine modes parts

def Expression.rowMachine (modes : Modes) : List Expression → Checked (Machine × Modes)
  | [] => .ok (⟨0, false, false, false⟩, modes)
  | e :: more => do
    let (m, modes) ← e.machine modes
    let (n, modes) ← Expression.rowMachine modes more
    return (m.andThen n, modes)

def Expression.choiceMachine (modes : Modes) : List Expression → Checked (Machine × Modes)
  | [] => .ok (.empty, modes)
  | [e] => e.machine modes
  | e :: more => do
    let (m, modes) ← e.machine modes
    let (n, modes) ← Expression.choiceMachine modes more
    return (m.orElse n, modes)

end

/-- The machine of a whole pattern. -/
def Expression.checked (e : Expression) : Checked Machine :=
  match e.tooDeep? maxNesting with
  | some span => refuse .nestedTooDeep span
  | none => (·.1) <$> e.machine .start

end LoxSyntax.Pattern
