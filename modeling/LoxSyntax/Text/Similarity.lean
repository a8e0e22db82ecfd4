import LoxSyntax.Number.Binary64

/-!
# How alike two words are

Characters of two words match if they are equal and stand at most some distance apart. The measure
is the mean of three shares: matches in the first word, matches in the second, and matches that keep
their order. It is computed in double precision, step by step.
-/
namespace LoxSyntax.Text

open Number (Binary64)

/-- Takes the first free place from `low` up to `high` that holds this character. -/
def takePlace (low high : Nat) (c : Char) : (place : Nat) → List (Char × Bool) →
    Option (List (Char × Bool))
  | _, [] => none
  | place, (d, taken) :: more =>
    if low ≤ place && place < high && !taken && d = c then some ((d, true) :: more)
    else (takePlace low high c (place + 1) more).map ((d, taken) :: ·)

/-- The characters that find a place within reach of their own, and the places with those taken. -/
def matchPlaces (reach : Nat) : (place : Nat) → List Char → List (Char × Bool) →
    List Char × List (Char × Bool)
  | _, [], places => ([], places)
  | place, c :: more, places =>
    match takePlace (place - reach) (place + reach + 1) c 0 places with
    | some places =>
      let (found, places) := matchPlaces reach (place + 1) more places
      (c :: found, places)
    | none => matchPlaces reach (place + 1) more places

/-- One for equal words, zero for words without a match. -/
def similarity (a b : List Char) : Binary64 :=
  let reach := max a.length b.length / 2 - 1
  let (left, places) := matchPlaces reach 0 a (b.map (·, false))
  let right := places.filterMap fun (c, taken) => if taken then some c else none
  let count := left.length
  let swaps := (left.zip right).countP (fun (c, d) => c ≠ d) / 2
  if count = 0 then .zero
  else
    let shares := (Binary64.ofRatio count a.length).add (.ofRatio count b.length)
    (shares.add (.ofRatio (count - swaps) count)).divide 3

/-- The word most like a given one, if any is more than seven tenths like it; of two equally like
the later. -/
def mostSimilar? (word : String) (words : List String) : Option String :=
  let best := words.foldl (fun best candidate =>
    let likeness := (similarity word.toList candidate.toList).units
    if likeness ≤ (Binary64.ofRatio 7 10).units then best
    else
      match best with
      | some (most, _) => if most ≤ likeness then some (likeness, candidate) else best
      | none => some (likeness, candidate)) (none : Option (Nat × String))
  best.map (·.2)

end LoxSyntax.Text
