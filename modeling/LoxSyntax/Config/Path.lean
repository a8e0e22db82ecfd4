import LoxSyntax.Config.Tree
import LoxSyntax.Number.Digits

/-!
# Keys that are paths

A top-level key may lead into nested tables by dots and into arrays by numbers in brackets. A key
that is no such path is a plain name.
-/
namespace LoxSyntax.Config

open Number (isInt64 valueInBase)

inductive Step
  | name (text : String)
  | index (position : Int)
  deriving DecidableEq, Repr

def isNameChar (c : Char) : Bool := c.isAlphanum || c = ' ' || c = '_' || c = '-'

def isGap (c : Char) : Bool := c = ' ' || c = '\t'

/-- A name in front of a text. -/
def nameStep? (text : List Char) : Option (Step × List Char) :=
  let found := text.takeWhile isNameChar
  if found.isEmpty then none
  else some (.name (String.ofList found), text.dropWhile isNameChar)

/-- A number of 64 bits and a closing bracket in front of a text. -/
def indexStep? (text : List Char) : Option (Step × List Char) :=
  let text := text.dropWhile isGap
  let (negative, text) := match text with
    | '-' :: more => (true, more)
    | text => (false, text)
  let found := text.takeWhile Char.isDigit
  let n := Int.ofNat (valueInBase 10 found)
  let n := if negative then -n else n
  match (text.dropWhile Char.isDigit).dropWhile isGap with
  | ']' :: rest =>
    if !found.isEmpty && isInt64 n then some (.index n, rest) else none
  | _ => none

/-- The steps after the first. -/
def moreSteps? : (bound : Nat) → List Char → Option (List Step)
  | _, [] => some []
  | 0, _ => none
  | bound + 1, '.' :: text => do
    let (step, rest) ← nameStep? text
    let more ← moreSteps? bound rest
    some (step :: more)
  | bound + 1, '[' :: text => do
    let (step, rest) ← indexStep? text
    let more ← moreSteps? bound rest
    some (step :: more)
  | _, _ => none

/-- The path that a key is. -/
def pathOfKey (key : String) : List Step :=
  let steps := do
    let (first, rest) ← nameStep? key.toList
    let more ← moreSteps? rest.length rest
    some (first :: more)
  steps.getD [.name key]

/-- The place of an index in an array of `size` items; a negative one counts from the end. -/
def placeOf (position : Int) (size : Nat) : Nat :=
  if position < 0 then size - position.natAbs else position.toNat

/-- Changes one item, with places made up to it. -/
def modifyItem (items : List Node) (place : Nat) (f : Node → Node) : List Node :=
  let items := items ++ List.replicate (place + 1 - items.length) .nothing
  items.modify place f

def Node.items : Node → List Node
  | array _ items => items
  | _ => []

def Node.arrayOrigin : Node → Option String
  | array origin _ => origin
  | _ => none

/-- Lays a value over what a path leads to, with tables and arrays made on the way. -/
def Node.set (root : Node) : (path : List Step) → (value : Node) → Node
  | [], _ => root
  | [.name name], value => root.merge name value
  | [.index position], value =>
    let items := root.items
    .array root.arrayOrigin (modifyItem items (placeOf position items.length) fun _ => value)
  | .name name :: path, value =>
    root.put name (Node.set ((root.get? name).getD .nothing) path value)
  | .index position :: path, value =>
    let items := root.items
    .array root.arrayOrigin
      (modifyItem items (placeOf position items.length) fun item => Node.set item path value)

end LoxSyntax.Config
