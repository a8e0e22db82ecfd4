import LoxSyntax.Toml.Stamp

/-!
# TOML documents

Statements are read first and then assembled: every table remembers how it came to be, since a
table written under its own header is closed, one that a longer header implied may still be
written, and one that dotted keys made takes dotted keys only.
-/
namespace LoxSyntax.Toml

/-- How a table came to be. -/
inductive Origin
  | header
  | implied
  | dotted
  deriving DecidableEq, Repr

/-- What a key leads to while a document is assembled. -/
inductive Node
  | leaf (value : Value)
  | table (origin : Origin) (entries : List (String × Node))
  | tables (elements : List (List (String × Node)))

abbrev Entries := List (String × Node)

namespace Entries

def get? (es : Entries) (key : String) : Option Node := es.lookup key

/-- Replaces the node of a key, or adds the key at the end. -/
def put (es : Entries) (key : String) (node : Node) : Entries :=
  match es with
  | [] => [(key, node)]
  | (k, n) :: more => if k = key then (k, node) :: more else (k, n) :: put more key node

/-- Adds a key that is new. -/
def add (es : Entries) (key : String) (node : Node) : Option Entries :=
  if (es.get? key).isSome then none else some (put es key node)

/-- Writes a key with dots: the tables on the way are made by dots or implied, the last of them by
dots. -/
def putDotted (es : Entries) : (path : List String) → (key : String) → Value → Option Entries
  | [], key, value => es.add key (.leaf value)
  | [part], key, value =>
    match es.get? part with
    | none => some (put es part (.table .dotted [(key, .leaf value)]))
    | some (.table .dotted inner) => do
      let inner ← Entries.add inner key (.leaf value)
      some (put es part (.table .dotted inner))
    | some _ => none
  | part :: path, key, value =>
    match es.get? part with
    | none => do
      let inner ← putDotted [] path key value
      some (put es part (.table .dotted inner))
    | some (.table .header _) | some (.leaf _) => none
    | some (.table origin inner) => do
      let inner ← putDotted inner path key value
      some (put es part (.table origin inner))
    | some (.tables elements) =>
      match elements.getLast? with
      | none => none
      | some last => do
        let last ← putDotted last path key value
        some (put es part (.tables (elements.dropLast ++ [last])))

/-- Changes the table that a header's path leads to, with tables implied where there are none; of
an array of tables the last is meant. -/
def modifyAt (f : Entries → Option Entries) (es : Entries) : (path : List String) → Option Entries
  | [] => f es
  | part :: path =>
    match es.get? part with
    | none => do
      let inner ← modifyAt f [] path
      some (put es part (.table .implied inner))
    | some (.leaf _) => none
    | some (.table origin inner) => do
      let inner ← modifyAt f inner path
      some (put es part (.table origin inner))
    | some (.tables elements) =>
      match elements.getLast? with
      | none => none
      | some last => do
        let last ← modifyAt f last path
        some (put es part (.tables (elements.dropLast ++ [last])))

/-- The table that a header's path leads to, if it is there. -/
def tableAt (es : Entries) : (path : List String) → Entries
  | [] => es
  | part :: path =>
    match es.get? part with
    | some (.table _ inner) => tableAt inner path
    | some (.tables elements) => (elements.getLast?.map (tableAt · path)).getD []
    | _ => []

end Entries

mutual

def Node.toValue : Node → Value
  | .leaf value => value
  | .table _ entries => .table (Node.entriesToValues entries)
  | .tables elements => .array (Node.elementsToValues elements)

def Node.entriesToValues : List (String × Node) → List (String × Value)
  | [] => []
  | (key, node) :: more => (key, node.toValue) :: Node.entriesToValues more

def Node.elementsToValues : List (List (String × Node)) → List Value
  | [] => []
  | element :: more => .table (Node.entriesToValues element) :: Node.elementsToValues more

end

mutual

/-- A value with at most `depth` levels of nesting. -/
def value : (bound depth : Nat) → Reader Value
  | 0, _ => failure
  | bound + 1, depth => do
    match ← ahead, depth with
    | some '"', _ | some '\'', _ => (Value.scalar <| .text ·) <$> text
    | some '[', inner + 1 => do
      mark "["
      let items ← arrayRest bound inner
      pure (.array items)
    | some '\x7b', inner + 1 => do
      mark "\x7b"
      spaces
      match ← ahead with
      | some '\x7d' => do
        mark "\x7d"
        pure (.table [])
      | _ => do
        let entries ← inlineRest bound inner []
        pure (.table (Node.entriesToValues entries))
    | some 't', _ => mark "true" *> pure (.scalar (.boolean true))
    | some 'f', _ => mark "false" *> pure (.scalar (.boolean false))
    | _, _ =>
      .scalar <$> ((.dateTime <$> dateTime) <|> (.float <$> float) <|> (.integer <$> integer))

/-- Items up to the closing bracket, with a comma after each but possibly the last. -/
def arrayRest : (bound depth : Nat) → Reader (List Value)
  | 0, _ => failure
  | bound + 1, depth => do
    blankLines (bound + 1)
    match ← ahead with
    | some ']' => mark "]" *> pure []
    | _ => do
      let item ← value bound depth
      blankLines (bound + 1)
      match ← ahead with
      | some ',' => do
        mark ","
        let more ← arrayRest bound depth
        pure (item :: more)
      | _ => mark "]" *> pure [item]

/-- The fields of an inline table up to its closing brace. -/
def inlineRest : (bound depth : Nat) → (es : List (String × Node)) → Reader (List (String × Node))
  | 0, _, _ => failure
  | bound + 1, depth, es => do
    let (path, name) ← key
    mark "="
    spaces
    let found ← value bound depth
    spaces
    let es ← StateT.lift (Entries.putDotted es path name found)
    match ← ahead with
    | some ',' => do
      mark ","
      inlineRest bound depth es
    | _ => mark "\x7d" *> pure es

end

inductive Statement
  | field (path : List String) (name : String) (value : Value)
  | table (path : List String) (name : String)
  | element (path : List String) (name : String)

/-- One statement with the end of its line. -/
def statement (bound : Nat) : Reader Statement :=
  (do
    mark "[["
    let (path, name) ← key
    mark "]]"
    lineEnd
    pure (.element path name)) <|>
  (do
    mark "["
    let (path, name) ← key
    mark "]"
    lineEnd
    pure (.table path name)) <|>
  (do
    let (path, name) ← key
    mark "="
    spaces
    let found ← value bound maxNesting
    lineEnd
    pure (.field path name found))

/-- All statements up to the end of the text. -/
def statements : (bound : Nat) → Reader (List Statement)
  | 0 => failure
  | bound + 1 => do
    blankLines (bound + 1)
    match ← ahead with
    | none => pure []
    | some _ => do
      let first ← statement (bound + 1)
      let more ← statements bound
      pure (first :: more)

/-- The table that the statements after a header fill. -/
inductive Place
  | root
  | table (path : List String) (name : String)
  | element (path : List String) (name : String)

/-- A document under assembly: the finished tables, and the open one with its place. -/
structure Assembly where
  root : Entries
  place : Place
  current : Entries

namespace Assembly

/-- Puts the open table into its place. -/
def close (a : Assembly) : Option Entries :=
  match a.place with
  | .root => some a.current
  | .table path name =>
    Entries.modifyAt (fun es => some (Entries.put es name (.table .header a.current))) a.root path
  | .element path name =>
    Entries.modifyAt (fun es =>
      match Entries.get? es name with
      | none => some (Entries.put es name (.tables [a.current]))
      | some (.tables elements) => some (Entries.put es name (.tables (elements ++ [a.current])))
      | some _ => none) a.root path

/-- A table may be opened if it is new, or so far only implied; then it leaves its place and will
stand behind the entries written before it. -/
def openTable (root : Entries) (path : List String) (name : String) : Option Assembly :=
  match Entries.get? (Entries.tableAt root path) name with
  | none => some ⟨root, .table path name, []⟩
  | some (.table .implied inner) => do
    let root ← Entries.modifyAt (fun es => some (es.filter (·.1 ≠ name))) root path
    some ⟨root, .table path name, inner⟩
  | some _ => none

def add (a : Assembly) : Statement → Option Assembly
  | .field path name value => do
    let current ← Entries.putDotted a.current path name value
    some { a with current }
  | .table path name => do
    let root ← a.close
    openTable root path name
  | .element path name => do
    let root ← a.close
    some ⟨root, .element path name, []⟩

end Assembly

/-- The entries of a document, if it is one; a byte order mark in front is skipped. A document that
is a date as a whole has no entries. -/
def parse (source : String) : Option (List (String × Value)) := do
  let text := joinLineEnds source.toList
  let text := if text.head? = some '\ufeff' then text.tail else text
  let (found, _) ← statements (2 * text.length + 2) text
  let assembly ← found.foldlM Assembly.add ⟨[], .root, []⟩
  let root ← assembly.close
  match ← (Value.table (Node.entriesToValues root)).resolve? with
  | .table entries => some entries
  | _ => none

end LoxSyntax.Toml
