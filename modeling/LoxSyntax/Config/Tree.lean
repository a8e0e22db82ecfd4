import LoxSyntax.Toml.Value

/-!
# Configuration trees

Layers of configuration are merged table by table; names are equal up to case. A table on top of
something else replaces it as soon as it has an entry, and whatever is no table replaces what it
meets.
-/
namespace LoxSyntax.Config

/-- A value with the file it comes from, where errors speak of it. -/
inductive Node
  | nothing
  | scalar (value : Toml.Scalar)
  | array (origin : Option String) (items : List Node)
  | table (origin : Option String) (entries : List (String × Node))
  deriving Repr

mutual

def Node.ofToml (origin : Option String) (v : Toml.Value) : Node :=
  match v with
  | .scalar value => .scalar value
  | .array items => .array origin (Node.ofItems origin items)
  | .table entries => .table origin (Node.ofEntries origin entries)

def Node.ofItems (origin : Option String) (items : List Toml.Value) : List Node :=
  match items with
  | [] => []
  | item :: more => Node.ofToml origin item :: Node.ofItems origin more

def Node.ofEntries (origin : Option String) (entries : List (String × Toml.Value)) :
    List (String × Node) :=
  match entries with
  | [] => []
  | (key, value) :: more => (key, Node.ofToml origin value) :: Node.ofEntries origin more

end

/-- Names are compared in lower case; the names that a configuration knows are ASCII. -/
def foldCase (name : String) : String := String.ofList (name.toList.map Char.toLower)

/-- Replaces the entry of a name, or adds it at the end. -/
def putEntry (entries : List (String × Node)) (name : String) (node : Node) :
    List (String × Node) :=
  match entries with
  | [] => [(name, node)]
  | (k, n) :: more => if k = name then (k, node) :: more else (k, n) :: putEntry more name node

private theorem lookup_putEntry (entries : List (String × Node)) (name other : String)
    (node : Node) :
    (putEntry entries name node).lookup other =
      if other = name then some node else entries.lookup other := by
  induction entries with
  | nil =>
    by_cases h : other = name
    · simp [putEntry, h]
    · have hb : (other == name) = false := by simpa using h
      simp [putEntry, List.lookup_cons, h, hb]
  | cons e more ih =>
    obtain ⟨k, n⟩ := e
    by_cases hk : k = name
    · subst hk
      by_cases h : other = k
      · simp [putEntry, h]
      · have hb : (other == k) = false := by simpa using h
        simp [putEntry, List.lookup_cons, h, hb]
    · by_cases h : other = k
      · subst h
        simp [putEntry, hk]
      · have hb : (other == k) = false := by simpa using h
        simp [putEntry, List.lookup_cons, hk, hb, ih]

namespace Node

def emptyTable : Node := .table none []

def get? (node : Node) (name : String) : Option Node :=
  match node with
  | table _ entries => entries.lookup (foldCase name)
  | _ => none

def put (node : Node) (name : String) (value : Node) : Node :=
  match node with
  | table origin entries => table origin (putEntry entries (foldCase name) value)
  | _ => table none [(foldCase name, value)]

theorem get?_put (node : Node) (name other : String) (value : Node) :
    (node.put name value).get? other =
      if foldCase other = foldCase name then some value else node.get? other := by
  cases node with
  | table origin entries => exact lookup_putEntry entries _ _ value
  | _ =>
    by_cases h : foldCase other = foldCase name
    · simp [put, get?, h]
    · have hb : (foldCase other == foldCase name) = false := by simpa using h
      simp [put, get?, List.lookup_cons, h, hb]

mutual

/-- Lays a value over what a name has in a table; tables are merged entry by entry. -/
def merge (root : Node) (name : String) (value : Node) : Node :=
  match value with
  | .table _ entries => root.put name (mergeAll ((root.get? name).getD emptyTable) entries)
  | .nothing => root.put name .nothing
  | .scalar s => root.put name (.scalar s)
  | .array origin items => root.put name (.array origin items)

/-- Lays all entries over a table. -/
def mergeAll (target : Node) (entries : List (String × Node)) : Node :=
  match entries with
  | [] => target
  | (name, value) :: more => mergeAll (target.merge name value) more

end

end Node

end LoxSyntax.Config
