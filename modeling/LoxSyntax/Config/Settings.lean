import LoxSyntax.Config.Path
import LoxSyntax.Directory
import LoxSyntax.Text.Quoted
import LoxSyntax.Toml.Document

/-!
# Settings from layers of configuration

Built-in defaults lie at the bottom; files follow in order, each read whole before it is merged;
an output format given by itself comes last. A file that is not required may be missing or
unreadable, but what is read has to be a document.
-/
namespace LoxSyntax

/-- What a configuration decides. -/
structure Settings where
  prompt : String
  format : String
  level : String
  deriving DecidableEq, Repr

namespace Config

inductive ConfigError
  | badSyntax (file : String)
  | notFound (name : String)
  | unreadable (cause : ReadError)
  | notText (found : String) (key : String) (origin : Option String)
  | notSection (found : String) (expected : String)
  | noItem (expected : String)
  | missing (name : String)
  deriving DecidableEq, Repr

/-- What is said of an error. Of a file that is no document it is only the name: where and why is
for a parser of documents to tell. -/
def ConfigError.message : ConfigError → String
  | badSyntax file => "TOML parse error in " ++ file
  | notFound name => "configuration file \"" ++ name ++ "\" not found"
  | unreadable cause => cause.message
  | notText found key origin =>
    "invalid type: " ++ found ++ ", expected a string for key \x60" ++ key ++ "\x60" ++
      origin.elim "" (" in " ++ ·)
  | notSection found expected => "invalid type: " ++ found ++ ", expected struct " ++ expected
  | noItem expected => "invalid length 0, expected struct " ++ expected ++ " with 1 element"
  | missing name => "missing field \x60" ++ name ++ "\x60"

/-- The file of the working directory that is read without being asked for. -/
def projectFile : String := "lox.toml"

/-- A file to be laid over what lies below. -/
structure Layer where
  file : String
  required : Bool
  deriving DecidableEq, Repr

/-- The settings before any file, as a document. -/
def defaults : List (String × Toml.Value) :=
  [("repl", .table [("prompt", .scalar (.text "> "))]),
    ("output", .table [("format", .scalar (.text "ast-sexpr"))]),
    ("logging", .table [("level", .scalar (.text "warn"))])]

/-- Lays the entries of a document over a tree; its top-level keys may be paths. -/
def overlay (origin : Option String) (entries : List (String × Toml.Value)) (root : Node) : Node :=
  entries.foldl (fun root (key, value) => root.set (pathOfKey key) (.ofToml origin value)) root

/-- A path as errors show it. -/
def shownPath (path : String) : String :=
  "/".intercalate ((namedParts path).map String.ofList)

/-- A file's name with the usual ending behind it; a path that ends in two dots has none. -/
def withEnding? (name : String) : Option String :=
  let parts := ((pathParts name).reverse.dropWhile isSelfPart).reverse
  if parts.getLast?.any (· ≠ parentPart) then
    some ("/".intercalate (parts.map String.ofList) ++ ".toml")
  else none

/-- The paths at which a file is looked for, in order. -/
def candidates (name : String) : List String := name :: (withEnding? name).toList

/-- The first file among the candidates, with the path found. -/
def locate (d : Directory) (name : String) : Option (String × Entry) :=
  (candidates name).findSome? fun path => (d.file? path).map (path, ·)

/-- The text of a configuration file and the path found. -/
def readFile (d : Directory) (name : String) : Except ConfigError (String × String) :=
  match locate d name with
  | none => .error (.notFound name)
  | some (path, entry) =>
    match entry.readText with
    | .ok text => .ok (shownPath path, text)
    | .error cause => .error (.unreadable cause)

/-- The tree with one more layer. -/
def Layer.apply (d : Directory) (root : Node) (layer : Layer) : Except ConfigError Node :=
  match readFile d layer.file with
  | .error e => if layer.required then .error e else .ok root
  | .ok (path, text) =>
    match Toml.parse text with
    | none => .error (.badSyntax path)
    | some entries => .ok (overlay (some path) entries root)

/-- What errors call a value. -/
def Node.describe : Node → String
  | .nothing => "unit value"
  | .scalar (.text s) | .scalar (.dateTime s) => "string " ++ Text.quoted s
  | .scalar (.integer n) => "integer \x60" ++ Toml.integerText n ++ "\x60"
  | .scalar (.float x) =>
    let shown := Number.Layout.display.write x
    let shown := if x.isFinite && !shown.contains '.' then shown ++ ".0" else shown
    "floating point \x60" ++ shown ++ "\x60"
  | .scalar (.boolean b) => "boolean \x60" ++ (Toml.Scalar.boolean b).asText ++ "\x60"
  | .array _ _ => "sequence"
  | .table _ _ => "map"

/-- A scalar as a text. -/
def Node.asText (node : Node) (key : String) : Except ConfigError String :=
  match node with
  | .scalar value => .ok value.asText
  | .array origin _ => .error (.notText node.describe key origin)
  | .table origin _ => .error (.notText node.describe key origin)
  | .nothing => .error (.notText node.describe key none)

/-- The one setting of a section; the first item of an array stands in for it. -/
def readSetting (root : Node) (part name expected : String) : Except ConfigError String :=
  match root.get? part with
  | none => .error (.missing part)
  | some (.table origin entries) =>
    match (Node.table origin entries).get? name with
    | none => .error (.missing name)
    | some node => node.asText (part ++ "." ++ name)
  | some (.array _ (item :: _)) => item.asText (part ++ "[0]")
  | some (.array _ []) => .error (.noItem expected)
  | some node => .error (.notSection node.describe expected)

def readSettings (root : Node) : Except ConfigError Settings := do
  let prompt ← readSetting root "repl" "prompt" "ReplConfig"
  let format ← readSetting root "output" "format" "OutputConfig"
  let level ← readSetting root "logging" "level" "LoggingConfig"
  return ⟨prompt, format, level⟩

/-- The settings of the defaults, the layers in order, and an output format above them all. -/
def load (d : Directory) (layers : List Layer) (format : Option String) :
    Except ConfigError Settings := do
  let root ← layers.foldlM (Layer.apply d) (overlay none defaults .emptyTable)
  let root := match format with
    | some format => root.set [.name "output", .name "format"] (.scalar (.text format))
    | none => root
  readSettings root

end Config

end LoxSyntax
