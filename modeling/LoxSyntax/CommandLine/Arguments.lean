import LoxSyntax.Text.Screen
import LoxSyntax.Text.Similarity

/-!
# Command-line arguments

Two options with a value, two requests for information, and any number of scripts among them. An
option's value may be attached or follow; whether it was given, and given only once, is checked
when the next argument that is no value arrives. A fault is told with a usage line of the arguments
understood so far.
-/
namespace LoxSyntax.CommandLine

inductive Setting
  | format
  | config
  deriving DecidableEq, Repr

def Setting.name : Setting → String
  | format => "format"
  | config => "config"

/-- What an argument may be. -/
inductive Role
  | setting (s : Setting)
  | help
  | version
  | script
  deriving DecidableEq, Repr

namespace Role

/-- The role as messages show it, a script as one that has to be given. -/
def shown : Role → String
  | setting s => "--" ++ s.name ++ " <" ++ s.name ++ ">"
  | help => "--help"
  | version => "--version"
  | script => "<script>..."

def ofLongName? : String → Option Role
  | "format" => some (setting .format)
  | "config" => some (setting .config)
  | "help" => some help
  | "version" => some version
  | _ => none

def ofShortName? : Char → Option Role
  | 'f' => some (setting .format)
  | 'c' => some (setting .config)
  | 'h' => some help
  | 'V' => some version
  | _ => none

def longNames : List String := ["format", "config", "help", "version"]

end Role

/-- Each role once, in the order of its first use. -/
def addRole (roles : List Role) (role : Role) : List Role :=
  if role ∈ roles then roles else roles ++ [role]

/-- How the command is used by one who uses these roles: with their options, then scripts. -/
def usageLine (roles : List Role) : String :=
  let options := roles.filter (· ≠ .script)
  "Usage: lox " ++
    (if roles.isEmpty then "[OPTIONS] "
      else String.join (options.map fun role => role.shown ++ " ")) ++
    (if Role.script ∈ roles then Role.script.shown else "[script]...")

structure Arguments where
  scripts : List String
  format : Option String
  config : Option String
  deriving DecidableEq, Repr

namespace Arguments

def empty : Arguments := ⟨[], none, none⟩

def get? (a : Arguments) : Setting → Option String
  | .format => a.format
  | .config => a.config

def put (a : Arguments) (s : Setting) (value : String) : Arguments :=
  match s with
  | .format => { a with format := some value }
  | .config => { a with config := some value }

def addScripts (a : Arguments) (scripts : List String) : Arguments :=
  { a with scripts := a.scripts ++ scripts }

end Arguments

inductive UsageError
  | unexpected (argument : String) (similar : Option String) (roles : List Role)
  | unexpectedValue (value : String) (role : Role) (roles : List Role)
  | missingValue (setting : Setting)
  | repeated (setting : Setting)
  deriving DecidableEq, Repr

def UsageError.message : UsageError → String
  | unexpected argument similar roles =>
    let argument := Text.screenText argument
    let tip := match similar with
      | some name => "a similar argument exists: '--" ++ name ++ "'"
      | none => "to pass '" ++ argument ++ "' as a value, use '-- " ++ argument ++ "'"
    "error: unexpected argument '" ++ argument ++ "' found\n\n  tip: " ++ tip ++ "\n\n" ++
      usageLine roles ++ closing
  | unexpectedValue value role roles =>
    "error: unexpected value '" ++ Text.screenText value ++ "' for '" ++ role.shown ++
      "' found; no more were expected\n\n" ++ usageLine roles ++ closing
  | missingValue setting =>
    "error: a value is required for '" ++ (Role.setting setting).shown ++
      "' but none was supplied" ++ closing
  | repeated setting =>
    "error: the argument '" ++ (Role.setting setting).shown ++
      "' cannot be used multiple times\n\n" ++ usageLine [] ++ closing
where
  closing : String := "\n\nFor more information, try '--help'.\n"

/-- Why reading the arguments ends without a run. -/
inductive Stop
  | help
  | version
  | usage (cause : UsageError)
  deriving DecidableEq, Repr

def helpText : String :=
  "Scan and parse Lox expressions\n\n" ++ usageLine [] ++ "\n\nArguments:\n" ++
  "  [script]...  Path to a Lox source file; omit to start the prompt\n\nOptions:\n" ++
  "  -f, --format <format>  Output format (e.g., 'ast-sexpr', 'token-simple', 'ast-json')\n" ++
  "  -c, --config <config>  Configuration file layered over the defaults\n" ++
  "  -h, --help             Print help\n" ++
  "  -V, --version          Print version\n"

def versionText : String := "lox 0.1.0\n"

/-- What the latest arguments are, before it is checked. -/
inductive Pending
  | nothing
  | setting (s : Setting) (value : Option String)
  | scripts (texts : List String)
  deriving DecidableEq, Repr

/-- The arguments so far, the roles they have, and what is still to be checked. -/
structure Progress where
  found : Arguments
  roles : List Role
  pending : Pending

namespace Progress

def start : Progress := ⟨.empty, [], .nothing⟩

/-- The roles once what is pending counts too. An option without its value does not count, and one
that is repeated counts no more. -/
def rolesSettled (p : Progress) : List Role :=
  match p.pending with
  | .nothing | .setting _ none => p.roles
  | .setting s (some _) =>
    if .setting s ∈ p.roles then p.roles.erase (.setting s) else p.roles ++ [.setting s]
  | .scripts _ => addRole p.roles .script

/-- Checks what is pending. -/
def settle (p : Progress) : Except Stop Progress :=
  match p.pending with
  | .nothing => .ok p
  | .setting s none => .error (.usage (.missingValue s))
  | .setting s (some value) =>
    if (p.found.get? s).isSome then .error (.usage (.repeated s))
    else .ok ⟨p.found.put s value, p.rolesSettled, .nothing⟩
  | .scripts texts => .ok ⟨p.found.addScripts texts, p.rolesSettled, .nothing⟩

/-- Takes an option; a value attached to it is checked at once. -/
def option (p : Progress) (s : Setting) (value : Option String) : Except Stop Progress := do
  let p ← p.settle
  let p := { p with pending := .setting s value }
  if value.isSome then p.settle else return p

/-- Ends with a request for information, if what is pending is in order. -/
def inform (p : Progress) (stop : Stop) : Except Stop Progress := do
  let _ ← p.settle
  throw stop

def script (p : Progress) (text : String) : Except Stop Progress :=
  match p.pending with
  | .scripts texts => .ok { p with pending := .scripts (texts ++ [text]) }
  | _ => do
    let p ← p.settle
    return { p with pending := .scripts [text] }

/-- An argument without dashes: the value that an option waits for, else a script. -/
def plain (p : Progress) (text : String) : Except Stop Progress :=
  match p.pending with
  | .setting s none => .ok { p with pending := .setting s (some text) }
  | _ => p.script text

/-- An argument that takes no value, with or without one. -/
def flag (p : Progress) (role : Role) (stop : Stop) : Option String → Except Stop Progress
  | none => p.inform stop
  | some value => .error (.usage (.unexpectedValue value role (p.roles ++ [role])))

/-- An argument that is none; the most similar one is taken as meant. -/
def unknown (p : Progress) (name : String) : Except Stop Progress :=
  let similar := Text.mostSimilar? name Role.longNames
  let roles := match similar.bind Role.ofLongName? with
    | some role => addRole p.rolesSettled role
    | none => p.rolesSettled
  .error (.usage (.unexpected ("--" ++ name) similar roles))

/-- An argument after two dashes. -/
def long (p : Progress) (text : List Char) : Except Stop Progress :=
  let name := String.ofList (text.takeWhile (· ≠ '='))
  let value := match text.dropWhile (· ≠ '=') with
    | _ :: value => some (String.ofList value)
    | [] => none
  match Role.ofLongName? name with
  | some (.setting s) => p.option s value
  | some .help => p.flag .help .help value
  | some .version => p.flag .version .version value
  | some .script | none => p.unknown name

/-- The text attached to a short option, without an equals sign in front. -/
def attached : List Char → Option String
  | [] => none
  | '=' :: value => some (String.ofList value)
  | value => some (String.ofList value)

/-- An argument after one dash. -/
def short (p : Progress) : List Char → Except Stop Progress
  | [] => p.plain "-"
  | c :: value =>
    match Role.ofShortName? c with
    | some (.setting s) => p.option s (attached value)
    | some .help => p.inform .help
    | some .version => p.inform .version
    | some .script | none => .error (.usage (.unexpected (String.ofList ['-', c]) none []))

end Progress

/-- Reads the arguments after those already seen. -/
def readFrom (p : Progress) : List String → Except Stop Arguments
  | [] => (·.found) <$> p.settle
  | argument :: more =>
    match argument.toList with
    | ['-', '-'] => do
      let p ← more.foldlM Progress.script p
      (·.found) <$> p.settle
    | '-' :: '-' :: text => do
      let p ← p.long text
      readFrom p more
    | '-' :: text => do
      let p ← p.short text
      readFrom p more
    | _ => do
      let p ← p.plain argument
      readFrom p more

def readArguments (arguments : List String) : Except Stop Arguments := readFrom .start arguments

end LoxSyntax.CommandLine
