import LoxSyntax.Logging.Level
import LoxSyntax.Pattern.Report

/-!
# What a log level asks for

A level is a list of directives: a level for all, the name of a part of the program, or such a name
with a level, and behind a slash a pattern that messages have to match. What cannot be read is left
out with a warning. For each part the directive with the longest name that its own starts with
decides.
-/
namespace LoxSyntax.Logging

open Text (trim)

/-- A level for the parts of the program whose names start so, or for all. -/
structure Directive where
  name : Option (List Char)
  level : Level
  deriving DecidableEq, Repr

/-- A directive, or what is wrong with it. -/
def readDirective (text : List Char) : Except (List Char) Directive :=
  match text.splitOn '=' with
  | [name] =>
    match Level.ofText? name with
    | some level => .ok ⟨none, level⟩
    | none => .ok ⟨some name, .trace⟩
  | [name, level] =>
    let level := trim level
    if level.isEmpty then .ok ⟨some name, .trace⟩
    else
      match Level.ofText? level with
      | some level => .ok ⟨some name, level⟩
      | none => .error level
  | _ => .error text

/-- The directives between the commas of a text. -/
def readDirectives (text : List Char) : List (Except (List Char) Directive) :=
  (((text.splitOn ',').map trim).filter (!·.isEmpty)).map readDirective

def faultOf? : Except (List Char) Directive → Option (List Char)
  | .error fault => some fault
  | .ok _ => none

/-- What is wrong with a level, in order. -/
def faults (level : String) : List String :=
  let quote (text : List Char) := "invalid logging spec '" ++ String.ofList text ++ "'"
  match level.toList.splitOn '/' with
  | directives :: patterns =>
    if 1 < patterns.length then [quote level.toList ++ " (too many '/'s)"]
    else
      ((readDirectives directives).filterMap faultOf?).map quote ++
        (patterns.filterMap Pattern.refusal?).map ("invalid regex filter - " ++ ·)
  | [] => []

/-- What a run says of its log level before anything else. -/
def warnings (level : String) : String :=
  String.join ((faults level).map fun fault => "warning: " ++ fault ++ ", ignoring it\n")

/-- A directive takes the place of the one with its name, or comes last. -/
def Directive.addTo (d : Directive) (ds : List Directive) : List Directive :=
  if ds.any (·.name = d.name) then ds.map fun e => if e.name = d.name then d else e else ds ++ [d]

/-- The directives of a level that can be read, one for each name. -/
def directives (level : String) : List Directive :=
  match level.toList.splitOn '/' with
  | directives :: patterns =>
    if 1 < patterns.length then []
    else ((readDirectives directives).filterMap (·.toOption)).foldl (fun ds d => d.addTo ds) []
  | [] => []

/-- Whether a directive is for the part of this name. -/
def Directive.fits (part : String) (d : Directive) : Bool := d.name.all (·.isPrefixOf part.toList)

def Directive.width (d : Directive) : Nat := d.name.elim 0 List.length

/-- The last of the longest names decides. -/
def decisive? (part : String) (ds : List Directive) : Option Directive :=
  (ds.filter (·.fits part)).foldl
    (fun best d => if best.all (·.width ≤ d.width) then some d else best) none

/-- What a level asks of a part: without any directive errors, without one that fits nothing. -/
def asked (level part : String) : Level :=
  let ds := directives level
  if ds.isEmpty then .error else (decisive? part ds).elim .off (·.level)

/-- Whether an event of a part may be written; a pattern can only hold back more. -/
def passes (level part : String) (event : Level) : Bool := event.rank ≤ (asked level part).rank

end LoxSyntax.Logging
