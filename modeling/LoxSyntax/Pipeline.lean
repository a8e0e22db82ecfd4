import LoxSyntax.Data.Json
import LoxSyntax.Data.Yaml
import LoxSyntax.Directory
import LoxSyntax.Lexing.Scan
import LoxSyntax.Parsing.Parser

/-!
# From source text to output

A specification says how far to go, to tokens or to a tree, and how to write the result. Faults of
the source go to the reporter; an error is only a specification that cannot be met, a file that
cannot be read or a value without a data form.
-/
namespace LoxSyntax

open Lexing (scan)

inductive Stage
  | token
  | ast
  deriving DecidableEq, Repr

inductive Format
  | simple
  | json
  | yaml
  | sexpr
  deriving DecidableEq, Repr

def Stage.name : Stage → String
  | token => "token"
  | ast => "ast"

def Format.name : Format → String
  | simple => "simple"
  | json => "json"
  | yaml => "yaml"
  | sexpr => "sexpr"

def Stage.ofName? (text : String) : Option Stage := [token, ast].find? (·.name == text)

def Format.ofName? (text : String) : Option Format :=
  [simple, json, yaml, sexpr].find? (·.name == text)

/-- Why a specification is refused. -/
inductive SpecError
  | noSeparator (text : String)
  | unknownStage (text : String)
  | unknownFormat (text : String)
  | sexprNeedsTree
  | simpleNeedsTokens
  deriving DecidableEq, Repr

def SpecError.message : SpecError → String
  | noSeparator text => "Invalid format: " ++ text
  | unknownStage text => "Invalid stage: " ++ text
  | unknownFormat text => "Invalid format type: " ++ text
  | sexprNeedsTree => "Invalid format type: 'sexpr' only works with the ast stage"
  | simpleNeedsTokens => "Invalid format type: 'simple' only works with the token stage"

/-- How far to go and how to write the result. -/
structure Spec where
  stage : Stage
  format : Format
  deriving DecidableEq, Repr

namespace Spec

/-- The specifications that can be met. -/
def available : List Spec :=
  [⟨.token, .simple⟩, ⟨.token, .json⟩, ⟨.token, .yaml⟩,
    ⟨.ast, .sexpr⟩, ⟨.ast, .json⟩, ⟨.ast, .yaml⟩]

def name (s : Spec) : String := s.stage.name ++ "-" ++ s.format.name

/-- The specification of a stage name and a format name, if the two go together. -/
def ofNames (stage format : String) : Except SpecError Spec :=
  match Stage.ofName? stage with
  | none => .error (.unknownStage stage)
  | some stage =>
    match Format.ofName? format with
    | none => .error (.unknownFormat format)
    | some format =>
      match stage, format with
      | .token, .sexpr => .error .sexprNeedsTree
      | .ast, .simple => .error .simpleNeedsTokens
      | stage, format => .ok ⟨stage, format⟩

/-- Reads `stage-format`, split at the first dash. -/
def ofString (text : String) : Except SpecError Spec :=
  match text.toList.dropWhile (· ≠ '-') with
  | [] => .error (.noSeparator text)
  | _ :: format =>
    ofNames (String.ofList (text.toList.takeWhile (· ≠ '-'))) (String.ofList format)

/-- Every available specification is read back from its name. -/
theorem ofString_name {s : Spec} (h : s ∈ available) : ofString s.name = .ok s := by
  simp only [available, List.mem_cons, List.not_mem_nil, or_false] at h
  rcases h with rfl | rfl | rfl | rfl | rfl | rfl <;> rfl

end Spec

inductive ProcessError
  | spec (cause : SpecError)
  | unreadable (cause : ReadError)
  | json (cause : Unserializable)
  | yaml (cause : Unserializable)
  deriving DecidableEq, Repr

/-- What is said of an error. The two pairs that cannot be written are refused in words of their
own. -/
def ProcessError.message : ProcessError → String
  | spec .sexprNeedsTree => "Invalid format type: 'sexpr' only works with the ast stage"
  | spec .simpleNeedsTokens => "Invalid format type: 'simple' only works with the token stage"
  | spec cause => cause.message
  | unreadable cause => "IO error: " ++ cause.message
  | json cause => "JSON serialization failed: " ++ cause.message
  | yaml cause => "YAML serialization failed: " ++ cause.message

/-- A pair is refused in the same words whether its name is read or its output is to be written. -/
theorem ProcessError.message_spec (cause : SpecError) :
    (ProcessError.spec cause).message = cause.message := by
  cases cause <;> rfl

def formatTokens (format : Format) (tokens : List Token) : Except ProcessError String :=
  match format with
  | .simple => .ok (Token.listing tokens)
  | .json => (Token.listToData tokens).map Json.pretty |>.mapError .json
  | .yaml => (Token.listToData tokens).map Yaml.write |>.mapError .yaml
  | .sexpr => .error (.spec .sexprNeedsTree)

def formatTree (format : Format) (e : Expr) : Except ProcessError String :=
  match format with
  | .sexpr => .ok e.render
  | .json => e.toData.map Json.pretty |>.mapError .json
  | .yaml => e.toData.map Yaml.write |>.mapError .yaml
  | .simple => .error (.spec .simpleNeedsTokens)

/-- The tree of a source; a lexical error, or one recorded before, stops in front of parsing. -/
def parseSource (source : String) (r : Reporter) : Option Expr × Reporter :=
  let scanned := scan source
  let r := r.record scanned.diagnostics
  if r.hadError then (none, r) else Parsing.parse scanned.tokens r

/-- The output for a source, none where its faults forbid a tree, and the reporter after the run. -/
def process (spec : Spec) (source : String) (r : Reporter) :
    Except ProcessError (Option String) × Reporter :=
  let scanned := scan source
  let r := r.record scanned.diagnostics
  match spec.stage with
  | .token => ((formatTokens spec.format scanned.tokens).map some, r)
  | .ast =>
    if r.hadError then (.ok none, r)
    else
      match Parsing.parse scanned.tokens r with
      | (some e, r) => ((formatTree spec.format e).map some, r)
      | (none, r) => (.ok none, r)

/-- The output for the text of a file. -/
def processFile (spec : Spec) (d : Directory) (path : String) (r : Reporter) :
    Except ProcessError (Option String) × Reporter :=
  match d.readText path with
  | .ok source => process spec source r
  | .error cause => (.error (.unreadable cause), r)

end LoxSyntax
