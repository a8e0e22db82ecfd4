import LoxSyntax.CommandLine.Run

/-! # The command -/
namespace LoxSyntax.Main

open CommandLine

/-- What lies at a path. -/
def readEntry (path : String) : IO (Except ReadError Entry) := do
  try
    return .ok (.file (← IO.FS.readBinFile path))
  catch e =>
    match e with
    | .inappropriateType _ 21 _ => return .ok .directory
    | .inappropriateType .. => return .error .notDirectory
    | .permissionDenied .. => return .ok .locked
    | _ => return .error .notFound

/-- The working directory as far as these paths show it. -/
def readDirectory (paths : List String) : IO Directory := do
  let entries ← paths.mapM fun path => return (path, ← readEntry path)
  return ⟨fun path => (entries.lookup path).getD (.error .notFound)⟩

/-- The configuration files that a run may look at. -/
def configFiles (arguments : List String) : List String :=
  match readArguments arguments with
  | .error _ => []
  | .ok a => (layers a).flatMap fun layer => Config.candidates layer.file

def finish (result : Result) : IO UInt32 := do
  IO.print result.out
  (← IO.getStdout).flush
  IO.eprint result.err
  return UInt32.ofNat result.code

/-- Prompts for one line at a time. -/
partial def converse (prompt : String) (spec : Spec) (r : Reporter) : IO UInt32 := do
  IO.print prompt
  (← IO.getStdout).flush
  let line ← readLine (← IO.getStdin) .empty
  match inputLines line.toList with
  | [] => return 0
  | line :: _ =>
    match lineText? line with
    | none => do
      IO.eprint badInput
      return 1
    | some text => do
      let (out, err, r) := answerLine spec text r
      IO.print out
      IO.eprint err
      converse prompt spec r
where
  /-- The bytes up to and including the next line feed. -/
  readLine (input : IO.FS.Stream) (line : ByteArray) : IO ByteArray := do
    let next ← input.read 1
    if next.isEmpty then return line
    else if next.toList = [10] then return line ++ next
    else readLine input (line ++ next)

end LoxSyntax.Main

open LoxSyntax LoxSyntax.CommandLine LoxSyntax.Main in
def main (arguments : List String) : IO UInt32 := do
  match plan arguments (← readDirectory (configFiles arguments)) with
  | .stop result => finish result
  | .script warnings path spec => do
    IO.eprint warnings
    finish (runScript spec (← readDirectory [path]) path)
  | .prompt warnings text spec => do
    IO.eprint warnings
    converse text spec .empty
