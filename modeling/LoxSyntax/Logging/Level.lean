/-!
# Levels of a log

From nothing, by errors only, to everything. An event has one of the levels behind the first; a
level that is asked for lets through the events up to it.
-/
namespace LoxSyntax.Logging

inductive Level
  | off
  | error
  | warn
  | info
  | debug
  | trace
  deriving DecidableEq, Repr

namespace Level

def name : Level → String
  | off => "OFF"
  | error => "ERROR"
  | warn => "WARN"
  | info => "INFO"
  | debug => "DEBUG"
  | trace => "TRACE"

/-- How much a level lets through. -/
def rank : Level → Nat
  | off => 0
  | error => 1
  | warn => 2
  | info => 3
  | debug => 4
  | trace => 5

/-- The level that a text names, in any case. -/
def ofText? (text : List Char) : Option Level :=
  [off, error, warn, info, debug, trace].find? fun level =>
    level.name.toList = text.map Char.toUpper

end Level

end LoxSyntax.Logging
