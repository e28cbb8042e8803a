import MicroRust.Text.Paint

/-! Progress messages, each with a level and the time of day. -/

namespace MicroRust

open Text

inductive LogLevel where
  | info | debug | warn | error
deriving DecidableEq, Repr

namespace LogLevel

def name : LogLevel → String
  | .info => "INFO"
  | .debug => "DEBUG"
  | .warn => "WARN"
  | .error => "ERROR"

def codes : LogLevel → String
  | .info => "32"
  | .debug => "35"
  | .warn => "33"
  | .error => "31;1"

end LogLevel

structure Logger where
  verbose : Bool := false
  debug : Bool := false
  colored : Bool := false
deriving DecidableEq, Repr

namespace Logger

def shows (l : Logger) : LogLevel → Bool
  | .info => l.verbose
  | .debug => l.debug
  | .warn => true
  | .error => true

def log (l : Logger) (time : String) (level : LogLevel) (message : String) : String :=
  if l.shows level then
    paint l.colored level.codes s!"[{level.name}]" ++ s!" {time}: {message}\n"
  else ""

end Logger

end MicroRust
