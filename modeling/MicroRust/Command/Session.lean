import MicroRust.Command.Arguments
import MicroRust.Command.BuildInfo
import MicroRust.Command.FrontEnd
import MicroRust.Command.Log
import MicroRust.Settings.Load

/-! The settings of one run: those of the project, with the flags of the command line on top. -/

namespace MicroRust

open Text

structure Surroundings where
  files : Files
  build : BuildInfo
  time : String

structure BadColorMode where
  mode : String
deriving DecidableEq, Repr

def BadColorMode.message (e : BadColorMode) : String := s!"invalid colour mode {quoted e.mode}"

def colorEnabled (mode : String) (terminal : Bool) : Except BadColorMode Bool :=
  match mode with
  | "always" => .ok true
  | "never" => .ok false
  | "auto" => .ok terminal
  | "" => .ok terminal
  | mode => .error ⟨mode⟩

def defaultWidth : Int := 100

structure Session where
  settings : Settings
  colored : Bool
  width : Int
  logger : Logger
deriving Repr

inductive SessionError where
  | load (cause : LoadError)
  | refused (cause : SettingsError)
  | color (cause : BadColorMode)
deriving DecidableEq, Repr

def SessionError.message : SessionError → String
  | .load cause => cause.message
  | .refused cause => cause.message
  | .color cause => cause.message

def Options.override (o : Options) (s : Settings) : Settings :=
  { s with
    color := o.color.getD s.color
    maxErrors := o.maxErrors.getD s.maxErrors
    warningsAsErrors := o.denyWarnings || s.warningsAsErrors
    verbose := o.verbose || s.verbose }

namespace Session

def start (here : Surroundings) (o : Options) : Except SessionError Session := do
  let s ← (Settings.load here.files o.config).mapError .load
  let s := o.override s
  s.validate.mapError .refused
  (s.checkVersion here.build.version).mapError .refused
  let colored ← (colorEnabled s.color false).mapError .color
  return ⟨s, colored, defaultWidth, ⟨s.verbose, o.debug, colored⟩⟩

def policy (s : Session) : Policy :=
  ⟨s.settings.ignoreCodes, s.settings.maxErrors, s.settings.warningsAsErrors⟩

def style (s : Session) : ReportStyle := { colored := s.colored, snippet := { width := s.width } }

def frontEnd (s : Session) (files : Files) (path : String) : FrontEndResult :=
  MicroRust.frontEnd s.policy s.style path (files path)

end Session

end MicroRust
