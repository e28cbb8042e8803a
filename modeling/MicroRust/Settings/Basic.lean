import MicroRust.Settings.Constraint
import MicroRust.Text.Quoted

/-! The settings of a project and the values they may have. -/

namespace MicroRust

open Text

structure Settings where
  requires : String := ""
  color : String := "auto"
  maxErrors : Int := 50
  verbose : Bool := false
  ignoreCodes : List String := []
  warningsAsErrors : Bool := false
deriving DecidableEq, Repr

inductive SettingsError where
  | badColor (color : String)
  | badLimit (maxErrors : Int)
  | badCode (code : String)
  | badConstraint (requires : String) (cause : ConstraintError)
  | badVersion (version : String) (cause : VersionError)
  | wrongVersion (version requires : String)
deriving DecidableEq, Repr

def SettingsError.message : SettingsError → String
  | .badColor color => s!"invalid Color {quoted color}, want auto, always or never"
  | .badLimit maxErrors => s!"invalid MaxErrors {maxErrors}"
  | .badCode code => s!"invalid IgnoreCodes entry {quoted code}"
  | .badConstraint requires cause => s!"invalid Requires {quoted requires}: {cause.message}"
  | .badVersion version cause => s!"invalid compiler version {quoted version}: {cause.message}"
  | .wrongVersion version requires =>
    s!"murustc {version} does not satisfy required version {requires}"

def isDiagnosticCode (code : String) : Bool :=
  match code.toList with
  | [k, a, b, c, d] => (k = 'E' || k = 'W') && [a, b, c, d].all Char.isDigit
  | _ => false

def colorModes : List String := ["auto", "always", "never"]

namespace Settings

def constraint? (s : Settings) : Except SettingsError (Option Constraint) :=
  if s.requires.isEmpty then .ok none
  else match Constraint.parse s.requires with
    | .ok constraint => .ok (some constraint)
    | .error cause => .error (.badConstraint s.requires cause)

def validate (s : Settings) : Except SettingsError Unit := do
  if !colorModes.contains s.color then throw (.badColor s.color)
  if s.maxErrors < 0 then throw (.badLimit s.maxErrors)
  match s.ignoreCodes.find? (!isDiagnosticCode ·) with
  | some code => throw (.badCode code)
  | none => let _ ← s.constraint?

def checkVersion (s : Settings) (version : String) : Except SettingsError Unit := do
  match ← s.constraint? with
  | none => return ()
  | some constraint => match Version.parse version with
    | .error cause => throw (.badVersion version cause)
    | .ok v => if constraint.accepts v then return () else throw (.wrongVersion version s.requires)

end Settings

end MicroRust
