import MicroRust.Settings.Basic
import MicroRust.Source.Files
import MicroRust.Source.Position
import MicroRust.Text.Glyph
import MicroRust.Toml.Document

/-! Settings read from a file: a TOML document whose keys are the names of the settings. -/

namespace MicroRust

open Toml

inductive Setting where
  | requires | color | maxErrors | verbose | ignoreCodes | warningsAsErrors
deriving DecidableEq, Repr

namespace Setting

def all : List Setting := [.requires, .color, .maxErrors, .verbose, .ignoreCodes, .warningsAsErrors]

def name : Setting → String
  | .requires => "Requires"
  | .color => "Color"
  | .maxErrors => "MaxErrors"
  | .verbose => "Verbose"
  | .ignoreCodes => "IgnoreCodes"
  | .warningsAsErrors => "WarningsAsErrors"

def ofName? (name : String) : Option Setting := all.find? (·.name = name)

def kindName : Setting → String
  | .requires => "string"
  | .color => "string"
  | .maxErrors => "int"
  | .verbose => "bool"
  | .ignoreCodes => "[]string"
  | .warningsAsErrors => "bool"

end Setting

inductive EntryError where
  | unknown (key : String)
  | wrongKind (setting : Setting) (found wanted : String)
  | notList (setting : Setting) (found wanted : String)
  | notTable (wanted : String)
  | outOfRange (setting : Setting) (digits : String)
  | farFloat (setting : Setting) (text : String)
  | noTime (setting : Setting) (text : String) (fault : DatetimeFault)
  | mixed (setting : Setting)
deriving DecidableEq, Repr

def EntryError.message : EntryError → String
  | .unknown key => s!"field '{key}' is not defined in cli.Config"
  | .wrongKind setting found wanted =>
    s!"(cli.Config.{setting.name}) cannot unmarshal TOML {found} into {wanted}"
  | .notList setting found wanted =>
    s!"(cli.Config.{setting.name}) cannot unmarshal TOML {found} into {wanted} (need slice)"
  | .notTable wanted => s!"cannot unmarshal TOML table into {wanted} (need struct or map)"
  | .outOfRange setting digits =>
    s!"(cli.Config.{setting.name}) value {digits} is out of range for int"
  | .farFloat setting text =>
    s!"(cli.Config.{setting.name}) strconv.ParseFloat: parsing \"{text}\": value out of range"
  | .noTime setting text fault =>
    s!"(cli.Config.{setting.name}) parsing time \"{text}\": {fault.message}"
  | .mixed setting => s!"(cli.Config.{setting.name}) array can't contain multiple types"

inductive LoadError where
  | unreadable (path : String) (cause : FileError)
  | document (path : String) (cause : Toml.Error)
  | entry (path : String) (line : Nat) (cause : EntryError)
  | refused (cause : SettingsError)
deriving DecidableEq, Repr

def LoadError.message : LoadError → String
  | .unreadable path cause =>
    if cause.opens then cause.message path
    else s!"failed to read config file: {cause.message path}"
  | .document path cause => s!"{path}, line {cause.line}: {cause.fault.message}"
  | .entry path line cause => s!"{path}, line {line}: {cause.message}"
  | .refused cause => cause.message

namespace Settings

def kindOf : Value → String
  | .string _ => "string"
  | .integer _ => "integer"
  | .float _ _ => "float"
  | .boolean _ => "boolean"
  | .datetime _ _ => "datetime"
  | .array _ => "array"

/-- The error for a value where a setting takes one of the kind `wanted`. No setting takes a float
or a time; one out of range is reported as such. -/
def mismatch (setting : Setting) (wanted : String) (value : Value) : EntryError :=
  match value with
  | .array _ => .notList setting "array" wanted
  | .float text numeral =>
    if numeral.nearest?.isNone then .farFloat setting text else .wrongKind setting "float" wanted
  | .datetime text time => match time.fault? with
    | some fault => .noTime setting text fault
    | none => .wrongKind setting "datetime" wanted
  | value => .wrongKind setting (kindOf value) wanted

def textOf (setting : Setting) : Value → Except EntryError String
  | .string text => .ok text
  | value => .error (mismatch setting "string" value)

def flagOf (setting : Setting) : Value → Except EntryError Bool
  | .boolean b => .ok b
  | value => .error (mismatch setting "bool" value)

def signed (digits : List Char) : Int :=
  match digits with
  | '-' :: rest => -(((String.ofList rest).toNat?.getD 0 : Nat) : Int)
  | '+' :: rest => ((String.ofList rest).toNat?.getD 0 : Nat)
  | rest => ((String.ofList rest).toNat?.getD 0 : Nat)

def numberOf (setting : Setting) : Value → Except EntryError Int
  | .integer digits =>
    let n := signed digits.toList
    if Position.fitsWord n then .ok n else .error (.outOfRange setting digits)
  | value => .error (mismatch setting "int" value)

def textsOf (setting : Setting) : Value → Except EntryError (List String)
  | .array [] => .ok []
  | .array (first :: more) => (first :: more).mapM fun value =>
    if kindOf value = kindOf first then textOf setting value else .error (.mixed setting)
  | value => .error (mismatch setting setting.kindName value)

def assign (s : Settings) (setting : Setting) (value : Value) : Except EntryError Settings :=
  match setting with
  | .requires => return { s with requires := ← textOf setting value }
  | .color => return { s with color := ← textOf setting value }
  | .maxErrors => return { s with maxErrors := ← numberOf setting value }
  | .verbose => return { s with verbose := ← flagOf setting value }
  | .ignoreCodes => return { s with ignoreCodes := ← textsOf setting value }
  | .warningsAsErrors => return { s with warningsAsErrors := ← flagOf setting value }

def assignField (s : Settings) (field : Definition) : Except EntryError Settings :=
  match Setting.ofName? field.key with
  | none => .error (.unknown field.key)
  | some setting => match field.content with
    | .value value => s.assign setting value
    | .table _ => .error (.notTable setting.kindName)
    | .elements _ =>
      if setting = .ignoreCodes then .error (.notTable "string")
      else .error (.notList setting "array table" setting.kindName)

def ofDocument (path : String) (d : Document) : Except LoadError Settings :=
  d.fields.foldlM (fun s field => match s.assignField field with
    | .ok s => .ok s
    | .error cause => .error (.entry path field.line cause)) ({} : Settings)

def ofText (path : String) (text : List Char) : Except LoadError Settings := do
  match Document.parse text with
  | .error cause => throw (.document path cause)
  | .ok d =>
    let s ← ofDocument path d
    match s.validate with
    | .ok _ => return s
    | .error cause => throw (.refused cause)

def load (files : Files) (path : String) : Except LoadError Settings :=
  if path.isEmpty then .ok {}
  else match files path with
    | .ok content => ofText path (Text.characters content)
    | .error .missing => .ok {}
    | .error cause => .error (.unreadable path cause)

end Settings

end MicroRust
