import MicroRust.Declaration.Module
import MicroRust.Diagnostic.Lint
import MicroRust.Diagnostic.Report
import MicroRust.Parsing.Run
import MicroRust.Source.Files

/-! The front end on one file: its tree and its module, or a report of what is wrong with it. -/

namespace MicroRust

open Text

structure FrontEndResult where
  compiled : Option (Crate × Module)
  truncated : Bool
  output : List Glyph

def unreadableFile (policy : Policy) (style : ReportStyle) (path : String) (cause : FileError) :
    FrontEndResult :=
  let engine := ({ filename := path, policy } : Engine).add (.unreadable (cause.message path))
  ⟨none, false, Report.text style none engine⟩

/-- The diagnostics of a tree, and its module unless a declaration is refused. -/
def analyze (c : Crate) : List Diagnostic × Option Module :=
  match c.module with
  | (_, some refusal) => ([.declaration refusal], none)
  | (m, none) => (Diagnostic.lint c, some m)

def examine (path : String) (content : List UInt8) :
    List Diagnostic × Option (Crate × Module) :=
  match (Source.mk path content none).parse with
  | .error e => (Diagnostic.ofParseError e, none)
  | .ok c => match analyze c with
    | (diagnostics, m) => (diagnostics, m.map (c, ·))

def frontEnd (policy : Policy) (style : ReportStyle) (path : String)
    (content : Except FileError (List UInt8)) : FrontEndResult :=
  match content with
  | .error cause => unreadableFile policy style path cause
  | .ok content =>
    let (diagnostics, compiled) := examine path content
    let engine := ({ filename := path, policy } : Engine).addAll diagnostics
    ⟨if engine.hasErrors then none else compiled, engine.truncated,
      if engine.diagnostics.isEmpty then []
      else Report.text style (some (.ofBytes path content)) engine⟩

/-- Opens a file for reading. A directory can be opened, and fails when it is read. -/
def openSource (files : Files) (path : String) : Except FileError Source :=
  match files path with
  | .ok content => .ok ⟨baseName path, content, none⟩
  | .error cause =>
    if cause.opens then .ok ⟨baseName path, [], some (cause.message path)⟩ else .error cause

def openFailure (path : String) (cause : FileError) : String :=
  s!"open source file: {cause.message path}"

end MicroRust
