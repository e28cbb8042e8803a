import MicroRust.Diagnostic.Engine
import MicroRust.Source.Snippet
import MicroRust.Text.Paint

/-! Diagnostics as text, with the source they point at. -/

namespace MicroRust

open Text

structure ReportStyle where
  colored : Bool := false
  snippet : SnippetStyle := {}
deriving Repr

namespace Report

def severityCodes : Severity → String
  | .error => "31;1"
  | .warning => "33;1"

def titleCodes : String := "1"
def marginCodes : String := "34"
def noteCodes : String := "36"

def location (filename : String) (d : Diagnostic) : String :=
  if d.hasSpan then s!"{filename}:{d.span.start.text}" else filename

def header (style : ReportStyle) (filename : String) (d : Diagnostic) : String :=
  location filename d ++ ": " ++
    paint style.colored (severityCodes d.severity) s!"{d.severity.name}[{d.code}]" ++ ": " ++
    paint style.colored titleCodes d.title ++ "\n"

def snippetLine (style : ReportStyle) (line : SnippetLine) : List Glyph :=
  glyphs (paint style.colored marginCodes line.margin) ++ line.rest ++ [.char '\n']

def snippet (style : ReportStyle) (file : Option SourceFile) (d : Diagnostic) : List Glyph :=
  match file with
  | some file =>
    if d.hasSpan then (Snippet.lines style.snippet file d.span).flatMap (snippetLine style) else []
  | none => []

def note (style : ReportStyle) (text : String) : String :=
  "  " ++ paint style.colored noteCodes "= note:" ++ " " ++ text ++ "\n"

def entry (style : ReportStyle) (filename : String) (file : Option SourceFile) (d : Diagnostic) :
    List Glyph :=
  glyphs (header style filename d) ++
    (if d.message.isEmpty then [] else glyphs s!"  {d.message}\n") ++
    snippet style file d ++ d.notes.flatMap fun text => glyphs (note style text)

def summary (e : Engine) : String :=
  let errors := e.errors.length
  let warnings := e.warnings.length
  if errors = 0 && warnings = 0 then s!"{e.filename}: no issues found\n"
  else
    let parts := (if 0 < errors then [s!"{errors} error(s)"] else []) ++
      (if 0 < warnings then [s!"{warnings} warning(s)"] else [])
    s!"\n{e.filename}: found " ++ ", ".intercalate parts ++ "\n"

def text (style : ReportStyle) (file : Option SourceFile) (e : Engine) : List Glyph :=
  let entries := e.sort.diagnostics.map (entry style e.filename file)
  [Glyph.char '\n'].intercalate entries ++ glyphs (summary e)

end Report

end MicroRust
