import MicroRust.Source.File
import MicroRust.Source.Position

/-! Parts of a source file with a range marked by carets.

Each line stands behind its number. Below each line of the range stands a line with a caret under
each marked column; a tab before the first caret is kept, so the carets stay below their text. -/

namespace MicroRust

open Text

structure SnippetStyle where
  context : Int := 0
  width : Int := 0
deriving Repr

structure SnippetLine where
  margin : String
  rest : List Glyph
deriving Repr

namespace Snippet

def marginWidth : Int := 7

def numberColumn (n : Int) : String :=
  let digits := toString n
  String.ofList (List.replicate (4 - digits.length) ' ') ++ digits

/-- A line cut to the page. A line that is cut shows its stray bytes as replacement characters. -/
def clip (width : Int) (line : List Glyph) : List Glyph :=
  if width ≤ marginWidth || (line.length : Int) ≤ width - marginWidth then line
  else (line.take (width - marginWidth).toNat).map fun g => .char g.toChar

/-- The marked columns of one line of the range: first column, and the column after the last. A
range that marks nothing on the line still marks one column. -/
def markedColumns (span : Span) (number : Int) (line : List Glyph) : Int × Int :=
  let first := if number = span.start.line then span.start.column else 1
  let last := if number = span.stop.line then span.stop.column else (line.length : Int) + 1
  (first, if last ≤ first then first + 1 else last)

def indentation (n : Nat) (line : List Glyph) : List Glyph :=
  (line.take n).map (fun g => .char (if g = .char '\t' then '\t' else ' ')) ++
    List.replicate (n - line.length) (.char ' ')

def caretLine (span : Span) (number : Int) (line : List Glyph) : SnippetLine :=
  let (first, last) := markedColumns span number line
  ⟨"     |", .char ' ' :: indentation (first - 1).toNat line ++
    List.replicate (last - first).toNat (.char '^')⟩

def numbered (style : SnippetStyle) (span : Span) (number : Int) (line : List Glyph) :
    List SnippetLine :=
  let shown := clip style.width line
  ⟨numberColumn number ++ " |", .char ' ' :: shown⟩ ::
    if span.start.line ≤ number && number ≤ span.stop.line then [caretLine span number shown]
    else []

def lines (style : SnippetStyle) (file : SourceFile) (span : Span) : List SnippetLine :=
  if !span.isValid then []
  else
    let first := max 1 (Position.word (span.start.line - style.context))
    let last := Position.word (span.stop.line + style.context)
    (file.lines.zipIdx 1).flatMap fun (line, number) =>
      if first ≤ number && number ≤ last then numbered style span number line else []

end Snippet

def SnippetLine.text (line : SnippetLine) : List Glyph :=
  glyphs line.margin ++ line.rest ++ [.char '\n']

def Snippet.text (style : SnippetStyle) (file : SourceFile) (span : Span) : List Glyph :=
  (Snippet.lines style file span).flatMap SnippetLine.text

end MicroRust
