/-! Places in a source text and the ranges between them.

Lines and columns count from one, columns in characters. A range holds its start and not its end. -/

namespace MicroRust

structure Position where
  line : Int
  column : Int
deriving DecidableEq, Repr, Inhabited

namespace Position

def origin : Position := ⟨1, 1⟩

def isValid (p : Position) : Bool := 0 < p.line && 0 < p.column

def before (p q : Position) : Bool :=
  if p.line = q.line then p.column < q.column else p.line < q.line

def after (p q : Position) : Bool := q.before p

def next (p : Position) (c : Char) : Position :=
  if c = '\n' then ⟨p.line + 1, 1⟩ else ⟨p.line, p.column + 1⟩

def advance (p : Position) (text : List Char) : Position := text.foldl next p

/-- A counter is a signed word of 64 bits, and so falls to the least word after the greatest. -/
def word (n : Int) : Int := n.bmod 0x10000000000000000

def fitsWord (n : Int) : Bool := word n = n

def nextLine (p : Position) : Position := ⟨word (p.line + 1), 1⟩

def nextColumn (p : Position) : Position := ⟨p.line, word (p.column + 1)⟩

def text (p : Position) : String := s!"{p.line}:{p.column}"

end Position

/-- The text from `start` up to and without `stop`. -/
structure Span where
  start : Position
  stop : Position
deriving DecidableEq, Repr, Inhabited

namespace Span

def point (p : Position) : Span := ⟨p, p⟩

def unknown : Span := ⟨⟨0, 0⟩, ⟨0, 0⟩⟩

def isValid (s : Span) : Bool :=
  s.start.isValid && s.stop.isValid && !s.stop.before s.start

def contains (s : Span) (p : Position) : Bool :=
  s.isValid && p.isValid && !p.before s.start && p.before s.stop

/-- The least range around two ranges. An invalid range adds nothing. -/
def union (s t : Span) : Span :=
  if !s.isValid then t
  else if !t.isValid then s
  else ⟨if t.start.before s.start then t.start else s.start,
    if t.stop.after s.stop then t.stop else s.stop⟩

def text (s : Span) : String := s!"<{s.start.text}>-<{s.stop.text}>"

end Span

end MicroRust
