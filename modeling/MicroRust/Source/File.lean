import MicroRust.Source.LineReader

/-! The lines of a source file, for showing parts of it. -/

namespace MicroRust

open Text
open LineReader (newline)

structure SourceFile where
  name : String
  lines : List (List Glyph)
deriving Repr

namespace SourceFile

def carriageReturn : UInt8 := 13

/-- Drops the carriage return of each line end. Other carriage returns stay. -/
def joinLineEnds : List UInt8 → List UInt8
  | a :: b :: rest =>
    if a = carriageReturn && b = newline then newline :: joinLineEnds rest
    else a :: joinLineEnds (b :: rest)
  | bytes => bytes

def ofBytes (name : String) (content : List UInt8) : SourceFile :=
  ⟨name, ((joinLineEnds content).splitOn newline).map decode⟩

def line (file : SourceFile) (number : Int) : List Glyph :=
  if number < 1 then [] else (file.lines[(number - 1).toNat]?).getD []

end SourceFile

end MicroRust
