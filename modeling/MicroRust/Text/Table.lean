import MicroRust.Text.CellWidth

/-! Tables of text, ruled with `+`, `-` and `|`.

A cell may have several lines. Numbers stand at the right end of their column, other text at the
left end, titles in the middle. -/

namespace MicroRust.Text

def isWhite (c : Char) : Bool :=
  let n := c.toNat
  (0x09 ≤ n && n ≤ 0x0D) || n = 0x20 || n = 0x85 || n = 0xA0 || n = 0x1680 ||
    (0x2000 ≤ n && n ≤ 0x200A) || n = 0x2028 || n = 0x2029 || n = 0x202F || n = 0x205F || n = 0x3000

def trimWhite (text : List Char) : List Char :=
  ((text.dropWhile isWhite).reverse.dropWhile isWhite).reverse

def isFraction : List Char → Bool
  | [] => true
  | '.' :: digits => !digits.isEmpty && digits.all Char.isDigit
  | _ => false

def isGrouped : List Char → Bool
  | ',' :: a :: b :: c :: rest => a.isDigit && b.isDigit && c.isDigit && isGrouped rest
  | rest => isFraction rest

def isDecimal (text : List Char) : Bool :=
  let text := match text with
    | '-' :: rest => rest
    | text => text
  let digits := text.takeWhile Char.isDigit
  let rest := text.dropWhile Char.isDigit
  !digits.isEmpty && (isFraction rest || (digits.length ≤ 3 && isGrouped rest))

def cellLines : List Char → List (List Char)
  | [] => [[]]
  | '\n' :: rest => [] :: cellLines rest
  | c :: rest => match cellLines rest with
    | line :: more => (c :: line) :: more
    | [] => [[c]]

structure Table where
  titles : List String
  rows : List (List String)
deriving Repr

namespace Table

def maximum (ns : List Nat) : Nat := ns.foldl max 0

def widths (t : Table) : List Nat :=
  t.titles.zipIdx.map fun (title, i) =>
    maximum (cellWidth title.toList :: t.rows.flatMap fun row =>
      (cellLines (row.getD i "").toList).map cellWidth)

def blank (n : Nat) : List Char := List.replicate n ' '

def padded (width : Nat) (line : List Char) : List Char :=
  let gap := blank (width - cellWidth line)
  if isDecimal (trimWhite line) then gap ++ line else line ++ gap

/-- A title in the middle of its column, or left of it by half a cell. -/
def centered (width : Nat) (title : List Char) : List Char :=
  let gap := width - cellWidth title
  blank (gap / 2) ++ title ++ blank (gap - gap / 2)

def rule (widths : List Nat) : List Char :=
  '+' :: (widths.flatMap fun w => List.replicate (w + 2) '-' ++ ['+']) ++ ['\n']

def across (cells : List (List Char)) : List Char :=
  '|' :: (cells.flatMap fun cell => ' ' :: cell ++ [' ', '|']) ++ ['\n']

def rowText (widths : List Nat) (row : List String) : List Char :=
  let cells := row.map fun cell => cellLines cell.toList
  (List.range (maximum (cells.map List.length))).flatMap fun i =>
    across ((widths.zip cells).map fun (w, lines) => padded w (lines.getD i []))

def text (t : Table) : String :=
  let ws := t.widths
  String.ofList (rule ws ++ across ((ws.zip t.titles).map fun (w, title) =>
    centered w title.toList) ++ rule ws ++ t.rows.flatMap (rowText ws) ++ rule ws)

end Table

end MicroRust.Text
