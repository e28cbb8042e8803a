import MicroRust.Text.CombiningClass
import MicroRust.Text.Composition
import MicroRust.Text.Decomposition

/-! Canonical composition of a text (form NFC), safe for streams.

A text is cut into runs, each of them a base character with the marks behind it. The characters of a
run are taken apart, its marks are put in the order of their classes, and what can be joined is
joined again. A run of more than thirty marks is cut by joiners, across which nothing moves. -/

namespace MicroRust.Text

def syllableBase : Nat := 0xAC00
def leadBase : Nat := 0x1100
def vowelBase : Nat := 0x1161
def trailBase : Nat := 0x11A7
def vowelCount : Nat := 21
def trailCount : Nat := 28
def syllableCount : Nat := 19 * vowelCount * trailCount

def syllableLetters? (n : Nat) : Option (List Nat) :=
  if syllableBase ≤ n && n < syllableBase + syllableCount then
    let k := n - syllableBase
    let body := [leadBase + k / (vowelCount * trailCount),
      vowelBase + k % (vowelCount * trailCount) / trailCount]
    some (if k % trailCount = 0 then body else body ++ [trailBase + k % trailCount])
  else none

def syllableOf? (a b : Nat) : Option Nat :=
  if leadBase ≤ a && a < leadBase + 19 && vowelBase ≤ b && b < vowelBase + vowelCount then
    some (syllableBase + ((a - leadBase) * vowelCount + (b - vowelBase)) * trailCount)
  else if syllableBase ≤ a && a < syllableBase + syllableCount &&
      (a - syllableBase) % trailCount = 0 && trailBase < b && b < trailBase + trailCount then
    some (a + (b - trailBase))
  else none

def decomposition? (n : Nat) : Option (List Nat) :=
  if n < 0xC0 then none
  else match syllableLetters? n with
    | some letters => some letters
    | none => match letterDecompositions.lookup n with
      | some parts => some parts
      | none => (ideographDecompositions.lookup n).map fun m => [m]

def decompose (c : Char) : List Char :=
  match decomposition? c.toNat with
  | some parts => parts.map Char.ofNat
  | none => [c]

/-- Base characters that join to the character before them and so count as marks. -/
def joiningBases : CodeRanges := [
  (0x9BE, 0x9BE), (0x9D7, 0x9D7), (0xB3E, 0xB3E), (0xB56, 0xB57), (0xBBE, 0xBBE), (0xBD7, 0xBD7),
  (0xCC2, 0xCC2), (0xCD5, 0xCD6), (0xD3E, 0xD3E), (0xD57, 0xD57), (0xDCF, 0xDCF), (0xDDF, 0xDDF),
  (0x102E, 0x102E), (0x1161, 0x1175), (0x11A8, 0x11C2), (0x1B35, 0x1B35), (0x3133, 0x3133),
  (0x3135, 0x3136), (0x313A, 0x313F), (0x314F, 0x3163), (0xFF9E, 0xFF9F), (0xFFA3, 0xFFA3),
  (0xFFA5, 0xFFA6), (0xFFAA, 0xFFAF), (0xFFC2, 0xFFC7), (0xFFCA, 0xFFCF), (0xFFD2, 0xFFD7),
  (0xFFDA, 0xFFDC), (0x11127, 0x11127), (0x1133E, 0x1133E), (0x11357, 0x11357),
  (0x114B0, 0x114B0), (0x114BA, 0x114BA), (0x114BD, 0x114BD), (0x115AF, 0x115AF),
  (0x11930, 0x11930)]

/-- Ligatures whose compatibility form ends in one mark. -/
def oneMarkLigatures : CodeRanges := [
  (0x1C4, 0x1C6), (0xFBA4, 0xFBA5), (0xFBB0, 0xFBB1), (0xFC5B, 0xFC5D), (0xFC90, 0xFC90),
  (0xFCD9, 0xFCD9), (0xFD3C, 0xFD3D), (0xFE71, 0xFE71), (0xFE77, 0xFE77), (0xFE79, 0xFE79),
  (0xFE7B, 0xFE7B), (0xFE7D, 0xFE7D), (0xFE7F, 0xFE7F), (0xFE81, 0xFE8C), (0xFEF5, 0xFEFA)]

def twoMarkLigatures : CodeRanges := [(0xF77, 0xF77), (0xF79, 0xF79), (0xFCF2, 0xFCF4)]

def countsAsMark (c : Char) : Bool := combiningClass c != 0 || joiningBases.has c

def leadingMarks (c : Char) : Nat := ((decompose c).takeWhile countsAsMark).length

def trailingMarks (c : Char) : Nat :=
  if oneMarkLigatures.has c then 1
  else if twoMarkLigatures.has c then 2
  else ((decompose c).reverse.takeWhile countsAsMark).length

def markLimit : Nat := 30

def joiner : Char := '\u034F'

/-- The runs of a text behind a run begun, which is held reversed and counts `marks` marks. -/
def runsFrom (run : List Char) (marks : Nat) : List Char → List (List Char)
  | [] => [run.reverse]
  | c :: rest =>
    let more := leadingMarks c
    if more = 0 then run.reverse :: runsFrom [c] (trailingMarks c) rest
    else if markLimit < marks + more then (joiner :: run).reverse :: runsFrom [c] more rest
    else runsFrom (c :: run) (marks + more) rest

def insertMark (c : Char) : List Char → List Char
  | [] => [c]
  -- The text is held reversed, so `d` stands directly before the place that `c` would take.
  | d :: rest =>
    if combiningClass c != 0 && combiningClass c < combiningClass d then d :: insertMark c rest
    else c :: d :: rest

def orderMarks (text : List Char) : List Char :=
  (text.foldl (fun done c => insertMark c done) []).reverse

def joinsBackward (c : Char) : Bool := compositions.any fun (_, y, _) => y = c.toNat

def pairKey (n : Nat) : Nat := n % 0x10000

/-- The character that two characters make, Hangul apart. Pairs are told apart by the low sixteen
bits of both characters: no two composites share them. -/
def composite? (a b : Char) : Option Char :=
  (compositions.find? fun (x, y, _) =>
    pairKey x = pairKey a.toNat && pairKey y = pairKey b.toNat).map fun (_, _, z) => Char.ofNat z

def syllable? (a b : Char) : Option Char := (syllableOf? a.toNat b.toNat).map Char.ofNat

/-- A run being joined: the character that others may join, what stands behind it, and what stands
before it, the last two reversed. -/
structure JoinedRun where
  settled : List Char := []
  base : Char
  marks : List Char := []

namespace JoinedRun

def text (r : JoinedRun) : List Char := r.settled.reverse ++ r.base :: r.marks.reverse

def keep (r : JoinedRun) (c : Char) : JoinedRun := { r with marks := c :: r.marks }

def rebase (r : JoinedRun) : JoinedRun :=
  match r.marks with
  | [] => r
  -- What stands before a base that joined nothing can no longer be joined.
  | c :: rest =>
    if combiningClass c = 0 then { settled := rest ++ r.base :: r.settled, base := c } else r

def blocks (r : JoinedRun) (c : Char) : Bool :=
  match r.marks with
  | [] => false
  | d :: _ => combiningClass c ≤ combiningClass d

def add (pair? : Char → Char → Option Char) (r : JoinedRun) (c : Char) : JoinedRun :=
  let r := r.rebase
  match if r.blocks c then none else pair? r.base c with
  | some z => { r with base := z }
  | none => r.keep c

def isHangulLetter (c : Char) : Bool := 0x1100 ≤ c.toNat && c.toNat ≤ 0x11FF

/-- Joins what can be joined. From the first letter of Hangul on only syllables are made. -/
def addAll (r : JoinedRun) : List Char → JoinedRun
  | [] => r
  | c :: rest =>
    if isHangulLetter c then (c :: rest).foldl (add syllable?) r
    else addAll (if joinsBackward c then r.add composite? c else r.keep c) rest

end JoinedRun

def composeRun (run : List Char) : List Char :=
  match orderMarks (run.flatMap decompose) with
  | [] => []
  | c :: rest => (JoinedRun.addAll { base := c } rest).text

def normalize (text : List Char) : List Char :=
  if text.all fun c => c.toNat < 0xC0 then text
  else (runsFrom [] 0 text).flatMap composeRun

end MicroRust.Text
