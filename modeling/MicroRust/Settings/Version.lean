/-! Semantic versions and their order. -/

namespace MicroRust

/-- A version. Build metadata plays no part in the order and is dropped. -/
structure Version where
  major : Nat
  minor : Nat
  patch : Nat
  pre : List String := []
deriving DecidableEq, Repr

inductive VersionError where
  | malformed
  | outOfRange (digits : String)
  | leadingZero
deriving DecidableEq, Repr

def VersionError.message : VersionError → String
  | .malformed => "Invalid Semantic Version"
  | .outOfRange digits =>
    s!"Error parsing version segment: strconv.ParseUint: parsing \"{digits}\": value out of range"
  | .leadingZero => "Version segment starts with 0"

namespace Version

def isPartChar (c : Char) : Bool := c.isAlphanum || c = '-'

/-- Parts with dots between them at the head of a text, and what follows. A dot counts only before a
further part. -/
def dottedParts : Nat → List Char → Option (List (List Char) × List Char)
  | 0, _ => none
  | n + 1, text =>
    let part := text.takeWhile isPartChar
    let rest := text.dropWhile isPartChar
    if part.isEmpty then none
    else match rest with
      | '.' :: tail => match dottedParts n tail with
        | some (parts, rest) => some (part :: parts, rest)
        | none => some ([part], rest)
      | rest => some ([part], rest)

def markedParts (mark : Char) (text : List Char) : List (List Char) × List Char :=
  match text with
  | c :: rest =>
    if c = mark then (dottedParts (rest.length + 1) rest).getD ([], text) else ([], text)
  | [] => ([], [])

structure Written where
  major : List Char
  minor : List Char
  patch : List Char
  pre : List (List Char)

def dottedNumber (digit : Char → Bool) (text : List Char) : List Char × List Char :=
  match text with
  | '.' :: rest =>
    let number := rest.takeWhile digit
    if number.isEmpty then ([], text) else (number, rest.dropWhile digit)
  | _ => ([], text)

def readWritten? (digit : Char → Bool) (text : List Char) : Option (Written × List Char) :=
  let text := match text with
    | 'v' :: rest => rest
    | text => text
  let major := text.takeWhile digit
  if major.isEmpty then none
  else
    let (minor, rest) := dottedNumber digit (text.dropWhile digit)
    let (patch, rest) := if minor.isEmpty then ([], rest) else dottedNumber digit rest
    let (pre, rest) := markedParts '-' rest
    let (_, rest) := markedParts '+' rest
    some (⟨major, minor, patch, pre⟩, rest)

def readWhole? (digit : Char → Bool) (text : List Char) : Option Written :=
  match readWritten? digit text with
  | some (written, []) => some written
  | _ => none

def segmentLimit : Nat := 0x10000000000000000

def segment (digits : List Char) : Except VersionError Nat :=
  let value := (String.ofList digits).toNat?.getD 0
  if value < segmentLimit then .ok value else .error (.outOfRange (String.ofList digits))

def ofWritten (w : Written) : Except VersionError Version := do
  let major ← segment w.major
  let minor ← segment w.minor
  let patch ← segment w.patch
  if w.pre.any fun part => part.all Char.isDigit && 1 < part.length && part.head? = some '0' then
    .error .leadingZero
  else .ok ⟨major, minor, patch, w.pre.map String.ofList⟩

def parse (text : String) : Except VersionError Version :=
  match readWhole? Char.isDigit text.toList with
  | some written => ofWritten written
  | none => .error .malformed

def partNumber? (part : String) : Option Nat :=
  if !part.isEmpty && part.toList.all Char.isDigit then
    let value := part.toNat?.getD 0
    if value < segmentLimit then some value else none
  else none

/-- The order of prerelease parts: numbers by value and before words, words by characters. A part
that is not there comes first. -/
def comparePart (a b : String) : Ordering :=
  if a = b then .eq
  else if a.isEmpty then .lt
  else if b.isEmpty then .gt
  else match partNumber? a, partNumber? b with
    | none, none => if b < a then .gt else .lt
    | some _, none => .lt
    | none, some _ => .gt
    | some m, some n => if n < m then .gt else .lt

def comparePre : List String → List String → Ordering
  | [], [] => .eq
  | a :: as, [] => (comparePart a "").then (comparePre as [])
  | [], b :: bs => (comparePart "" b).then (comparePre [] bs)
  | a :: as, b :: bs => (comparePart a b).then (comparePre as bs)

def compare (a b : Version) : Ordering :=
  (Ord.compare a.major b.major).then <| (Ord.compare a.minor b.minor).then <|
    (Ord.compare a.patch b.patch).then <| match a.pre, b.pre with
      | [], [] => .eq
      | [], _ => .gt
      | _, [] => .lt
      | p, q => comparePre p q

end Version

end MicroRust
