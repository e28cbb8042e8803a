import MicroRust.Settings.Version

/-! Constraints on versions: alternatives of conditions that all have to hold. -/

namespace MicroRust

inductive ConstraintOp where
  | equal | notEqual | greater | less | greaterEqual | lessEqual | tilde | caret
deriving DecidableEq, Repr

/-- One condition. A wildcard in place of a number leaves the numbers from there on open. -/
structure Condition where
  op : ConstraintOp
  version : Version
  anyOpen : Bool
  minorOpen : Bool
  patchOpen : Bool
deriving Repr

inductive ConstraintError where
  | improper (part : String)
  | badVersion
deriving DecidableEq, Repr

def ConstraintError.message : ConstraintError → String
  | .improper part => s!"improper constraint: {part}"
  | .badVersion => "constraint Parser Error"

namespace Condition

/-- A prerelease meets only conditions that name one. -/
def refusesPre (c : Condition) (v : Version) : Bool := !v.pre.isEmpty && c.version.pre.isEmpty

def atLeast (c : Condition) (v : Version) : Bool := v.compare c.version != .lt

def meetsTilde (c : Condition) (v : Version) : Bool :=
  !c.refusesPre v && c.atLeast v &&
    ((c.version.major = 0 && c.version.minor = 0 && c.version.patch = 0 && !c.minorOpen &&
        !c.patchOpen) ||
      (v.major = c.version.major && (v.minor = c.version.minor || c.minorOpen)))

def meetsEqual (c : Condition) (v : Version) : Bool :=
  if c.anyOpen then c.meetsTilde v else !c.refusesPre v && v.compare c.version == .eq

def meetsNotEqual (c : Condition) (v : Version) : Bool :=
  let differs := v.compare c.version != .eq
  if !c.anyOpen then differs
  else if c.refusesPre v then false
  else if v.major ≠ c.version.major then true
  else if c.minorOpen then false
  else if v.minor ≠ c.version.minor then true
  else if c.patchOpen then
    (!v.pre.isEmpty || !c.version.pre.isEmpty) && Version.comparePre v.pre c.version.pre != .eq
  else v.patch ≠ c.version.patch || differs

def meetsGreater (c : Condition) (v : Version) : Bool :=
  let above := v.compare c.version == .gt
  if c.refusesPre v then false
  else if !c.anyOpen then above
  else if v.major ≠ c.version.major then c.version.major < v.major
  else if c.minorOpen then false
  else if c.patchOpen then c.version.minor < v.minor
  else above

def meetsLessEqual (c : Condition) (v : Version) : Bool :=
  if c.refusesPre v then false
  else if !c.anyOpen then v.compare c.version != .gt
  else !(c.version.major < v.major ||
    (v.major = c.version.major && c.version.minor < v.minor && !c.minorOpen))

/-- At least the version, and no change in the first number that is not zero. -/
def meetsCaret (c : Condition) (v : Version) : Bool :=
  if c.refusesPre v || !c.atLeast v then false
  else if 0 < c.version.major || c.minorOpen then v.major = c.version.major
  else if 0 < v.major then false
  else if 0 < c.version.minor || c.patchOpen then v.minor = c.version.minor
  else if 0 < v.minor then false
  else v.patch = c.version.patch

def meets (c : Condition) (v : Version) : Bool :=
  match c.op with
  | .equal => c.meetsEqual v
  | .notEqual => c.meetsNotEqual v
  | .greater => c.meetsGreater v
  | .less => !c.refusesPre v && v.compare c.version == .lt
  | .greaterEqual => !c.refusesPre v && c.atLeast v
  | .lessEqual => c.meetsLessEqual v
  | .tilde => c.meetsTilde v
  | .caret => c.meetsCaret v

end Condition

structure Constraint where
  alternatives : List (List Condition)
deriving Repr

def Constraint.accepts (c : Constraint) (v : Version) : Bool :=
  c.alternatives.any fun conditions => conditions.all fun condition => condition.meets v

namespace Constraint

def isSpace (c : Char) : Bool := c = ' ' || c = '\t' || c = '\n' || c = '\x0C' || c = '\r'

def isWildDigit (c : Char) : Bool := c.isDigit || c = 'x' || c = 'X' || c = '*' || c = '|'

def isWildcard (number : List Char) : Bool :=
  number.isEmpty || number = ['x'] || number = ['X'] || number = ['*']

def isOpChar (c : Char) : Bool :=
  c = '=' || c = '!' || c = '>' || c = '<' || c = '~' || c = '^'

def opOf? (op : List Char) : Option ConstraintOp :=
  match String.ofList op with
  | "" => some .equal
  | "=" => some .equal
  | "!=" => some .notEqual
  | ">" => some .greater
  | "<" => some .less
  | ">=" => some .greaterEqual
  | "=>" => some .greaterEqual
  | "<=" => some .lessEqual
  | "=<" => some .lessEqual
  | "~" => some .tilde
  | "~>" => some .tilde
  | "^" => some .caret
  | _ => none

structure RangeMatch where
  length : Nat
  low : List Char
  high : List Char

def rangeAt? (text : List Char) : Option RangeMatch := do
  let afterBlank := text.dropWhile isSpace
  let (_, rest) ← Version.readWritten? isWildDigit afterBlank
  let afterGap := rest.dropWhile isSpace
  guard (afterGap.length < rest.length)
  let afterHyphen ← match afterGap with
    | '-' :: tail => some tail
    | _ => none
  let second := afterHyphen.dropWhile isSpace
  guard (second.length < afterHyphen.length)
  let (_, tail) ← Version.readWritten? isWildDigit second
  some ⟨text.length - (tail.dropWhile isSpace).length,
    afterBlank.take (afterBlank.length - rest.length), second.take (second.length - tail.length)⟩

/-- The ranges of a text from left to right, each with its text. The first `n` characters belong to
one already found. -/
def ranges : Nat → List Char → List (List Char × RangeMatch)
  | _, [] => []
  | n + 1, _ :: rest => ranges n rest
  | 0, c :: rest => match rangeAt? (c :: rest) with
    | some m => ((c :: rest).take m.length, m) :: ranges (m.length - 1) rest
    | none => ranges 0 rest

def replaceFirst (old new : List Char) : List Char → List Char
  | [] => []
  | c :: rest =>
    if old.isPrefixOf (c :: rest) then new ++ (c :: rest).drop old.length
    else c :: replaceFirst old new rest

def expandRanges (text : List Char) : List Char :=
  (ranges 0 text).foldl (fun text (old, m) =>
    replaceFirst old (">= ".toList ++ m.low ++ ", <= ".toList ++ m.high ++ [' ']) text) text

def splitBars : List Char → List (List Char)
  | [] => [[]]
  | '|' :: '|' :: rest => [] :: splitBars rest
  | c :: rest => match splitBars rest with
    | piece :: more => (c :: piece) :: more
    | [] => [[c]]

def splitAt (cut : Char → Bool) : List Char → List (List Char)
  | [] => [[]]
  | c :: rest => match splitAt cut rest with
    | piece :: more => if cut c then [] :: piece :: more else (c :: piece) :: more
    | [] => [[c]]

def readWords? : List (List Char) → Option (List (ConstraintOp × Version.Written))
  | [] => some []
  | word :: rest => do
    let op ← opOf? (word.takeWhile isOpChar)
    match word.dropWhile isOpChar, rest with
    | [], version :: rest =>
      let written ← Version.readWhole? isWildDigit version
      return (op, written) :: (← readWords? rest)
    | [], [] => none
    | version, rest =>
      let written ← Version.readWhole? isWildDigit version
      return (op, written) :: (← readWords? rest)

def readSegment? (segment : List Char) : Option (List (ConstraintOp × Version.Written)) :=
  match (splitAt isSpace segment).filter (!·.isEmpty) with
  | [] => none
  | words => readWords? words

def conditionOf (op : ConstraintOp) (w : Version.Written) : Except ConstraintError Condition :=
  let isNumber (digits : List Char) : Bool := digits.all Char.isDigit
  let build (w : Version.Written) (anyOpen minorOpen patchOpen : Bool) :
      Except ConstraintError Condition :=
    if isNumber w.major && isNumber w.minor && isNumber w.patch then
      match Version.ofWritten w with
      | .ok version => .ok ⟨op, version, anyOpen, minorOpen, patchOpen⟩
      | .error _ => .error .badVersion
    else .error .badVersion
  if isWildcard w.major then build ⟨['0'], ['0'], ['0'], w.pre⟩ true false false
  else if isWildcard w.minor then build ⟨w.major, ['0'], ['0'], w.pre⟩ true true false
  else if isWildcard w.patch then build ⟨w.major, w.minor, ['0'], w.pre⟩ true false true
  else build w false false false

def readAlternative (part : List Char) : Except ConstraintError (List Condition) :=
  match (splitAt (· = ',') part).mapM readSegment? with
  | some segments => segments.flatten.mapM fun (op, w) => conditionOf op w
  | none => .error (.improper (String.ofList part))

def parse (text : String) : Except ConstraintError Constraint := do
  let alternatives ← (splitBars (expandRanges text.toList)).mapM readAlternative
  return ⟨alternatives⟩

end Constraint

end MicroRust
