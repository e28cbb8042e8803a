import MicroRust.Toml.Basic

/-! Reading the statements of a document by ordered choice: the first form that fits is taken. -/

namespace MicroRust.Toml

structure Cursor where
  rest : List Char
  offset : Nat := 0
  line : Nat := 1

/-- A reader that fails leaves the cursor where it was. The outer state is the furthest end of a
phrase, given up ones included: it tells where a text goes wrong. -/
abbrev Reader := StateT Cursor (OptionT (StateM Nat))

namespace Reader

variable {α : Type}

/-- Reads a phrase and notes its end, unless it is empty. -/
def phrase (r : Reader α) : Reader α := do
  let start := (← get).offset
  let a ← r
  let stop := (← get).offset
  if start < stop then modifyThe Nat (max stop)
  return a

def charIf (p : Char → Bool) : Reader Char := do
  match ← get with
  | ⟨c :: rest, offset, line⟩ =>
    if p c then
      set (Cursor.mk rest (offset + 1) line)
      return c
    else failure
  | _ => failure

def char (c : Char) : Reader Unit := do
  let _ ← charIf (· = c)

def word : List Char → Reader Unit
  | [] => pure ()
  | c :: cs => do
    char c
    word cs

def repeated : Nat → Reader α → Reader (List α)
  | 0, _ => pure []
  | n + 1, r => (do
      let a ← r
      let as ← repeated n r
      return a :: as) <|> pure []

def many (r : Reader α) : Reader (List α) := do repeated (← get).rest.length r

def many1 (r : Reader α) : Reader (List α) := do
  let a ← r
  let as ← many r
  return a :: as

def option (r : Reader α) : Reader (Option α) := some <$> r <|> pure none

def absent (r : Reader α) : Reader Unit := do
  let here ← get
  match ← option r with
  | some _ => failure
  | none => set here

def line : Reader Nat := return (← get).line

def spelled (r : Reader α) : Reader (α × List Char) := do
  let start ← get
  let a ← r
  let stop ← get
  return (a, start.rest.take (stop.offset - start.offset))

def isBlank (c : Char) : Bool := c = ' ' || c = '\t'

def isLineEnd (c : Char) : Bool := c = '\r' || c = '\n'

def isPlain (c : Char) : Bool := ' ' ≤ c

def lineEnd : Reader Char := do
  let c ← charIf isLineEnd
  modify fun s => { s with line := s.line + 1 }
  return c

def blanks : Reader Unit := phrase do
  let _ ← many (charIf isBlank)

def newlines : Reader (List Char) := phrase (many1 lineEnd)

def space : Reader Unit := phrase do
  let _ ← many (charIf isBlank <|> lineEnd)

def comment : Reader Unit := phrase do
  char '#'
  let _ ← many (charIf fun c => c = '\t' || isPlain c)

def digit : Reader Char := phrase (charIf Char.isDigit)

def spacedDigit : Reader Char := digit <|> (do char '_'; digit)

def sign : Reader (Option Char) := option (charIf fun c => c = '-' || c = '+')

def whole : Reader (List Char) := do
  let _ ← sign
  (do
    let first ← charIf fun c => c.isDigit && c ≠ '0'
    let more ← many1 spacedDigit
    return first :: more) <|> (do return [← digit])

def spacedDigits : Reader (List Char) := do
  let first ← digit
  let more ← many spacedDigit
  return first :: more

def fraction : Reader (List Char) := do
  char '.'
  spacedDigits

def exponent : Reader Int := do
  let _ ← charIf fun c => c = 'e' || c = 'E'
  let s ← sign
  let size := exponentOfDigits (← spacedDigits)
  return if s = some '-' then -(size : Int) else size

def float : Reader Numeral := do
  let w ← whole
  (do
    let f ← fraction
    let e ← option exponent
    return ⟨w, f, e.getD 0⟩) <|>
  (do
    let f ← option fraction
    return ⟨w, f.getD [], ← exponent⟩)

def number (n : Nat) : Reader Nat :=
  n.foldM (fun _ _ value => return value * 10 + ((← digit).toNat - 48)) 0

def clock : Reader Clock := do
  let hour ← number 2
  char ':'
  let minute ← number 2
  char ':'
  let second ← number 2
  let _ ← option do
    char '.'
    many1 digit
  return ⟨hour, minute, second⟩

def zone : Reader Zone := do
  let (distance, text) ← spelled <|
    (do
      phrase (char 'Z')
      return (0, 0)) <|>
    (do
      let _ ← charIf fun c => c = '-' || c = '+'
      let hours ← number 2
      char ':'
      return (hours, ← number 2))
  return ⟨String.ofList text, distance.1, distance.2⟩

def date : Reader Date := do
  let year ← number 4
  char '-'
  let month ← number 2
  char '-'
  return ⟨year, month, ← number 2⟩

def datetime : Reader Datetime :=
  (do
    let d ← date
    let time ← option do
      char 'T'
      let c ← clock
      return (c, ← option zone)
    return ⟨some d, time.map (·.1), time.bind (·.2)⟩) <|>
  (do return ⟨none, some (← clock), none⟩)

def hexDigit : Reader Nat := do
  let c ← phrase (charIf fun c => c.isDigit || ('a' ≤ c && c ≤ 'f') || ('A' ≤ c && c ≤ 'F'))
  return if c.isDigit then c.toNat - 48 else c.toLower.toNat - 87

inductive Letter where
  | plain (c : Char)
  | escape (c : Option Char)

def Letter.char? : Letter → Option Char
  | .plain c => some c
  | .escape c => c

def Letter.isLineEnd : Letter → Bool
  | .plain c => Reader.isLineEnd c
  | .escape _ => false

def codedChar (n : Nat) : Reader (Option Char) := do
  let code ← n.foldM (fun _ _ value => return value * 16 + (← hexDigit)) 0
  return if code.isValidChar then some (Char.ofNat code) else none

def escaped : Reader (Option Char) := do
  phrase (char '\\')
  match ← charIf fun _ => true with
  | 'b' => return some '\x08'
  | 't' => return some '\t'
  | 'n' => return some '\n'
  | 'f' => return some '\x0C'
  | 'r' => return some '\r'
  | '"' => return some '"'
  | '\\' => return some '\\'
  | '/' => return none
  | 'u' => codedChar 4
  | 'U' => codedChar 8
  | _ => failure

def basicChar : Reader Letter := phrase <|
  (do return .plain (← charIf fun c => isPlain c && c ≠ '"' && c ≠ '\\')) <|>
  (do return .escape (← escaped))

def literal (text : List Letter) : Reader Literal :=
  return ⟨(text.mapM Letter.char?).map String.ofList, ← line⟩

def plainLiteral (text : List Char) : Reader Literal :=
  return ⟨some (String.ofList text), ← line⟩

def basicString : Reader Literal := do
  char '"'
  let text ← many basicChar
  char '"'
  literal text

/-- A basic string over several lines. A backslash at the end of a line drops the blanks and line
ends behind it. Line ends at the start are dropped, unless they are written as escapes. -/
def longBasicString : Reader Literal := do
  word ['"', '"', '"']
  let text ← many <|
    (do return [← basicChar]) <|>
    (do return (← newlines).map Letter.plain) <|>
    (do
      phrase (char '\\')
      let _ ← newlines
      space
      return [])
  word ['"', '"', '"']
  literal (text.flatten.dropWhile Letter.isLineEnd)

def literalString : Reader Literal := do
  char '\''
  let text ← many (phrase (charIf fun c => c ≠ '\'' && (c = '\t' || isPlain c)))
  char '\''
  plainLiteral text

def longLiteralString : Reader Literal := do
  word ['\'', '\'', '\'']
  let text ← many do
    absent (word ['\'', '\'', '\''])
    (do return [← phrase (charIf fun c => c = '\t' || isPlain c)]) <|> newlines
  word ['\'', '\'', '\'']
  plainLiteral (text.flatten.dropWhile isLineEnd)

def string : Reader Literal :=
  phrase (longLiteralString <|> literalString <|> longBasicString <|> basicString)

def bareKey : Reader Literal := phrase do
  let text ← many1 (charIf fun c => c.isAlphanum || c = '-' || c = '_')
  plainLiteral text

def quotedKey : Reader Literal := phrase basicString

def key : Reader Literal := bareKey <|> quotedKey

def boolean : Reader Bool :=
  phrase ((do word "true".toList; return true) <|> (do word "false".toList; return false))

def filler : Reader Unit := do
  space
  let _ ← option comment
  space

def array (value : Reader Term) : Reader Term := do
  char '['
  space
  let elements ← option do
    let first ← value
    let more ← many do
      filler
      phrase (char ',')
      filler
      value
    space
    let _ ← option (phrase (char ','))
    space
    let _ ← option comment
    return first :: more
  space
  char ']'
  return .array (elements.getD [])

def pair (value : Reader Term) : Reader (Literal × Term × Nat) := phrase do
  let k ← key
  blanks
  char '='
  blanks
  let v ← value
  return (k, v, ← line)

def inlineTable (value : Reader Term) : Reader Term := do
  char '\x7b'
  let start ← line
  blanks
  let entries ← many do
    let entry ← pair value
    let _ ← option (phrase (do blanks; char ','; blanks))
    return entry
  blanks
  char '\x7d'
  return .table start entries

def withoutUnderscores (text : List Char) : String := String.ofList (text.filter (· ≠ '_'))

def value : Nat → Reader Term
  | 0 => failure
  | n + 1 => phrase <|
    (do
      let (time, text) ← spelled datetime
      return .plain (.datetime (String.ofList text) time)) <|>
    (do
      let (numeral, text) ← spelled float
      return .plain (.float (withoutUnderscores text) numeral)) <|>
    (do
      let (_, text) ← spelled whole
      return .plain (.integer (withoutUnderscores text))) <|>
    (do return .string (← string)) <|>
    (do return .plain (.boolean (← boolean))) <|>
    array (value n) <|> inlineTable (value n)

def tableKeys : Reader (List Literal) := do
  let first ← key
  let more ← many do
    phrase (do blanks; char '.'; blanks)
    key
  return first :: more

def tableHead : Reader Statement :=
  phrase (do
    char '['
    blanks
    let (keys, name) ← spelled tableKeys
    blanks
    char ']'
    return .table (String.ofList name) keys (← line)) <|>
  phrase (do
    word ['[', '[']
    blanks
    let (keys, name) ← spelled tableKeys
    blanks
    word [']', ']']
    return .element (String.ofList name) keys (← line))

def pairLine (depth : Nat) : Reader Statement := do
  let (k, v, line) ← pair (value depth)
  blanks
  let _ ← option comment
  return .pair k v line

def expression (depth : Nat) : Reader (List Statement) := phrase <|
  (do
    blanks
    let head ← tableHead
    blanks
    let _ ← option comment
    let pairs ← many (do space; pairLine depth)
    return head :: pairs) <|>
  (do
    blanks
    return [← pairLine depth]) <|>
  (do
    blanks
    let _ ← option comment
    return [])

def document (depth : Nat) : Reader (List Statement) := do
  let first ← expression depth
  let more ← many do
    let _ ← newlines
    expression depth
  let _ ← option newlines
  absent (charIf fun _ => true)
  return first ++ more.flatten

end Reader

/-- The statements of a text. A text that has none is at fault on the line of the character behind
the furthest phrase. -/
def statements (text : List Char) : Except Error (List Statement) :=
  match (((Reader.document (text.length + 1)).run { rest := text }).run).run 0 with
  | (some (statements, _), _) => .ok statements
  | (none, furthest) => .error ⟨1 + (text.take (furthest + 1)).count '\n', .badSyntax⟩

end MicroRust.Toml
