import MicroRust.Text.Glyph
import MicroRust.Text.IdentifierContinue
import MicroRust.Text.Normalization
import MicroRust.Token.Error

/-! From characters to tokens.

`scan` reads one lexeme from the head of a text and says how far it reaches. `readings` goes through
a whole text: blanks and comments are skipped, an error takes its characters with it and reading
goes on behind them, and one last reading tells the end of the text or why it cannot be read
further. -/

namespace MicroRust

open Text

def isBlank (c : Char) : Bool :=
  c = '\t' || c = '\n' || c = '\x0B' || c = '\x0C' || c = '\r' || c = ' ' || c = '\u0085' ||
    c = '\u200E' || c = '\u200F' || c = '\u2028' || c = '\u2029'

/-- Blanks and comments at the head of a text. A comment reaches up to the end of its line; inside
one, `inComment` is set. -/
def trivia : (inComment : Bool) → List Char → List Char
  | true, '\n' :: rest => '\n' :: trivia false rest
  | true, c :: rest => c :: trivia true rest
  | false, '/' :: '/' :: rest => '/' :: '/' :: trivia true rest
  | false, c :: rest => if isBlank c then c :: trivia false rest else []
  | _, [] => []

def decimalValue (digits : List Char) : Nat :=
  digits.foldl (fun n c => 10 * n + (c.toNat - '0'.toNat)) 0

structure Scan where
  outcome : Except LexCause Lexeme
  covered : List Char
  rest : List Char

def integerOutcome (digits : List Char) : Except LexCause Lexeme :=
  if decimalValue digits < 0x80000000 then
    .ok (.integer (String.ofList digits) (Int32.ofNat (decimalValue digits)))
  else .error (.invalidInteger (String.ofList digits))

def floatOutcome (whole fraction : List Char) : Except LexCause Lexeme :=
  let digits := String.ofList (whole ++ '.' :: fraction)
  match Binary64.ofQuotient? (decimalValue (whole ++ fraction)) (Nat.pow 10 fraction.length) with
  | some value => .ok (.float digits value)
  | none => .error (.invalidFloat digits)

def scanNumber (first : Char) (rest : List Char) : Scan :=
  let whole := first :: rest.takeWhile Char.isDigit
  match rest.dropWhile Char.isDigit with
  | '.' :: tail =>
    let fraction := tail.takeWhile Char.isDigit
    ⟨floatOutcome whole fraction, whole ++ '.' :: fraction, tail.dropWhile Char.isDigit⟩
  | tail => ⟨integerOutcome whole, whole, tail⟩

/-- The body of a string, up to the first quote that no backslash precedes, and what follows the
quote. A backslash is kept together with the character after it. -/
def stringBody? : List Char → Option (List Char × List Char)
  | [] => none
  | '"' :: rest => some ([], rest)
  | '\\' :: c :: rest => (stringBody? rest).map fun (body, tail) => ('\\' :: c :: body, tail)
  | c :: rest => (stringBody? rest).map fun (body, tail) => (c :: body, tail)

def scanString (rest : List Char) : Scan :=
  match stringBody? rest with
  | some (body, tail) =>
    ⟨.ok (.abi (String.ofList body)), '"' :: body ++ ['"'], tail⟩
  | none => ⟨.error (.unterminated (String.ofList rest)), '"' :: rest, []⟩

def wordLexeme (word : String) : Lexeme :=
  if word = "_" then .underscore
  else if word = "true" then .boolean true
  else if word = "false" then .boolean false
  else match Keyword.ofText? word with
    | some k => .keyword k
    | none => .identifier word

def scanWord (first : Char) (rest : List Char) : Scan :=
  let word := first :: rest.takeWhile continuesIdentifier
  ⟨.ok (wordLexeme (String.ofList (normalize word))), word, rest.dropWhile continuesIdentifier⟩

def symbolAt? (c : Char) : List Char → Option (Symbol × List Char × List Char)
  | d :: rest => match Symbol.ofPair? c d with
    | some s => some (s, [c, d], rest)
    | none => (Symbol.ofChar? c).map fun s => (s, [c], d :: rest)
  | [] => (Symbol.ofChar? c).map fun s => (s, [c], [])

def scan (c : Char) (rest : List Char) : Scan :=
  match symbolAt? c rest with
  | some (s, covered, tail) => ⟨.ok (.symbol s), covered, tail⟩
  | none =>
    if c.isDigit then scanNumber c rest
    else if c = '"' then scanString rest
    else if beginsIdentifier c then scanWord c rest
    else ⟨.error (.unknownCharacter c), [c], rest⟩

theorem length_dropWhile_le {α : Type} (p : α → Bool) (l : List α) :
    (l.dropWhile p).length ≤ l.length := (List.dropWhile_sublist p).length_le

theorem length_stringBody? {cs body tail : List Char} (h : stringBody? cs = some (body, tail)) :
    tail.length < cs.length := by
  fun_induction stringBody? cs generalizing body with
  | case1 => simp at h
  | case2 rest => simp_all
  | case3 c rest ih =>
    obtain ⟨⟨b, t⟩, hb, he⟩ := Option.map_eq_some_iff.1 h
    obtain ⟨-, rfl⟩ := Prod.mk.inj he
    exact Nat.lt_trans (ih hb) (by simp only [List.length_cons]; omega)
  | case4 c rest _ _ ih =>
    obtain ⟨⟨b, t⟩, hb, he⟩ := Option.map_eq_some_iff.1 h
    obtain ⟨-, rfl⟩ := Prod.mk.inj he
    exact Nat.lt_trans (ih hb) (by simp)

theorem length_scan_rest (c : Char) (rest : List Char) :
    (scan c rest).rest.length ≤ rest.length := by
  unfold scan
  split
  · rename_i s covered tail h
    cases rest with
    | nil =>
      obtain ⟨t, -, he⟩ := Option.map_eq_some_iff.1 h
      simp_all
    | cons d rest =>
      simp only [symbolAt?] at h
      split at h
      · simp_all
      · obtain ⟨t, -, he⟩ := Option.map_eq_some_iff.1 h
        simp_all
  · split
    · unfold scanNumber
      have hd := length_dropWhile_le Char.isDigit rest
      split
      · rename_i tail ht
        have ht' := length_dropWhile_le Char.isDigit tail
        rw [ht] at hd
        simp only [List.length_cons] at hd
        simp only
        omega
      · exact hd
    · split
      · unfold scanString
        split
        · rename_i body tail h
          exact Nat.le_of_lt (length_stringBody? h)
        · simp
      · split
        · exact length_dropWhile_le _ rest
        · simp

abbrev Reading := Except LexFailure Token

def Scan.reading (s : Scan) (span : Span) : Reading :=
  match s.outcome with
  | .ok lexeme => .ok ⟨lexeme, span⟩
  | .error cause => .error (.lexical ⟨cause, span⟩)

/-- All readings of a text that begins at `pos`. The last one is `final`, given the place where the
text ends. -/
def readings (final : Position → Reading) (pos : Position) (text : List Char) : List Reading :=
  let gap := trivia false text
  let start := pos.advance gap
  match h : text.drop gap.length with
  | [] => [final start]
  | c :: rest =>
    have : (scan c rest).rest.length < text.length := by
      have hs := length_scan_rest c rest
      have hd := congrArg List.length h
      simp only [List.length_drop, List.length_cons] at hd
      omega
    let piece := scan c rest
    let stop := start.advance piece.covered
    piece.reading ⟨start, stop⟩ :: readings final stop piece.rest
termination_by text.length

/-- A source: the name it is reported under, its bytes, and what stops reading after them if not the
end of the file. -/
structure Source where
  name : String
  content : List UInt8
  readError : Option String := none

def Source.final (source : Source) (stop : Position) : Reading :=
  match source.readError with
  | some reason => .error (.unreadable source.name reason)
  | none => .ok ⟨.eof, Span.point stop⟩

def Source.readings (source : Source) : List Reading :=
  MicroRust.readings source.final Position.origin (characters source.content)

def tokensUntilFailure : List Reading → List Token × Option LexFailure
  | [] => ([], none)
  | .error e :: _ => ([], some e)
  | .ok t :: rest => match tokensUntilFailure rest with
    | (tokens, failure) => (t :: tokens, failure)

end MicroRust
