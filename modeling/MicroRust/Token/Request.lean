import MicroRust.Source.LineReader
import MicroRust.Token.Lexer

/-! A lexer that answers one request at a time.

It takes its characters from a reader of lines, one by one, and counts its place along with them.
Behind the last answer there is nothing left to give. -/

namespace MicroRust

open Text

structure Lexer where
  source : Source
  reader : LineReader
  position : Position := Position.origin
  done : Bool := false

def Source.lexer (source : Source) : Lexer := { source, reader := ⟨source.content, [], false⟩ }

def Reading.of (outcome : Except LexCause Lexeme) (span : Span) : Reading :=
  match outcome with
  | .ok lexeme => .ok ⟨lexeme, span⟩
  | .error cause => .error (.lexical ⟨cause, span⟩)

namespace Lexer

def peek (l : Lexer) : Option Char × Lexer :=
  match l.reader.peek with
  | (c, reader) => (c, { l with reader })

def read (l : Lexer) : Option Char × Lexer :=
  match l.reader.next with
  | (some c, reader) => (some c, { l with reader, position := l.position.next c })
  | (none, reader) => (none, { l with reader })

theorem read_fst (l : Lexer) : l.read.1 = l.reader.peek.1 := by
  unfold read LineReader.next
  rcases l.reader.peek with ⟨_ | c, r⟩ <;> rfl

theorem size_read_lt {l : Lexer} {c : Char} (h : l.reader.peek.1 = some c) :
    l.read.2.reader.size < l.reader.size := by
  have hlt := LineReader.size_next_lt h
  unfold read
  rcases hn : l.reader.next with ⟨_ | d, r⟩ <;> rwa [hn] at hlt

theorem size_of_peek {l m : Lexer} {c : Char} (h : l.peek = (some c, m)) :
    l.read.2.reader.size < l.reader.size :=
  size_read_lt (congrArg Prod.fst h)

theorem size_of_read {l m : Lexer} {c : Char} (h : l.read = (some c, m)) :
    m.reader.size < l.reader.size := by
  have hpeek : l.reader.peek.1 = some c := by rw [← read_fst, h]
  have hlt := size_read_lt hpeek
  rwa [h] at hlt

def readWhile (p : Char → Bool) (l : Lexer) : List Char × Lexer :=
  match h : l.peek with
  | (some c, m) =>
    if p c then
      have := size_of_peek h
      match readWhile p l.read.2 with
      | (text, last) => (c :: text, last)
    else ([], m)
  | (none, m) => ([], m)
termination_by l.reader.size

theorem size_readWhile_le (p : Char → Bool) (l : Lexer) :
    (l.readWhile p).2.reader.size ≤ l.reader.size := by
  have hpeek (l : Lexer) : l.peek.2.reader.size ≤ l.reader.size :=
    LineReader.size_peek_le l.reader
  fun_induction readWhile p l with
  | case1 l c m h hc hlt text last heq ih =>
    rw [heq] at ih
    exact Nat.le_trans ih (Nat.le_of_lt hlt)
  | case2 l c m h hc =>
    have hle := hpeek l
    rwa [h] at hle
  | case3 l m h =>
    have hle := hpeek l
    rwa [h] at hle

def skipTrivia (l : Lexer) : Lexer :=
  match h : l.peek with
  | (some c, m) =>
    if isBlank c then
      have := size_of_peek h
      skipTrivia l.read.2
    else if c = '/' && m.reader.second? = some '/' then
      have := Nat.lt_of_le_of_lt (size_readWhile_le (· != '\n') l.read.2) (size_of_peek h)
      skipTrivia (l.read.2.readWhile (· != '\n')).2
    else m
  | (none, m) => m
termination_by l.reader.size

def readBody (l : Lexer) : List Char × Bool × Lexer :=
  match h : l.read with
  | (none, m) => ([], false, m)
  | (some c, m) =>
    if c = '"' then ([], true, m)
    else
      have := size_of_read h
      if c = '\\' then match hd : m.read with
        | (some d, m') =>
          have := Nat.lt_trans (size_of_read hd) this
          match readBody m' with
          | (body, closed, last) => (c :: d :: body, closed, last)
        | (none, m') => ([c], false, m')
      else match readBody m with
        | (body, closed, last) => (c :: body, closed, last)
termination_by l.reader.size

abbrev Step := Except LexCause Lexeme × Lexer

def readNumber (l : Lexer) (first : Char) : Step :=
  match l.readWhile Char.isDigit with
  | (whole, l) => match l.peek with
    | (some '.', _) => match l.read.2.readWhile Char.isDigit with
      | (fraction, l) => (floatOutcome (first :: whole) fraction, l)
    | (_, l) => (integerOutcome (first :: whole), l)

def readString (l : Lexer) : Step :=
  match l.readBody with
  | (body, true, l) => (.ok (.abi (String.ofList body)), l)
  | (body, false, l) => (.error (.unterminated (String.ofList body)), l)

def readWord (l : Lexer) (first : Char) : Step :=
  match l.readWhile continuesIdentifier with
  | (rest, l) => (.ok (wordLexeme (String.ofList (normalize (first :: rest)))), l)

def readFrom (l : Lexer) (c : Char) : Step :=
  match l.peek with
  | (next, m) => match next.bind (Symbol.ofPair? c) with
    | some s => (.ok (.symbol s), m.read.2)
    | none => match Symbol.ofChar? c with
      | some s => (.ok (.symbol s), m)
      | none =>
        if c.isDigit then m.readNumber c
        else if c = '"' then m.readString
        else if beginsIdentifier c then m.readWord c
        else (.error (.unknownCharacter c), m)

def next (l : Lexer) : Option Reading × Lexer :=
  if l.done then (none, l)
  else
    let l := l.skipTrivia
    match l.read with
    | (none, m) => (some (l.source.final l.position), { m with done := true })
    | (some c, m) => match m.readFrom c with
      | (outcome, last) => (some (Reading.of outcome ⟨l.position, last.position⟩), last)

def answer (l : Lexer) : Nat → Option Reading
  | 0 => l.next.1
  | n + 1 => l.next.2.answer n

end Lexer

end MicroRust
