import MicroRust.Proofs.Source.LineReader
import MicroRust.Token.Request

/-! A reader of lines as a cursor over the whole text.

The cursor has the text decoded at once and counts through it. Whatever is asked of the two, they
give the same answers: one call keeps what is left to the reader in step with what is behind the
cursor, and so does every run of calls. -/

namespace MicroRust

open Text

inductive ReaderCall where
  | peek | next
deriving DecidableEq, Repr

def answersOf {σ : Type} (call : ReaderCall → σ → Option Char × σ) :
    List ReaderCall → σ → List (Option Char) × σ
  | [], s => ([], s)
  | c :: calls, s => match call c s with
    | (answer, s') => match answersOf call calls s' with
      | (answers, last) => (answer :: answers, last)

theorem answersOf_cons {σ : Type} (call : ReaderCall → σ → Option Char × σ) (c : ReaderCall)
    (calls : List ReaderCall) (s : σ) :
    answersOf call (c :: calls) s =
      ((call c s).1 :: (answersOf call calls (call c s).2).1,
        (answersOf call calls (call c s).2).2) := rfl

/-- A place in a text, counted from its start. -/
structure Cursor where
  text : List Char
  index : Nat := 0
deriving Repr

namespace Cursor

def call : ReaderCall → Cursor → Option Char × Cursor
  | .peek, k => (k.text[k.index]?, k)
  | .next, k => (k.text[k.index]?, { k with index := min (k.index + 1) k.text.length })

end Cursor

namespace LineReader

def call : ReaderCall → LineReader → Option Char × LineReader
  | .peek, r => r.peek
  | .next, r => r.next

variable {r : LineReader} {k : Cursor}

theorem ended_of_peek_eq_none (h : r.Sound) (hnone : r.peek.1 = none) :
    r.peek.2.ended = true ∧ r.peek.2.pending = [] := by
  obtain ⟨hsound, -, -, hline⟩ := peek_spec h
  suffices hended : r.peek.2.ended = true from ⟨hended, hsound.ended hended⟩
  unfold peek at hnone ⊢
  cases hr : r.line with
  | cons c line =>
    rw [hr] at hnone
    cases hnone
  | nil =>
    rw [hr] at hnone
    have hfill : r.fill.line = [] := List.head?_eq_none_iff.1 hnone
    change r.fill.ended = true
    unfold fill at hfill ⊢
    cases hended : r.ended with
    | true => exact hended
    | false =>
      rw [hended, if_neg Bool.false_ne_true] at hfill
      rw [if_neg Bool.false_ne_true]
      rcases hsplit : splitLine r.pending with ⟨line, rest, _ | _⟩
      · rfl
      · -- A line with its end is not empty.
        obtain ⟨front, rfl, -⟩ := splitLine_closed hsplit
        have hchars := characters_append_newline front []
        simp only [hsplit] at hfill
        rw [hfill] at hchars
        simp at hchars

/-- The reader has left what is behind the cursor. -/
structure Follows (k : Cursor) (r : LineReader) : Prop where
  sound : r.Sound
  text : r.text = k.text.drop k.index

theorem Follows.head? (h : r.Follows k) : r.text.head? = k.text[k.index]? := by
  rw [h.text, List.head?_drop]

theorem Follows.call (h : r.Follows k) (c : ReaderCall) :
    (r.call c).1 = (k.call c).1 ∧ (r.call c).2.Follows (k.call c).2 := by
  cases c with
  | peek =>
    obtain ⟨hsound, htext, hhead, -⟩ := peek_spec h.sound
    exact ⟨hhead.trans h.head?, hsound, htext.trans h.text⟩
  | next =>
    obtain ⟨hsound, htext, hhead⟩ := next_spec h.sound
    refine ⟨hhead.trans h.head?, hsound, ?_⟩
    change r.next.2.text = k.text.drop (min (k.index + 1) k.text.length)
    rw [htext, h.text, List.tail_drop, List.drop_eq_drop_iff]
    omega

theorem Follows.second?_peek (h : r.Follows k) {c : Char} (hc : r.peek.1 = some c)
    (hne : c ≠ '\n') : r.peek.2.second? = k.text[k.index + 1]? := by
  have hhead := (peek_spec h.sound).2.2.1
  rw [LineReader.second?_peek h.sound (hhead.symm.trans hc) hne, h.text, List.tail_drop,
    List.head?_drop]

theorem Follows.answersOf (h : r.Follows k) (calls : List ReaderCall) :
    (answersOf LineReader.call calls r).1 = (answersOf Cursor.call calls k).1 ∧
      (answersOf LineReader.call calls r).2.Follows (answersOf Cursor.call calls k).2 := by
  induction calls generalizing r k with
  | nil => exact ⟨rfl, h⟩
  | cons c calls ih =>
    obtain ⟨hanswer, hafter⟩ := h.call c
    obtain ⟨hanswers, hlast⟩ := ih hafter
    rw [answersOf_cons, answersOf_cons, hanswer, hanswers]
    exact ⟨rfl, hlast⟩

theorem follows_lexer (source : Source) :
    source.lexer.reader.Follows ⟨characters source.content, 0⟩ :=
  ⟨sound_start _, rfl⟩

end LineReader

namespace Cursor

theorem text_answersOf (calls : List ReaderCall) (k : Cursor) :
    (answersOf call calls k).2.text = k.text := by
  induction calls generalizing k with
  | nil => rfl
  | cons c calls ih => cases c <;> exact ih _

end Cursor

/-- The reader of a source answers every run of calls as the cursor over its text does, whatever
stops reading behind the last byte, and tells no end before that byte was read. Where the next
character ends no line, the reader also sees the one behind it, if there is one. -/
theorem reader_answers_as_cursor (source : Source) (calls : List ReaderCall) :
    ∃ (index : Nat) (answers : List (Option Char)) (r : LineReader),
      answersOf Cursor.call calls ⟨characters source.content, 0⟩ =
        (answers, ⟨characters source.content, index⟩) ∧
      answersOf LineReader.call calls source.lexer.reader = (answers, r) ∧
      (∀ c, r.peek.1 = some c → c ≠ '\n' →
        r.peek.2.second? = (characters source.content)[index + 1]?) ∧
      (r.peek.1 = none → r.peek.2.ended = true ∧ r.peek.2.pending = []) := by
  obtain ⟨hanswers, hfollows⟩ := (LineReader.follows_lexer source).answersOf calls
  have htext := Cursor.text_answersOf calls ⟨characters source.content, 0⟩
  rcases hk : answersOf Cursor.call calls ⟨characters source.content, 0⟩ with ⟨answers, text, index⟩
  rcases hr : answersOf LineReader.call calls source.lexer.reader with ⟨answers', r⟩
  rw [hk] at hanswers hfollows htext
  rw [hr] at hanswers hfollows
  obtain rfl : answers' = answers := hanswers
  obtain rfl : text = characters source.content := htext
  exact ⟨index, _, r, rfl, rfl, fun c => hfollows.second?_peek,
    LineReader.ended_of_peek_eq_none hfollows.sound⟩

def brokenSource : Source :=
  ⟨"broken.rs", [0x61, 0x0A, 0x0A, 0xFF, 0x2F], some "input/output error"⟩

theorem reader_answers_as_cursor_broken :
    ∃ r : LineReader,
      answersOf LineReader.call [.peek, .next, .next, .next] brokenSource.lexer.reader =
        ([some 'a', some 'a', some '\n', some '\n'], r) ∧
      r.peek.1 = some '\uFFFD' ∧ r.peek.2.second? = some '/' ∧
      r.next.2.next.2.peek.1 = none ∧ r.next.2.next.2.peek.2.ended = true := by
  obtain ⟨_, _, r, hcursor, hreader, hsecond, -⟩ :=
    reader_answers_as_cursor brokenSource [.peek, .next, .next, .next]
  obtain ⟨_, _, last, -, hlast, -, hend⟩ :=
    reader_answers_as_cursor brokenSource [.peek, .next, .next, .next, .next, .next]
  cases hcursor
  cases hreader
  cases hlast
  exact ⟨_, rfl, rfl, hsecond '\uFFFD' rfl (by decide), rfl, (hend rfl).1⟩

end MicroRust
