import MicroRust.Text.Glyph

/-! A reader that holds one line at a time and hands out its characters. -/

namespace MicroRust

open Text

theorem Text.length_decodeAfter_le (n : Nat) (bytes : List UInt8) :
    (decodeAfter n bytes).length ≤ bytes.length := by
  induction bytes generalizing n with
  | nil => simp [decodeAfter]
  | cons a rest ih =>
    cases n with
    | zero =>
      rw [decodeAfter, List.length_cons, List.length_cons]
      exact Nat.succ_le_succ (ih _)
    | succ n => exact Nat.le_succ_of_le (ih n)

theorem Text.length_characters_le (bytes : List UInt8) :
    (characters bytes).length ≤ bytes.length := by
  rw [characters, List.length_map]
  exact length_decodeAfter_le 0 bytes

/-- The bytes that were not read yet, the characters of the current line that were not handed out
yet, and whether the end was met. -/
structure LineReader where
  pending : List UInt8
  line : List Char := []
  ended : Bool := false
deriving Repr

namespace LineReader

def newline : UInt8 := 10

def splitLine : List UInt8 → List UInt8 × List UInt8 × Bool
  | [] => ([], [], false)
  | b :: rest =>
    if b = newline then ([b], rest, true)
    else match splitLine rest with
      | (line, rest, closed) => (b :: line, rest, closed)

def fill (r : LineReader) : LineReader :=
  if r.ended then r
  else match splitLine r.pending with
    | (line, rest, closed) => ⟨rest, characters line, !closed⟩

def peek (r : LineReader) : Option Char × LineReader :=
  match r.line with
  | c :: _ => (some c, r)
  | [] => (r.fill.line.head?, r.fill)

def next (r : LineReader) : Option Char × LineReader :=
  match r.peek with
  | (c, r) => (c, { r with line := r.line.drop 1 })

/-- The character behind the next one. It is looked for in the current line only, so it is the right
one where the next character does not end the line. -/
def second? (r : LineReader) : Option Char := r.line[1]?

def size (r : LineReader) : Nat := r.pending.length + r.line.length

theorem length_splitLine (bytes : List UInt8) :
    (splitLine bytes).1.length + (splitLine bytes).2.1.length = bytes.length := by
  induction bytes with
  | nil => rfl
  | cons b rest ih =>
    rw [splitLine]
    split
    · exact Nat.add_comm ..
    · rcases hs : splitLine rest with ⟨line, tail, closed⟩
      rw [hs] at ih
      simp only [List.length_cons] at ih ⊢
      omega

theorem size_fill_le (r : LineReader) (h : r.line = []) : r.fill.size ≤ r.size := by
  unfold fill
  split
  · exact Nat.le_refl _
  · have hsplit := length_splitLine r.pending
    rcases hs : splitLine r.pending with ⟨line, rest, closed⟩
    rw [hs] at hsplit
    have hline := length_characters_le line
    simp only [size, h, List.length_nil] at hsplit ⊢
    omega

theorem size_peek_le (r : LineReader) : r.peek.2.size ≤ r.size := by
  unfold peek
  split
  · exact Nat.le_refl _
  · rename_i h
    exact size_fill_le r h

theorem head?_line_peek (r : LineReader) : r.peek.2.line.head? = r.peek.1 := by
  unfold peek
  split
  · rename_i c line h
    rw [h, List.head?_cons]
  · rfl

theorem size_next_lt {r : LineReader} {c : Char} (h : r.peek.1 = some c) :
    r.next.2.size < r.size := by
  have hle := size_peek_le r
  have hhead := head?_line_peek r
  rw [h] at hhead
  unfold next
  rcases hp : r.peek with ⟨d, p⟩
  rw [hp] at hle hhead
  cases hl : p.line with
  | nil => simp [hl] at hhead
  | cons e line =>
    simp only [size, hl, List.length_cons, List.drop_succ_cons, List.drop_zero] at hle ⊢
    omega

end LineReader

end MicroRust
