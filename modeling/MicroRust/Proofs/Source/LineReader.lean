import MicroRust.Proofs.Text.Decoding

/-! Reading line by line is reading the whole text.

The characters of the lines, one line after the other, are those of the whole text. -/

namespace MicroRust.LineReader

open Text

theorem splitLine_closed {bytes line rest : List UInt8} (h : splitLine bytes = (line, rest, true)) :
    ∃ front, line = front ++ [newline] ∧ bytes = front ++ newline :: rest := by
  induction bytes generalizing line with
  | nil => cases h
  | cons b bytes ih =>
    rw [splitLine] at h
    split at h
    · rename_i hb
      cases h
      exact ⟨[], by rw [hb, List.nil_append], by rw [hb, List.nil_append]⟩
    · rcases hs : splitLine bytes with ⟨line', rest', closed⟩
      rw [hs] at h
      cases h
      obtain ⟨front, hline, hbytes⟩ := ih hs
      exact ⟨b :: front, by rw [hline, List.cons_append], by rw [hbytes, List.cons_append]⟩

theorem splitLine_open {bytes line rest : List UInt8} (h : splitLine bytes = (line, rest, false)) :
    line = bytes ∧ rest = [] := by
  induction bytes generalizing line with
  | nil =>
    cases h
    exact ⟨rfl, rfl⟩
  | cons b bytes ih =>
    rw [splitLine] at h
    split at h
    · cases h
    · rcases hs : splitLine bytes with ⟨line', rest', closed⟩
      rw [hs] at h
      cases h
      obtain ⟨rfl, rfl⟩ := ih hs
      exact ⟨rfl, rfl⟩

variable {r : LineReader}

def text (r : LineReader) : List Char := r.line ++ characters r.pending

/-- Nothing is pending behind the end, and before it every line has a line end. -/
structure Sound (r : LineReader) : Prop where
  ended : r.ended = true → r.pending = []
  closed : r.ended = false → r.line ≠ [] → ∃ front, r.line = front ++ ['\n']

theorem sound_start (bytes : List UInt8) : (LineReader.mk bytes [] false).Sound :=
  ⟨by simp, by simp⟩

theorem fill_spec (h : r.Sound) (hline : r.line = []) : r.fill.Sound ∧ r.fill.text = r.text ∧
    (r.fill.line = [] → r.text = []) := by
  unfold fill
  cases hended : r.ended with
  | true =>
    rw [if_pos rfl]
    refine ⟨h, rfl, fun _ => ?_⟩
    rw [text, hline, h.ended hended]
    rfl
  | false =>
    rw [if_neg Bool.false_ne_true]
    rcases hsplit : splitLine r.pending with ⟨line, rest, closed⟩
    dsimp only
    cases closed with
    | true =>
      obtain ⟨front, rfl, hpending⟩ := splitLine_closed hsplit
      have hchars : characters (front ++ [newline]) = characters front ++ ['\n'] :=
        characters_append_newline front []
      refine ⟨⟨by simp, fun _ _ => ⟨_, hchars⟩⟩, ?_, ?_⟩
      · rw [text, text, hline, hpending, hchars, characters_append_newline]
        simp
      · intro hnil
        simp [hchars] at hnil
    | false =>
      obtain ⟨rfl, rfl⟩ := splitLine_open hsplit
      refine ⟨⟨by simp, by simp⟩, ?_, ?_⟩
      · rw [text, text, hline]
        exact List.append_nil _
      · intro hnil
        rw [text, hline]
        exact hnil

theorem peek_spec (h : r.Sound) : r.peek.2.Sound ∧ r.peek.2.text = r.text ∧
    r.peek.1 = r.text.head? ∧ r.peek.2.line.head? = r.text.head? := by
  unfold peek
  cases hline : r.line with
  | cons c line =>
    have hhead : r.text.head? = some c := by rw [text, hline, List.cons_append, List.head?_cons]
    exact ⟨h, rfl, hhead.symm, by rw [hhead, hline, List.head?_cons]⟩
  | nil =>
    obtain ⟨hsound, htext, hend⟩ := fill_spec h hline
    have hhead : r.fill.line.head? = r.text.head? := by
      cases hfill : r.fill.line with
      | nil => rw [hend hfill]
      | cons c line => rw [← htext, text, hfill, List.cons_append, List.head?_cons, List.head?_cons]
    exact ⟨hsound, htext, hhead, hhead⟩

theorem next_spec (h : r.Sound) : r.next.2.Sound ∧ r.next.2.text = r.text.tail ∧
    r.next.1 = r.text.head? := by
  obtain ⟨hsound, htext, hhead, hline⟩ := peek_spec h
  unfold next
  rcases hp : r.peek with ⟨c, p⟩
  rw [hp] at hsound htext hhead hline
  dsimp only at *
  cases hl : p.line with
  | nil =>
    rw [hl] at hline
    have hnil : r.text = [] := List.head?_eq_none_iff.1 hline.symm
    have hpending : characters p.pending = [] := by rwa [hnil, text, hl, List.nil_append] at htext
    refine ⟨⟨hsound.ended, by simp⟩, ?_, hhead⟩
    rw [text, hnil]
    exact hpending
  | cons d line =>
    refine ⟨⟨hsound.ended, fun hopen hne => ?_⟩, ?_, hhead⟩
    · obtain ⟨front, hfront⟩ := hsound.closed hopen (by simp [hl])
      rw [hl] at hfront
      cases front with
      | nil =>
        cases hfront
        exact absurd rfl hne
      | cons _ front =>
        cases hfront
        exact ⟨front, rfl⟩
    · rw [← htext, text, text, hl]
      rfl

theorem second?_peek (h : r.Sound) {c : Char} (hc : r.text.head? = some c) (hne : c ≠ '\n') :
    r.peek.2.second? = r.text.tail.head? := by
  obtain ⟨hsound, htext, -, hline⟩ := peek_spec h
  rw [second?, ← htext, text]
  rw [hc] at hline
  cases hl : r.peek.2.line with
  | nil => simp [hl] at hline
  | cons d line =>
    cases line with
    | cons d' line => rfl
    | nil =>
      -- The line is used up. Before the end it would be its line end that is left, and `c` is none.
      rw [hl, List.head?_cons, Option.some.injEq] at hline
      cases hended : r.peek.2.ended with
      | true =>
        rw [hsound.ended hended]
        rfl
      | false =>
        obtain ⟨front, hfront⟩ := hsound.closed hended (by simp [hl])
        rw [hl] at hfront
        cases front with
        | nil =>
          cases hfront
          exact absurd hline.symm hne
        | cons _ front => simp at hfront

end MicroRust.LineReader
