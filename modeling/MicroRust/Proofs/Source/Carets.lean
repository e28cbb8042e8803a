import Mathlib.Data.Int.Range
import Mathlib.Data.List.Sort
import MicroRust.Proofs.Source.Snippet

/-! Which lines a snippet shows, and which columns it marks.

On each line of a range the carets stand under the columns that the range contains. A line without
such a column has a single caret, where the range starts on it. -/

namespace MicroRust

open Text

namespace Snippet

def caret : Glyph := .char '^'

/-- The column in which a range starts on one of its lines. -/
def startColumn (span : Span) (number : Int) : Int :=
  if number = span.start.line then span.start.column else 1

/-- The column behind the ones that a range takes of one of its lines. -/
def stopColumn (span : Span) (number : Int) (row : List Glyph) : Int :=
  if number = span.stop.line then span.stop.column else row.length + 1

/-- The marks below a line of a range. Columns count from one, so the mark in a column stands behind
as many marks as there are columns before it. -/
structure Marks (span : Span) (number : Int) (row marks : List Glyph) : Prop where
  marked : ∃ c : Nat, marks[c]? = some caret
  inside : ∀ c < row.length, span.contains ⟨number, c + 1⟩ = true → marks[c]? = some caret
  outside : ∀ c < row.length, span.contains ⟨number, c + 1⟩ = false → marks[c]? = some caret →
    (∀ b < row.length, span.contains ⟨number, b + 1⟩ = false) ∧
      (c : Int) + 1 = startColumn span number ∧ ∀ b : Nat, marks[b]? = some caret → b = c
  blank : ∀ c : Nat, (∀ b ≤ c, marks[b]? ≠ some caret) →
    marks[c]? = some (.char (if row[c]? = some (.char '\t') then '\t' else ' '))

theorem pairwise_range (m n : Int) : (Int.range m n).Pairwise (· < ·) := by
  rw [Int.range, List.pairwise_map]
  refine List.pairwise_lt_range.imp fun hab => ?_
  omega

theorem filter_range (first last n : Int) :
    (Int.range 1 (n + 1)).filter (fun l => first ≤ l ∧ l ≤ last) =
      Int.range (max 1 first) (min n last + 1) := by
  refine ((pairwise_range _ _).filter _).eq_of_mem_iff (pairwise_range _ _) fun l => ?_
  rw [List.mem_filter, Int.mem_range_iff, Int.mem_range_iff, decide_eq_true_eq]
  omega

theorem flatMap_ite {α β : Type} (p : α → Bool) (f : α → List β) (xs : List α) :
    (xs.flatMap fun x => if p x then f x else []) = (xs.filter p).flatMap f := by
  induction xs with
  | nil => rfl
  | cons x xs ih =>
    rw [List.flatMap_cons, ih, List.filter_cons]
    split <;> rfl

theorem zipIdx_lines (file : SourceFile) :
    file.lines.zipIdx 1 =
      (Int.range 1 (file.lines.length + 1)).map fun l => (file.line l, l.toNat) := by
  have hcount : (file.lines.length + 1 - 1 : Int).toNat = file.lines.length := by omega
  rw [Int.range, hcount, List.map_map]
  refine List.ext_getElem (by simp) fun k hk _ => ?_
  have hlt : k < file.lines.length := by simpa using hk
  have hindex : ((1 : Int) + k - 1).toNat = k := by omega
  have hnumber : ((1 : Int) + k).toNat = 1 + k := by omega
  have hpos : ¬ (1 : Int) + k < 1 := by omega
  simp [SourceFile.line, hnumber, hpos, hlt]

variable {style : SnippetStyle} {file : SourceFile} {span : Span}

/-- The numbers of the lines that are shown: those of the range and as many as wanted before and
behind it. -/
def shownLines (style : SnippetStyle) (file : SourceFile) (span : Span) : List Int :=
  Int.range (max 1 (span.start.line - style.context))
    (min (file.lines.length : Int) (span.stop.line + style.context) + 1)

/-- The same for bounds of any size, which are words. -/
def reachedLines (style : SnippetStyle) (file : SourceFile) (span : Span) : List Int :=
  Int.range (max 1 (Position.word (span.start.line - style.context)))
    (min (file.lines.length : Int) (Position.word (span.stop.line + style.context)) + 1)

theorem lines_eq_reached (style : SnippetStyle) (file : SourceFile)
    (hvalid : span.isValid = true) :
    lines style file span =
      (reachedLines style file span).flatMap fun l => numbered style span l (file.line l) := by
  rw [lines, hvalid, zipIdx_lines, List.flatMap_map, reachedLines, ← filter_range, ← flatMap_ite]
  refine List.flatMap_congr fun l hl => ?_
  have hpos := (Int.mem_range_iff.1 hl).1
  have hnumber : (l.toNat : Int) = l := Int.toNat_of_nonneg (by omega)
  dsimp only
  rw [hnumber]
  refine if_congr ?_ rfl rfl
  simp only [Bool.and_eq_true, decide_eq_true_eq]
  omega

theorem mem_lines_iff (hvalid : span.isValid = true) (line : SnippetLine) :
    line ∈ lines style file span ↔ ∃ l ∈ reachedLines style file span,
      line = ⟨numberColumn l ++ " |", .char ' ' :: clip style.width (file.line l)⟩ ∨
      span.start.line ≤ l ∧ l ≤ span.stop.line ∧
        line = caretLine span l (clip style.width (file.line l)) := by
  rw [lines_eq_reached style file hvalid, List.mem_flatMap]
  refine exists_congr fun l => and_congr_right fun _ => ?_
  rw [numbered, List.mem_cons]
  refine or_congr_right ?_
  simp only [Bool.and_eq_true, decide_eq_true_eq]
  split
  · rename_i hreached
    simp [hreached]
  · rename_i hreached
    simp only [List.not_mem_nil, false_iff]
    exact fun h => hreached ⟨h.1, h.2.1⟩

theorem lines_eq (hvalid : span.isValid = true)
    (hbefore : Position.fitsWord (span.start.line - style.context) = true)
    (hbehind : Position.fitsWord (span.stop.line + style.context) = true) :
    lines style file span =
      (shownLines style file span).flatMap fun l => numbered style span l (file.line l) := by
  rw [Position.fitsWord, decide_eq_true_eq] at hbefore hbehind
  rw [lines_eq_reached style file hvalid, reachedLines, hbefore, hbehind, shownLines]

def marks (span : Span) (number : Int) (row : List Glyph) : List Glyph :=
  indentation ((markedColumns span number row).1 - 1).toNat row ++
    List.replicate ((markedColumns span number row).2 - (markedColumns span number row).1).toNat
      caret

theorem getElem?_indentation {n c : Nat} (h : c < n) (row : List Glyph) :
    (indentation n row)[c]? =
      some (.char (if row[c]? = some (.char '\t') then '\t' else ' ')) := by
  unfold indentation
  rcases Nat.lt_or_ge c row.length with hc | hc
  · rw [List.getElem?_append_left, List.getElem?_map, List.getElem?_take_of_lt h,
      List.getElem?_eq_getElem hc]
    · simp
    · rw [List.length_map, List.length_take]
      omega
  · have hnone : row[c]? = none := List.getElem?_eq_none hc
    rw [List.getElem?_append_right, List.getElem?_replicate, if_pos, hnone]
    · rfl
    · rw [List.length_map, List.length_take]
      omega
    · rw [List.length_map, List.length_take]
      omega

theorem getElem?_marks_of_lt {span : Span} {number : Int} {row : List Glyph} {c : Nat}
    (h : (c : Int) + 1 < (markedColumns span number row).1) :
    (marks span number row)[c]? =
      some (.char (if row[c]? = some (.char '\t') then '\t' else ' ')) := by
  have hc : c < ((markedColumns span number row).1 - 1).toNat := by omega
  rw [marks, List.getElem?_append_left, getElem?_indentation hc]
  rwa [length_indentation]

theorem getElem?_marks_eq_caret_iff {span : Span} {number : Int} {row : List Glyph}
    (h : 0 < (markedColumns span number row).1) (c : Nat) :
    (marks span number row)[c]? = some caret ↔
      (markedColumns span number row).1 ≤ c + 1 ∧
        (c : Int) + 1 < (markedColumns span number row).2 := by
  rcases Int.lt_or_le (c + 1) (markedColumns span number row).1 with hc | hc
  · have hne (p : Prop) [Decidable p] : (if p then '\t' else ' ') ≠ '^' := by
      split <;> decide
    rw [getElem?_marks_of_lt hc, Option.some.injEq, caret, Glyph.char.injEq]
    constructor
    · intro hcaret
      exact absurd hcaret (hne _)
    · intro hle
      omega
  · rw [marks, List.getElem?_append_right, length_indentation, List.getElem?_replicate]
    · split
      · simp only [true_iff]
        omega
      · simp only [reduceCtorEq, false_iff]
        omega
    · rw [length_indentation]
      omega

theorem markedColumns_eq (span : Span) (number : Int) (row : List Glyph) :
    markedColumns span number row = (startColumn span number,
      if stopColumn span number row ≤ startColumn span number then startColumn span number + 1
      else stopColumn span number row) := rfl

section

variable {number : Int} {row : List Glyph} (hvalid : span.isValid = true)
  (hfirst : span.start.line ≤ number) (hlast : number ≤ span.stop.line)

include hvalid in
theorem startColumn_pos (number : Int) : 0 < startColumn span number := by
  have hstart := (Position.isValid_iff _).1 ((Span.isValid_iff span).1 hvalid).1
  rw [startColumn]
  split <;> omega

include hvalid hfirst hlast

theorem contains_iff {c : Nat} (hc : c < row.length) :
    span.contains ⟨number, c + 1⟩ = true ↔
      startColumn span number ≤ c + 1 ∧ (c : Int) + 1 < stopColumn span number row := by
  obtain ⟨hstart, -, -⟩ := (Span.isValid_iff span).1 hvalid
  rw [Position.isValid_iff] at hstart
  rw [Span.contains_iff, Position.isValid_iff, Position.le_iff, Position.lt_iff, startColumn,
    stopColumn]
  simp only [hvalid, true_and]
  split <;> split <;> omega

theorem marks_marks : Marks span number row (marks span number row) := by
  have hpos := startColumn_pos hvalid number
  have hcaret (c : Nat) : (marks span number row)[c]? = some caret ↔
      startColumn span number ≤ c + 1 ∧ (c : Int) + 1 < (markedColumns span number row).2 :=
    getElem?_marks_eq_caret_iff hpos c
  have hcontains (c : Nat) (hc : c < row.length) := contains_iff hvalid hfirst hlast hc
  rw [markedColumns_eq] at hcaret
  constructor
  · refine ⟨(startColumn span number - 1).toNat, (hcaret _).2 ?_⟩
    dsimp only
    split <;> omega
  · intro c hc hinside
    rw [hcontains c hc] at hinside
    rw [hcaret]
    dsimp only
    split <;> omega
  · intro c hc houtside hmark
    rw [← Bool.not_eq_true, hcontains c hc] at houtside
    rw [hcaret] at hmark
    dsimp only at hmark
    -- A caret outside is the one of a range that takes no column of the line.
    have hempty : stopColumn span number row ≤ startColumn span number := by
      by_contra hlt
      rw [if_neg hlt] at hmark
      exact houtside hmark
    rw [if_pos hempty] at hmark
    refine ⟨fun b hb => ?_, by omega, fun b hb => ?_⟩
    · rw [← Bool.not_eq_true, hcontains b hb]
      omega
    · rw [hcaret] at hb
      dsimp only at hb
      rw [if_pos hempty] at hb
      omega
  · intro c hnone
    refine getElem?_marks_of_lt ?_
    rw [markedColumns_eq]
    dsimp only
    by_contra hle
    refine hnone (startColumn span number - 1).toNat (by omega) ((hcaret _).2 ?_)
    dsimp only
    split <;> omega

end

def numberedText (number : Int) (row : List Glyph) : List Glyph :=
  glyphs (numberColumn number ++ " | ") ++ row ++ [.char '\n']

def caretText (marks : List Glyph) : List Glyph := glyphs "     | " ++ marks ++ [.char '\n']

theorem clip_of_le {width : Int} (h : width ≤ 7) (row : List Glyph) : clip width row = row := by
  have hwidth : width ≤ marginWidth := h
  simp [clip, hwidth]

theorem flatMap_text_numbered_clip (style : SnippetStyle) (span : Span) (number : Int)
    (row : List Glyph) :
    (numbered style span number row).flatMap SnippetLine.text =
      numberedText number (clip style.width row) ++
        if span.start.line ≤ number ∧ number ≤ span.stop.line then
          caretText (marks span number (clip style.width row)) else [] := by
  rw [numbered]
  simp only [Bool.and_eq_true, decide_eq_true_eq]
  split
  · simp [SnippetLine.text, numberedText, caretText, caretLine, marks, glyphs, caret]
  · simp [SnippetLine.text, numberedText, glyphs]

theorem flatMap_text_numbered (hwidth : style.width ≤ 7) (span : Span) (number : Int)
    (row : List Glyph) :
    (numbered style span number row).flatMap SnippetLine.text =
      numberedText number row ++ if span.start.line ≤ number ∧ number ≤ span.stop.line then
        caretText (marks span number row) else [] := by
  rw [flatMap_text_numbered_clip, clip_of_le hwidth]

/-- A snippet that is not cut shows the lines of the range and those around it, each once and in
order. Below each line of the range, and below no other line, the columns are marked that the range
contains. -/
theorem text_marks (hvalid : span.isValid = true) (hstop : span.stop.line ≤ file.lines.length)
    (hcontext : 0 ≤ style.context)
    (hbefore : Position.fitsWord (span.start.line - style.context) = true)
    (hbehind : Position.fitsWord (span.stop.line + style.context) = true)
    (hwidth : style.width ≤ 7) :
    ∃ marks : Int → List Glyph,
      text style file span = (shownLines style file span).flatMap (fun l =>
        numberedText l (file.line l) ++
          if span.start.line ≤ l ∧ l ≤ span.stop.line then caretText (marks l) else []) ∧
      ∀ l, span.start.line ≤ l → l ≤ span.stop.line →
        l ∈ shownLines style file span ∧ Marks span l (file.line l) (marks l) := by
  refine ⟨fun l => marks span l (file.line l), ?_, fun l hfirst hlast => ?_⟩
  · rw [text, lines_eq hvalid hbefore hbehind, List.flatMap_assoc]
    simp only [flatMap_text_numbered hwidth]
  · have hstart := (Position.isValid_iff _).1 ((Span.isValid_iff span).1 hvalid).1
    refine ⟨Int.mem_range_iff.2 ?_, marks_marks hvalid hfirst hlast⟩
    omega

def callFile : SourceFile := ⟨"call.rs", ["\tf(", "", "\t1);", ""].map glyphs⟩

def callSpan : Span := ⟨⟨1, 2⟩, ⟨3, 4⟩⟩

theorem text_marks_callFile :
    callSpan.isValid = true ∧ callSpan.stop.line ≤ callFile.lines.length ∧
      ∃ marks : Int → List Glyph,
        text { context := 1 } callFile callSpan =
          (shownLines { context := 1 } callFile callSpan).flatMap (fun l =>
            numberedText l (callFile.line l) ++
              if callSpan.start.line ≤ l ∧ l ≤ callSpan.stop.line then caretText (marks l)
              else []) ∧
        ∀ l, callSpan.start.line ≤ l → l ≤ callSpan.stop.line →
          l ∈ shownLines { context := 1 } callFile callSpan ∧
            Marks callSpan l (callFile.line l) (marks l) :=
  ⟨by decide, by decide, text_marks (by decide) (by decide) (by decide) (by decide) (by decide)
    (by decide)⟩

example : text {} callFile callSpan = glyphs
    "   1 | \tf(\n     | \t^^\n   2 | \n     | ^\n   3 | \t1);\n     | ^^^\n" := by
  decide

end Snippet

end MicroRust
