import MicroRust.Proofs.Source.Gutter

/-! How wide the lines of a snippet are.

Text is cut at the edge of the page, behind a gutter of the usual width. Carets are not cut: they
stand where the range starts and stops, wherever that is. -/

namespace MicroRust

open Text

def SnippetLine.row (line : SnippetLine) : List Glyph := glyphs line.margin ++ line.rest

namespace Snippet

section

variable {width : Int} (hwidth : 7 < width) (row : List Glyph)
include hwidth

theorem length_clip : ((clip width row).length : Int) = min (row.length : Int) (width - 7) := by
  have hmargin : marginWidth = 7 := rfl
  unfold clip
  split
  · rename_i hfits
    simp only [Bool.or_eq_true, decide_eq_true_eq, hmargin] at hfits
    omega
  · rename_i hcut
    simp only [Bool.or_eq_true, decide_eq_true_eq, hmargin, not_or] at hcut
    rw [List.length_map, List.length_take, hmargin]
    omega

theorem numbered_fits_iff {number : Int} (h : 0 ≤ number) :
    ((SnippetLine.mk (numberColumn number ++ " |") (.char ' ' :: clip width row)).row.length :
        Int) ≤ width ↔
      (10000 ≤ number → (row.length : Int) + (toString number).length + 3 ≤ width) := by
  have hclip := length_clip hwidth row
  have hcolumn := length_numberColumn number
  have hdigits := Int.length_toString_le_four_iff h
  have hbar : " |".length = 2 := rfl
  rw [SnippetLine.row, List.length_append, length_glyphs, String.length_append, List.length_cons]
  omega

end

theorem length_row_caretLine {span : Span} (hvalid : span.isValid = true) (number : Int)
    (row : List Glyph) :
    ((caretLine span number row).row.length : Int) =
      6 + max (startColumn span number + 1) (stopColumn span number row) := by
  have hpos := startColumn_pos hvalid number
  have hmargin : "     |".length = 6 := rfl
  rw [SnippetLine.row, caretLine, markedColumns_eq]
  simp only [List.length_append, length_glyphs, List.length_cons, length_indentation,
    List.length_replicate, hmargin]
  split <;> omega

variable {style : SnippetStyle} {file : SourceFile} {span : Span}

theorem caretLine_fits_iff (hvalid : span.isValid = true) (hwidth : 7 < style.width)
    (number : Int) (row : List Glyph) :
    ((caretLine span number (clip style.width row)).row.length : Int) ≤ style.width ↔
      (number = span.start.line → span.start.column + 7 ≤ style.width) ∧
      (number = span.stop.line → span.stop.column + 6 ≤ style.width) := by
  have hclip := length_clip hwidth row
  rw [length_row_caretLine hvalid, startColumn, stopColumn]
  split <;> split <;> omega

/-- A snippet keeps to the page exactly if no text behind a number of more than four digits is too
long, and the columns in which the range starts and stops are on the page themselves where they are
shown. -/
theorem fits_page_iff (hvalid : span.isValid = true) (hwidth : 7 < style.width) :
    text style file span =
      (lines style file span).flatMap (fun line => line.row ++ [.char '\n']) ∧
    ((∀ line ∈ lines style file span, (line.row.length : Int) ≤ style.width) ↔
      (∀ l ∈ reachedLines style file span, 10000 ≤ l →
        ((file.line l).length : Int) + (toString l).length + 3 ≤ style.width) ∧
      (span.start.line ∈ reachedLines style file span →
        span.start.column + 7 ≤ style.width) ∧
      (span.stop.line ∈ reachedLines style file span →
        span.stop.column + 6 ≤ style.width)) := by
  obtain ⟨-, -, hle⟩ := (Span.isValid_iff span).1 hvalid
  rw [Position.le_iff] at hle
  have hpos : ∀ l ∈ reachedLines style file span, 0 ≤ l := by
    intro l hl
    have hfirst := (Int.mem_range_iff.1 hl).1
    omega
  refine ⟨rfl, ?_, ?_⟩
  · intro hfits
    refine ⟨fun l hl => ?_, fun hstart => ?_, fun hstop => ?_⟩
    · have hline := hfits _ ((mem_lines_iff hvalid _).2 ⟨l, hl, .inl rfl⟩)
      exact (numbered_fits_iff hwidth _ (hpos l hl)).1 hline
    · have hline := hfits _ ((mem_lines_iff hvalid _).2
        ⟨_, hstart, .inr ⟨Int.le_refl _, by omega, rfl⟩⟩)
      exact ((caretLine_fits_iff hvalid hwidth _ _).1 hline).1 rfl
    · have hline := hfits _ ((mem_lines_iff hvalid _).2
        ⟨_, hstop, .inr ⟨by omega, Int.le_refl _, rfl⟩⟩)
      exact ((caretLine_fits_iff hvalid hwidth _ _).1 hline).2 rfl
  · rintro ⟨htext, hstart, hstop⟩ line hline
    obtain ⟨l, hl, rfl | ⟨-, -, rfl⟩⟩ := (mem_lines_iff hvalid line).1 hline
    · exact (numbered_fits_iff hwidth _ (hpos l hl)).2 (htext l hl)
    · refine (caretLine_fits_iff hvalid hwidth _ _).2 ⟨?_, ?_⟩
      · rintro rfl
        exact hstart hl
      · rintro rfl
        exact hstop hl

theorem fits_page_iff_callFile :
    callSpan.isValid = true ∧ (7 : Int) < 9 ∧
      text ⟨1, 9⟩ callFile callSpan =
        (lines ⟨1, 9⟩ callFile callSpan).flatMap (fun line => line.row ++ [.char '\n']) ∧
      ((∀ line ∈ lines ⟨1, 9⟩ callFile callSpan, (line.row.length : Int) ≤ 9) ↔
        (∀ l ∈ reachedLines ⟨1, 9⟩ callFile callSpan, 10000 ≤ l →
          ((callFile.line l).length : Int) + (toString l).length + 3 ≤ 9) ∧
        (callSpan.start.line ∈ reachedLines ⟨1, 9⟩ callFile callSpan →
          callSpan.start.column + 7 ≤ 9) ∧
        (callSpan.stop.line ∈ reachedLines ⟨1, 9⟩ callFile callSpan →
          callSpan.stop.column + 6 ≤ 9)) :=
  ⟨by decide, by decide, fits_page_iff (by decide) (by decide)⟩

def wideFile : SourceFile := ⟨"wide.rs", [glyphs "abcdefghijklmnopqrst"]⟩

def wideSpan : Span := ⟨⟨1, 1⟩, ⟨1, 21⟩⟩

/-- Carets run over the edge of the page, and so does text behind a number of five digits. -/
theorem exceeds_page_wideFile :
    wideSpan.isValid = true ∧
      text ⟨0, 12⟩ wideFile wideSpan =
        glyphs "   1 | abcde\n     | ^^^^^^^^^^^^^^^^^^^^\n" ∧
      (∃ line ∈ lines ⟨0, 12⟩ wideFile wideSpan, 12 < line.row.length) ∧
      longSpan.isValid = true ∧
      ∃ line ∈ lines ⟨0, 8⟩ longFile longSpan, 8 < line.row.length := by
  refine ⟨by decide, by decide, by decide, by decide, ?_⟩
  have hreached : 10000 ∈ reachedLines ⟨0, 8⟩ longFile longSpan := by
    rw [reachedLines, length_lines_longFile]
    decide
  refine ⟨_, (mem_lines_iff (by decide) _).2 ⟨10000, hreached, .inl rfl⟩, ?_⟩
  rw [line_longFile]
  decide

end Snippet

end MicroRust
