import MicroRust.Proofs.Source.Carets

/-! What stands before the lines of a snippet.

A number takes four columns, or as many as it has digits, and the carets below a line always stand
behind five blanks. So the carets are below what they mark as long as four digits are enough. -/

namespace MicroRust

open Text

theorem Int.toString_of_nonneg {n : Int} (h : 0 ≤ n) : toString n = n.toNat.repr := by
  have hrepr := Int.repr_eq_if (a := n)
  rwa [if_pos h] at hrepr

theorem Int.length_toString_le_four_iff {n : Int} (h : 0 ≤ n) :
    (toString n).length ≤ 4 ↔ n < 10000 := by
  rw [Int.toString_of_nonneg h, Nat.length_repr_le_iff (by decide)]
  omega

namespace Snippet

theorem length_numberColumn (n : Int) :
    (numberColumn n).length = 4 + ((toString n).length - 4) := by
  simp only [numberColumn, String.length_append, String.length_ofList, List.length_replicate]
  omega

def numberGutter (number : Int) : List Glyph := glyphs (numberColumn number ++ " | ")

def caretGutter : List Glyph := glyphs "     | "

theorem length_glyphs (s : String) : (glyphs s).length = s.length := by
  rw [glyphs, List.length_map, String.length_toList]

theorem length_numberGutter (number : Int) :
    (numberGutter number).length = caretGutter.length + ((toString number).length - 4) := by
  have hcolumn := length_numberColumn number
  have hbar : " | ".length = 3 := rfl
  have hcaret : caretGutter.length = 7 := rfl
  rw [numberGutter, length_glyphs, String.length_append]
  omega

theorem length_numberGutter_eq_iff {number : Int} (h : 0 ≤ number) :
    (numberGutter number).length = caretGutter.length ↔ number < 10000 := by
  have hdigits := Int.length_toString_le_four_iff h
  rw [length_numberGutter]
  omega

variable {style : SnippetStyle} {file : SourceFile} {span : Span}

/-- In a snippet each line of the range stands behind its number, and the carets below it behind a
gutter of their own. The two gutters are equally wide on all lines of the range exactly if the last
of them has a number of four digits at most; with each further digit the text moves by one column
away from its carets. -/
theorem gutters_agree_iff (hvalid : span.isValid = true)
    (hstop : span.stop.line ≤ file.lines.length) (hcontext : 0 ≤ style.context)
    (hbefore : Position.fitsWord (span.start.line - style.context) = true)
    (hbehind : Position.fitsWord (span.stop.line + style.context) = true) :
    ∃ marks : Int → List Glyph,
      text style file span = (shownLines style file span).flatMap (fun l =>
        numberGutter l ++ clip style.width (file.line l) ++ [.char '\n'] ++
          if span.start.line ≤ l ∧ l ≤ span.stop.line then
            caretGutter ++ marks l ++ [.char '\n'] else []) ∧
      (∀ l, span.start.line ≤ l → l ≤ span.stop.line → l ∈ shownLines style file span ∧
        Marks span l (clip style.width (file.line l)) (marks l) ∧
        (numberGutter l).length = caretGutter.length + ((toString l).length - 4)) ∧
      ((∀ l, span.start.line ≤ l → l ≤ span.stop.line →
        (numberGutter l).length = caretGutter.length) ↔ span.stop.line < 10000) := by
  obtain ⟨hstart, -, hle⟩ := (Span.isValid_iff span).1 hvalid
  have hfirst := ((Position.isValid_iff _).1 hstart).1
  rw [Position.le_iff] at hle
  refine ⟨fun l => marks span l (clip style.width (file.line l)), ?_, ?_, ?_⟩
  · rw [text, lines_eq hvalid hbefore hbehind, List.flatMap_assoc]
    simp only [flatMap_text_numbered_clip]
    rfl
  · intro l hlo hhi
    refine ⟨Int.mem_range_iff.2 ?_, marks_marks hvalid hlo hhi, length_numberGutter l⟩
    omega
  · constructor
    · intro hagree
      have hlast := hagree span.stop.line (by omega) (Int.le_refl _)
      exact (length_numberGutter_eq_iff (by omega)).1 hlast
    · intro hlt l hlo hhi
      exact (length_numberGutter_eq_iff (by omega)).2 (by omega)

theorem gutters_agree_iff_callFile :
    callSpan.isValid = true ∧ callSpan.stop.line ≤ callFile.lines.length ∧
      ∃ marks : Int → List Glyph,
        text ⟨1, 9⟩ callFile callSpan = (shownLines ⟨1, 9⟩ callFile callSpan).flatMap (fun l =>
          numberGutter l ++ clip 9 (callFile.line l) ++ [.char '\n'] ++
            if callSpan.start.line ≤ l ∧ l ≤ callSpan.stop.line then
              caretGutter ++ marks l ++ [.char '\n'] else []) ∧
        (∀ l, callSpan.start.line ≤ l → l ≤ callSpan.stop.line →
          l ∈ shownLines ⟨1, 9⟩ callFile callSpan ∧
          Marks callSpan l (clip 9 (callFile.line l)) (marks l) ∧
          (numberGutter l).length = caretGutter.length + ((toString l).length - 4)) ∧
        ((∀ l, callSpan.start.line ≤ l → l ≤ callSpan.stop.line →
          (numberGutter l).length = caretGutter.length) ↔ callSpan.stop.line < 10000) :=
  ⟨by decide, by decide, gutters_agree_iff (by decide) (by decide) (by decide) (by decide)
    (by decide)⟩

def longFile : SourceFile := ⟨"long.rs", List.replicate 9999 [] ++ [glyphs "x"]⟩

def longSpan : Span := ⟨⟨10000, 1⟩, ⟨10000, 2⟩⟩

theorem length_lines_longFile : longFile.lines.length = 10000 := by
  rw [longFile, List.length_append, List.length_replicate]
  rfl

theorem line_longFile : longFile.line 10000 = glyphs "x" := by
  have hlast : longFile.lines[9999]? = some (glyphs "x") := by
    have hfront : (List.replicate 9999 ([] : List Glyph)).length = 9999 := List.length_replicate
    rw [longFile, List.getElem?_append_right (Nat.le_of_eq hfront), hfront]
    rfl
  rw [SourceFile.line, if_neg (by decide)]
  exact congrArg (·.getD []) hlast

theorem gutters_differ_longFile :
    longSpan.isValid = true ∧ longSpan.start < longSpan.stop ∧
      longSpan.stop.line ≤ longFile.lines.length ∧
      text {} longFile longSpan = glyphs "10000 | x\n     | ^\n" ∧
      (numberGutter 10000).length ≠ caretGutter.length := by
  have hshown : shownLines {} longFile longSpan = [10000] := by
    rw [shownLines, length_lines_longFile]
    decide
  refine ⟨by decide, Position.lt_iff.2 (by decide), ?_, ?_, by decide⟩
  · rw [length_lines_longFile]
    decide
  · rw [text, lines_eq (by decide) (by decide) (by decide), hshown, List.flatMap_singleton,
      line_longFile]
    decide

end Snippet

end MicroRust
