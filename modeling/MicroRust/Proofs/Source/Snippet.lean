import Mathlib.Data.List.Infix
import MicroRust.Proofs.Source.Places
import MicroRust.Source.Snippet

/-! What a snippet shows of a range.

Whatever the lines around it and however narrow the page, a range in the file is marked: its first
line is shown, and below it a caret stands in the column in which the range starts. -/

namespace MicroRust

open Text

theorem Position.fitsWord_iff (n : Int) :
    fitsWord n = true ↔ -0x8000000000000000 ≤ n ∧ n < 0x8000000000000000 := by
  have hle := Int.le_bmod (x := n) (m := 0x10000000000000000) (by decide)
  have hlt := Int.bmod_lt (x := n) (m := 0x10000000000000000) (by decide)
  rw [fitsWord, decide_eq_true_eq, word]
  constructor
  · intro h
    omega
  · rintro ⟨hn, hn'⟩
    exact Int.bmod_eq_of_le (by omega) (by omega)

namespace Snippet

/-- The snippet has the first line of the range, and below it blanks up to the column in which the
range starts and a caret there. -/
def MarksStart (style : SnippetStyle) (file : SourceFile) (span : Span) : Prop :=
  ∃ (line blanks : List Glyph) (n : Nat),
    file.lines[(span.start.line - 1).toNat]? = some line ∧
    (blanks.length : Int) = span.start.column - 1 ∧
    (∀ g ∈ blanks, g = .char ' ' ∨ g = .char '\t') ∧ 0 < n ∧
    [SnippetLine.mk (numberColumn span.start.line ++ " |") (.char ' ' :: clip style.width line),
      ⟨"     |", .char ' ' :: blanks ++ List.replicate n (.char '^')⟩].flatMap
        SnippetLine.text <:+: text style file span

theorem length_indentation (n : Nat) (line : List Glyph) : (indentation n line).length = n := by
  simp only [indentation, List.length_append, List.length_map, List.length_take,
    List.length_replicate]
  omega

theorem mem_indentation {n : Nat} {line : List Glyph} {g : Glyph} (h : g ∈ indentation n line) :
    g = .char ' ' ∨ g = .char '\t' := by
  rcases List.mem_append.1 h with h | h
  · obtain ⟨a, -, rfl⟩ := List.mem_map.1 h
    split
    · exact .inr rfl
    · exact .inl rfl
  · exact .inl (List.eq_of_mem_replicate h)

theorem caretLine_start (span : Span) (line : List Glyph) :
    ∃ n, 0 < n ∧ caretLine span span.start.line line = ⟨"     |", .char ' ' ::
      indentation (span.start.column - 1).toNat line ++ List.replicate n (.char '^')⟩ := by
  rw [caretLine, markedColumns, if_pos rfl]
  refine ⟨_, ?_, rfl⟩
  split <;> omega

variable {style : SnippetStyle} {file : SourceFile} {span : Span}

theorem numbered_infix_lines (hvalid : span.isValid = true)
    (hstop : span.stop.line ≤ file.lines.length) (hcontext : 0 ≤ style.context)
    (hword : Position.fitsWord (file.lines.length + style.context) = true) {k : Nat}
    {line : List Glyph} (hline : file.lines[k]? = some line) (hfirst : span.start.line ≤ k + 1)
    (hlast : k + 1 ≤ span.stop.line) :
    numbered style span (k + 1) line <:+: lines style file span := by
  have hstart := ((Position.isValid_iff _).1 ((Span.isValid_iff span).1 hvalid).1).1
  rw [Position.fitsWord_iff] at hword
  have hbefore : Position.fitsWord (span.start.line - style.context) = true := by
    rw [Position.fitsWord_iff]
    omega
  have hbehind : Position.fitsWord (span.stop.line + style.context) = true := by
    rw [Position.fitsWord_iff]
    omega
  have hmem : (line, k + 1) ∈ file.lines.zipIdx 1 := by
    rw [List.mk_mem_zipIdx_iff_le_and_getElem?_sub]
    exact ⟨Nat.le_add_left .., hline⟩
  rw [Position.fitsWord, decide_eq_true_eq] at hbefore hbehind
  rw [lines, hvalid, hbefore, hbehind]
  refine List.infix_of_mem_flatten (List.mem_map.2 ⟨_, hmem, if_pos ?_⟩)
  simp only [Bool.and_eq_true, decide_eq_true_eq]
  omega

theorem marksStart (hvalid : span.isValid = true) (hstop : span.stop.line ≤ file.lines.length)
    (hcontext : 0 ≤ style.context)
    (hword : Position.fitsWord (file.lines.length + style.context) = true) :
    MarksStart style file span := by
  obtain ⟨hstart, -, hle⟩ := (Span.isValid_iff span).1 hvalid
  rw [Position.isValid_iff] at hstart
  rw [Position.le_iff] at hle
  have hlt : (span.start.line - 1).toNat < file.lines.length := by omega
  obtain ⟨line, hline⟩ : ∃ line, file.lines[(span.start.line - 1).toNat]? = some line :=
    ⟨_, List.getElem?_eq_getElem hlt⟩
  have hnumber : ((span.start.line - 1).toNat : Int) + 1 = span.start.line := by omega
  have hinfix := numbered_infix_lines hvalid hstop hcontext hword hline (by omega) (by omega)
  rw [hnumber] at hinfix
  obtain ⟨n, hn, hcarets⟩ := caretLine_start span (clip style.width line)
  have hreached : (span.start.line ≤ span.start.line && span.start.line ≤ span.stop.line) =
      true := by
    simp only [Bool.and_eq_true, decide_eq_true_eq]
    omega
  rw [numbered, if_pos hreached, hcarets] at hinfix
  refine ⟨_, _, n, hline, ?_, fun g => mem_indentation, hn, hinfix.flatMap _⟩
  rw [length_indentation]
  omega

end Snippet

end MicroRust
