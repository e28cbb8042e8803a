import MicroRust.Proofs.Source.Carets
import MicroRust.Proofs.Source.Lines
import MicroRust.Proofs.Text.Escapes

/-! The control characters of a snippet.

Numbers, bars and carets are printable, and blanks and tabs stand before the carets, so every other
control character of a snippet comes from the source. -/

namespace MicroRust

open Text
open LineReader (newline)

namespace Text

theorem mem_decodeAfter {n : Nat} {bytes : List UInt8} {g : Glyph} (h : g ∈ decodeAfter n bytes) :
    ∃ a ∈ bytes, ∃ rest, g = (firstGlyph a rest).1 := by
  induction bytes generalizing n with
  | nil => cases n <;> cases h
  | cons a bytes ih =>
    have hmore : ∀ {m}, g ∈ decodeAfter m bytes →
        ∃ b ∈ a :: bytes, ∃ rest, g = (firstGlyph b rest).1 := by
      intro m hm
      obtain ⟨b, hb, hrest⟩ := ih hm
      exact ⟨b, List.mem_cons_of_mem a hb, hrest⟩
    cases n with
    | zero =>
      rcases List.mem_cons.1 h with rfl | h
      · exact ⟨a, List.mem_cons_self, bytes, rfl⟩
      · exact hmore h
    | succ n => exact hmore h

theorem firstGlyph_eq_stray {a b : UInt8} {rest : List UInt8}
    (h : (firstGlyph a rest).1 = .stray b) : a = b := by
  unfold firstGlyph at h
  split at h
  · cases h
  · split at h
    · cases h
    · split at h
      · cases h
      · split at h
        · cases h
        · exact Glyph.stray.inj h

theorem isByte_firstGlyph {a b : UInt8} {rest : List UInt8} (hb : b.toNat < 0x80)
    (h0 : b.toNat ≠ 0) (h : (firstGlyph a rest).1.isByte b = true) : a = b := by
  cases hg : (firstGlyph a rest).1 with
  | char c =>
    rw [hg, Glyph.isByte, decide_eq_true_eq] at h
    have hchar : (firstGlyph a rest).1.toChar = c := congrArg Glyph.toChar hg
    exact (toChar_firstGlyph_eq_iff h.symm (by omega) (by omega) a rest).1 hchar
  | stray d =>
    rw [hg, Glyph.isByte, decide_eq_true_eq] at h
    exact (firstGlyph_eq_stray hg).trans h

theorem free_decode {b : UInt8} {bytes : List UInt8} (hb : b.toNat < 0x80) (h0 : b.toNat ≠ 0)
    (h : b ∉ bytes) : Free b (decode bytes) := by
  rw [free_iff hb]
  intro g hg
  obtain ⟨a, ha, rest, rfl⟩ := mem_decodeAfter hg
  refine Bool.eq_false_iff.2 fun hbyte => h ?_
  rwa [← isByte_firstGlyph hb h0 hbyte]

end Text

theorem not_mem_of_mem_splitOn {α : Type} [BEq α] [LawfulBEq α] {a : α} {xs line : List α}
    (h : line ∈ xs.splitOn a) : a ∉ line := by
  induction xs using line_induction a with
  | last xs hxs =>
    rw [List.splitOn_eq_singleton hxs] at h
    rwa [List.mem_singleton.1 h]
  | cons xs ys hxs ih =>
    rw [splitOn_line hxs] at h
    rcases List.mem_cons.1 h with rfl | h
    · exact hxs
    · exact ih h

theorem SourceFile.free_newline_ofBytes (name : String) (content : List UInt8) :
    ∀ row ∈ (ofBytes name content).lines, Free newline row := by
  intro row hrow
  obtain ⟨bytes, hbytes, rfl⟩ := List.mem_map.1 hrow
  exact free_decode (by decide) (by decide) (not_mem_of_mem_splitOn hbytes)

theorem isDigit_of_mem_repr {n : Nat} {c : Char} (h : c ∈ n.repr.toList) : c.isDigit = true := by
  rw [Nat.repr_eq_ofList_toDigits, String.toList_ofList] at h
  exact Nat.isDigit_of_mem_toDigits (by decide) (by decide) h

theorem mem_toString_int {n : Int} {c : Char} (h : c ∈ (toString n).toList) :
    c = '-' ∨ c.isDigit = true := by
  have hrepr : toString n = if 0 ≤ n then n.toNat.repr else "-" ++ (-n).toNat.repr :=
    Int.repr_eq_if
  rw [hrepr] at h
  split at h
  · exact .inr (isDigit_of_mem_repr h)
  · rw [String.toList_append, List.mem_append] at h
    exact h.imp List.mem_singleton.1 isDigit_of_mem_repr

theorem Snippet.mem_numberColumn {n : Int} {c : Char} (h : c ∈ (numberColumn n).toList) :
    c = ' ' ∨ c = '-' ∨ c.isDigit = true := by
  rw [numberColumn, String.toList_append, String.toList_ofList, List.mem_append] at h
  exact h.imp List.eq_of_mem_replicate mem_toString_int

theorem Snippet.free_line {b : UInt8} {file : SourceFile} (h : ∀ row ∈ file.lines, Free b row)
    (number : Int) : Free b (file.line number) := by
  have hnil : Free b [] := List.not_mem_nil
  unfold SourceFile.line
  split
  · exact hnil
  · cases hrow : file.lines[(number - 1).toNat]? with
    | none => exact hnil
    | some row => exact h row (List.mem_of_getElem? hrow)

section

variable {b : UInt8} (hb : b.toNat < 0x20)
include hb

theorem free_of_printable {s : String} (h : s.toList.all (0x20 ≤ ·.toNat) = true) :
    Free b (glyphs s) := by
  rw [free_glyphs_iff (by omega)]
  intro c hc
  have hle := of_decide_eq_true (List.all_eq_true.1 h c hc)
  omega

theorem free_repr (n : Nat) : Free b (glyphs n.repr) := by
  refine free_of_printable hb (List.all_eq_true.2 fun c hc => decide_eq_true ?_)
  have hrange := range_of_isDigit (isDigit_of_mem_repr hc)
  omega

theorem free_toString (n : Int) : Free b (glyphs (toString n)) := by
  refine free_of_printable hb (List.all_eq_true.2 fun c hc => decide_eq_true ?_)
  rcases mem_toString_int hc with rfl | hdigit
  · decide
  · have hrange := range_of_isDigit hdigit
    omega

theorem Position.free_text (p : Position) : Free b (glyphs p.text) := by
  have hcolon : Free b (glyphs ":") := free_of_printable hb (by decide)
  have htext : p.text = toString p.line ++ ":" ++ toString p.column := by
    simp only [text, toString, String.append_assoc]
  rw [htext, glyphs_append, glyphs_append, free_append, free_append]
  exact ⟨⟨free_toString hb _, hcolon⟩, free_toString hb _⟩

namespace Snippet

variable {row : List Glyph}

theorem free_numberColumn (n : Int) : Free b (glyphs (numberColumn n)) := by
  refine free_of_printable hb (List.all_eq_true.2 fun c hc => decide_eq_true ?_)
  rcases mem_numberColumn hc with rfl | rfl | hdigit
  · decide
  · decide
  · have hrange := range_of_isDigit hdigit
    omega

theorem free_clip (width : Int) (h : Free b row) : Free b (clip width row) := by
  rw [free_iff (by omega)] at h ⊢
  unfold clip
  split
  · exact h
  · intro g hg
    obtain ⟨a, ha, rfl⟩ := List.mem_map.1 hg
    have hfree := h a (List.mem_of_mem_take ha)
    cases a with
    | char c => exact hfree
    | stray a =>
      have hne : (0xFFFD : Nat) ≠ b.toNat := by omega
      exact decide_eq_false hne

theorem free_caretLine (htab : b.toNat ≠ 9) (span : Span) (number : Int) (row : List Glyph) :
    Free b (caretLine span number row).rest := by
  have hmark : ∀ c ∈ [' ', '\t', '^'], (Glyph.char c).isByte b = false := by
    intro c hc
    rw [Glyph.isByte, decide_eq_false_iff_not]
    simp only [List.mem_cons, List.not_mem_nil, or_false] at hc
    rcases hc with rfl | rfl | rfl
    · have hblank : ' '.toNat = 32 := rfl
      omega
    · have hnine : '\t'.toNat = 9 := rfl
      omega
    · have hcaret : '^'.toNat = 94 := rfl
      omega
  rw [free_iff (by omega)]
  intro g hg
  rcases List.mem_append.1 hg with hg | hg
  · rcases List.mem_cons.1 hg with rfl | hg
    · exact hmark ' ' (by decide)
    · rcases mem_indentation hg with rfl | rfl
      · exact hmark ' ' (by decide)
      · exact hmark '\t' (by decide)
  · rw [List.eq_of_mem_replicate hg]
    exact hmark '^' (by decide)

theorem free_lines (htab : b.toNat ≠ 9) {file : SourceFile} (h : ∀ row ∈ file.lines, Free b row)
    (style : SnippetStyle) (span : Span) :
    ∀ line ∈ lines style file span, ∃ front : String, line.margin = front ++ "|" ∧
      '|' ∉ front.toList ∧ Free b (glyphs front) ∧ Free b line.rest := by
  intro line hline
  cases hvalid : span.isValid with
  | false =>
    rw [lines, hvalid] at hline
    cases hline
  | true =>
    have hblank : Free b (glyphs " ") := free_of_printable hb (by decide)
    obtain ⟨l, -, rfl | ⟨-, -, rfl⟩⟩ := (mem_lines_iff hvalid line).1 hline
    · have hrest := free_clip hb style.width (free_line h l)
      refine ⟨numberColumn l ++ " ", ?_, ?_, ?_, ?_⟩
      · rw [String.append_assoc]
        rfl
      · rw [String.toList_append, List.mem_append, not_or]
        refine ⟨fun hbar => ?_, by decide⟩
        have hcases := mem_numberColumn hbar
        revert hcases
        decide
      · rw [glyphs_append, free_append]
        exact ⟨free_numberColumn hb l, hblank⟩
      · exact (free_append [.char ' '] _).2 ⟨hblank, hrest⟩
    · exact ⟨"     ", rfl, by decide, free_of_printable hb (by decide),
        free_caretLine hb htab span l _⟩

end Snippet

end

end MicroRust
