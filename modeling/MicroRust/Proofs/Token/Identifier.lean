import MicroRust.Proofs.Text.Controls
import MicroRust.Proofs.Token.Integer

/-! The characters of names.

A name is the normal form of a word of the source. No control character stands in a word, and
normalization makes none, so none stands in a name. -/

namespace MicroRust

open Text

namespace Text

theorem CodeRanges.le_of_has {ranges : CodeRanges} {n : Nat} {c : Char}
    (h : ranges.all (n ≤ ·.1) = true) (hc : ranges.has c = true) : n ≤ c.toNat := by
  obtain ⟨range, hmem, hrange⟩ := List.any_eq_true.1 hc
  have hlow := of_decide_eq_true (List.all_eq_true.1 h range hmem)
  rw [Bool.and_eq_true, decide_eq_true_eq] at hrange
  exact Nat.le_trans hlow hrange.1

theorem identifierStart_le {c : Char} (h : identifierStart.has c = true) : 0x20 ≤ c.toNat :=
  CodeRanges.le_of_has (by decide +kernel) h

theorem beginsIdentifier_le {c : Char} (h : beginsIdentifier c = true) : 0x20 ≤ c.toNat := by
  rw [beginsIdentifier, Bool.or_eq_true, decide_eq_true_eq] at h
  rcases h with rfl | h
  · decide
  · exact identifierStart_le h

theorem continuesIdentifier_le {c : Char} (h : continuesIdentifier c = true) :
    0x20 ≤ c.toNat := by
  rw [continuesIdentifier, Bool.or_eq_true] at h
  rcases h with h | h
  · exact identifierStart_le h
  · exact CodeRanges.le_of_has (by decide +kernel) h

end Text

theorem LongestMatch.identifier {text taken : List Char} {name : String}
    (h : LongestMatch text taken (.ok (.identifier name))) :
    taken ∈ LexemeClass.word.language ∧ name = String.ofList (normalize taken) := by
  obtain ⟨kind, hkind, hreports⟩ := h.exists_reports
  cases kind with
  | symbol s => cases hreports
  | integer =>
    simp only [LexemeClass.Reports] at hreports
    split at hreports <;> cases hreports
  | float =>
    obtain ⟨whole, fraction, -, -, houtcome⟩ := hreports
    split at houtcome <;> cases houtcome
  | string =>
    obtain ⟨body, -, houtcome⟩ := hreports
    cases houtcome
  | word =>
    obtain ⟨lexeme, houtcome, hstands⟩ := hreports
    cases houtcome
    exact ⟨hkind, hstands.1.symm⟩

theorem LexemeClass.plain_word {text : List Char} (h : text ∈ LexemeClass.word.language) :
    Plain text := by
  obtain ⟨c, rest, rfl, hc, hrest⟩ := LexemeClass.mem_word.1 h
  exact (plain_cons ..).2
    ⟨beginsIdentifier_le hc, fun d hd => continuesIdentifier_le (hrest d hd)⟩

theorem Source.plain_identifier {source : Source} {name : String} {span : Span}
    (h : .ok ⟨.identifier name, span⟩ ∈ source.readings) : Plain name.toList := by
  obtain ⟨n, hn⟩ := List.mem_iff_getElem?.1 h
  rw [← Lexer.answer_lexer] at hn
  rcases Lexer.exists_longestMatch_of_answer hn with heof | ⟨text, taken, hmatch⟩
  · cases heof
  · obtain ⟨hword, rfl⟩ := hmatch.identifier
    intro c hc
    rw [String.toList_ofList] at hc
    refine Nat.le_of_not_lt fun hlt => ?_
    have hle := LexemeClass.plain_word hword c (mem_of_mem_normalize hlt hc)
    omega

end MicroRust
