import Mathlib.Data.Nat.Digits.Defs
import MicroRust.Proofs.Token.Longest

/-! Whole numbers up to their limit.

A run of digits is read as one number. Its value is exact: a run that stands for `2 ^ 31` or more is
an error with the same range, so the value of a token is never one that does not fit. -/

namespace MicroRust

open Text

/-- The number that digits stand for, each of them with the weight of its place. -/
def placeValue (digits : List Char) : Nat :=
  Nat.ofDigits 10 (digits.reverse.map fun c => c.toNat - '0'.toNat)

theorem placeValue_snoc (digits : List Char) (c : Char) :
    placeValue (digits ++ [c]) = 10 * placeValue digits + (c.toNat - '0'.toNat) := by
  rw [placeValue, List.reverse_append, List.reverse_singleton, List.singleton_append,
    List.map_cons, Nat.ofDigits_cons, Nat.add_comm]
  rfl

theorem decimalValue_eq_placeValue (digits : List Char) :
    decimalValue digits = placeValue digits := by
  induction digits using List.reverseRecOn with
  | nil => rfl
  | append_singleton digits c ih =>
    rw [placeValue_snoc, ← ih, decimalValue, List.foldl_append]
    rfl

theorem integerOutcome_of_lt {digits : List Char} (h : placeValue digits < 2 ^ 31) :
    ∃ value : Int32, value.toInt = placeValue digits ∧
      integerOutcome digits = .ok (.integer (String.ofList digits) value) := by
  rw [← decimalValue_eq_placeValue] at h ⊢
  exact ⟨_, Int32.toInt_ofNat_of_lt h, if_pos h⟩

theorem integerOutcome_of_le {digits : List Char} (h : 2 ^ 31 ≤ placeValue digits) :
    integerOutcome digits = .error (.invalidInteger (String.ofList digits)) := by
  rw [← decimalValue_eq_placeValue] at h
  exact if_neg (Nat.not_lt.2 h)

/-- Digits at the head of a text, with neither a digit nor a point behind them. -/
structure DigitRun (text digits rest : List Char) : Prop where
  text_eq : text = digits ++ rest
  ne_nil : digits ≠ []
  isDigit : ∀ c ∈ digits, c.isDigit = true
  stop : ∀ c ∈ rest.head?, c.isDigit = false ∧ c ≠ '.'

theorem DigitRun.scan_eq {text digits rest : List Char} (h : DigitRun text digits rest) :
    ∃ c tail, text = c :: tail ∧ scan c tail = ⟨integerOutcome digits, digits, rest⟩ := by
  obtain ⟨htext, hne, hdigits, hstop⟩ := h
  obtain ⟨c, digits, rfl⟩ := List.exists_cons_of_ne_nil hne
  obtain ⟨hc, hdigits⟩ := List.forall_mem_cons.1 hdigits
  refine ⟨c, digits ++ rest, htext, ?_⟩
  have hsymbol : symbolAt? c (digits ++ rest) = none :=
    symbolAt?_eq_none_iff.2 (ofChar?_of_isDigit hc)
  have hrest : rest.takeWhile Char.isDigit = [] ∧ rest.dropWhile Char.isDigit = rest := by
    cases rest with
    | nil => exact ⟨rfl, rfl⟩
    | cons d rest =>
      have hd : ¬ d.isDigit = true := Bool.eq_false_iff.1 (hstop d rfl).1
      exact ⟨List.takeWhile_cons_of_neg hd, List.dropWhile_cons_of_neg hd⟩
  rw [scan, hsymbol]
  dsimp only
  rw [if_pos hc, scanNumber, List.takeWhile_append_of_pos hdigits,
    List.dropWhile_append_of_pos hdigits, hrest.1, hrest.2, List.append_nil]
  split
  · exact absurd rfl (hstop '.' rfl).2
  · rfl

theorem LongestMatch.exists_reports {text taken : List Char} {lexeme : Lexeme}
    (h : LongestMatch text taken (.ok lexeme)) :
    ∃ kind : LexemeClass, taken ∈ kind.language ∧ kind.Reports taken (.ok lexeme) := by
  cases h with
  | lexeme hlongest hreports =>
    obtain ⟨kind, hkind⟩ := hlongest.isLexeme
    exact ⟨kind, hkind, hreports kind hkind⟩

theorem LongestMatch.integer {text taken : List Char} {digits : String} {value : Int32}
    (h : LongestMatch text taken (.ok (.integer digits value))) :
    taken ∈ LexemeClass.integer.language ∧ digits = String.ofList taken ∧
      decimalValue taken < 2 ^ 31 ∧ value = Int32.ofNat (decimalValue taken) := by
  obtain ⟨kind, hkind, hreports⟩ := h.exists_reports
  cases kind with
  | symbol s => cases hreports
  | integer =>
    simp only [LexemeClass.Reports] at hreports
    split at hreports
    · rename_i hlt
      cases hreports
      exact ⟨hkind, rfl, hlt, rfl⟩
    · cases hreports
  | float =>
    obtain ⟨whole, fraction, -, -, houtcome⟩ := hreports
    split at houtcome <;> cases houtcome
  | string =>
    obtain ⟨body, -, houtcome⟩ := hreports
    cases houtcome
  | word =>
    obtain ⟨lexeme, houtcome, hstands⟩ := hreports
    cases houtcome
    exact hstands.elim

namespace Lexer

variable {source : Source} {l : Lexer}

theorem exists_scan_of_next {t : Token} (h : l.Reached source) (hnext : l.next.1 = some (.ok t)) :
    t.lexeme = .eof ∨ ∃ c rest, (scan c rest).outcome = .ok t.lexeme := by
  rcases h with hdone | ⟨front, text, -, hholds⟩
  · rw [next_of_done hdone] at hnext
    cases hnext
  · have hskip := skipTrivia_holds hholds
    cases htail : text.drop (trivia false text).length with
    | nil =>
      rw [htail] at hskip
      obtain ⟨m, hm, -⟩ := next_of_skipTrivia_nil hholds.done hskip
      rw [hm] at hnext
      have hfinal := Option.some.inj hnext
      unfold Source.final at hfinal
      split at hfinal
      · cases hfinal
      · cases hfinal
        exact .inl rfl
    | cons c rest =>
      rw [htail] at hskip
      obtain ⟨m, hm, -⟩ := next_of_skipTrivia_cons hholds.done hskip
      rw [hm] at hnext
      have hpiece := Option.some.inj hnext
      unfold Reading.of at hpiece
      split at hpiece
      · rename_i lexeme houtcome
        cases hpiece
        exact .inr ⟨c, rest, houtcome⟩
      · cases hpiece

theorem exists_longestMatch_of_answer {n : Nat} {t : Token}
    (h : source.lexer.answer n = some (.ok t)) :
    t.lexeme = .eof ∨ ∃ text taken, LongestMatch text taken (.ok t.lexeme) := by
  have hreached := reached_after (reached_lexer source) n
  rw [answer_eq] at h
  refine (exists_scan_of_next hreached h).imp_right ?_
  rintro ⟨c, rest, houtcome⟩
  have hmatch := longestMatch_scan c rest
  rw [houtcome] at hmatch
  exact ⟨_, _, hmatch⟩

theorem exists_front (source : Source) (n : Nat)
    (hne : (source.lexer.after n).skipTrivia.reader.text ≠ []) :
    (source.lexer.after n).done = false ∧ ∃ front,
      characters source.content = front ++ (source.lexer.after n).skipTrivia.reader.text ∧
      (source.lexer.after n).skipTrivia.Holds source (placeAfter front)
        (source.lexer.after n).skipTrivia.reader.text := by
  rcases holds_or_ended_after source n with ⟨pos, text, hholds⟩ | hended
  · refine ⟨hholds.done, ?_⟩
    rcases reached_after (reached_lexer source) n with hdone | ⟨front, left, hfront, hleft⟩
    · rw [hholds.done] at hdone
      cases hdone
    · have hskip := skipTrivia_holds hleft
      have hgap := trivia_append_drop false left
      rw [advance_placeAfter] at hskip
      rw [hskip.text]
      refine ⟨front ++ trivia false left, ?_, hskip⟩
      rw [← hfront, List.append_assoc, hgap]
  · exact absurd (text_skipTrivia_of_ended hended) hne

theorem next_of_run {n : Nat} {digits rest : List Char}
    (h : DigitRun (source.lexer.after n).skipTrivia.reader.text digits rest) :
    ∃ front, characters source.content = front ++ (digits ++ rest) ∧
      source.lexer.answer n = some (.of (integerOutcome digits)
        ⟨placeAfter front, placeAfter (front ++ digits)⟩) ∧
      (source.lexer.after (n + 1)).Holds source (placeAfter (front ++ digits)) rest := by
  obtain ⟨c, tail, htext, hscan⟩ := h.scan_eq
  have hne : (source.lexer.after n).skipTrivia.reader.text ≠ [] := by simp [htext]
  obtain ⟨hdone, front, hfront, hskip⟩ := exists_front source n hne
  rw [htext] at hskip
  obtain ⟨m, hnext, hm⟩ := next_of_skipTrivia_cons hdone hskip
  rw [hscan, advance_placeAfter] at hnext hm
  rw [answer_eq, after_succ, hnext]
  exact ⟨front, h.text_eq ▸ hfront, rfl, hm⟩

end Lexer

/-- In front of a run of digits that no point follows, the next request is answered with its exact
value if that is below `2 ^ 31`, and with an error about the run otherwise. The lexer then stands
behind the run. No token has another value than its digits stand for. -/
theorem next_integer_exact (source : Source) (n : Nat) :
    (∀ digits rest, DigitRun (source.lexer.after n).skipTrivia.reader.text digits rest →
      ∃ front, characters source.content = front ++ (digits ++ rest) ∧
        (placeValue digits < 2 ^ 31 → ∃ value : Int32, value.toInt = placeValue digits ∧
          source.lexer.answer n = some (.ok ⟨.integer (String.ofList digits) value,
            ⟨placeAfter front, placeAfter (front ++ digits)⟩⟩)) ∧
        (2 ^ 31 ≤ placeValue digits →
          source.lexer.answer n = some (.error (.lexical ⟨.invalidInteger (String.ofList digits),
            ⟨placeAfter front, placeAfter (front ++ digits)⟩⟩))) ∧
        (source.lexer.after (n + 1)).Holds source (placeAfter (front ++ digits)) rest) ∧
    ∀ digits value span, source.lexer.answer n = some (.ok ⟨.integer digits value, span⟩) →
      digits.toList ≠ [] ∧ (∀ c ∈ digits.toList, c.isDigit = true) ∧
        value.toInt = placeValue digits.toList ∧ placeValue digits.toList < 2 ^ 31 := by
  constructor
  · intro digits rest hrun
    obtain ⟨front, hfront, hanswer, hafter⟩ := Lexer.next_of_run hrun
    refine ⟨front, hfront, fun hlt => ?_, fun hle => ?_, hafter⟩
    · obtain ⟨value, hvalue, houtcome⟩ := integerOutcome_of_lt hlt
      rw [houtcome] at hanswer
      exact ⟨value, hvalue, hanswer⟩
    · rw [integerOutcome_of_le hle] at hanswer
      exact hanswer
  · intro digits value span hanswer
    rcases Lexer.exists_longestMatch_of_answer hanswer with heof | ⟨text, taken, hmatch⟩
    · cases heof
    · obtain ⟨hmem, rfl, hlt, rfl⟩ := hmatch.integer
      obtain ⟨d, tail, hcovered, hdigits⟩ := LexemeClass.mem_integer.1 hmem
      rw [String.toList_ofList, ← decimalValue_eq_placeValue, Int32.toInt_ofNat_of_lt hlt]
      rw [hcovered] at hlt ⊢
      exact ⟨by simp, hdigits, rfl, hlt⟩

def greatestSource : Source :=
  ⟨"greatest.rs", "// most\n 0002147483647+1".toUTF8.toList, none⟩

def excessSource : Source := ⟨"excess.rs", "2147483648 ".toUTF8.toList, none⟩

theorem next_integer_exact_limit :
    DigitRun (greatestSource.lexer.after 0).skipTrivia.reader.text "0002147483647".toList
        "+1".toList ∧
      (∃ value : Int32, value.toInt = 2147483647 ∧ greatestSource.lexer.answer 0 =
        some (.ok ⟨.integer "0002147483647" value, ⟨⟨2, 2⟩, ⟨2, 15⟩⟩⟩)) ∧
      DigitRun (excessSource.lexer.after 0).skipTrivia.reader.text "2147483648".toList " ".toList ∧
      excessSource.lexer.answer 0 =
        some (.error (.lexical ⟨.invalidInteger "2147483648", ⟨⟨1, 1⟩, ⟨1, 11⟩⟩⟩)) := by
  have hgreatest : DigitRun (greatestSource.lexer.after 0).skipTrivia.reader.text
      "0002147483647".toList "+1".toList := by
    refine ⟨?_, by decide, List.all_eq_true.1 (by decide), ?_⟩
    · rw [Lexer.after, (Lexer.skipTrivia_holds (Lexer.holds_lexer greatestSource)).text]
      decide +kernel
    · rintro c ⟨⟩
      decide
  have hexcess : DigitRun (excessSource.lexer.after 0).skipTrivia.reader.text
      "2147483648".toList " ".toList := by
    refine ⟨?_, by decide, List.all_eq_true.1 (by decide), ?_⟩
    · rw [Lexer.after, (Lexer.skipTrivia_holds (Lexer.holds_lexer excessSource)).text]
      decide +kernel
    · rintro c ⟨⟩
      decide
  obtain ⟨front, hfront, hbelow, -⟩ := (next_integer_exact greatestSource 0).1 _ _ hgreatest
  obtain ⟨front', hfront', -, habove, -⟩ := (next_integer_exact excessSource 0).1 _ _ hexcess
  obtain rfl : "// most\n ".toList = front := by
    refine List.append_cancel_right (Eq.trans ?_ hfront)
    decide +kernel
  obtain rfl : [] = front' := by
    refine List.append_cancel_right (Eq.trans ?_ hfront')
    decide +kernel
  exact ⟨hgreatest, hbelow (by decide +kernel), hexcess, habove (by decide +kernel)⟩

end MicroRust
