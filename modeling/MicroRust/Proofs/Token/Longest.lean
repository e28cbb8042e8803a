import MicroRust.Proofs.Token.Excerpt
import MicroRust.Proofs.Token.LexemeClass

/-! A request takes the longest lexeme at the head of the text.

The lexer decides by the first character or two and then takes what it can get. No prefix of the
text that belongs to a class of lexemes is longer than what it takes, and where no prefix does,
there is an error. -/

namespace MicroRust

open Text

/-- What is left of a text without the blanks and comments at its head. -/
structure IsPastTrivia (text rest : List Char) : Prop where
  gap : ∃ gap, text = gap ++ rest ∧ Separates rest gap
  blank : ∀ c ∈ rest.head?, isBlank c = false
  comment : ¬ ['/', '/'] <+: rest

theorem isPastTrivia_drop (text : List Char) :
    IsPastTrivia text (text.drop (trivia false text).length) where
  gap := ⟨trivia false text, (trivia_append_drop false text).symm, separates_gap text⟩
  blank := by
    intro c hc
    obtain ⟨rest, hrest⟩ := List.head?_eq_some_iff.1 hc
    exact isBlank_eq_false_of_drop hrest
  comment := by
    rintro ⟨rest, hrest⟩
    have hnone := Lexer.trivia_drop false text
    rw [← hrest] at hnone
    cases hnone

/-- The longest prefix of a text that is a lexeme. -/
structure IsLongestLexeme (text piece : List Char) : Prop where
  isPrefix : piece <+: text
  isLexeme : IsLexeme piece
  longest : ∀ other, other <+: text → IsLexeme other → other.length ≤ piece.length

/-- What is taken from the head of a text that is not empty, and what comes of it: the longest
lexeme, or, if there is none, an open string up to the end of the text or one character. -/
inductive LongestMatch (text : List Char) : List Char → Except LexCause Lexeme → Prop where
  | lexeme {taken : List Char} {outcome : Except LexCause Lexeme}
      (hlongest : IsLongestLexeme text taken)
      (hreports : ∀ kind : LexemeClass, taken ∈ kind.language → kind.Reports taken outcome) :
    LongestMatch text taken outcome
  | unterminated {rest : List Char} (hnone : ∀ piece, piece <+: text → ¬ IsLexeme piece)
      (htext : text = '"' :: rest) :
    LongestMatch text text (.error (.unterminated (String.ofList rest)))
  | unknown {c : Char} {rest : List Char} (hnone : ∀ piece, piece <+: text → ¬ IsLexeme piece)
      (htext : text = c :: rest) (hquote : c ≠ '"') :
    LongestMatch text [c] (.error (.unknownCharacter c))

theorem isPrefix_takeWhile {p : Char → Bool} {piece text : List Char} (hinitial : piece <+: text)
    (h : ∀ c ∈ piece, p c = true) : piece <+: text.takeWhile p := by
  obtain ⟨rest, rfl⟩ := hinitial
  rw [List.takeWhile_append_of_pos h]
  exact List.prefix_append ..

theorem longestMatch_of_mem {c : Char} {rest taken : List Char} {kind : LexemeClass}
    {outcome : Except LexCause Lexeme} (hinitial : taken <+: c :: rest)
    (hmem : taken ∈ kind.language)
    (hlongest : ∀ (k : LexemeClass) (other : List Char), k.initial = kind.initial →
      other <+: c :: rest → other ∈ k.language → other.length ≤ taken.length)
    (hreports : ∀ k : LexemeClass, k.initial = kind.initial → taken ∈ k.language →
      k.Reports taken outcome) :
    LongestMatch (c :: rest) taken outcome := by
  have hhas : kind.initial.Has c := by
    obtain ⟨d, tail, rfl, hd⟩ := exists_initial_of_mem hmem
    obtain ⟨rfl, -⟩ := List.cons_prefix_cons.1 hinitial
    exact hd
  refine .lexeme ⟨hinitial, ⟨kind, hmem⟩, ?_⟩ ?_
  · rintro other hother ⟨k, hk⟩
    exact hlongest k other (initial_of_isPrefix hhas hother hk) hother hk
  · intro k hk
    exact hreports k (initial_of_isPrefix hhas hinitial hk) hk

theorem longestMatch_symbol {c : Char} {rest covered tail : List Char} {s : Symbol}
    (h : symbolAt? c rest = some (s, covered, tail)) :
    LongestMatch (c :: rest) covered (.ok (.symbol s)) := by
  obtain ⟨hsplit, hcovered⟩ := symbolAt?_eq_some h
  have hmem : covered ∈ (LexemeClass.symbol s).language := hcovered
  have hpos : 0 < covered.length := by
    obtain ⟨d, front, rfl, -⟩ := exists_initial_of_mem hmem
    exact Nat.zero_lt_succ _
  apply longestMatch_of_mem ⟨tail, hsplit⟩ hmem
  · intro kind other hkind hother hmem'
    cases kind with
    | integer | float | string | word => cases hkind
    | symbol t =>
      obtain rfl : other = t.text.toList := hmem'
      rcases t.text_cases with ⟨d, htext, -⟩ | ⟨d, e, htext, -, hpair⟩
      · rw [htext]
        exact hpos
      · -- Two characters that make up a symbol are tried first.
        rw [htext] at hother ⊢
        obtain ⟨more, hmore⟩ := hother
        obtain ⟨rfl, rfl⟩ := List.cons.inj hmore
        have hfound : symbolAt? d (e :: more) = some (t, [d, e], more) := by
          simp only [symbolAt?, hpair]
        cases hfound.symm.trans h
        exact Nat.le_refl _
  · intro kind hkind hmem'
    cases kind with
    | integer | float | string | word => cases hkind
    | symbol t =>
      obtain rfl := Symbol.eq_of_toList_text (hcovered.symm.trans hmem')
      rfl

theorem not_mem_of_mem_integer {piece : List Char} (h : piece ∈ LexemeClass.integer.language) :
    '.' ∉ piece := by
  obtain ⟨c, rest, rfl, hall⟩ := LexemeClass.mem_integer.1 h
  intro hdot
  cases hall '.' hdot

theorem takeWhile_mem_integer {c : Char} (hc : c.isDigit = true) (rest : List Char) :
    (c :: rest).takeWhile Char.isDigit ∈ LexemeClass.integer.language := by
  have hall : ∀ d ∈ (c :: rest).takeWhile Char.isDigit, d.isDigit = true :=
    List.all_eq_true.1 List.all_takeWhile
  rw [List.takeWhile_cons_of_pos hc] at hall ⊢
  exact LexemeClass.mem_integer.2 ⟨c, _, rfl, hall⟩

theorem length_le_of_mem_integer {other text : List Char} (hother : other <+: text)
    (hmem : other ∈ LexemeClass.integer.language) :
    other.length ≤ (text.takeWhile Char.isDigit).length := by
  obtain ⟨d, tail, rfl, hall⟩ := LexemeClass.mem_integer.1 hmem
  exact (isPrefix_takeWhile hother hall).length_le

theorem exists_fraction_of_mem_float {other text : List Char} (hother : other <+: text)
    (hmem : other ∈ LexemeClass.float.language) :
    ∃ fraction tail, text.dropWhile Char.isDigit = '.' :: tail ∧
      fraction <+: tail.takeWhile Char.isDigit ∧
      other = text.takeWhile Char.isDigit ++ '.' :: fraction := by
  obtain ⟨whole, hwhole, fraction, hfraction, rfl⟩ := LexemeClass.mem_float.1 hmem
  obtain ⟨more, rfl⟩ := hother
  obtain ⟨c, rest, rfl, hall⟩ := LexemeClass.mem_integer.1 hwhole
  rw [List.append_assoc, List.takeWhile_append_of_pos hall, List.dropWhile_append_of_pos hall]
  refine ⟨fraction, fraction ++ more, rfl, ?_, congrArg (· ++ _) (List.append_nil _).symm⟩
  exact isPrefix_takeWhile (List.prefix_append fraction more) hfraction

theorem longestMatch_float {c : Char} (hc : c.isDigit = true) {rest tail : List Char}
    (htail : (c :: rest).dropWhile Char.isDigit = '.' :: tail) :
    LongestMatch (c :: rest)
      ((c :: rest).takeWhile Char.isDigit ++ '.' :: tail.takeWhile Char.isDigit)
      (floatOutcome ((c :: rest).takeWhile Char.isDigit) (tail.takeWhile Char.isDigit)) := by
  have hfraction : ∀ d ∈ tail.takeWhile Char.isDigit, d.isDigit = true :=
    List.all_eq_true.1 List.all_takeWhile
  have hmem := LexemeClass.mem_float.2 ⟨_, takeWhile_mem_integer hc rest, _, hfraction, rfl⟩
  have hinitial : (c :: rest).takeWhile Char.isDigit ++ '.' :: tail.takeWhile Char.isDigit <+:
      c :: rest := by
    conv_rhs => rw [← List.takeWhile_append_dropWhile (p := Char.isDigit) (l := c :: rest), htail]
    rw [List.prefix_append_right_inj, List.prefix_cons_inj]
    exact List.takeWhile_prefix _
  apply longestMatch_of_mem hinitial hmem
  · intro kind other hkind hother hmem'
    rw [List.length_append]
    cases kind with
    | symbol s => cases hkind
    | string | word => cases hkind
    | integer => exact Nat.le_add_right_of_le (length_le_of_mem_integer hother hmem')
    | float =>
      obtain ⟨fraction, tail', htail', hle, rfl⟩ := exists_fraction_of_mem_float hother hmem'
      obtain rfl : tail = tail' := List.tail_eq_of_cons_eq (htail.symm.trans htail')
      rw [List.length_append]
      exact Nat.add_le_add_left (Nat.succ_le_succ hle.length_le) _
  · intro kind hkind hmem'
    cases kind with
    | symbol s => cases hkind
    | string | word => cases hkind
    | integer => exact absurd (by simp) (not_mem_of_mem_integer hmem')
    | float =>
      refine ⟨_, _, rfl, ?_, rfl⟩
      intro hdot
      cases hfraction '.' hdot

theorem longestMatch_integer {c : Char} (hc : c.isDigit = true) {rest : List Char}
    (hnot : ∀ tail, (c :: rest).dropWhile Char.isDigit ≠ '.' :: tail) :
    LongestMatch (c :: rest) ((c :: rest).takeWhile Char.isDigit)
      (integerOutcome ((c :: rest).takeWhile Char.isDigit)) := by
  have hmem := takeWhile_mem_integer hc rest
  apply longestMatch_of_mem (List.takeWhile_prefix _) hmem
  · intro kind other hkind hother hmem'
    cases kind with
    | symbol s => cases hkind
    | string | word => cases hkind
    | integer => exact length_le_of_mem_integer hother hmem'
    | float =>
      obtain ⟨_, tail, htail, -, -⟩ := exists_fraction_of_mem_float hother hmem'
      exact absurd htail (hnot tail)
  · intro kind hkind hmem'
    cases kind with
    | symbol s => cases hkind
    | string | word => cases hkind
    | integer => rfl
    | float =>
      obtain ⟨whole, -, fraction, -, heq⟩ := LexemeClass.mem_float.1 hmem'
      exact absurd (heq ▸ by simp) (not_mem_of_mem_integer hmem)

theorem longestMatch_number {c : Char} (hc : c.isDigit = true) (rest : List Char) :
    LongestMatch (c :: rest) (scanNumber c rest).covered (scanNumber c rest).outcome := by
  unfold scanNumber
  rw [← List.dropWhile_cons_of_pos hc, ← List.takeWhile_cons_of_pos hc]
  split
  · rename_i tail htail
    exact longestMatch_float hc htail
  · rename_i tail hnot
    exact longestMatch_integer hc hnot

theorem longestMatch_string (rest : List Char) :
    LongestMatch ('"' :: rest) (scanString rest).covered (scanString rest).outcome := by
  unfold scanString
  cases hbody : stringBody? rest with
  | some split =>
    obtain ⟨body, tail⟩ := split
    have hmem : '"' :: body ++ ['"'] ∈ LexemeClass.string.language :=
      LexemeClass.mem_string.2 ⟨body, mem_of_stringBody? hbody, rfl⟩
    have hinitial : '"' :: body ++ ['"'] <+: '"' :: rest := by
      refine ⟨tail, ?_⟩
      rw [← stringBody?_append hbody]
      simp
    apply longestMatch_of_mem hinitial hmem
    · intro kind other hkind hother hmem'
      cases kind with
      | symbol s => cases hkind
      | integer | float | word => cases hkind
      | string =>
        obtain ⟨body', hbody', rfl⟩ := LexemeClass.mem_string.1 hmem'
        obtain ⟨more, hmore⟩ := hother
        have hrest : rest = body' ++ '"' :: more := by simpa using hmore.symm
        rw [hrest, stringBody?_of_mem hbody'] at hbody
        cases hbody
        exact Nat.le_refl _
    · intro kind hkind hmem'
      cases kind with
      | symbol s => cases hkind
      | integer | float | word => cases hkind
      | string => exact ⟨body, rfl, rfl⟩
  | none =>
    refine .unterminated ?_ rfl
    rintro other hother ⟨kind, hkind⟩
    have hquote : kind.initial = .quote := initial_of_isPrefix rfl hother hkind
    cases kind with
    | symbol s => cases hquote
    | integer | float | word => cases hquote
    | string =>
      obtain ⟨body, hmem, rfl⟩ := LexemeClass.mem_string.1 hkind
      obtain ⟨more, hmore⟩ := hother
      have hrest : rest = body ++ '"' :: more := by simpa using hmore.symm
      rw [hrest, stringBody?_of_mem hmem] at hbody
      cases hbody

theorem standsFor_wordLexeme (word : String) : (wordLexeme word).StandsFor word := by
  unfold wordLexeme
  split
  · rename_i h
    exact h
  · split
    · rename_i h
      exact h
    · split
      · rename_i h
        exact h
      · split
        · rename_i k h
          have hk := List.find?_some h
          exact (of_decide_eq_true hk).symm
        · rename_i h
          refine ⟨rfl, ?_⟩
          have hkeyword := List.find?_eq_none.1 h
          simp_all [reservedWords]

theorem longestMatch_word {c : Char} (hc : beginsIdentifier c = true) (rest : List Char) :
    LongestMatch (c :: rest) (scanWord c rest).covered (scanWord c rest).outcome := by
  have hmem : c :: rest.takeWhile continuesIdentifier ∈ LexemeClass.word.language :=
    LexemeClass.mem_word.2 ⟨c, _, rfl, hc, List.all_eq_true.1 List.all_takeWhile⟩
  have hinitial : c :: rest.takeWhile continuesIdentifier <+: c :: rest :=
    (List.prefix_cons_inj c).2 (List.takeWhile_prefix _)
  apply longestMatch_of_mem hinitial hmem
  · intro kind other hkind hother hmem'
    cases kind with
    | symbol s => cases hkind
    | integer | float | string => cases hkind
    | word =>
      obtain ⟨d, tail, rfl, -, htail⟩ := LexemeClass.mem_word.1 hmem'
      obtain ⟨rfl, htail'⟩ := List.cons_prefix_cons.1 hother
      exact Nat.succ_le_succ (isPrefix_takeWhile htail' htail).length_le
  · intro kind hkind hmem'
    cases kind with
    | symbol s => cases hkind
    | integer | float | string => cases hkind
    | word => exact ⟨_, rfl, standsFor_wordLexeme _⟩

theorem longestMatch_scan (c : Char) (rest : List Char) :
    LongestMatch (c :: rest) (scan c rest).covered (scan c rest).outcome := by
  unfold scan
  split
  · rename_i s covered tail h
    exact longestMatch_symbol h
  · rename_i hsymbol
    split
    · rename_i hdigit
      exact longestMatch_number hdigit rest
    · rename_i hdigit
      split
      · rename_i hquote
        subst hquote
        exact longestMatch_string rest
      · rename_i hquote
        split
        · rename_i hletter
          exact longestMatch_word hletter rest
        · rename_i hletter
          refine .unknown ?_ rfl hquote
          rintro piece hpiece ⟨kind, hkind⟩
          obtain ⟨d, tail, rfl, hd⟩ := exists_initial_of_mem hkind
          obtain ⟨rfl, -⟩ := List.cons_prefix_cons.1 hpiece
          generalize kind.initial = i at hd
          cases i with
          | symbol =>
            rw [Initial.Has, symbolAt?_eq_none_iff.1 hsymbol] at hd
            cases hd
          | digit => exact hdigit hd
          | quote => exact hquote hd
          | letter => exact hletter hd

namespace Lexer

structure Ended (l : Lexer) : Prop where
  done : l.done = true
  sound : l.reader.Sound
  text : l.reader.text = []

theorem text_skipTrivia_of_ended {l : Lexer} (h : l.Ended) : l.skipTrivia.reader.text = [] := by
  obtain ⟨-, htext, hhead, -⟩ := LineReader.peek_spec h.sound
  rw [h.text] at htext hhead
  rw [skipTrivia]
  split
  · rename_i hp
    have hpeek := congrArg Prod.fst hp
    cases hhead.symm.trans hpeek
  · rename_i m hp
    have hm : m.reader = l.reader.peek.2 := congrArg (·.2.reader) hp.symm
    rw [hm, htext]

theorem holds_or_ended_next {source : Source} {l : Lexer}
    (h : (∃ pos text, l.Holds source pos text) ∨ l.Ended) :
    (∃ pos text, l.next.2.Holds source pos text) ∨ l.next.2.Ended := by
  rcases h with ⟨pos, text, hholds⟩ | hended
  · have hskip := skipTrivia_holds hholds
    cases hdrop : text.drop (trivia false text).length with
    | nil =>
      rw [hdrop] at hskip
      obtain ⟨m, hnext, hdone, hsound, htext⟩ := next_of_skipTrivia_nil hholds.done hskip
      rw [hnext]
      exact .inr ⟨hdone, hsound, htext⟩
    | cons c rest =>
      rw [hdrop] at hskip
      obtain ⟨m, hnext, hm⟩ := next_of_skipTrivia_cons hholds.done hskip
      rw [hnext]
      exact .inl ⟨_, _, hm⟩
  · rw [next_of_done hended.done]
    exact .inr hended

theorem holds_or_ended_after (source : Source) (n : Nat) :
    (∃ pos text, (source.lexer.after n).Holds source pos text) ∨ (source.lexer.after n).Ended := by
  induction n with
  | zero => exact .inl ⟨_, _, holds_lexer source⟩
  | succ n ih =>
    rw [after_succ]
    exact holds_or_ended_next ih

end Lexer

/-- A request skips the blanks and comments at the head of what is left. From the text behind them
it takes the longest lexeme, or else an open string or a single character, and answers with the
range of what it took. -/
theorem next_takes_longest (source : Source) (n : Nat)
    (hne : (source.lexer.after n).skipTrivia.reader.text ≠ []) :
    IsPastTrivia (source.lexer.after n).reader.text (source.lexer.after n).skipTrivia.reader.text ∧
    ∃ taken outcome,
      LongestMatch (source.lexer.after n).skipTrivia.reader.text taken outcome ∧
      (source.lexer.after n).skipTrivia.reader.text =
        taken ++ (source.lexer.after (n + 1)).reader.text ∧
      source.lexer.answer n = some (.of outcome ⟨(source.lexer.after n).skipTrivia.position,
        (source.lexer.after n).skipTrivia.position.advance taken⟩) := by
  rcases Lexer.holds_or_ended_after source n with ⟨pos, text, hholds⟩ | hended
  · have hskip := Lexer.skipTrivia_holds hholds
    rw [Lexer.answer_eq, Lexer.after_succ, hskip.position]
    rw [hskip.text] at hne ⊢
    refine ⟨hholds.text ▸ isPastTrivia_drop text, ?_⟩
    obtain ⟨c, rest, hrest⟩ := List.exists_cons_of_ne_nil hne
    rw [hrest] at hskip ⊢
    obtain ⟨m, hnext, hm⟩ := Lexer.next_of_skipTrivia_cons hholds.done hskip
    refine ⟨_, _, longestMatch_scan c rest, ?_, ?_⟩
    · rw [hnext, hm.text, covered_append_rest]
    · rw [hnext]
  · exact absurd (Lexer.text_skipTrivia_of_ended hended) hne

def pointsSource : Source := ⟨"points.rs", " 7..5".toUTF8.toList, none⟩

theorem next_takes_longest_points :
    (pointsSource.lexer.after 0).skipTrivia.reader.text ≠ [] ∧
      IsPastTrivia (pointsSource.lexer.after 0).reader.text
        (pointsSource.lexer.after 0).skipTrivia.reader.text ∧
      ∃ taken outcome,
      LongestMatch (pointsSource.lexer.after 0).skipTrivia.reader.text taken outcome ∧
      (pointsSource.lexer.after 0).skipTrivia.reader.text =
        taken ++ (pointsSource.lexer.after 1).reader.text ∧
      pointsSource.lexer.answer 0 = some (.of outcome
        ⟨(pointsSource.lexer.after 0).skipTrivia.position,
          (pointsSource.lexer.after 0).skipTrivia.position.advance taken⟩) := by
  have hne : (pointsSource.lexer.after 0).skipTrivia.reader.text ≠ [] := by
    have hskip := Lexer.skipTrivia_holds (Lexer.holds_lexer pointsSource)
    rw [Lexer.after, hskip.text]
    decide +kernel
  exact ⟨hne, next_takes_longest pointsSource 0 hne⟩

end MicroRust
