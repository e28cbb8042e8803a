import MicroRust.Proofs.Source.Lines
import MicroRust.Proofs.Token.Request

/-! The ranges of tokens and of lexical errors, cut out of the lines of the file.

The lexer counts lines and columns while it reads, and a file is cut into lines without it. What the
lexer takes for an answer is what the lines hold in the range of the answer. -/

namespace MicroRust

open Text

theorem isBlank_eq_false_of_drop {inComment : Bool} {text : List Char} {c : Char}
    {rest : List Char} (h : text.drop (trivia inComment text).length = c :: rest) :
    isBlank c = false := by
  fun_induction trivia inComment text with
  | case1 text ih => exact ih h
  | case2 d text _ ih => exact ih h
  | case3 text ih => exact ih h
  | case4 d text _ _ ih => exact ih h
  | case5 d text _ hd =>
    cases h
    simpa using hd
  | case6 => cases h

theorem not_mem_takeWhile {p : Char → Bool} {c : Char} (hc : p c = false) (text : List Char) :
    c ∉ text.takeWhile p := by
  intro hmem
  have hp : p c = true := List.all_eq_true.1 List.all_takeWhile c hmem
  rw [hc] at hp
  cases hp

theorem not_mem_covered_scanNumber {c : Char} (hc : c ≠ '\r') (rest : List Char) :
    '\r' ∉ (scanNumber c rest).covered := by
  have hwhole : '\r' ∉ c :: rest.takeWhile Char.isDigit :=
    List.not_mem_cons_of_ne_of_not_mem hc.symm (not_mem_takeWhile rfl rest)
  unfold scanNumber
  dsimp only
  split
  · rename_i tail _
    have hfraction : '\r' ∉ '.' :: tail.takeWhile Char.isDigit :=
      List.not_mem_cons_of_ne_of_not_mem (by decide) (not_mem_takeWhile rfl tail)
    rw [List.mem_append]
    rintro (hmem | hmem)
    · exact hwhole hmem
    · exact hfraction hmem
  · exact hwhole

theorem not_mem_symbol (s : Symbol) : '\r' ∉ s.text.toList := by
  cases s <;> decide

theorem rest_eq_nil_of_getLast?_covered {c : Char} {rest : List Char} (hc : isBlank c = false)
    (h : (scan c rest).covered.getLast? = some '\r') : (scan c rest).rest = [] := by
  have hne : c ≠ '\r' := by
    rintro rfl
    cases hc
  have hmem := List.mem_of_getLast? h
  revert h hmem
  unfold scan
  split
  · rename_i s covered tail hsymbol
    intro h hmem
    rw [(symbolAt?_eq_some hsymbol).2] at hmem
    exact absurd hmem (not_mem_symbol s)
  · split
    · intro h hmem
      exact absurd hmem (not_mem_covered_scanNumber hne rest)
    · split
      · intro h hmem
        unfold scanString at h ⊢
        split
        · rename_i body tail hbody
          simp only [hbody] at h
          rw [List.getLast?_concat] at h
          cases h
        · rfl
      · split
        · intro h hmem
          have hword : continuesIdentifier '\r' = false := by decide +kernel
          have hnot := List.not_mem_cons_of_ne_of_not_mem hne.symm (not_mem_takeWhile hword rest)
          exact absurd hmem hnot
        · intro h hmem
          exact absurd (List.mem_singleton.1 hmem).symm hne

theorem SourceFile.excerpt_piece (name : String) {content : List UInt8}
    {front piece rest : List Char} (h : front ++ (piece ++ rest) = characters content)
    (hstart : (piece ++ rest).head? ≠ some '\n')
    (hstop : piece.getLast? = some '\r' → rest.head? ≠ some '\n') :
    (ofBytes name content).excerpt ⟨placeAfter front, placeAfter (front ++ piece)⟩ =
      oneLineEnd piece := by
  have hpiece : piece.head? ≠ some '\n' := by
    intro hhead
    rw [List.head?_append, hhead] at hstart
    exact hstart rfl
  have hfront : oneLineEnd (front ++ piece) = oneLineEnd front ++ oneLineEnd piece :=
    oneLineEnd_append fun _ => hpiece
  have hshown := shown_ofBytes name content
  rw [← h, oneLineEnd_append (fun _ => hstart), oneLineEnd_append hstop] at hshown
  have hexcerpt := excerpt_eq hshown
  rwa [← hfront, placeAfter_oneLineEnd, placeAfter_oneLineEnd] at hexcerpt

theorem SourceFile.excerpt_scan (name : String) {content : List UInt8} {front rest : List Char}
    {c : Char} (h : front ++ c :: rest = characters content) (hc : isBlank c = false) :
    (ofBytes name content).excerpt ⟨placeAfter front, placeAfter (front ++ (scan c rest).covered)⟩ =
      oneLineEnd (scan c rest).covered := by
  have hsplit := covered_append_rest c rest
  rw [← hsplit] at h
  apply excerpt_piece name h
  · rw [hsplit, List.head?_cons]
    intro hhead
    obtain rfl := Option.some.inj hhead
    cases hc
  · intro hend
    rw [rest_eq_nil_of_getLast?_covered hc hend]
    intro hhead
    cases hhead

theorem SourceFile.excerpt_end (name : String) (content : List UInt8) :
    (ofBytes name content).excerpt (Span.point (placeAfter (characters content))) = [] := by
  have hwhole : characters content ++ ([] ++ []) = characters content := List.append_nil _
  have hexcerpt := excerpt_piece name hwhole (by simp) (by simp)
  rwa [List.append_nil] at hexcerpt

def Reading.span? : Reading → Option Span
  | .ok t => some t.span
  | .error (.lexical e) => some e.span
  | .error (.unreadable _ _) => none

theorem Reading.span?_of (outcome : Except LexCause Lexeme) (span : Span) :
    (Reading.of outcome span).span? = some span := by
  cases outcome <;> rfl

theorem Source.span?_final {source : Source} {stop : Position} {span : Span}
    (h : (source.final stop).span? = some span) : span = Span.point stop := by
  unfold Source.final at h
  split at h
  · cases h
  · exact (Option.some.inj h).symm

namespace Lexer

def after (l : Lexer) : Nat → Lexer
  | 0 => l
  | n + 1 => l.next.2.after n

theorem after_succ (l : Lexer) (n : Nat) : l.after (n + 1) = (l.after n).next.2 := by
  induction n generalizing l with
  | zero => rfl
  | succ n ih => exact ih l.next.2

theorem answer_eq (l : Lexer) (n : Nat) : l.answer n = (l.after n).next.1 := by
  induction n generalizing l with
  | zero => rfl
  | succ n ih => exact ih l.next.2

def Reached (source : Source) (l : Lexer) : Prop :=
  l.done = true ∨ ∃ front text, front ++ text = characters source.content ∧
    l.Holds source (placeAfter front) text

theorem reached_lexer (source : Source) : source.lexer.Reached source :=
  .inr ⟨[], _, rfl, holds_lexer source⟩

/-- The lines of the file hold in the range of the next answer what is taken for it. -/
def Excerpts (source : Source) (l : Lexer) : Prop :=
  ∀ r span, l.next.1 = some r → r.span? = some span →
    ∃ taken, l.skipTrivia.reader.text = taken ++ l.next.2.reader.text ∧
      (SourceFile.ofBytes source.name source.content).excerpt span = oneLineEnd taken

variable {source : Source} {l : Lexer}

theorem reached_next (h : l.Reached source) : l.next.2.Reached source ∧ l.Excerpts source := by
  rcases h with hdone | ⟨front, text, htext, hholds⟩
  · rw [Excerpts, next_of_done hdone]
    refine ⟨.inl hdone, ?_⟩
    intro r span hnext
    cases hnext
  · have hskip := skipTrivia_holds hholds
    have hgap := trivia_append_drop false text
    have hfront : front ++ trivia false text ++ text.drop (trivia false text).length =
        characters source.content := by
      rw [List.append_assoc, hgap, htext]
    rw [advance_placeAfter] at hskip
    cases htail : text.drop (trivia false text).length with
    | nil =>
      rw [htail] at hskip hfront
      rw [List.append_nil] at hfront
      obtain ⟨m, hnext, hdone, -, hm⟩ := next_of_skipTrivia_nil hholds.done hskip
      rw [Excerpts, hnext]
      refine ⟨.inl hdone, ?_⟩
      intro r span hr hspan
      cases hr
      obtain rfl := Source.span?_final hspan
      rw [hfront]
      refine ⟨[], ?_, SourceFile.excerpt_end source.name source.content⟩
      rw [hskip.text, hm]
      rfl
    | cons c rest =>
      have hblank := isBlank_eq_false_of_drop htail
      rw [htail] at hskip hfront
      obtain ⟨m, hnext, hm⟩ := next_of_skipTrivia_cons hholds.done hskip
      have hsplit := covered_append_rest c rest
      rw [advance_placeAfter] at hnext hm
      rw [Excerpts, hnext]
      constructor
      · refine .inr ⟨_, _, ?_, hm⟩
        rw [List.append_assoc, hsplit, hfront]
      · intro r span hr hspan
        cases hr
        rw [Reading.span?_of] at hspan
        obtain rfl := Option.some.inj hspan
        refine ⟨(scan c rest).covered, ?_, SourceFile.excerpt_scan source.name hfront hblank⟩
        rw [hskip.text, hm.text, hsplit]

theorem reached_after (h : l.Reached source) (n : Nat) : (l.after n).Reached source := by
  induction n generalizing l with
  | zero => exact h
  | succ n ih => exact ih (reached_next h).1

end Lexer

theorem Tiles.exists_last {text : List Char} {final : Position → Reading} {i : Nat}
    {rs : List Reading} (h : Tiles text final i rs) :
    ∃ pieces, rs = pieces ++ [final (placeAfter text)] := by
  induction h with
  | stop hi hgap =>
    rw [placeAt, List.take_length]
    exact ⟨[], rfl⟩
  | piece hij hjk hk hgap hr h ih =>
    obtain ⟨pieces, rfl⟩ := ih
    exact ⟨_ :: pieces, rfl⟩

/-- The end of a source is told in the last line of the file, and whatever else the lexer answers,
the lines of the file hold in its range the characters that were taken for it, with each line end
as one character. -/
theorem answers_excerpt (name : String) (content : List UInt8) :
    (∃ n stop, (Source.mk name content none).lexer.answer n =
        some (.ok ⟨.eof, Span.point stop⟩) ∧
      stop.line = (SourceFile.ofBytes name content).lines.length) ∧
    ∀ n r span, (Source.mk name content none).lexer.answer n = some r → r.span? = some span →
      ∃ taken, ((Source.mk name content none).lexer.after n).skipTrivia.reader.text =
          taken ++ ((Source.mk name content none).lexer.after (n + 1)).reader.text ∧
        (SourceFile.ofBytes name content).excerpt span = oneLineEnd taken := by
  constructor
  · have htiles := tiles_readings (Source.mk name content none).final (characters content)
    obtain ⟨pieces, hpieces⟩ := htiles.exists_last
    refine ⟨pieces.length, placeAfter (characters content), ?_, ?_⟩
    · rw [Lexer.answer_lexer, Source.readings, hpieces, List.getElem?_concat_length]
      rfl
    · exact (SourceFile.length_lines_ofBytes name content).symm
  · intro n r span hanswer hspan
    have hreached := Lexer.reached_after (Lexer.reached_lexer (Source.mk name content none)) n
    rw [Lexer.answer_eq] at hanswer
    rw [Lexer.after_succ]
    exact (Lexer.reached_next hreached).2 r span hanswer hspan

-- A string over two lines, whose line end is of two bytes.
example : (SourceFile.ofBytes "s.rs" "\"a\r\nb\" c".toUTF8.toList).excerpt ⟨⟨1, 1⟩, ⟨2, 3⟩⟩ =
    "\"a\nb\"".toList := by
  decide +kernel

end MicroRust
