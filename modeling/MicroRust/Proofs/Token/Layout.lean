import MicroRust.Proofs.Token.Concatenation
import MicroRust.Proofs.Token.LexemeClass

/-! Other blanks and comments between the same tokens.

A token ends where it ends however the text goes on, as long as a blank comes next. So the pieces of
a text can be set with new gaps, and are read as before. -/

namespace MicroRust

open Text

/-- Blanks, and comments with the line ends behind them. -/
inductive IsTrivia : List Char → Prop where
  | nil : IsTrivia []
  | blank {c : Char} {rest : List Char} (hc : isBlank c = true) (h : IsTrivia rest) :
    IsTrivia (c :: rest)
  | comment {body rest : List Char} (hbody : '\n' ∉ body) (h : IsTrivia rest) :
    IsTrivia ('/' :: '/' :: (body ++ '\n' :: rest))

/-- What to put around the pieces of a text: something in front of the first one, and behind each a
gap that begins with a blank. Behind the last one there may be nothing. -/
structure Layout where
  lead : List Char
  gaps : List (List Char)
  lead_isTrivia : IsTrivia lead
  isTrivia : ∀ gap ∈ gaps, IsTrivia gap
  breaks : ∀ gap ∈ gaps, Breaks gap
  ne_nil : ∀ gap ∈ gaps.dropLast, gap ≠ []

def Layout.around (layout : Layout) (pieces : List (List Char)) : List Char :=
  layout.lead ++ (pieces.zipWith (· ++ ·) layout.gaps).flatten

/-- The characters of a text from `pos` on that have their place in a range. -/
def Span.cut (span : Span) : (pos : Position) → List Char → List Char
  | _, [] => []
  | pos, c :: rest =>
    if span.contains pos then c :: span.cut (pos.next c) rest else span.cut (pos.next c) rest

def Token.cutFrom (source : Source) (t : Token) : List Char :=
  t.span.cut Position.origin (characters source.content)

theorem Span.cut_append (span : Span) (pos : Position) (text more : List Char) :
    span.cut pos (text ++ more) = span.cut pos text ++ span.cut (pos.advance text) more := by
  induction text generalizing pos with
  | nil => rfl
  | cons c text ih =>
    rw [List.cons_append, cut, cut, Position.advance_cons, ih]
    split <;> rfl

theorem Span.cut_eq_nil {span : Span} {pos : Position} {text : List Char}
    (h : pos.advance text ≤ span.start ∨ span.stop ≤ pos) : span.cut pos text = [] := by
  induction text generalizing pos with
  | nil => rfl
  | cons c text ih =>
    have hnext := pos.lt_next c
    have houtside : ¬ span.contains pos = true := by
      rw [contains_iff]
      rintro ⟨-, -, hstart, hstop⟩
      rcases h with h | h
      · have hlt := lt_of_lt_of_le hnext (((pos.next c).le_advance text).trans h)
        exact absurd hstart (not_le_of_gt hlt)
      · exact absurd hstop (not_lt_of_ge h)
    rw [cut, if_neg houtside]
    exact ih (h.imp id fun h => h.trans (le_of_lt hnext))

theorem Position.isValid_next {p : Position} (h : p.isValid = true) (c : Char) :
    (p.next c).isValid = true := by
  rw [isValid_iff] at *
  unfold next
  split <;> dsimp only <;> omega

theorem Span.cut_eq_self {span : Span} {pos : Position} {text : List Char}
    (hspan : span.isValid = true) (hpos : pos.isValid = true) (hstart : span.start ≤ pos)
    (hstop : pos.advance text ≤ span.stop) : span.cut pos text = text := by
  induction text generalizing pos with
  | nil => rfl
  | cons c text ih =>
    have hnext := pos.lt_next c
    have hlt : pos < span.stop := lt_of_lt_of_le hnext (((pos.next c).le_advance text).trans hstop)
    rw [cut, if_pos ((contains_iff ..).2 ⟨hspan, hpos, hstart, hlt⟩),
      ih (Position.isValid_next hpos c) (hstart.trans (le_of_lt hnext)) hstop]

theorem isValid_placeAfter (text : List Char) : (placeAfter text).isValid = true := by
  have hvalid := isValid_placeAt text text.length
  rwa [placeAt, List.take_length] at hvalid

theorem Span.cut_piece (front piece back : List Char) :
    (Span.mk (placeAfter front) (placeAfter (front ++ piece))).cut Position.origin
      (front ++ (piece ++ back)) = piece := by
  have horigin : Position.origin.advance front = placeAfter front := advance_placeAfter [] front
  have hstop := advance_placeAfter front piece
  have hvalid : (Span.mk (placeAfter front) (placeAfter (front ++ piece))).isValid = true := by
    rw [Span.isValid_iff, ← hstop]
    exact ⟨isValid_placeAfter _, hstop ▸ isValid_placeAfter _, Position.le_advance ..⟩
  rw [cut_append, cut_append, horigin, hstop]
  rw [cut_eq_nil (.inl (le_of_eq horigin)), cut_eq_nil (.inr (le_refl _)),
    cut_eq_self hvalid (isValid_placeAfter front) (le_refl _) (le_of_eq hstop)]
  rw [List.nil_append, List.append_nil]

theorem IsTrivia.trivia_append {gap : List Char} (h : IsTrivia gap) (text : List Char) :
    trivia false (gap ++ text) = gap ++ trivia false text := by
  induction h with
  | nil => rfl
  | blank hc h ih =>
    rw [List.cons_append, Lexer.trivia_of_isBlank hc, ih]
    rfl
  | @comment body rest hbody h ih =>
    have hline : ∀ c ∈ body, (c != '\n') = true := by
      intro c hc
      rw [bne_iff_ne]
      rintro rfl
      exact hbody hc
    have hcomment : trivia false ('/' :: '/' :: (body ++ '\n' :: (rest ++ text))) =
        '/' :: '/' :: trivia true (body ++ '\n' :: (rest ++ text)) := rfl
    rw [List.cons_append, List.cons_append, List.append_assoc, List.cons_append, hcomment,
      Lexer.trivia_true_eq, List.takeWhile_append_of_pos hline, List.dropWhile_append_of_pos hline]
    have hnewline : trivia false ('\n' :: (rest ++ text)) =
        '\n' :: (rest ++ trivia false text) := by
      rw [Lexer.trivia_of_isBlank rfl, ih]
      rfl
    simp [hnewline]

/-- The piece is read as the lexeme, and up to its end, if a blank or nothing follows. -/
def ReadsAs (lexeme : Lexeme) (piece : List Char) : Prop :=
  ∃ c tail, piece = c :: tail ∧ ∀ more, Breaks more →
    trivia false (c :: (tail ++ more)) = [] ∧ scan c (tail ++ more) = ⟨.ok lexeme, piece, more⟩

theorem symbolAt?_covered {c : Char} {rest covered tail : List Char} {s : Symbol}
    (h : symbolAt? c rest = some (s, covered, tail)) :
    symbolAt? c covered.tail = some (s, covered, []) := by
  cases rest with
  | nil =>
    obtain ⟨s', hs, he⟩ := Option.map_eq_some_iff.1 h
    cases he
    exact h
  | cons d rest =>
    simp only [symbolAt?] at h
    split at h
    · rename_i s' hs
      cases h
      simp only [List.tail_cons, symbolAt?, hs]
    · obtain ⟨s', hs, he⟩ := Option.map_eq_some_iff.1 h
      cases he
      simp only [List.tail_cons, symbolAt?, hs, Option.map_some]

theorem takeWhile_run (p : Char → Bool) (text rest : List Char) :
    (text.takeWhile p ++ rest).takeWhile p = text.takeWhile p ++ rest.takeWhile p ∧
      (text.takeWhile p ++ rest).dropWhile p = rest.dropWhile p := by
  have hall : ∀ c ∈ text.takeWhile p, p c = true := List.all_eq_true.1 List.all_takeWhile
  exact ⟨List.takeWhile_append_of_pos hall, List.dropWhile_append_of_pos hall⟩

theorem scanNumber_covered (c : Char) (rest : List Char) :
    scanNumber c (scanNumber c rest).covered.tail = { scanNumber c rest with rest := [] } := by
  have hrun (text : List Char) := takeWhile_run Char.isDigit text []
  simp only [List.append_nil, List.takeWhile_nil, List.dropWhile_nil] at hrun
  unfold scanNumber
  cases hdrop : rest.dropWhile Char.isDigit with
  | nil => simp only [List.tail_cons, hrun]
  | cons d tail =>
    by_cases hd : d = '.'
    · subst hd
      obtain ⟨htake, hdrop'⟩ :=
        takeWhile_run Char.isDigit rest ('.' :: tail.takeWhile Char.isDigit)
      have hpoint : Char.isDigit '.' = false := rfl
      simp only [List.cons_append, List.tail_cons, htake, hdrop', hpoint, Bool.false_eq_true,
        not_false_eq_true, List.takeWhile_cons_of_neg, List.dropWhile_cons_of_neg, List.append_nil,
        hrun]
    · simp [hd, hrun]

theorem scan_covered {c : Char} {rest : List Char} {lexeme : Lexeme}
    (h : (scan c rest).outcome = .ok lexeme) :
    scan c (scan c rest).covered.tail = { scan c rest with rest := [] } := by
  unfold scan at h ⊢
  cases hsymbol : symbolAt? c rest with
  | some found =>
    obtain ⟨s, covered, tail⟩ := found
    simp only [symbolAt?_covered hsymbol]
  | none =>
    have hnone (text : List Char) : symbolAt? c text = none :=
      symbolAt?_eq_none_iff.2 (symbolAt?_eq_none_iff.1 hsymbol)
    simp only [hsymbol, hnone] at h ⊢
    split
    · exact scanNumber_covered c rest
    · rename_i hdigit
      rw [if_neg hdigit] at h
      split
      · rename_i hquote
        rw [if_pos hquote] at h
        unfold scanString at h ⊢
        cases hbody : stringBody? rest with
        | none => simp [hbody] at h
        | some found =>
          obtain ⟨body, tail⟩ := found
          have hfound := stringBody?_of_mem (mem_of_stringBody? hbody) []
          simp only [List.cons_append, List.tail_cons, hfound]
      · split
        · obtain ⟨htake, hdrop⟩ := takeWhile_run continuesIdentifier rest []
          rw [List.append_nil] at htake hdrop
          simp only [scanWord, List.tail_cons, htake, hdrop, List.takeWhile_nil, List.append_nil,
            List.dropWhile_nil]
        · rfl

theorem isBlank_of_trivia {c : Char} {rest : List Char} (h : trivia false (c :: rest) = []) :
    isBlank c = false := by
  rw [← Bool.not_eq_true]
  intro hc
  rw [Lexer.trivia_of_isBlank hc] at h
  cases h

theorem scan_slash (rest : List Char) : scan '/' rest = ⟨.ok (.symbol .slash), ['/'], rest⟩ := by
  cases rest <;> rfl

theorem readsAs_covered {c : Char} {rest : List Char} {lexeme : Lexeme}
    (hgap : trivia false (c :: rest) = []) (h : (scan c rest).outcome = .ok lexeme) :
    ReadsAs lexeme (scan c rest).covered := by
  obtain ⟨d, tail, hcovered⟩ := List.exists_cons_of_ne_nil (covered_ne_nil c rest)
  have hsplit := covered_append_rest c rest
  rw [hcovered] at hsplit
  obtain ⟨rfl, -⟩ := List.cons.inj hsplit
  have hscan := scan_covered h
  rw [hcovered, List.tail_cons] at hscan
  refine ⟨d, tail, hcovered, ?_⟩
  intro more hmore
  constructor
  · have hblank : isBlank d = false := isBlank_of_trivia hgap
    rw [Lexer.trivia_false_cons, if_neg (by rw [hblank]; exact Bool.false_ne_true)]
    -- A slash is a piece by itself, and the blank behind it begins no comment.
    rintro ⟨rfl, hslash⟩
    rw [scan_slash] at hcovered
    obtain ⟨-, rfl⟩ := List.cons.inj hcovered
    cases hmore '/' hslash
  · rw [scan_append hmore (by rw [hscan]; exact h), hscan, ← h]
    rfl

section

variable {final : Position → Reading}

theorem readsAs_of_readings (front : List Char) {text : List Char} {ts : List Token}
    {last : Reading} (h : readings final (placeAfter front) text = ts.map .ok ++ [last]) :
    ∀ t ∈ ts, ReadsAs t.lexeme (t.span.cut Position.origin (front ++ text)) := by
  induction ts generalizing front text with
  | nil => simp
  | cons t ts ih =>
    have hsplit := trivia_append_drop false text
    have hgap := Lexer.trivia_drop false text
    cases hdrop : text.drop (trivia false text).length with
    | nil =>
      rw [readings_of_drop_eq_nil _ hdrop] at h
      have hlength := congrArg List.length h
      simp at hlength
    | cons c rest =>
      rw [readings_of_drop_eq_cons _ hdrop, advance_placeAfter, advance_placeAfter] at h
      obtain ⟨hreading, hrest⟩ := List.cons.inj h
      rw [hdrop] at hsplit hgap
      generalize trivia false text = gap at *
      have hpiece := covered_append_rest c rest
      have htext : front ++ text =
          front ++ gap ++ ((scan c rest).covered ++ (scan c rest).rest) := by
        rw [hpiece, List.append_assoc, hsplit]
      obtain ⟨lexeme, hlexeme⟩ := Scan.exists_outcome_of_reading hreading
      simp only [Scan.reading, hlexeme] at hreading
      cases hreading
      refine List.forall_mem_cons.2 ⟨?_, ?_⟩
      · rw [htext, Span.cut_piece]
        exact readsAs_covered hgap hlexeme
      · rw [htext, ← List.append_assoc]
        exact ih _ hrest

theorem ReadsAs.readings_append {lexeme : Lexeme} {piece more : List Char}
    (h : ReadsAs lexeme piece) (hmore : Breaks more) (pos : Position) :
    readings final pos (piece ++ more) =
      .ok ⟨lexeme, pos, pos.advance piece⟩ :: readings final (pos.advance piece) more := by
  obtain ⟨c, tail, rfl, hreads⟩ := h
  obtain ⟨hstart, hscan⟩ := hreads more hmore
  rw [List.cons_append, readings_of_drop_eq_cons pos (by rw [hstart]; rfl), hstart, hscan]
  rfl

theorem readings_around (final : Position → Reading) {ts : List Token}
    {piece : Token → List Char} {gaps : List (List Char)}
    (hpieces : ∀ t ∈ ts, ReadsAs t.lexeme (piece t)) (hlength : gaps.length = ts.length)
    (htrivia : ∀ gap ∈ gaps, IsTrivia gap) (hbreaks : ∀ gap ∈ gaps, Breaks gap)
    (hne : ∀ gap ∈ gaps.dropLast, gap ≠ []) (pos : Position) :
    ∃ (ts' : List Token) (stop : Position),
      readings final pos ((ts.map piece).zipWith (· ++ ·) gaps).flatten =
        ts'.map .ok ++ [final stop] ∧ ts'.map (·.lexeme) = ts.map (·.lexeme) := by
  induction ts generalizing gaps pos with
  | nil => exact ⟨[], pos, readings_of_drop_eq_nil pos rfl, rfl⟩
  | cons t ts ih =>
    obtain ⟨gap, gaps, rfl⟩ := List.exists_cons_of_length_eq_add_one hlength
    obtain ⟨hpiece, hpieces⟩ := List.forall_mem_cons.1 hpieces
    obtain ⟨hgap, htrivia⟩ := List.forall_mem_cons.1 htrivia
    obtain ⟨hbreak, hbreaks⟩ := List.forall_mem_cons.1 hbreaks
    have hne' : ∀ gap ∈ gaps.dropLast, gap ≠ [] := by
      intro other hother
      cases gaps with
      | nil => cases hother
      | cons g gaps => exact hne other (List.mem_cons_of_mem _ hother)
    have hfollow : Breaks (gap ++ ((ts.map piece).zipWith (· ++ ·) gaps).flatten) := by
      cases gaps with
      | nil => simpa using hbreak
      | cons g gaps =>
        -- Only the last gap may be empty.
        obtain ⟨b, tail, rfl⟩ := List.exists_cons_of_ne_nil (hne gap (List.mem_cons_self ..))
        exact breaks_cons (hbreak b rfl) _
    obtain ⟨ts', stop, hrest, hlexemes⟩ := ih hpieces (Nat.succ.inj hlength) htrivia hbreaks hne'
      ((pos.advance (piece t)).advance gap)
    refine ⟨⟨t.lexeme, pos, pos.advance (piece t)⟩ :: ts', stop, ?_, ?_⟩
    · rw [List.map_cons, List.zipWith_cons_cons, List.flatten_cons, List.append_assoc,
        hpiece.readings_append hfollow, readings_skip _ (hgap.trivia_append _), hrest]
      rfl
    · rw [List.map_cons, hlexemes, List.map_cons]

end

theorem Source.lexeme_of_final {source : Source} {stop : Position} {eof : Token}
    (h : source.final stop = .ok eof) : eof.lexeme = .eof := by
  unfold Source.final at h
  split at h
  · cases h
  · cases h
    rfl

/-- Tokens do not depend on the blanks and comments between them. If a source is read without an
error, its pieces in any other layout are read without an error and as the same lexemes. -/
theorem layout_is_immaterial {source : Source} {ts : List Token} {last : Token}
    (h : ∀ n, source.lexer.answer n = ((ts ++ [last]).map Except.ok)[n]?) (layout : Layout)
    (hlength : layout.gaps.length = ts.length) (other : Source) (hread : other.readError = none)
    (hother : characters other.content = layout.around (ts.map (Token.cutFrom source))) :
    ∃ (ts' : List Token) (last' : Token),
      (∀ n, other.lexer.answer n = ((ts' ++ [last']).map Except.ok)[n]?) ∧
      ts'.map (·.lexeme) = ts.map (·.lexeme) ∧ last'.lexeme = last.lexeme := by
  have hreadings : source.readings = ts.map .ok ++ [.ok last] := by
    apply List.ext_getElem?
    intro n
    rw [← Lexer.answer_lexer, h, List.map_append]
    rfl
  have hpieces : ∀ t ∈ ts, ReadsAs t.lexeme (t.cutFrom source) :=
    readsAs_of_readings [] hreadings
  obtain ⟨ts', stop, haround, hlexemes⟩ := readings_around other.final hpieces hlength
    layout.isTrivia layout.breaks layout.ne_nil (Position.origin.advance layout.lead)
  have hfinal : other.final stop = .ok ⟨.eof, Span.point stop⟩ := by
    rw [Source.final, hread]
  have hlast : last.lexeme = .eof := by
    obtain ⟨pieces, stop', hpieces'⟩ := exists_pieces Position.origin (characters source.content)
    rw [Source.readings, hpieces'] at hreadings
    have heq := List.append_inj_right' hreadings rfl
    exact Source.lexeme_of_final (List.singleton_inj.1 heq)
  refine ⟨ts', ⟨.eof, Span.point stop⟩, ?_, hlexemes, hlast.symm⟩
  intro n
  rw [Lexer.answer_lexer, Source.readings, hother, Layout.around,
    readings_skip _ (layout.lead_isTrivia.trivia_append _), haround, hfinal, List.map_append]
  rfl

def denseSource : Source := ⟨"dense.rs", "7/x".toUTF8.toList, none⟩

def spacedSource : Source := ⟨"spaced.rs", "//\n7 / //y\n\tx".toUTF8.toList, none⟩

def spacedLayout : Layout where
  lead := "//\n".toList
  gaps := [" ".toList, " //y\n\t".toList, []]
  lead_isTrivia := @IsTrivia.comment [] [] List.not_mem_nil .nil
  isTrivia := by
    have htab : IsTrivia ['\t'] := .blank rfl .nil
    have hcomment : IsTrivia "//y\n\t".toList :=
      @IsTrivia.comment ['y'] ['\t'] (by decide) htab
    simp only [List.forall_mem_cons]
    exact ⟨.blank rfl .nil, .blank rfl hcomment, .nil, by simp⟩
  breaks := by
    simp only [List.forall_mem_cons]
    exact ⟨breaks_cons rfl _, breaks_cons rfl _, by simp [Breaks], by simp⟩
  ne_nil := by decide

theorem layout_is_immaterial_spaced :
    ∃ (ts : List Token) (last : Token),
      (∀ n, spacedSource.lexer.answer n = ((ts ++ [last]).map Except.ok)[n]?) ∧
      ts.map (·.lexeme) = [.integer "7" 7, .symbol .slash, .identifier "x"] ∧
      last.lexeme = .eof := by
  have hdense : denseSource.readings =
      ([⟨.integer "7" 7, ⟨1, 1⟩, ⟨1, 2⟩⟩, ⟨.symbol .slash, ⟨1, 2⟩, ⟨1, 3⟩⟩,
        ⟨.identifier "x", ⟨1, 3⟩, ⟨1, 4⟩⟩] ++
        [⟨.eof, ⟨1, 4⟩, ⟨1, 4⟩⟩] : List Token).map Except.ok := by
    decide +kernel
  have hanswers (n : Nat) := Lexer.answer_lexer denseSource n
  rw [hdense] at hanswers
  exact layout_is_immaterial hanswers spacedLayout rfl spacedSource rfl (by decide +kernel)

end MicroRust
