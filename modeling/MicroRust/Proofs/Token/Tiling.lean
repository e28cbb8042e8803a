import MicroRust.Proofs.Source.Places
import MicroRust.Token.Lexer

/-! The readings of a text lie side by side on it.

Each reading stands for a piece of the text, which spells it and whose ends are its range. Between
two pieces there are blanks and comments only. -/

namespace MicroRust

open Text

/-- Blanks and comments in front of `rest`. There is no line end in a comment, and one behind it
unless the text ends there. -/
inductive Separates (rest : List Char) : List Char → Prop where
  | nil : Separates rest []
  | blank {c : Char} {gap : List Char} (hc : isBlank c = true) (h : Separates rest gap) :
    Separates rest (c :: gap)
  | comment {body gap : List Char} (hbody : '\n' ∉ body)
      (hstop : ∀ c ∈ (gap ++ rest).head?, c = '\n') (h : Separates rest gap) :
    Separates rest ('/' :: '/' :: (body ++ gap))

/-- How a lexeme is written: a string between quotes, a word up to its normal form, and all else as
its literal. -/
def Lexeme.SpelledBy (text : List Char) : Lexeme → Prop
  | .eof => text = []
  | .symbol s => text = s.text.toList
  | .integer digits _ => text = digits.toList
  | .float digits _ => text = digits.toList
  | .abi body => text = '"' :: body.toList ++ ['"']
  | word => normalize text = word.literal.toList

def LexCause.SpelledBy (text : List Char) : LexCause → Prop
  | .invalidInteger digits => text = digits.toList
  | .invalidFloat digits => text = digits.toList
  | .unterminated body => text = '"' :: body.toList
  | .unknownCharacter c => text = [c]
  | .unclassified _ _ => False

/-- The reading is spelled by a piece of the text with the given range. -/
def Reading.Spells (text : List Char) (span : Span) : Reading → Prop
  | .ok t => t.lexeme.SpelledBy text ∧ t.span = span
  | .error (.lexical e) => e.cause.SpelledBy text ∧ e.span = span
  | .error (.unreadable _ _) => False

def Reading.IsPiece : Reading → Prop
  | .ok t => t.lexeme ≠ .eof
  | .error (.lexical _) => True
  | .error (.unreadable _ _) => False

/-- The readings cover `text` from its `i`th character on: each has a piece of its own, not empty
and not before the one of the reading before it, and the last one tells what comes at the end. -/
inductive Tiles (text : List Char) (final : Position → Reading) : Nat → List Reading → Prop where
  | stop {i : Nat} (hi : i ≤ text.length) (hgap : Separates [] (text.drop i)) :
    Tiles text final i [final (placeAt text text.length)]
  | piece {i j k : Nat} {r : Reading} {rest : List Reading} (hij : i ≤ j) (hjk : j < k)
      (hk : k ≤ text.length) (hgap : Separates (text.drop j) (text.extract i j))
      (hr : r.Spells (text.extract j k) ⟨placeAt text j, placeAt text k⟩)
      (h : Tiles text final k rest) : Tiles text final i (r :: rest)

theorem trivia_isPrefix (inComment : Bool) (text : List Char) : trivia inComment text <+: text := by
  fun_induction trivia inComment text with
  | case1 rest ih | case2 c rest _ ih => exact (List.prefix_cons_inj _).2 ih
  | case3 rest ih => exact (List.prefix_cons_inj _).2 ((List.prefix_cons_inj _).2 ih)
  | case4 c rest _ _ ih => exact (List.prefix_cons_inj _).2 ih
  | case5 => exact List.nil_prefix
  | case6 => exact List.nil_prefix

theorem trivia_append_drop (inComment : Bool) (text : List Char) :
    trivia inComment text ++ text.drop (trivia inComment text).length = text :=
  List.prefix_iff_eq_append.1 (trivia_isPrefix inComment text)

theorem separates_trivia (inComment : Bool) (text : List Char) :
    ∃ body gap, trivia inComment text = body ++ gap ∧ '\n' ∉ body ∧
      (inComment = false → body = []) ∧
      (inComment = true →
        ∀ c ∈ (gap ++ text.drop (trivia inComment text).length).head?, c = '\n') ∧
      Separates (text.drop (trivia inComment text).length) gap := by
  fun_induction trivia inComment text with
  | case1 rest ih =>
    obtain ⟨body, gap, heq, -, hnil, -, hgap⟩ := ih
    rw [hnil rfl, List.nil_append] at heq
    refine ⟨[], '\n' :: gap, by rw [heq, List.nil_append], by simp, by simp, by simp, ?_⟩
    exact .blank rfl hgap
  | case2 c rest hc ih =>
    obtain ⟨body, gap, heq, hbody, -, hstop, hgap⟩ := ih
    refine ⟨c :: body, gap, by rw [heq, List.cons_append], ?_, by simp, hstop, hgap⟩
    simpa using ⟨fun h => hc h.symm, hbody⟩
  | case3 rest ih =>
    obtain ⟨body, gap, heq, hbody, -, hstop, hgap⟩ := ih
    refine ⟨[], '/' :: '/' :: (body ++ gap), by rw [heq, List.nil_append], by simp, by simp,
      by simp, ?_⟩
    exact .comment hbody (hstop rfl) hgap
  | case4 c rest _ hc ih =>
    obtain ⟨body, gap, heq, -, hnil, -, hgap⟩ := ih
    rw [hnil rfl, List.nil_append] at heq
    refine ⟨[], c :: gap, by rw [heq, List.nil_append], by simp, by simp, by simp, ?_⟩
    exact .blank hc hgap
  | case5 c rest _ hc => exact ⟨[], [], rfl, by simp, by simp, by simp, .nil⟩
  | case6 => exact ⟨[], [], rfl, by simp, by simp, by simp, .nil⟩

theorem separates_gap (text : List Char) :
    Separates (text.drop (trivia false text).length) (trivia false text) := by
  obtain ⟨body, gap, heq, -, hnil, -, hgap⟩ := separates_trivia false text
  rw [hnil rfl, List.nil_append] at heq
  rwa [← heq] at hgap

theorem symbolAt?_eq_some {c : Char} {rest covered tail : List Char} {s : Symbol}
    (h : symbolAt? c rest = some (s, covered, tail)) :
    covered ++ tail = c :: rest ∧ covered = s.text.toList := by
  have hone : ∀ s, Symbol.ofChar? c = some s → [c] = s.text.toList := by
    intro s hs
    unfold Symbol.ofChar? at hs
    split at hs <;> cases hs <;> rfl
  cases rest with
  | nil =>
    obtain ⟨s', hs, he⟩ := Option.map_eq_some_iff.1 h
    cases he
    exact ⟨rfl, hone _ hs⟩
  | cons d rest =>
    simp only [symbolAt?] at h
    split at h
    · rename_i s' hs
      cases h
      refine ⟨rfl, ?_⟩
      unfold Symbol.ofPair? at hs
      split at hs <;> cases hs <;> rfl
    · obtain ⟨s', hs, he⟩ := Option.map_eq_some_iff.1 h
      cases he
      exact ⟨rfl, hone _ hs⟩

theorem stringBody?_append {cs body tail : List Char} (h : stringBody? cs = some (body, tail)) :
    body ++ '"' :: tail = cs := by
  fun_induction stringBody? cs generalizing body with
  | case1 => cases h
  | case2 rest =>
    cases h
    rfl
  | case3 c rest ih =>
    obtain ⟨⟨b, t⟩, hb, he⟩ := Option.map_eq_some_iff.1 h
    cases he
    rw [List.cons_append, List.cons_append, ih hb]
  | case4 c rest _ _ ih =>
    obtain ⟨⟨b, t⟩, hb, he⟩ := Option.map_eq_some_iff.1 h
    cases he
    rw [List.cons_append, ih hb]

theorem literal_wordLexeme (word : String) : (wordLexeme word).literal = word := by
  unfold wordLexeme
  split
  · rename_i h
    exact h.symm
  · split
    · rename_i h
      exact h.symm
    · split
      · rename_i h
        exact h.symm
      · split
        · rename_i k h
          have hk := List.find?_some h
          simpa [Lexeme.literal] using hk
        · rfl

theorem covered_append_rest (c : Char) (rest : List Char) :
    (scan c rest).covered ++ (scan c rest).rest = c :: rest := by
  unfold scan
  split
  · rename_i s covered tail h
    exact (symbolAt?_eq_some h).1
  · split
    · unfold scanNumber
      split
      · rename_i tail h
        have hsplit := List.takeWhile_append_dropWhile (p := Char.isDigit) (l := rest)
        rw [h] at hsplit
        simp only [List.cons_append, List.append_assoc, List.takeWhile_append_dropWhile, hsplit]
      · simp [List.takeWhile_append_dropWhile]
    · split
      · rename_i hc
        unfold scanString
        split
        · rename_i body tail h
          simp [hc, ← stringBody?_append h]
        · simp [hc]
      · split
        · simp [scanWord, List.takeWhile_append_dropWhile]
        · rfl

theorem covered_ne_nil (c : Char) (rest : List Char) : (scan c rest).covered ≠ [] := by
  intro h
  have hlength := congrArg List.length (covered_append_rest c rest)
  have hrest := length_scan_rest c rest
  rw [h] at hlength
  simp only [List.nil_append, List.length_cons] at hlength
  omega

def Scan.Spelled (s : Scan) : Prop :=
  match s.outcome with
  | .ok lexeme => lexeme.SpelledBy s.covered
  | .error cause => cause.SpelledBy s.covered

theorem floatOutcome_eq (whole fraction : List Char) :
    (∃ value, floatOutcome whole fraction =
      .ok (.float (String.ofList (whole ++ '.' :: fraction)) value)) ∨
    floatOutcome whole fraction =
      .error (.invalidFloat (String.ofList (whole ++ '.' :: fraction))) := by
  unfold floatOutcome
  dsimp only
  split
  · exact .inl ⟨_, rfl⟩
  · exact .inr rfl

theorem spelled_scanNumber (c : Char) (rest : List Char) : (scanNumber c rest).Spelled := by
  unfold scanNumber
  dsimp only
  split
  · rename_i tail _
    unfold Scan.Spelled
    rcases floatOutcome_eq (c :: rest.takeWhile Char.isDigit) (tail.takeWhile Char.isDigit) with
      ⟨value, h⟩ | h
    · rw [h]
      exact String.toList_ofList.symm
    · rw [h]
      exact String.toList_ofList.symm
  · unfold Scan.Spelled integerOutcome
    split
    · rename_i h
      split at h <;> cases h
      exact String.toList_ofList.symm
    · rename_i h
      split at h <;> cases h
      exact String.toList_ofList.symm

theorem spelledBy_word (text : List Char) :
    (wordLexeme (String.ofList (normalize text))).SpelledBy text := by
  have hspelled : normalize text =
      (wordLexeme (String.ofList (normalize text))).literal.toList := by
    rw [literal_wordLexeme, String.toList_ofList]
  revert hspelled
  unfold wordLexeme
  repeat' split
  all_goals exact id

theorem spelled_scan (c : Char) (rest : List Char) : (scan c rest).Spelled := by
  unfold scan
  split
  · rename_i s covered tail h
    exact (symbolAt?_eq_some h).2
  · split
    · exact spelled_scanNumber c rest
    · split
      · unfold scanString
        split
        · simp [Scan.Spelled, Lexeme.SpelledBy]
        · simp [Scan.Spelled, LexCause.SpelledBy]
      · split
        · exact spelledBy_word _
        · exact rfl

theorem Scan.Spelled.spells {s : Scan} (h : s.Spelled) (span : Span) :
    (s.reading span).Spells s.covered span := by
  cases hs : s.outcome with
  | ok lexeme =>
    simp only [Scan.Spelled, hs] at h
    simp only [Scan.reading, hs]
    exact ⟨h, rfl⟩
  | error cause =>
    simp only [Scan.Spelled, hs] at h
    simp only [Scan.reading, hs]
    exact ⟨h, rfl⟩

section

variable {final : Position → Reading} {text : List Char}

theorem readings_of_drop_eq_nil (pos : Position)
    (h : text.drop (trivia false text).length = []) :
    readings final pos text = [final (pos.advance (trivia false text))] := by
  rw [readings]
  split
  · rfl
  · rename_i hcons
    rw [h] at hcons
    cases hcons

theorem readings_of_drop_eq_cons (pos : Position) {c : Char} {rest : List Char}
    (h : text.drop (trivia false text).length = c :: rest) :
    readings final pos text =
      (scan c rest).reading ⟨pos.advance (trivia false text),
        (pos.advance (trivia false text)).advance (scan c rest).covered⟩ ::
      readings final ((pos.advance (trivia false text)).advance (scan c rest).covered)
        (scan c rest).rest := by
  rw [readings]
  split
  · rename_i hnil
    rw [h] at hnil
    cases hnil
  · rename_i c' rest' hcons
    rw [h] at hcons
    cases hcons
    rfl

theorem extract_of_drop_eq {i : Nat} {piece tail : List Char} (h : text.drop i = piece ++ tail) :
    text.extract i (i + piece.length) = piece ∧ text.drop (i + piece.length) = tail := by
  constructor
  · rw [List.extract, Nat.add_sub_cancel_left, h, List.take_left]
  · rw [← List.drop_drop, h, List.drop_left]

theorem tiles_readings_drop {i : Nat} (hi : i ≤ text.length) :
    Tiles text final i (readings final (placeAt text i) (text.drop i)) := by
  -- On what is left of the text: a piece is not empty, however long the gap in front of it is.
  induction hn : text.length - i using Nat.strongRecOn generalizing i with
  | _ n ih =>
    have hgap := separates_gap (text.drop i)
    have hsplit := (trivia_append_drop false (text.drop i)).symm
    have hplace := advance_placeAt (trivia_isPrefix false (text.drop i))
    obtain ⟨hextract, hdrop⟩ := extract_of_drop_eq hsplit
    generalize hg : trivia false (text.drop i) = gap at *
    rw [← hdrop] at hgap hsplit
    have hbound := congrArg List.length hsplit
    rw [List.length_append, List.length_drop, List.length_drop] at hbound
    cases hrest : text.drop (i + gap.length) with
    | nil =>
      have hend : i + gap.length = text.length := by
        rw [List.drop_eq_nil_iff] at hrest
        omega
      rw [readings_of_drop_eq_nil _ (by rw [hg, ← hdrop, hrest]), hg, hplace, hend]
      rw [hrest, List.append_nil] at hsplit
      exact .stop hi (by rwa [hsplit, ← hrest])
    | cons c rest =>
      have hpiece := (covered_append_rest c rest).symm
      rw [← hrest] at hpiece
      have hne := List.length_pos_iff.2 (covered_ne_nil c rest)
      obtain ⟨hcovered, htail⟩ := extract_of_drop_eq hpiece
      have hlength := congrArg List.length hpiece
      rw [List.length_append, List.length_drop] at hlength
      rw [readings_of_drop_eq_cons _ (by rw [hg, ← hdrop, hrest]), hg, hplace,
        advance_placeAt (hpiece ▸ List.prefix_append ..), ← htail]
      have hk : i + gap.length + (scan c rest).covered.length ≤ text.length := by omega
      refine .piece (Nat.le_add_right ..) (Nat.lt_add_of_pos_right hne) hk ?_ ?_ ?_
      · rwa [hextract]
      · rw [hcovered]
        exact (spelled_scan c rest).spells _
      · exact ih (text.length - (i + gap.length + (scan c rest).covered.length)) (by omega) hk rfl

theorem tiles_readings (final : Position → Reading) (text : List Char) :
    Tiles text final 0 (readings final Position.origin text) :=
  tiles_readings_drop (Nat.zero_le _)

end

theorem exists_pieces (pos : Position) (text : List Char) :
    ∃ (pieces : List Reading) (stop : Position),
      ∀ final, readings final pos text = pieces ++ [final stop] := by
  induction hn : text.length using Nat.strongRecOn generalizing pos text with
  | _ n ih =>
    cases hdrop : text.drop (trivia false text).length with
    | nil => exact ⟨[], _, fun final => readings_of_drop_eq_nil pos hdrop⟩
    | cons c rest =>
      have hlt : (scan c rest).rest.length < n := by
        have hlength := congrArg List.length hdrop
        have hle := length_scan_rest c rest
        rw [List.length_drop, List.length_cons] at hlength
        omega
      obtain ⟨pieces, stop, hpieces⟩ := ih _ hlt
        ((pos.advance (trivia false text)).advance (scan c rest).covered) _ rfl
      have hcons final := @readings_of_drop_eq_cons final text pos c rest hdrop
      simp only [hpieces, ← List.cons_append] at hcons
      exact ⟨_, stop, hcons⟩

theorem Reading.Spells.isPiece {r : Reading} {piece : List Char} {span : Span}
    (h : r.Spells piece span) (hpiece : piece ≠ []) : r.IsPiece := by
  match r with
  | .ok t =>
    intro heof
    have hspelled := h.1
    rw [heof] at hspelled
    exact hpiece hspelled
  | .error (.lexical _) => trivial
  | .error (.unreadable _ _) => exact h.elim

theorem extract_ne_nil {text : List Char} {j k : Nat} (hjk : j < k) (hk : k ≤ text.length) :
    text.extract j k ≠ [] := by
  intro hnil
  have hlength := congrArg List.length hnil
  rw [List.extract, List.length_take, List.length_drop, List.length_nil] at hlength
  omega

def Sequential (tokens : List Token) : Prop :=
  (∀ t ∈ tokens, t.span.isValid = true ∧ t.span.start < t.span.stop) ∧
    tokens.Pairwise fun t u => t.span.stop ≤ u.span.start

theorem Sequential.tail {t : Token} {ts : List Token} (h : Sequential (t :: ts)) : Sequential ts :=
  ⟨(List.forall_mem_cons.1 h.1).2, (List.pairwise_cons.1 h.2).2⟩

theorem Sequential.stop_lt {t : Token} {ts : List Token} (h : Sequential (t :: ts)) {u : Token}
    (hu : u ∈ ts) : t.span.stop < u.span.stop := by
  have hle := (List.pairwise_cons.1 h.2).1 u hu
  exact lt_of_le_of_lt hle (h.1 u (List.mem_cons_of_mem _ hu)).2

theorem isValid_placeAt_span (text : List Char) {j k : Nat} (h : j ≤ k) :
    (Span.mk (placeAt text j) (placeAt text k)).isValid = true := by
  rw [Span.isValid_iff]
  exact ⟨isValid_placeAt text j, isValid_placeAt text k, placeAt_le text h⟩

namespace Tiles

variable {text : List Char} {final : Position → Reading} {i : Nat}

theorem length_le {rs : List Reading} (h : Tiles text final i rs) :
    rs.length + i ≤ text.length + 1 := by
  induction h with
  | stop hi => simpa [Nat.add_comm] using hi
  | piece hij hjk hk hgap hr h ih =>
    rw [List.length_cons]
    omega

theorem split {ts : List Token} {r : Reading} {rest : List Reading}
    (h : Tiles text final i (ts.map .ok ++ r :: rest)) :
    ∃ j, i ≤ j ∧ Tiles text final j (r :: rest) ∧ Sequential ts ∧
      ∀ t ∈ ts, placeAt text i ≤ t.span.start ∧ t.span.stop ≤ placeAt text j := by
  induction ts generalizing i with
  | nil => exact ⟨i, Nat.le_refl i, h, ⟨by simp, .nil⟩, by simp⟩
  | cons t ts ih =>
    generalize hrs : (t :: ts).map .ok ++ r :: rest = rs at h
    cases h with
    | stop => simp at hrs
    | piece hij hjk hk hgap hr h =>
      obtain ⟨rfl, rfl⟩ := List.cons.inj hrs
      obtain ⟨j, hj, htiles, ⟨hvalid, hpairs⟩, hbounds⟩ := ih h
      obtain ⟨-, hspan⟩ := hr
      refine ⟨j, by omega, htiles, ⟨?_, ?_⟩, ?_⟩
      · refine List.forall_mem_cons.2 ⟨?_, hvalid⟩
        rw [hspan]
        exact ⟨isValid_placeAt_span text (Nat.le_of_lt hjk), placeAt_lt hjk hk⟩
      · refine List.pairwise_cons.2 ⟨fun u hu => ?_, hpairs⟩
        rw [hspan]
        exact (hbounds u hu).1
      · refine List.forall_mem_cons.2 ⟨?_, fun u hu => ?_⟩
        · rw [hspan]
          exact ⟨placeAt_le text hij, placeAt_le text hj⟩
        · have hik : i ≤ _ := Nat.le_trans hij (Nat.le_of_lt hjk)
          exact ⟨le_trans (placeAt_le text hik) (hbounds u hu).1, (hbounds u hu).2⟩

theorem eq_final {eof : Token} (heof : eof.lexeme = .eof) {rest : List Reading}
    (h : Tiles text final i (.ok eof :: rest)) :
    final (placeAt text text.length) = .ok eof ∧ rest = [] ∧ i ≤ text.length := by
  generalize hrs : (.ok eof : Reading) :: rest = rs at h
  cases h with
  | stop hi =>
    obtain ⟨h, rfl⟩ := List.cons.inj hrs
    exact ⟨h.symm, rfl, hi⟩
  | piece hij hjk hk hgap hr h =>
    obtain ⟨rfl, -⟩ := List.cons.inj hrs
    exact absurd heof (hr.isPiece (extract_ne_nil hjk hk))

theorem pieces {pieces : List Reading} {last : Reading} (h : Tiles text final i (pieces ++ [last])) :
    pieces.length + i ≤ text.length ∧ ∀ r ∈ pieces, r.IsPiece := by
  induction pieces generalizing i with
  | nil =>
    have hlength := h.length_le
    simp only [List.nil_append, List.length_singleton] at hlength
    exact ⟨by simp only [List.length_nil]; omega, by simp⟩
  | cons r pieces ih =>
    generalize hrs : r :: pieces ++ [last] = rs at h
    cases h with
    | stop => simp at hrs
    | piece hij hjk hk hgap hr h =>
      obtain ⟨rfl, rfl⟩ := List.cons.inj hrs
      obtain ⟨hlength, hpieces⟩ := ih h
      refine ⟨?_, List.forall_mem_cons.2 ⟨hr.isPiece (extract_ne_nil hjk hk), hpieces⟩⟩
      rw [List.length_cons]
      omega

end Tiles

theorem Source.sequential_of_readings {source : Source} {ts : List Token} {eof : Token}
    {rest : List Reading} (h : source.readings = ts.map .ok ++ .ok eof :: rest)
    (heof : eof.lexeme = .eof) :
    rest = [] ∧ Sequential ts ∧ (Span.mk Position.origin eof.span.stop).isValid = true ∧
      ∀ t ∈ ts, Position.origin ≤ t.span.start ∧ t.span.stop ≤ eof.span.stop := by
  have htiles : Tiles _ source.final 0 source.readings := tiles_readings source.final _
  rw [h] at htiles
  generalize characters source.content = text at htiles
  obtain ⟨j, -, htiles, hseq, hbounds⟩ := htiles.split
  obtain ⟨hfinal, hrest, hj⟩ := htiles.eq_final heof
  have hstop : eof.span.stop = placeAt text text.length := by
    unfold Source.final at hfinal
    split at hfinal
    · cases hfinal
    · cases hfinal
      rfl
  refine ⟨hrest, hseq, ?_, fun t ht => ?_⟩
  · rw [hstop]
    exact isValid_placeAt_span _ (Nat.zero_le _)
  · obtain ⟨hstart, hle⟩ := hbounds t ht
    rw [hstop]
    exact ⟨hstart, le_trans hle (placeAt_le _ hj)⟩

end MicroRust
