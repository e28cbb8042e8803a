import MicroRust.Proofs.Token.Request
import MicroRust.Proofs.Tree.Relocation

/-! The readings of two texts with a line end between them.

No token of the first text reaches over the line end, so its readings stay as they are, and behind
them come those of the second text, as many lines further down as the first one has. -/

namespace MicroRust

open Text
open LineReader (newline)

theorem head?_append_newline_ne {rest : List Char} {c : Char} (hc : c ≠ '\n') (more : List Char)
    (h : rest.head? ≠ some c) : (rest ++ '\n' :: more).head? ≠ some c := by
  cases rest with
  | nil => simpa using hc.symm
  | cons d rest => exact h

theorem trivia_true_cons {c : Char} (hc : c ≠ '\n') (rest : List Char) :
    trivia true (c :: rest) = c :: trivia true rest := by
  rw [Lexer.trivia_true_eq, Lexer.trivia_true_eq rest, List.takeWhile_cons_of_pos (by simp [hc]),
    List.dropWhile_cons_of_pos (by simp [hc]), List.cons_append]

theorem trivia_append_newline (inComment : Bool) (text more : List Char) :
    trivia inComment (text ++ '\n' :: more) =
      if trivia inComment text = text then text ++ '\n' :: trivia false more
      else trivia inComment text := by
  -- One character more in front of a text is in front of what is skipped of it, or ends it.
  have hcons (c : Char) (skipped rest more : List Char) :
      (c :: if skipped = rest then rest ++ more else skipped) =
        if c :: skipped = c :: rest then c :: rest ++ more else c :: skipped := by
    simp only [List.cons.injEq, true_and, apply_ite (List.cons c), List.cons_append]
  fun_induction trivia inComment text with
  | case1 rest ih => exact (congrArg (List.cons '\n') ih).trans (hcons ..)
  | case2 c rest hc ih =>
    rw [List.cons_append, trivia_true_cons hc, ih, hcons]
  | case3 rest ih =>
    have hrest := congrArg (List.cons '/') (congrArg (List.cons '/') ih)
    rw [hcons, hcons] at hrest
    exact hrest
  | case4 c rest hcomment hc ih =>
    rw [List.cons_append, Lexer.trivia_false_cons, if_pos hc, ih, hcons]
    rintro ⟨rfl, hslash⟩
    cases hc
  | case5 c rest hcomment hc =>
    rw [List.cons_append, Lexer.trivia_false_cons, if_neg hc, if_neg (List.cons_ne_nil c rest).symm]
    rintro ⟨rfl, hslash⟩
    refine head?_append_newline_ne (by decide) more (fun hrest => ?_) hslash
    obtain ⟨tail, rfl⟩ := List.head?_eq_some_iff.1 hrest
    exact hcomment tail rfl rfl
  | case6 inComment => cases inComment <;> rfl

def Scan.followedBy (s : Scan) (more : List Char) : Scan := { s with rest := s.rest ++ more }

/-- The text is empty or begins with a blank. No token in front of it goes on into it. -/
def Breaks (more : List Char) : Prop := ∀ b ∈ more.head?, isBlank b = true

theorem breaks_cons {b : Char} (hb : isBlank b = true) (more : List Char) : Breaks (b :: more) := by
  rintro _ ⟨⟩
  exact hb

theorem Breaks.cases {more : List Char} (h : Breaks more) :
    more = [] ∨ ∃ b tail, more = b :: tail ∧ isBlank b = true := by
  cases more with
  | nil => exact .inl rfl
  | cons b tail => exact .inr ⟨b, tail, rfl, h b rfl⟩

theorem not_continues_of_isBlank {b : Char} (h : isBlank b = true) :
    b.isDigit = false ∧ b ≠ '.' ∧ continuesIdentifier b = false ∧ b ∉ ['>', '&', '|', '='] := by
  simp only [isBlank, Bool.or_eq_true, decide_eq_true_eq, or_assoc] at h
  rcases h with rfl | rfl | rfl | rfl | rfl | rfl | rfl | rfl | rfl | rfl | rfl <;> decide +kernel

theorem ofPair?_of_isBlank (c : Char) {b : Char} (h : isBlank b = true) :
    Symbol.ofPair? c b = none := by
  obtain ⟨-, -, -, hb⟩ := not_continues_of_isBlank h
  unfold Symbol.ofPair?
  split <;> simp_all

section

variable {more : List Char}

theorem takeWhile_append_breaks {p : Char → Bool} (hp : ∀ b, isBlank b = true → p b = false)
    (hmore : Breaks more) (text : List Char) :
    (text ++ more).takeWhile p = text.takeWhile p ∧
      (text ++ more).dropWhile p = text.dropWhile p ++ more := by
  rcases hmore.cases with rfl | ⟨b, tail, rfl, hb⟩
  · simp only [List.append_nil, and_self]
  · exact ⟨takeWhile_append_cons (hp b hb) .., dropWhile_append_cons (hp b hb) ..⟩

theorem symbolAt?_append (hmore : Breaks more) (c : Char) (rest : List Char) :
    symbolAt? c (rest ++ more) =
      (symbolAt? c rest).map fun (s, covered, tail) => (s, covered, tail ++ more) := by
  cases rest with
  | cons d rest =>
    simp only [List.cons_append, symbolAt?]
    split
    · rfl
    · cases Symbol.ofChar? c <;> rfl
  | nil =>
    rcases hmore.cases with rfl | ⟨b, tail, rfl, hb⟩
    · simp only [List.append_nil, symbolAt?]
      cases Symbol.ofChar? c <;> rfl
    · simp only [List.nil_append, symbolAt?, ofPair?_of_isBlank c hb]
      cases Symbol.ofChar? c <;> rfl

theorem scanNumber_append (hmore : Breaks more) (c : Char) (rest : List Char) :
    scanNumber c (rest ++ more) = (scanNumber c rest).followedBy more := by
  have hdigits (text : List Char) := takeWhile_append_breaks (p := Char.isDigit)
    (fun b hb => (not_continues_of_isBlank hb).1) hmore text
  unfold scanNumber
  rw [(hdigits rest).1, (hdigits rest).2]
  cases htail : rest.dropWhile Char.isDigit with
  | nil =>
    rcases hmore.cases with rfl | ⟨b, tail, rfl, hb⟩
    · rfl
    · simp [(not_continues_of_isBlank hb).2.1, Scan.followedBy]
  | cons d tail =>
    by_cases hd : d = '.'
    · subst hd
      simp only [List.cons_append, (hdigits tail).1, (hdigits tail).2, Scan.followedBy]
    · simp [hd, Scan.followedBy]

theorem scanWord_append (hmore : Breaks more) (c : Char) (rest : List Char) :
    scanWord c (rest ++ more) = (scanWord c rest).followedBy more := by
  obtain ⟨htake, hdrop⟩ := takeWhile_append_breaks (p := continuesIdentifier)
    (fun b hb => (not_continues_of_isBlank hb).2.2.1) hmore rest
  unfold scanWord
  rw [htake, hdrop]
  rfl

theorem stringBody?_append_right {text body tail : List Char}
    (h : stringBody? text = some (body, tail)) (more : List Char) :
    stringBody? (text ++ more) = some (body, tail ++ more) := by
  fun_induction stringBody? text generalizing body with
  | case1 => cases h
  | case2 rest =>
    cases h
    rfl
  | case3 c rest ih =>
    obtain ⟨⟨b, t⟩, hb, he⟩ := Option.map_eq_some_iff.1 h
    cases he
    have hrest := congrArg (Option.map fun body => ('\\' :: c :: body.1, body.2)) (ih hb)
    exact hrest
  | case4 c rest hquote hpair ih =>
    obtain ⟨⟨b, t⟩, hb, he⟩ := Option.map_eq_some_iff.1 h
    cases he
    -- A string that ends has a character behind `c`, so `c` is no backslash.
    have hne : rest ≠ [] := by
      rintro rfl
      cases hb
    obtain ⟨d, rest, rfl⟩ := List.exists_cons_of_ne_nil hne
    have hescape : c ≠ '\\' := fun hc => hpair d rest hc rfl
    rw [List.cons_append, stringBody?, ih hb]
    · rfl
    · exact hquote
    · exact fun _ _ hc => absurd hc hescape

theorem scan_append (hmore : Breaks more) {c : Char} {rest : List Char} {lexeme : Lexeme}
    (h : (scan c rest).outcome = .ok lexeme) :
    scan c (rest ++ more) = (scan c rest).followedBy more := by
  unfold scan at h ⊢
  rw [symbolAt?_append hmore]
  cases hsymbol : symbolAt? c rest with
  | some found => rfl
  | none =>
    simp only [hsymbol, Option.map_none] at h ⊢
    split
    · exact scanNumber_append hmore ..
    · rename_i hdigit
      rw [if_neg hdigit] at h
      split
      · rename_i hquote
        rw [if_pos hquote] at h
        unfold scanString at h ⊢
        cases hbody : stringBody? rest with
        | none => simp [hbody] at h
        | some found => simp only [stringBody?_append_right hbody, Scan.followedBy]
      · split
        · exact scanWord_append hmore ..
        · rfl

end

section

variable {final : Position → Reading}

theorem readings_skip {gap text : List Char} (pos : Position)
    (h : trivia false (gap ++ text) = gap ++ trivia false text) :
    readings final pos (gap ++ text) = readings final (pos.advance gap) text := by
  have hdrop : (gap ++ text).drop (trivia false (gap ++ text)).length =
      text.drop (trivia false text).length := by
    rw [h, List.length_append, ← List.drop_drop, List.drop_left]
  cases hrest : text.drop (trivia false text).length with
  | nil =>
    rw [readings_of_drop_eq_nil pos (hdrop.trans hrest), readings_of_drop_eq_nil _ hrest, h,
      Position.advance_append]
  | cons c rest =>
    rw [readings_of_drop_eq_cons pos (hdrop.trans hrest), readings_of_drop_eq_cons _ hrest, h,
      Position.advance_append]

theorem readings_ne_nil (pos : Position) (text : List Char) : readings final pos text ≠ [] := by
  obtain ⟨pieces, stop, h⟩ := exists_pieces pos text
  rw [h]
  exact List.append_ne_nil_of_right_ne_nil _ (List.cons_ne_nil _ _)

theorem Scan.exists_outcome_of_reading {s : Scan} {span : Span} {t : Token}
    (h : s.reading span = .ok t) : ∃ lexeme, s.outcome = .ok lexeme := by
  unfold Scan.reading at h
  split at h
  · rename_i lexeme hs
    exact ⟨lexeme, hs⟩
  · cases h

theorem readings_trivia_newline {text : List Char} (pos : Position) (hall : trivia false text = text)
    (more : List Char) :
    readings final pos (text ++ '\n' :: more) =
      readings final ((pos.advance text).next '\n') more := by
  have hgap : trivia false ((text ++ ['\n']) ++ more) = (text ++ ['\n']) ++ trivia false more := by
    rw [← List.append_cons, trivia_append_newline, if_pos hall, List.append_cons]
  rw [List.append_cons, readings_skip pos hgap, Position.advance_append]
  rfl

theorem drop_trivia_append_newline {text rest : List Char} {c : Char}
    (hdrop : text.drop (trivia false text).length = c :: rest) (more : List Char) :
    trivia false (text ++ '\n' :: more) = trivia false text ∧
    (text ++ '\n' :: more).drop (trivia false (text ++ '\n' :: more)).length =
      c :: (rest ++ '\n' :: more) := by
  have hlength := congrArg List.length hdrop
  rw [List.length_drop, List.length_cons] at hlength
  have hgap : trivia false (text ++ '\n' :: more) = trivia false text := by
    rw [trivia_append_newline, if_neg]
    intro hall
    rw [hall] at hlength
    omega
  refine ⟨hgap, ?_⟩
  rw [hgap, List.drop_append_of_le_length (by omega), hdrop, List.cons_append]

theorem readings_append_newline {first : Position → Reading} {pos : Position} {text : List Char}
    {ts : List Token} {last : Reading} (h : readings first pos text = ts.map .ok ++ [last])
    (more : List Char) :
    readings final pos (text ++ '\n' :: more) =
      ts.map .ok ++ readings final ((pos.advance text).next '\n') more := by
  induction hn : text.length using Nat.strongRecOn generalizing pos text ts with
  | _ n ih =>
    cases hdrop : text.drop (trivia false text).length with
    | nil =>
      have hall : trivia false text = text := by
        have happend := trivia_append_drop false text
        rwa [hdrop, List.append_nil] at happend
      have hts : ts = [] := by
        rw [readings_of_drop_eq_nil pos hdrop] at h
        have hlength := congrArg List.length h
        simp only [List.length_singleton, List.length_append, List.length_map] at hlength
        exact List.length_eq_zero_iff.1 (by omega)
      rw [hts, readings_trivia_newline pos hall]
      rfl
    | cons c rest =>
      obtain ⟨hgap, hbehind⟩ := drop_trivia_append_newline hdrop more
      rw [readings_of_drop_eq_cons pos hdrop] at h
      cases ts with
      | nil => exact absurd (List.cons.inj h).2 (readings_ne_nil _ _)
      | cons t ts =>
        obtain ⟨hreading, hrest⟩ := List.cons.inj h
        obtain ⟨lexeme, hlexeme⟩ := Scan.exists_outcome_of_reading hreading
        have hlt : (scan c rest).rest.length < n := by
          have hlength := congrArg List.length hdrop
          have hle := length_scan_rest c rest
          rw [List.length_drop, List.length_cons] at hlength
          omega
        have hplace : ((pos.advance (trivia false text)).advance (scan c rest).covered).advance
            (scan c rest).rest = pos.advance text := by
          rw [← Position.advance_append, ← Position.advance_append, covered_append_rest, ← hdrop,
            trivia_append_drop]
        have htail := ih _ hlt hrest rfl
        rw [hplace] at htail
        rw [readings_of_drop_eq_cons pos hbehind, scan_append (breaks_cons rfl more) hlexeme, hgap,
          List.map_cons, List.cons_append, ← htail, ← hreading]
        rfl

end

def Position.down (k : Int) (p : Position) : Position := ⟨p.line + k, p.column⟩

theorem Position.next_down (k : Int) (p : Position) (c : Char) :
    (p.down k).next c = (p.next c).down k := by
  unfold next
  split
  · rw [down, down, Int.add_right_comm]
  · rfl

theorem Position.advance_down (k : Int) (p : Position) (text : List Char) :
    (p.down k).advance text = (p.advance text).down k := by
  induction text generalizing p with
  | nil => rfl
  | cons c text ih => rw [advance_cons, next_down, ih, advance_cons]

theorem Scan.reading_relocate (f : Position → Position) (s : Scan) (start stop : Position) :
    s.reading ⟨f start, f stop⟩ = (s.reading ⟨start, stop⟩).relocate f := by
  unfold Scan.reading
  split <;> rfl

theorem readings_down {final final' : Position → Reading} (k : Int)
    (hfinal : ∀ p, final' (p.down k) = (final p).relocate (Position.down k)) (pos : Position)
    (text : List Char) :
    readings final' (pos.down k) text =
      (readings final pos text).map (Reading.relocate (Position.down k)) := by
  induction hn : text.length using Nat.strongRecOn generalizing pos text with
  | _ n ih =>
    cases hdrop : text.drop (trivia false text).length with
    | nil =>
      rw [readings_of_drop_eq_nil _ hdrop, readings_of_drop_eq_nil _ hdrop, Position.advance_down,
        hfinal, List.map_singleton]
    | cons c rest =>
      have hlt : (scan c rest).rest.length < n := by
        have hlength := congrArg List.length hdrop
        have hle := length_scan_rest c rest
        rw [List.length_drop, List.length_cons] at hlength
        omega
      rw [readings_of_drop_eq_cons _ hdrop, readings_of_drop_eq_cons _ hdrop, Position.advance_down,
        Position.advance_down, ih _ hlt _ _ rfl, List.map_cons, Scan.reading_relocate]

theorem Source.final_relocate (source : Source) (f : Position → Position) (p : Position) :
    source.final (f p) = (source.final p).relocate f := by
  unfold Source.final
  split <;> rfl

def Source.behind (source : Source) (content : List UInt8) : Source :=
  { source with content := content ++ newline :: source.content }

def lineCount (content : List UInt8) : Nat := 1 + content.count newline

theorem advance_content (content : List UInt8) :
    (Position.origin.advance (characters content)).next '\n' =
      Position.origin.down (lineCount content) := by
  have hadvance : Position.origin.advance (characters content) = placeAfter (characters content) :=
    advance_placeAfter [] (characters content)
  rw [hadvance, placeAfter, count_characters, Position.next, if_pos rfl, lineCount]
  simp only [Position.down, Position.origin, Position.mk.injEq, and_true]
  omega

/-- Behind a source that has tokens only, a source is read as it is by itself, further down. -/
theorem Source.readings_behind {first : Source} {ts : List Token} {last : Reading}
    (h : first.readings = ts.map .ok ++ [last]) (second : Source) :
    (second.behind first.content).readings = ts.map .ok ++
      second.readings.map (Reading.relocate (Position.down (lineCount first.content))) := by
  have hfinal : (second.behind first.content).final = second.final := rfl
  have hcontent : (second.behind first.content).content =
    first.content ++ newline :: second.content := rfl
  rw [Source.readings, hfinal, hcontent, characters_append_newline, readings_append_newline h,
    advance_content, readings_down _ (fun p => Source.final_relocate second _ p)]
  rfl

end MicroRust
