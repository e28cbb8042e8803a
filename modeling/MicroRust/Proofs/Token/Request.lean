import MicroRust.Proofs.Source.LineReader
import MicroRust.Proofs.Token.Tiling
import MicroRust.Token.Request

/-! The answers of a lexer are the readings of its source.

Each function of the lexer takes from the reader what the function of the same purpose takes from
the head of the text. -/

namespace MicroRust

open Text

namespace Lexer

/-- The lexer of a source stands at a place, with some text left. -/
structure Holds (source : Source) (pos : Position) (text : List Char) (l : Lexer) : Prop where
  source : l.source = source
  done : l.done = false
  position : l.position = pos
  sound : l.reader.Sound
  text : l.reader.text = text

variable {source : Source} {pos : Position} {text : List Char} {l : Lexer}

theorem holds_lexer (source : Source) :
    source.lexer.Holds source Position.origin (characters source.content) :=
  ⟨rfl, rfl, rfl, LineReader.sound_start _, rfl⟩

theorem peek_holds (h : l.Holds source pos text) :
    l.peek.1 = text.head? ∧ l.peek.2.Holds source pos text := by
  obtain ⟨hsound, htext, hhead, -⟩ := LineReader.peek_spec h.sound
  rw [h.text] at htext hhead
  exact ⟨hhead, h.source, h.done, h.position, hsound, htext⟩

theorem read_nil (h : l.Holds source pos []) : ∃ m, l.read = (none, m) ∧ m.Holds source pos [] := by
  obtain ⟨hsound, htext, hhead⟩ := LineReader.next_spec h.sound
  rw [h.text] at htext hhead
  unfold read
  rcases hn : l.reader.next with ⟨d, r⟩
  rw [hn] at hsound htext hhead
  cases hhead
  exact ⟨_, rfl, h.source, h.done, h.position, hsound, htext⟩

theorem read_cons {c : Char} (h : l.Holds source pos (c :: text)) :
    ∃ m, l.read = (some c, m) ∧ m.Holds source (pos.next c) text := by
  obtain ⟨hsound, htext, hhead⟩ := LineReader.next_spec h.sound
  rw [h.text] at htext hhead
  unfold read
  rcases hn : l.reader.next with ⟨d, r⟩
  rw [hn] at hsound htext hhead
  cases hhead
  exact ⟨_, rfl, h.source, h.done, by rw [h.position], hsound, htext⟩

theorem readWhile_holds (p : Char → Bool) (h : l.Holds source pos text) :
    ∃ m, l.readWhile p = (text.takeWhile p, m) ∧
      m.Holds source (pos.advance (text.takeWhile p)) (text.dropWhile p) := by
  induction text generalizing l pos with
  | nil =>
    obtain ⟨hhead, hpeek⟩ := peek_holds h
    rw [readWhile]
    split
    · rename_i hp
      rw [hp] at hhead
      cases hhead
    · rename_i m hp
      rw [hp] at hpeek
      exact ⟨m, rfl, hpeek⟩
  | cons c text ih =>
    obtain ⟨hhead, hpeek⟩ := peek_holds h
    rw [readWhile]
    split
    · rename_i d m hp
      rw [hp] at hhead hpeek
      cases hhead
      cases hc : p c with
      | true =>
        obtain ⟨m', hread, hm'⟩ := read_cons h
        obtain ⟨last, hwhile, hlast⟩ := ih hm'
        rw [if_pos rfl, hread, hwhile, List.takeWhile_cons_of_pos hc,
          List.dropWhile_cons_of_pos hc]
        exact ⟨last, rfl, hlast⟩
      | false =>
        rw [if_neg Bool.false_ne_true, List.takeWhile_cons_of_neg (by simp [hc]),
          List.dropWhile_cons_of_neg (by simp [hc])]
        exact ⟨m, rfl, hpeek⟩
    · rename_i hp
      rw [hp] at hhead
      cases hhead

theorem trivia_false_cons {c : Char} {rest : List Char}
    (hcomment : ¬ (c = '/' ∧ rest.head? = some '/')) :
    trivia false (c :: rest) = if isBlank c then c :: trivia false rest else [] := by
  rw [trivia.eq_def false (c :: rest)]
  split
  · contradiction
  · contradiction
  · rename_i h
    cases h
    exact absurd ⟨rfl, rfl⟩ hcomment
  · rename_i h
    cases h
    rfl
  · contradiction

theorem trivia_of_isBlank {c : Char} (hc : isBlank c = true) (rest : List Char) :
    trivia false (c :: rest) = [c] ++ trivia false rest := by
  rw [trivia_false_cons, if_pos hc]
  · rfl
  · rintro ⟨rfl, -⟩
    cases hc

theorem trivia_drop (inComment : Bool) (text : List Char) :
    trivia false (text.drop (trivia inComment text).length) = [] := by
  fun_induction trivia inComment text with
  | case1 rest ih => exact ih
  | case2 c rest _ ih => exact ih
  | case3 rest ih => exact ih
  | case4 c rest _ _ ih => exact ih
  | case5 c rest hcomment hc =>
    rw [List.length_nil, List.drop_zero, trivia_false_cons, if_neg hc]
    rintro ⟨rfl, hslash⟩
    obtain ⟨tail, rfl⟩ := List.head?_eq_some_iff.1 hslash
    exact hcomment tail rfl rfl
  | case6 inComment => cases inComment <;> rfl

theorem trivia_true_eq (rest : List Char) :
    trivia true rest =
      rest.takeWhile (· != '\n') ++ trivia false (rest.dropWhile (· != '\n')) := by
  induction rest with
  | nil => rfl
  | cons c rest ih =>
    by_cases hc : c = '\n'
    · subst hc
      exact (trivia_of_isBlank rfl rest).symm
    · rw [List.takeWhile_cons_of_pos (by simp [hc]), List.dropWhile_cons_of_pos (by simp [hc]),
        List.cons_append, ← ih, trivia.eq_def true (c :: rest)]
      split <;> simp_all

theorem second?_of_peek {m : Lexer} {c : Char} (h : l.Holds source pos (c :: text))
    (hp : l.peek = (some c, m)) (hc : c ≠ '\n') : m.reader.second? = text.head? := by
  have hsecond := LineReader.second?_peek h.sound (by rw [h.text, List.head?_cons]) hc
  have hm : m.reader = l.reader.peek.2 := congrArg (·.2.reader) hp.symm
  rw [hm, hsecond, h.text, List.tail_cons]

theorem readComment_holds {rest : List Char} (h : l.Holds source pos ('/' :: '/' :: rest)) :
    (l.read.2.readWhile (· != '\n')).2.Holds source
      (pos.advance ('/' :: '/' :: rest.takeWhile (· != '\n')))
      (rest.dropWhile (· != '\n')) := by
  obtain ⟨m, hread, hm⟩ := read_cons h
  obtain ⟨last, hwhile, hlast⟩ := readWhile_holds (· != '\n') hm
  rw [hread, hwhile]
  exact hlast

theorem Holds.of_append {piece rest : List Char}
    (h : l.Holds source ((pos.advance piece).advance (trivia false rest))
      (rest.drop (trivia false rest).length)) :
    l.Holds source (pos.advance (piece ++ trivia false rest))
      ((piece ++ rest).drop (piece ++ trivia false rest).length) := by
  rwa [Position.advance_append, List.length_append, ← List.drop_drop, List.drop_left]

theorem skipTrivia_holds (h : l.Holds source pos text) :
    l.skipTrivia.Holds source (pos.advance (trivia false text))
      (text.drop (trivia false text).length) := by
  induction hn : text.length using Nat.strongRecOn generalizing l pos text with
  | _ n ih =>
    obtain ⟨hhead, hpeek⟩ := peek_holds h
    rw [skipTrivia]
    split
    · rename_i c m hp
      rw [hp] at hhead hpeek
      cases text with
      | nil => cases hhead
      | cons d rest =>
        cases hhead
        rw [List.length_cons] at hn
        split
        · rename_i hc
          obtain ⟨m', hread, hm'⟩ := read_cons h
          have hskip := ih rest.length (by omega) hm' rfl
          rw [trivia_of_isBlank hc]
          simp only [hread]
          exact hskip.of_append
        · rename_i hc
          -- The second character is seen within a line only, and a line end is a blank.
          have hline : c ≠ '\n' := by
            rintro rfl
            exact hc rfl
          have hsecond := second?_of_peek h hp hline
          split
          · rename_i hslash
            simp only [Bool.and_eq_true, decide_eq_true_eq, hsecond] at hslash
            obtain ⟨rfl, hslash⟩ := hslash
            obtain ⟨rest, rfl⟩ := List.head?_eq_some_iff.1 hslash
            have hlt : (rest.dropWhile (· != '\n')).length < n := by
              have hle := length_dropWhile_le (· != '\n') rest
              rw [List.length_cons] at hn
              omega
            have hskip := (ih _ hlt (readComment_holds h) rfl).of_append
            have htrivia : trivia false ('/' :: '/' :: rest) = '/' :: '/' :: trivia true rest := rfl
            rw [htrivia, trivia_true_eq]
            simpa only [List.cons_append, List.takeWhile_append_dropWhile] using hskip
          · rename_i hslash
            simp only [Bool.and_eq_true, decide_eq_true_eq, hsecond] at hslash
            rw [trivia_false_cons hslash, if_neg hc]
            exact hpeek
    · rename_i m hp
      rw [hp] at hhead hpeek
      cases text with
      | nil => exact hpeek
      | cons c text => cases hhead

theorem readBody_eq {m : Lexer} {c : Char} (h : l.read = (some c, m)) (hquote : c ≠ '"')
    (hescape : c ≠ '\\') :
    l.readBody = (c :: m.readBody.1, m.readBody.2.1, m.readBody.2.2) := by
  rw [readBody]
  split
  · simp_all
  · rename_i d m' h'
    cases h.symm.trans h'
    rw [if_neg hquote, if_neg hescape]

theorem readBody_escape {m last : Lexer} {c : Char} (h : l.read = (some '\\', m))
    (hc : m.read = (some c, last)) :
    l.readBody = ('\\' :: c :: last.readBody.1, last.readBody.2.1, last.readBody.2.2) := by
  rw [readBody]
  split
  · simp_all
  · rename_i d m' h'
    cases h.symm.trans h'
    rw [if_neg (by decide), if_pos rfl]
    split
    · rename_i h''
      cases hc.symm.trans h''
      rfl
    · simp_all

theorem readBody_nil {m : Lexer} (h : l.read = (none, m)) : l.readBody = ([], false, m) := by
  rw [readBody]
  split <;> simp_all

theorem readBody_quote {m : Lexer} (h : l.read = (some '"', m)) : l.readBody = ([], true, m) := by
  rw [readBody]
  split <;> simp_all

theorem readBody_lastEscape {m last : Lexer} (h : l.read = (some '\\', m))
    (hlast : m.read = (none, last)) : l.readBody = (['\\'], false, last) := by
  rw [readBody]
  split
  · simp_all
  · rename_i d m' h'
    cases h.symm.trans h'
    rw [if_neg (by decide), if_pos rfl]
    split <;> simp_all

def ReadsBody (source : Source) (pos : Position) (text : List Char) (l : Lexer) : Prop :=
  match stringBody? text with
  | some (body, tail) =>
    ∃ m, l.readBody = (body, true, m) ∧ m.Holds source (pos.advance (body ++ ['"'])) tail
  | none => ∃ m, l.readBody = (text, false, m) ∧ m.Holds source (pos.advance text) []

theorem ReadsBody.extend {m : Lexer} (piece : List Char) {rest : List Char}
    (h : m.ReadsBody source (pos.advance piece) rest)
    (hread : l.readBody = (piece ++ m.readBody.1, m.readBody.2.1, m.readBody.2.2))
    (hbody : stringBody? (piece ++ rest) =
      (stringBody? rest).map fun split => (piece ++ split.1, split.2)) :
    l.ReadsBody source pos (piece ++ rest) := by
  unfold ReadsBody at h ⊢
  rw [hread, hbody]
  cases hs : stringBody? rest with
  | none =>
    rw [hs] at h
    obtain ⟨last, hlast, hholds⟩ := h
    rw [hlast]
    rw [← Position.advance_append] at hholds
    exact ⟨last, rfl, hholds⟩
  | some split =>
    rw [hs] at h
    obtain ⟨last, hlast, hholds⟩ := h
    rw [hlast]
    rw [← Position.advance_append, ← List.append_assoc] at hholds
    exact ⟨last, rfl, hholds⟩

theorem readsBody_of_holds (h : l.Holds source pos text) : l.ReadsBody source pos text := by
  -- Along the text and not along the lexer: it says where a backslash takes the next character.
  induction text using stringBody?.induct generalizing l pos with
  | case1 =>
    obtain ⟨m, hread, hm⟩ := read_nil h
    exact ⟨m, readBody_nil hread, hm⟩
  | case2 rest =>
    obtain ⟨m, hread, hm⟩ := read_cons h
    exact ⟨m, readBody_quote hread, hm⟩
  | case3 c rest ih =>
    obtain ⟨m, hread, hm⟩ := read_cons h
    obtain ⟨last, hread', hlast⟩ := read_cons hm
    exact (ih hlast).extend ['\\', c] (readBody_escape hread hread') rfl
  | case4 c rest hquote hpair ih =>
    obtain ⟨m, hread, hm⟩ := read_cons h
    by_cases hc : c = '\\'
    · -- A backslash at the very end has nothing to protect.
      subst hc
      cases rest with
      | cons d rest => exact absurd rfl (hpair d rest rfl)
      | nil =>
        obtain ⟨last, hlast, hholds⟩ := read_nil hm
        exact ⟨last, readBody_lastEscape hread hlast, hholds⟩
    · have hbody : stringBody? (c :: rest) =
          (stringBody? rest).map fun split => (c :: split.1, split.2) := by
        rw [stringBody?]
        · exact hquote
        · exact hpair
      exact (ih hm).extend [c] (readBody_eq hread hquote hc) hbody

theorem readNumber_holds {start : Position} {c : Char} (h : l.Holds source (start.next c) text) :
    ∃ m, l.readNumber c = ((scanNumber c text).outcome, m) ∧
      m.Holds source (start.advance (scanNumber c text).covered) (scanNumber c text).rest := by
  obtain ⟨m, hwhile, hm⟩ := readWhile_holds Char.isDigit h
  obtain ⟨hhead, hpeek⟩ := peek_holds hm
  unfold readNumber scanNumber
  rw [hwhile]
  dsimp only
  split
  · rename_i last hp
    rw [hp] at hhead
    obtain ⟨tail, htail⟩ := List.head?_eq_some_iff.1 hhead.symm
    rw [htail] at hm ⊢
    obtain ⟨m', hread, hm'⟩ := read_cons hm
    obtain ⟨last, hwhile', hlast⟩ := readWhile_holds Char.isDigit hm'
    have hplace := Position.advance_append start (c :: text.takeWhile Char.isDigit)
      ('.' :: tail.takeWhile Char.isDigit)
    rw [hread, hwhile']
    refine ⟨last, rfl, ?_⟩
    rw [Position.advance_cons start, Position.advance_cons _ '.'] at hplace
    rwa [← hplace] at hlast
  · rename_i next m' hdot hp
    rw [hp] at hhead hpeek
    split
    · rename_i tail htail
      rw [htail] at hhead
      exact absurd hhead hdot
    · exact ⟨m', rfl, hpeek⟩

theorem readString_holds {start : Position} (h : l.Holds source (start.next '"') text) :
    ∃ m, l.readString = ((scanString text).outcome, m) ∧
      m.Holds source (start.advance (scanString text).covered) (scanString text).rest := by
  have hbody := readsBody_of_holds h
  unfold ReadsBody at hbody
  unfold readString scanString
  cases hs : stringBody? text with
  | none =>
    rw [hs] at hbody
    obtain ⟨m, hm, hholds⟩ := hbody
    rw [hm]
    exact ⟨m, rfl, hholds⟩
  | some split =>
    rw [hs] at hbody
    obtain ⟨m, hm, hholds⟩ := hbody
    rw [hm]
    exact ⟨m, rfl, hholds⟩

theorem readWord_holds {start : Position} {c : Char} (h : l.Holds source (start.next c) text) :
    ∃ m, l.readWord c = ((scanWord c text).outcome, m) ∧
      m.Holds source (start.advance (scanWord c text).covered) (scanWord c text).rest := by
  obtain ⟨m, hwhile, hm⟩ := readWhile_holds continuesIdentifier h
  unfold readWord
  rw [hwhile]
  exact ⟨m, rfl, hm⟩

theorem symbolAt?_eq (c : Char) (text : List Char) :
    symbolAt? c text = match text.head?.bind (Symbol.ofPair? c) with
      | some s => some (s, c :: text.take 1, text.tail)
      | none => (Symbol.ofChar? c).map fun s => (s, [c], text) := by
  cases text with
  | nil => rfl
  | cons d rest => rfl

theorem readFrom_holds {start : Position} {c : Char} (h : l.Holds source (start.next c) text) :
    ∃ m, l.readFrom c = ((scan c text).outcome, m) ∧
      m.Holds source (start.advance (scan c text).covered) (scan c text).rest := by
  obtain ⟨hhead, hpeek⟩ := peek_holds h
  rcases hp : l.peek with ⟨next, m⟩
  rw [hp] at hhead hpeek
  dsimp only at hhead hpeek
  subst hhead
  unfold readFrom
  rw [hp]
  dsimp only
  cases hpair : text.head?.bind (Symbol.ofPair? c) with
  | some s =>
    have hsymbol : symbolAt? c text = some (s, c :: text.take 1, text.tail) := by
      rw [symbolAt?_eq, hpair]
    rw [scan, hsymbol]
    cases text with
    | nil => cases hpair
    | cons d rest =>
      obtain ⟨last, hread, hlast⟩ := read_cons hpeek
      rw [hread]
      exact ⟨last, rfl, hlast⟩
  | none =>
    have hsymbol : symbolAt? c text = (Symbol.ofChar? c).map fun s => (s, [c], text) := by
      rw [symbolAt?_eq, hpair]
    rw [scan, hsymbol]
    cases hone : Symbol.ofChar? c with
    | some s => exact ⟨m, rfl, hpeek⟩
    | none =>
      dsimp only [Option.map_none]
      split
      · exact readNumber_holds hpeek
      · split
        · rename_i hquote
          subst hquote
          exact readString_holds hpeek
        · split
          · exact readWord_holds hpeek
          · exact ⟨m, rfl, hpeek⟩

theorem next_of_done (h : l.done = true) : l.next = (none, l) := by
  rw [next, if_pos h]

theorem answer_of_done (h : l.done = true) (n : Nat) : l.answer n = none := by
  induction n with
  | zero => rw [answer, next_of_done h]
  | succ n ih => rw [answer, next_of_done h, ih]

theorem next_of_skipTrivia_nil (hdone : l.done = false)
    (h : l.skipTrivia.Holds source pos []) :
    ∃ m, l.next = (some (source.final pos), m) ∧ m.done = true ∧ m.reader.Sound ∧
      m.reader.text = [] := by
  obtain ⟨m, hread, hm⟩ := read_nil h
  refine ⟨{ m with done := true }, ?_, rfl, hm.sound, hm.text⟩
  rw [next, if_neg (by rw [hdone]; exact Bool.false_ne_true)]
  simp only [hread, h.source, h.position]

theorem next_of_skipTrivia_cons {c : Char} {rest : List Char} (hdone : l.done = false)
    (h : l.skipTrivia.Holds source pos (c :: rest)) :
    ∃ m, l.next = (some (.of (scan c rest).outcome ⟨pos, pos.advance (scan c rest).covered⟩), m) ∧
      m.Holds source (pos.advance (scan c rest).covered) (scan c rest).rest := by
  obtain ⟨m, hread, hm⟩ := read_cons h
  obtain ⟨last, hfrom, hlast⟩ := readFrom_holds hm
  refine ⟨last, ?_, hlast⟩
  rw [next, if_neg (by rw [hdone]; exact Bool.false_ne_true)]
  simp only [hread, hfrom, h.position, hlast.position]

theorem next_holds (h : l.Holds source pos text) :
    ∃ r rest m, readings source.final pos text = r :: rest ∧ l.next = (some r, m) ∧
      (m.done = true ∧ rest = [] ∨ ∃ stop tail, tail.length < text.length ∧
        m.Holds source stop tail ∧ rest = readings source.final stop tail) := by
  have hskip := skipTrivia_holds h
  cases hdrop : text.drop (trivia false text).length with
  | nil =>
    rw [hdrop] at hskip
    obtain ⟨m, hnext, hdone, -⟩ := next_of_skipTrivia_nil h.done hskip
    exact ⟨_, _, m, readings_of_drop_eq_nil pos hdrop, hnext, .inl ⟨hdone, rfl⟩⟩
  | cons c rest =>
    rw [hdrop] at hskip
    obtain ⟨m, hnext, hm⟩ := next_of_skipTrivia_cons h.done hskip
    refine ⟨_, _, m, readings_of_drop_eq_cons pos hdrop, hnext, .inr ⟨_, _, ?_, hm, rfl⟩⟩
    have hlength := congrArg List.length hdrop
    have hle := length_scan_rest c rest
    rw [List.length_drop, List.length_cons] at hlength
    omega

theorem answer_holds (h : l.Holds source pos text) (n : Nat) :
    l.answer n = (readings source.final pos text)[n]? := by
  induction n generalizing l pos text with
  | zero =>
    obtain ⟨r, rest, m, hreadings, hnext, -⟩ := next_holds h
    rw [answer, hnext, hreadings, List.getElem?_cons_zero]
  | succ n ih =>
    obtain ⟨r, rest, m, hreadings, hnext, ⟨hdone, rfl⟩ | ⟨stop, tail, -, hm, rfl⟩⟩ := next_holds h
    · rw [answer, hnext, hreadings, answer_of_done hdone]
      rfl
    · rw [answer, hnext, hreadings, List.getElem?_cons_succ]
      exact ih hm

theorem answer_lexer (source : Source) (n : Nat) : source.lexer.answer n = source.readings[n]? :=
  answer_holds (holds_lexer source) n

end Lexer

/-- The answers of a lexer cover its source: they have consecutive pieces of it, none of them empty,
that spell them and lie where they say, with blanks and comments in between, and the last one stands
at the very end. -/
theorem answers_tile (source : Source) :
    ∃ results : List Reading, (∀ n, source.lexer.answer n = results[n]?) ∧
      Tiles (characters source.content) source.final 0 results :=
  ⟨source.readings, Lexer.answer_lexer source, tiles_readings source.final _⟩

/-- The answers of a lexer end once. A source that cannot be read to its end gives the same answers
as the one that ends there, up to the last. -/
theorem answers_end_once (name : String) (content : List UInt8) (reason : String) :
    ∃ (results : List Reading) (stop : Position),
      results.length ≤ (characters content).length ∧ (∀ r ∈ results, r.IsPiece) ∧
      (∀ n, (Source.mk name content none).lexer.answer n =
        (results.concat (.ok ⟨.eof, Span.point stop⟩))[n]?) ∧
      (∀ n, (Source.mk name content (some reason)).lexer.answer n =
        (results.concat (.error (.unreadable name reason)))[n]?) ∧
      (LexFailure.unreadable name reason).message = "read " ++ name ++ ": " ++ reason := by
  obtain ⟨results, stop, hresults⟩ := exists_pieces Position.origin (characters content)
  have htiles := tiles_readings (Source.mk name content none).final (characters content)
  rw [hresults] at htiles
  obtain ⟨hlength, hpieces⟩ := htiles.pieces
  refine ⟨results, stop, hlength, hpieces, fun n => ?_, fun n => ?_, ?_⟩
  · rw [Lexer.answer_lexer, Source.readings, hresults, List.concat_eq_append]
    rfl
  · rw [Lexer.answer_lexer, Source.readings, hresults, List.concat_eq_append]
    rfl
  · rfl

end MicroRust
