import MicroRust.Proofs.Parsing.ValidPrefix
import MicroRust.Proofs.Token.Request

/-! How the parse of a source comes to its end.

The tokens of a source end with its last reading or with a lexical error. A parse stops at a token
that does not fit, or takes all of them and is told what comes behind, so the last reading matters
only if nothing else has stopped the parse. -/

namespace MicroRust

open Parsing

namespace Parsing

theorem run_tokens (c : Config) {ts : List Token} (hts : ∀ t ∈ ts, t.lexeme ≠ .eof) :
    (∃ d, steps c ts = .ok d) ∨ ∃ t ∈ ts, ∃ expected, ∀ rest,
      run c (ts.map .ok ++ rest) = .error (.unexpected t expected) := by
  induction ts generalizing c with
  | nil => exact .inl ⟨c, rfl⟩
  | cons t ts ih =>
    obtain ⟨ht, hts⟩ := List.forall_mem_cons.1 hts
    have hblames := step_blames c t
    cases hstep : step c t with
    | error e =>
      rw [hstep] at hblames
      obtain ⟨expected, rfl⟩ := hblames
      refine .inr ⟨t, List.mem_cons_self .., expected, ?_⟩
      intro rest
      simp only [List.map_cons, List.cons_append, run, hstep]
    | ok next =>
      rcases ih next hts with ⟨d, hd⟩ | ⟨u, hu, expected, hrun⟩
      · exact .inl ⟨d, by rw [steps_cons_of_ok hstep, hd]⟩
      · refine .inr ⟨u, List.mem_cons_of_mem _ hu, expected, ?_⟩
        intro rest
        simp only [List.map_cons, List.cons_append, run, hstep, if_neg ht]
        exact hrun rest

theorem run_eof (c : Config) (eof : Token) (heof : eof.lexeme = .eof) :
    (∃ expected, run c [.ok eof] = .error (.unexpected eof expected)) ∨
      ∃ outcome, run c [.ok eof] = .ok outcome := by
  have hblames := step_blames c eof
  cases hstep : step c eof with
  | error e =>
    rw [hstep] at hblames
    obtain ⟨expected, rfl⟩ := hblames
    exact .inl ⟨expected, by simp only [run, hstep]⟩
  | ok next =>
    refine .inr ⟨⟨next.items.reverse, next.recovered.reverse, eof.span.stop⟩, ?_⟩
    simp only [run, hstep, if_pos heof]

end Parsing

theorem exists_tokens_of_pieces {pieces : List Reading} (h : ∀ r ∈ pieces, r.IsPiece) :
    ∃ ts : List Token, (∀ t ∈ ts, t.lexeme ≠ .eof) ∧ (pieces = ts.map .ok ∨
      ∃ e rest, pieces = ts.map .ok ++ .error (.lexical e) :: rest) := by
  induction pieces with
  | nil => exact ⟨[], by simp, .inl rfl⟩
  | cons r pieces ih =>
    obtain ⟨hr, hpieces⟩ := List.forall_mem_cons.1 h
    match r with
    | .error (.lexical e) => exact ⟨[], by simp, .inr ⟨e, pieces, rfl⟩⟩
    | .error (.unreadable _ _) => exact hr.elim
    | .ok t =>
      obtain ⟨ts, hts, htokens⟩ := ih hpieces
      refine ⟨t :: ts, List.forall_mem_cons.2 ⟨hr, hts⟩, ?_⟩
      rcases htokens with rfl | ⟨e, rest, rfl⟩
      · exact .inl rfl
      · exact .inr ⟨e, rest, rfl⟩

namespace Source

def endingWith (source : Source) (readError : Option String) : Source := { source with readError }

theorem readings_cases (source : Source) :
    ∃ (ts : List Token) (behind : Option String → List Reading), (∀ t ∈ ts, t.lexeme ≠ .eof) ∧
      (∀ readError, (source.endingWith readError).readings = ts.map .ok ++ behind readError) ∧
      ((∃ stop, ∀ readError, behind readError = [(source.endingWith readError).final stop]) ∨
        ∃ e, ∀ readError, ∃ rest, behind readError = .error (.lexical e) :: rest) := by
  obtain ⟨pieces, stop, hreadings⟩ := exists_pieces Position.origin (Text.characters source.content)
  have htiles := tiles_readings source.final (Text.characters source.content)
  rw [hreadings] at htiles
  obtain ⟨-, hpieces⟩ := htiles.pieces
  obtain ⟨ts, hts, rfl | ⟨e, rest, rfl⟩⟩ := exists_tokens_of_pieces hpieces
  · exact ⟨ts, _, hts, fun readError => hreadings _, .inl ⟨stop, fun readError => rfl⟩⟩
  · refine ⟨ts, fun readError => .error (.lexical e) :: (rest ++
      [(source.endingWith readError).final stop]), hts, fun readError => ?_, ?_⟩
    · exact (hreadings (source.endingWith readError).final).trans (List.append_assoc ..)
    · exact .inr ⟨e, fun readError => ⟨_, rfl⟩⟩

end Source

/-- What becomes of a parse if, in place of the end of the file, it is told that the file cannot be
read any further. -/
def interrupted (name reason : String) : Except ParseError Crate → Except ParseError Crate
  | .error (.lexical e) => .error (.lexical e)
  | .error (.unexpected t expected) =>
    if t.lexeme = .eof then .error (.unreadable name reason) else .error (.unexpected t expected)
  | _ => .error (.unreadable name reason)

theorem interrupted_of_completes {result : Except ParseError Crate} (h : Completes result)
    (name reason : String) : interrupted name reason result = .error (.unreadable name reason) := by
  match result with
  | .ok _ => rfl
  | .error (.recovered _) => rfl
  | .error (.endOfTokens) | .error (.unexpected _ _) | .error (.lexical _)
  | .error (.unreadable _ _) => exact h.elim

namespace Source

theorem parse_of_steps {source : Source} {ts : List Token} {d : Config} {stop : Position}
    (hsteps : steps .initial ts = .ok d) (hts : ∀ t ∈ ts, t.lexeme ≠ .eof)
    (h : source.readings = ts.map .ok ++ [source.final stop]) :
    (source.readError = none ∧ Completes source.parse) ∨
    (∃ t expected, source.readError = none ∧ t.lexeme = .eof ∧ .ok t ∈ source.readings ∧
      source.parse = .error (.unexpected t expected)) ∨
    ∃ reason, source.readError = some reason ∧
      source.parse = .error (.unreadable source.name reason) := by
  have hrun := run_of_steps hsteps hts [source.final stop]
  rw [← h] at hrun
  cases herror : source.readError with
  | none =>
    have hfinal : source.final stop = .ok ⟨.eof, Span.point stop⟩ := by rw [final, herror]
    rw [hfinal] at hrun h
    rcases run_eof d ⟨.eof, Span.point stop⟩ rfl with ⟨expected, heof⟩ | ⟨outcome, heof⟩
    · have hmem : .ok ⟨.eof, Span.point stop⟩ ∈ source.readings := by simp [h]
      exact .inr (.inl ⟨_, expected, rfl, rfl, hmem, parse_of_run_error (hrun.trans heof)⟩)
    · exact .inl ⟨rfl, completes_of_run (hrun.trans heof)⟩
  | some reason =>
    have hfinal : source.final stop = .error (.unreadable source.name reason) := by
      rw [final, herror]
    rw [hfinal] at hrun
    exact .inr (.inr ⟨reason, rfl, parse_of_run_error hrun⟩)

/-- A parse is stopped in front of the last reading, and then that reading does not matter, or it
takes all tokens up to there. -/
theorem parse_stops_or_steps (source : Source) :
    (∃ e, ∀ readError, .error (.lexical e) ∈ (source.endingWith readError).readings ∧
      (source.endingWith readError).parse = .error (.lexical e)) ∨
    (∃ t expected, t.lexeme ≠ .eof ∧ ∀ readError,
      .ok t ∈ (source.endingWith readError).readings ∧
      (source.endingWith readError).parse = .error (.unexpected t expected)) ∨
    ∃ ts d stop, steps .initial ts = .ok d ∧ (∀ t ∈ ts, t.lexeme ≠ .eof) ∧
      ∀ readError, (source.endingWith readError).readings =
        ts.map .ok ++ [(source.endingWith readError).final stop] := by
  obtain ⟨ts, behind, hts, hreadings, hbehind⟩ := source.readings_cases
  rcases run_tokens .initial hts with ⟨d, hd⟩ | ⟨t, ht, expected, hrun⟩
  · rcases hbehind with ⟨stop, hstop⟩ | ⟨e, hlexical⟩
    · refine .inr (.inr ⟨ts, d, stop, hd, hts, fun readError => ?_⟩)
      rw [hreadings, hstop]
    · refine .inl ⟨e, fun readError => ?_⟩
      obtain ⟨rest, hrest⟩ := hlexical readError
      rw [parse, hreadings, hrest]
      exact ⟨by simp, parse_of_run_error (run_of_steps hd hts _)⟩
  · refine .inr (.inl ⟨t, expected, hts t ht, fun readError => ?_⟩)
    rw [parse, hreadings]
    exact ⟨List.mem_append_left _ (List.mem_map_of_mem ht), parse_of_run_error (hrun _)⟩

theorem parse_cases (source : Source) :
    (source.readError = none ∧ Completes source.parse) ∨
    (∃ t expected, .ok t ∈ source.readings ∧ source.parse = .error (.unexpected t expected)) ∨
    (∃ e, .error (.lexical e) ∈ source.readings ∧ source.parse = .error (.lexical e)) ∨
    ∃ reason, source.readError = some reason ∧
      source.parse = .error (.unreadable source.name reason) := by
  obtain ⟨e, hparse⟩ | ⟨t, expected, -, hparse⟩ | ⟨ts, d, stop, hsteps, hts, hreadings⟩ :=
    source.parse_stops_or_steps
  · exact .inr (.inr (.inl ⟨e, hparse source.readError⟩))
  · exact .inr (.inl ⟨t, expected, hparse source.readError⟩)
  · obtain hcomplete | ⟨t, expected, -, -, hparse⟩ | hread :=
      parse_of_steps hsteps hts (hreadings source.readError)
    · exact .inl hcomplete
    · exact .inr (.inl ⟨t, expected, hparse⟩)
    · exact .inr (.inr (.inr hread))

theorem parse_interrupted (source : Source) (reason : String) :
    (source.endingWith (some reason)).parse =
      interrupted source.name reason (source.endingWith none).parse := by
  obtain ⟨e, hparse⟩ | ⟨t, expected, ht, hparse⟩ | ⟨ts, d, stop, hsteps, hts, hreadings⟩ :=
    source.parse_stops_or_steps
  · rw [(hparse none).2, (hparse (some reason)).2]
    rfl
  · rw [(hparse none).2, (hparse (some reason)).2, interrupted, if_neg ht]
  · have hbroken : (source.endingWith (some reason)).parse =
        .error (.unreadable source.name reason) := by
      obtain ⟨hread, -⟩ | ⟨-, -, hread, -⟩ | ⟨reason', hread, hparse⟩ :=
        parse_of_steps hsteps hts (hreadings (some reason))
      · cases hread
      · cases hread
      · cases hread
        exact hparse
    obtain ⟨-, hcomplete⟩ | ⟨t, expected, -, ht, -, hparse⟩ | ⟨reason', hread, -⟩ :=
      parse_of_steps hsteps hts (hreadings none)
    · rw [hbroken, interrupted_of_completes hcomplete]
    · rw [hbroken, hparse, interrupted, if_pos ht]
    · cases hread

theorem exists_steps_of_completes {source : Source} (h : Completes source.parse) :
    ∃ (ts : List Token) (eof : Token) (last : Config),
      source.readings = ts.map .ok ++ [.ok eof] ∧ eof.lexeme = .eof ∧
      steps .initial (ts ++ [eof]) = .ok last := by
  obtain ⟨outcome, hrun⟩ := exists_run_of_completes h
  obtain ⟨ts, eof, rest, d, last, hreadings, -, heof, hd, hlast, -⟩ := exists_steps_of_run_ok hrun
  obtain ⟨rfl, -⟩ := Source.sequential_of_readings hreadings heof
  refine ⟨ts, eof, last, hreadings, heof, ?_⟩
  rw [steps_append_of_ok hd, steps_cons_of_ok hlast]
  rfl

theorem parse_of_mem_lexical {source : Source} {e : LexError}
    (h : .error (.lexical e) ∈ source.readings) :
    ∃ (ts : List Token) (first : LexError) (rest : List Reading),
      source.readings = ts.map .ok ++ .error (.lexical first) :: rest ∧
      (source.parse = .error (.lexical first) ∨
        ∃ t ∈ ts, ∃ expected, source.parse = .error (.unexpected t expected)) := by
  obtain ⟨ts, behind, hts, hreadings, hbehind⟩ := source.readings_cases
  have hreadings : source.readings = ts.map .ok ++ behind source.readError :=
    hreadings source.readError
  rcases hbehind with ⟨stop, hstop⟩ | ⟨first, hlexical⟩
  · -- Neither a token nor the last reading is a lexical error.
    rw [hreadings, hstop, List.mem_append, List.mem_singleton] at h
    rcases h with h | h
    · obtain ⟨t, -, ht⟩ := List.mem_map.1 h
      cases ht
    · unfold final at h
      split at h <;> cases h
  · obtain ⟨rest, hrest⟩ := hlexical source.readError
    rw [hrest] at hreadings
    refine ⟨ts, first, rest, hreadings, ?_⟩
    rw [parse, hreadings]
    rcases run_tokens .initial hts with ⟨d, hd⟩ | ⟨t, ht, expected, hrun⟩
    · exact .inl (parse_of_run_error (run_of_steps hd hts _))
    · exact .inr ⟨t, ht, expected, parse_of_run_error (hrun _)⟩

end Source

/-- A parse never lacks the end of the tokens. It comes to its end only if the lexer answers with
tokens up to the end of the file, and all of them are taken; it does not get past a lexical error;
and where the source cannot be read to its end, it ends with that unless something before it ends
the parse. -/
theorem parse_ends (source : Source) (reason : String) :
    source.parse ≠ .error .endOfTokens ∧
    (Completes source.parse → ∃ (ts : List Token) (eof : Token) (last : Config),
      (∀ n, source.lexer.answer n = (ts.map .ok ++ [.ok eof])[n]?) ∧ eof.lexeme = .eof ∧
      steps .initial (ts ++ [eof]) = .ok last) ∧
    (∀ n e, source.lexer.answer n = some (.error (.lexical e)) →
      ∃ (ts : List Token) (first : LexError) (rest : List Reading),
        (∀ k, source.lexer.answer k = (ts.map .ok ++ .error (.lexical first) :: rest)[k]?) ∧
        (source.parse = .error (.lexical first) ∨
          ∃ t ∈ ts, ∃ expected, source.parse = .error (.unexpected t expected))) ∧
    (source.endingWith (some reason)).parse =
      interrupted source.name reason (source.endingWith none).parse := by
  refine ⟨?_, ?_, ?_, source.parse_interrupted reason⟩
  · intro hend
    obtain ⟨-, h⟩ | ⟨t, expected, -, h⟩ | ⟨e, -, h⟩ | ⟨reason, -, h⟩ := source.parse_cases
    · rw [hend] at h
      exact h
    all_goals
      rw [hend] at h
      cases h
  · intro hcomplete
    obtain ⟨ts, eof, last, hreadings, heof, hsteps⟩ := Source.exists_steps_of_completes hcomplete
    exact ⟨ts, eof, last, hreadings ▸ Lexer.answer_lexer source, heof, hsteps⟩
  · intro n e hanswer
    rw [Lexer.answer_lexer] at hanswer
    obtain ⟨ts, first, rest, hreadings, hparse⟩ :=
      Source.parse_of_mem_lexical (List.mem_of_getElem? hanswer)
    exact ⟨ts, first, rest, hreadings ▸ Lexer.answer_lexer source, hparse⟩

end MicroRust
