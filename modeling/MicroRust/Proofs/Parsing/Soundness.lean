import MicroRust.Proofs.Parsing.Reading
import MicroRust.Proofs.Tree.Yield

/-! What a parse that comes to its end has read.

The tokens before the end of the file are those of whole items, the tree is theirs, and the
recovered errors are their faults. A crate is returned only if there are none; then its tokens are
one of the ways to write it. -/

namespace MicroRust

open Parsing

variable {name : String} {stream : List Reading}

theorem Parsing.steps_reads {c d : Config} {ts us : List Token} (h : c.Reads ts)
    (hus : ∀ t ∈ us, t.lexeme ≠ .eof) (hs : steps c us = .ok d) : d.Reads (ts ++ us) := by
  induction us generalizing c ts with
  | nil =>
    cases hs
    rwa [List.append_nil]
  | cons t us ih =>
    obtain ⟨ht, hus⟩ := List.forall_mem_cons.1 hus
    rw [steps_cons] at hs
    cases hstep : step c t with
    | error e =>
      rw [hstep] at hs
      cases hs
    | ok next =>
      rw [hstep] at hs
      rw [List.append_cons]
      exact ih (step_reads h ht hstep) hus hs

theorem Parsing.Config.Reads.exists_phrases {c : Config} {ts : List Token} (h : c.Reads ts)
    (hk : c.control = .item) :
    ∃ phrases : List ItemPhrase, phrases.flatMap ItemPhrase.tokens = ts ∧
      phrases.map ItemPhrase.tree = c.items.reverse ∧
      phrases.flatMap ItemPhrase.faults = c.recovered.reverse ∧
      ∀ p ∈ phrases, p.Stratified := by
  obtain ⟨items, recovered, frames, control⟩ := c
  cases hk
  cases h with
  | item outer =>
    -- The errors are an index of `outer`, and have to be a variable for the case split.
    generalize hes : List.reverse recovered = es at outer
    cases outer with
    | top done hdone => exact ⟨done, rfl, by simp, rfl, hdone⟩

theorem exists_phrases_of_run {outcome : Outcome} (h : run .initial stream = .ok outcome) :
    ∃ (phrases : List ItemPhrase) (eof : Token) (rest : List Reading),
      stream = (phrases.flatMap ItemPhrase.tokens).map .ok ++ .ok eof :: rest ∧
      eof.lexeme = .eof ∧ (∀ p ∈ phrases, p.Stratified) ∧
      outcome =
        ⟨phrases.map ItemPhrase.tree, phrases.flatMap ItemPhrase.faults, eof.span.stop⟩ := by
  obtain ⟨ts, eof, rest, d, last, rfl, hts, heof, hd, hlast, rfl⟩ := exists_steps_of_run_ok h
  obtain ⟨hk, rfl⟩ := step_eof heof hlast
  have hreads := steps_reads reads_initial hts hd
  obtain ⟨phrases, htokens, htrees, hfaults, hstrat⟩ := hreads.exists_phrases hk
  refine ⟨phrases, eof, rest, ?_, heof, hstrat, ?_⟩
  · rw [htokens, List.nil_append]
  · rw [htrees, hfaults]

theorem run_of_parse_ok {crate : Crate} (h : parse name stream = .ok crate) :
    ∃ stop, run .initial stream = .ok ⟨crate.items, [], stop⟩ := by
  unfold parse at h
  split at h
  · cases h
  · rename_i outcome hrun
    split at h
    · rename_i hnone
      cases h
      exact ⟨outcome.stop, by rw [hrun, ← hnone]⟩
    · cases h

/-- A crate is written by the tokens before the end of the file: each is in it once and in order,
and its operations are grouped by their levels. -/
theorem parse_yields {crate : Crate} (h : parse name stream = .ok crate) :
    ∃ (tokens : List Token) (eof : Token) (rest : List Reading),
      stream = tokens.map .ok ++ .ok eof :: rest ∧ eof.lexeme = .eof ∧
      Writes tokens crate.yields ∧ crate.Stratified := by
  obtain ⟨stop, hrun⟩ := run_of_parse_ok h
  obtain ⟨phrases, eof, rest, hstream, heof, hstrat, hout⟩ := exists_phrases_of_run hrun
  simp only [Outcome.mk.injEq] at hout
  obtain ⟨hitems, hfaults, -⟩ := hout
  have hnone := List.flatMap_eq_nil_iff.1 hfaults.symm
  refine ⟨_, eof, rest, hstream, heof, ?_, ?_⟩
  · rw [Crate.yields, hitems, List.map_map]
    exact Writes.flatMap fun p hp => ItemPhrase.writes p (hnone p hp)
  · rw [Crate.stratified_iff, hitems]
    exact List.forall_mem_map.2 fun p hp => (hstrat p hp).tree

/-- The tokens of `fn f() { 1 - 2 - 3 }`. -/
def differenceTokens : List Reading :=
  [.keyword .fnWord, .identifier "f", .symbol .lparen, .symbol .rparen, .symbol .lbrace,
    .integer "1" 1, .symbol .minus, .integer "2" 2, .symbol .minus, .integer "3" 3,
    .symbol .rbrace, .eof].map fun lexeme => .ok ⟨lexeme, Span.unknown⟩

theorem parse_yields_difference :
    ∃ crate, parse "f.rs" differenceTokens = .ok crate ∧
      ∃ (tokens : List Token) (eof : Token) (rest : List Reading),
        differenceTokens = tokens.map .ok ++ .ok eof :: rest ∧ eof.lexeme = .eof ∧
        Writes tokens crate.yields ∧ crate.Stratified := by
  obtain ⟨crate, h⟩ : ∃ crate, parse "f.rs" differenceTokens = .ok crate := ⟨_, rfl⟩
  exact ⟨crate, h, parse_yields h⟩

/-- The parse came to the end of the file, with a crate or with recovered errors. -/
def Completes : Except ParseError Crate → Prop
  | .ok _ => True
  | .error (.recovered _) => True
  | .error _ => False

theorem step_ne_recovered (c : Config) (t : Token) (errors : List Recovered) :
    step c t ≠ .error (.recovered errors) := by
  intro h
  have hb := step_blames c t
  rw [h] at hb
  obtain ⟨_, hb⟩ := hb
  cases hb

theorem run_ne_recovered (c : Config) (errors : List Recovered) :
    run c stream ≠ .error (.recovered errors) := by
  intro h
  induction stream generalizing c with
  | nil => cases h
  | cons reading rest ih =>
    cases reading with
    | error failure => cases failure <;> cases h
    | ok t =>
      cases hs : step c t with
      | error e =>
        simp only [run, hs, Except.error.injEq] at h
        exact step_ne_recovered c t errors (by rw [hs, h])
      | ok next =>
        simp only [run, hs] at h
        split at h
        · cases h
        · exact ih next h

theorem exists_run_of_completes (h : Completes (parse name stream)) :
    ∃ outcome, run .initial stream = .ok outcome := by
  unfold parse at h
  cases hrun : run .initial stream with
  | ok outcome => exact ⟨outcome, rfl⟩
  | error e =>
    rw [hrun] at h
    cases e with
    | recovered errors => exact absurd hrun (run_ne_recovered _ errors)
    | endOfTokens | unexpected | lexical | unreadable => cases h

theorem parse_of_run_clean {items : List Item} {stop : Position}
    (h : run .initial stream = .ok ⟨items, [], stop⟩) :
    parse name stream = .ok ⟨crateName name, items, ⟨Position.origin, stop⟩⟩ := by
  simp only [parse, h]

theorem parse_of_run_faulty {outcome : Outcome} (h : run .initial stream = .ok outcome)
    (hne : outcome.recovered ≠ []) :
    parse name stream = .error (.recovered outcome.recovered) := by
  simp only [parse, h]

theorem run_of_parse_recovered {errors : List Recovered}
    (h : parse name stream = .error (.recovered errors)) :
    ∃ outcome, run .initial stream = .ok outcome ∧ outcome.recovered = errors := by
  unfold parse at h
  split at h
  · rename_i e hrun
    cases h
    exact absurd hrun (run_ne_recovered _ errors)
  · rename_i outcome hrun
    split at h
    · cases h
    · cases h
      exact ⟨outcome, hrun, rfl⟩

theorem exists_run_of_recovered {errors : List Recovered}
    (h : (run .initial stream).toOption.map Outcome.recovered = some errors) :
    ∃ outcome, run .initial stream = .ok outcome ∧ outcome.recovered = errors := by
  cases hrun : run .initial stream with
  | error e =>
    rw [hrun] at h
    cases h
  | ok outcome =>
    rw [hrun] at h
    exact ⟨outcome, rfl, Option.some.inj h⟩

theorem parse_of_recovered {errors : List Recovered} (hne : errors ≠ [])
    (h : (run .initial stream).toOption.map Outcome.recovered = some errors) :
    parse name stream = .error (.recovered errors) := by
  obtain ⟨outcome, hrun, rfl⟩ := exists_run_of_recovered h
  exact parse_of_run_faulty hrun hne

theorem ne_nil_of_parse_recovered {errors : List Recovered}
    (h : parse name stream = .error (.recovered errors)) : errors ≠ [] := by
  obtain ⟨⟨items, recovered, stop⟩, hrun, rfl⟩ := run_of_parse_recovered h
  rintro rfl
  rw [parse_of_run_clean hrun] at h
  cases h

/-- The recovered errors are the faults of what was read, no more and no fewer, and in their order.
A crate is returned exactly if there are none. -/
theorem parse_faults (h : Completes (parse name stream)) :
    ∃ (phrases : List ItemPhrase) (eof : Token) (rest : List Reading),
      stream = (phrases.flatMap ItemPhrase.tokens).map .ok ++ .ok eof :: rest ∧
      eof.lexeme = .eof ∧ (∀ p ∈ phrases, p.Stratified) ∧
      run .initial stream = .ok
        ⟨phrases.map ItemPhrase.tree, phrases.flatMap ItemPhrase.faults, eof.span.stop⟩ ∧
      (phrases.flatMap ItemPhrase.faults = [] →
        parse name stream = .ok
          ⟨crateName name, phrases.map ItemPhrase.tree, ⟨Position.origin, eof.span.stop⟩⟩) ∧
      (phrases.flatMap ItemPhrase.faults ≠ [] →
        parse name stream = .error (.recovered (phrases.flatMap ItemPhrase.faults))) := by
  obtain ⟨outcome, hrun⟩ := exists_run_of_completes h
  obtain ⟨phrases, eof, rest, hstream, heof, hstrat, rfl⟩ := exists_phrases_of_run hrun
  refine ⟨phrases, eof, rest, hstream, heof, hstrat, hrun, ?_, ?_⟩
  · intro hnone
    rw [hnone] at hrun
    exact parse_of_run_clean hrun
  · exact parse_of_run_faulty hrun

/-- The tokens of `extern "D" { fn f() { _ } }`, where the ABI, the tail and the body are at
fault. -/
def faultyTokens : List Reading :=
  [.keyword .externWord, .abi "D", .symbol .lbrace, .keyword .fnWord, .identifier "f",
    .symbol .lparen, .symbol .rparen, .symbol .lbrace, .underscore, .symbol .rbrace,
    .symbol .rbrace, .eof].map fun lexeme => .ok ⟨lexeme, Span.unknown⟩

theorem parse_faults_faultyTokens :
    Completes (parse "f.rs" faultyTokens) ∧
      ∃ (phrases : List ItemPhrase) (eof : Token) (rest : List Reading),
      faultyTokens = (phrases.flatMap ItemPhrase.tokens).map .ok ++ .ok eof :: rest ∧
      eof.lexeme = .eof ∧ (phrases.flatMap ItemPhrase.faults).length = 3 ∧
      parse "f.rs" faultyTokens = .error (.recovered (phrases.flatMap ItemPhrase.faults)) := by
  have h : Completes (parse "f.rs" faultyTokens) := trivial
  obtain ⟨phrases, eof, rest, hstream, heof, -, hrun, -, hfaulty⟩ := parse_faults h
  have hcount : some 3 = some (phrases.flatMap ItemPhrase.faults).length :=
    congrArg (fun r => r.toOption.map fun outcome => outcome.recovered.length) hrun
  have hlength := (Option.some.inj hcount).symm
  refine ⟨h, phrases, eof, rest, hstream, heof, hlength, hfaulty ?_⟩
  rw [← List.length_pos_iff, hlength]
  decide

end MicroRust
