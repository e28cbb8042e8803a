import MicroRust.Proofs.Parsing.Errors
import MicroRust.Proofs.Parsing.Relocation
import MicroRust.Proofs.Parsing.ValidPrefix
import MicroRust.Proofs.Token.Concatenation

/-! Parsing two files as one.

Between items the parser holds nothing but what it has read, so a file that is parsed to its end can
be continued by another one: the second file is parsed as it is by itself, further down. -/

namespace MicroRust

open Parsing
open LineReader (newline)

def Outcome.followedBy (first second : Outcome) : Outcome :=
  ⟨first.items ++ second.items, first.recovered ++ second.recovered, second.stop⟩

namespace Parsing

theorem run_after (c : Config) (items : List Item) (errors : List Recovered) (stop : Position)
    (stream : List Reading) :
    run (c.after items errors) stream =
      (run c stream).map (Outcome.followedBy ⟨items.reverse, errors.reverse, stop⟩) := by
  induction stream generalizing c with
  | nil => rfl
  | cons reading rest ih =>
    cases reading with
    | error failure => rfl
    | ok t =>
      have hstep := step_after c items errors t
      cases hs : step c t with
      | error e =>
        rw [hs] at hstep
        simp only [run, hs, hstep]
        rfl
      | ok next =>
        rw [hs] at hstep
        have hnext : step (c.after items errors) t = .ok (next.after items errors) := hstep
        simp only [run, hs, hnext]
        split
        · simp only [Config.after, List.reverse_append]
          rfl
        · exact ih next

theorem Config.Reads.eq_after {c : Config} {ts : List Token} (h : c.Reads ts)
    (hk : c.control = .item) : c = Config.initial.after c.items c.recovered := by
  obtain ⟨items, recovered, frames, control⟩ := c
  cases hk
  cases h with
  | item outer =>
    generalize List.reverse recovered = es at outer
    cases outer with
    | top done hdone => rfl

end Parsing

theorem run_behind {first : Source} {outcome : Outcome}
    (h : run .initial first.readings = .ok outcome) (second : Source) :
    run .initial (second.behind first.content).readings =
      match run .initial second.readings with
      | .ok outcome' =>
        .ok (outcome.followedBy (outcome'.relocate (Position.down (lineCount first.content))))
      | .error e => .error (e.relocate (Position.down (lineCount first.content))) := by
  obtain ⟨ts, eof, rest, d, last, hstream, hts, heof, hd, hlast, rfl⟩ := exists_steps_of_run_ok h
  obtain ⟨hk, rfl⟩ := step_eof heof hlast
  obtain ⟨rfl, -⟩ := Source.sequential_of_readings hstream heof
  have hlast : last = Config.initial.after last.items last.recovered :=
    (steps_reads reads_initial hts hd).eq_after hk
  have hshift := run_relocate (Position.down (lineCount first.content)) .initial second.readings
  have hinitial : Config.relocate (Position.down (lineCount first.content)) .initial = .initial :=
    rfl
  rw [hinitial] at hshift
  rw [Source.readings_behind hstream, run_of_steps hd hts, hlast, run_after _ _ _ eof.span.stop,
    hshift]
  cases run .initial second.readings <;> rfl

theorem run_of_parse_fatal {name : String} {stream : List Reading} {e : ParseError}
    (h : parse name stream = .error e) (hfatal : ¬ Completes (parse name stream)) :
    run .initial stream = .error e := by
  cases hrun : run .initial stream with
  | ok outcome => exact absurd (completes_of_run hrun) hfatal
  | error e' =>
    rw [parse_of_run_error hrun] at h
    rw [Except.error.inj h]

/-- A source that comes to its end can be put in front of another one: the second is parsed as it is
by itself, as many lines further down as the first has, and what it gives follows what the first
gives. -/
theorem parse_behind {first : Source} (h : Completes first.parse) (second : Source) :
    ∃ outcome, run .initial first.readings = .ok outcome ∧
      (∀ e, second.parse = .error e → ¬ Completes second.parse →
        (second.behind first.content).parse =
          .error (e.relocate (Position.down (lineCount first.content)))) ∧
      (Completes second.parse → ∃ outcome' whole,
        run .initial second.readings = .ok outcome' ∧
        whole = outcome.followedBy
          (outcome'.relocate (Position.down (lineCount first.content))) ∧
        run .initial (second.behind first.content).readings = .ok whole ∧
        (whole.recovered = [] → (second.behind first.content).parse =
          .ok ⟨crateName second.name, whole.items, ⟨Position.origin, whole.stop⟩⟩) ∧
        (whole.recovered ≠ [] →
          (second.behind first.content).parse = .error (.recovered whole.recovered))) := by
  obtain ⟨outcome, hrun⟩ := exists_run_of_completes h
  have hbehind := run_behind hrun second
  refine ⟨outcome, hrun, ?_, ?_⟩
  · intro e he hfatal
    rw [run_of_parse_fatal he hfatal] at hbehind
    exact parse_of_run_error hbehind
  · intro hcompletes
    obtain ⟨outcome', hrun'⟩ := exists_run_of_completes hcompletes
    rw [hrun'] at hbehind
    refine ⟨outcome', _, hrun', rfl, hbehind, ?_, ?_⟩
    · intro hnone
      exact parse_of_run_clean (hbehind.trans (by rw [← hnone]))
    · exact parse_of_run_faulty hbehind

def unsetSource : Source := ⟨"unset.rs", "\nstatic X: i32; // unset".toUTF8.toList, none⟩

def unendedSource : Source := ⟨"unended.rs", "fn f() \x7b 1 2 \x7d".toUTF8.toList, none⟩

theorem parse_behind_unsetSource :
    Completes unsetSource.parse ∧ Completes unendedSource.parse ∧
      (unendedSource.behind unsetSource.content).parse = .error (.recovered
        [.staticWithoutInit ⟨⟨2, 1⟩, ⟨2, 15⟩⟩, .missingToken (.symbol .semicolon) ⟨3, 11⟩]) := by
  obtain ⟨first, hfirst, herrors⟩ : ∃ outcome, run .initial unsetSource.readings = .ok outcome ∧
      outcome.recovered = [.staticWithoutInit ⟨⟨2, 1⟩, ⟨2, 15⟩⟩] :=
    exists_run_of_recovered (by decide +kernel)
  obtain ⟨second, hsecond, herrors'⟩ : ∃ outcome,
      run .initial unendedSource.readings = .ok outcome ∧
        outcome.recovered = [.missingToken (.symbol .semicolon) ⟨1, 11⟩] :=
    exists_run_of_recovered (by decide +kernel)
  have hlines : lineCount unsetSource.content = 2 := by decide +kernel
  have hcompletes : Completes unendedSource.parse := completes_of_run hsecond
  have hbehind := parse_behind (completes_of_run hfirst) unendedSource
  obtain ⟨outcome, hrun, -, hwhole⟩ := hbehind
  obtain ⟨outcome', whole, hrun', hwhole, -, -, hfaulty⟩ := hwhole hcompletes
  rw [hfirst] at hrun
  rw [hsecond] at hrun'
  have hrecovered : whole.recovered =
      [.staticWithoutInit ⟨⟨2, 1⟩, ⟨2, 15⟩⟩, .missingToken (.symbol .semicolon) ⟨3, 11⟩] := by
    rw [hwhole, ← Except.ok.inj hrun, ← Except.ok.inj hrun', hlines]
    simp only [Outcome.followedBy, Outcome.relocate, herrors, herrors']
    rfl
  rw [hrecovered] at hfaulty
  exact ⟨completes_of_run hfirst, hcompletes, hfaulty (List.cons_ne_nil _ _)⟩

end MicroRust
