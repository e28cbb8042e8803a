import MicroRust.Proofs.Diagnostic.Engine
import MicroRust.Proofs.Parsing.Ending
import MicroRust.Proofs.Parsing.Spans
import MicroRust.Proofs.Source.Snippet
import MicroRust.Proofs.Token.Excerpt
import MicroRust.Proofs.Tree.Faults

/-! The places of the diagnostics of a source that does not parse.

What stops a parse is a reading of the source, and what is only noted is a fault of a phrase, which
is where the tokens of the phrase are. So every diagnostic points into the file, and can be shown
there. -/

namespace MicroRust

open Parsing Text

/-- The range is in the text of the source. -/
structure Source.Has (source : Source) (span : Span) : Prop where
  valid : span.isValid = true
  start : Position.origin ≤ span.start
  stop : span.stop ≤ placeAfter (characters source.content)

theorem Reading.Spells.span?_eq {r : Reading} {piece : List Char} {span : Span}
    (h : r.Spells piece span) : r.span? = some span := by
  match r with
  | .ok _ => exact congrArg some h.2
  | .error (.lexical _) => exact congrArg some h.2
  | .error (.unreadable _ _) => exact h.elim

namespace Source

variable {source : Source}

theorem has_placeAt (source : Source) {j k : Nat} (h : j ≤ k)
    (hk : k ≤ (characters source.content).length) :
    source.Has ⟨placeAt (characters source.content) j, placeAt (characters source.content) k⟩ := by
  refine ⟨isValid_placeAt_span _ h, placeAt_le _ (Nat.zero_le j), ?_⟩
  have hle := placeAt_le (characters source.content) hk
  rwa [placeAt, placeAt, List.take_length] at hle

theorem has_of_tiles {i : Nat} {rs : List Reading}
    (h : Tiles (characters source.content) source.final i rs) {r : Reading} (hr : r ∈ rs)
    {span : Span} (hspan : r.span? = some span) : source.Has span := by
  induction h with
  | stop hi hgap =>
    obtain rfl := List.mem_singleton.1 hr
    rw [span?_final hspan]
    exact source.has_placeAt (Nat.le_refl _) (Nat.le_refl _)
  | piece hij hjk hk hgap hspells h ih =>
    rcases List.mem_cons.1 hr with rfl | hr
    · rw [hspells.span?_eq] at hspan
      rw [← Option.some.inj hspan]
      exact source.has_placeAt (Nat.le_of_lt hjk) hk
    · exact ih hr

theorem has_of_mem_readings {r : Reading} (hr : r ∈ source.readings) {span : Span}
    (hspan : r.span? = some span) : source.Has span :=
  has_of_tiles (tiles_readings _ _) hr hspan

theorem getLast?_readings (h : source.readError = none) : source.readings.getLast? =
    some (.ok ⟨.eof, Span.point (placeAfter (characters source.content))⟩) := by
  obtain ⟨pieces, hpieces⟩ := (tiles_readings source.final (characters source.content)).exists_last
  rw [readings, hpieces, List.getLast?_concat, final, h]

theorem has_of_within {ts : List Token} (hts : Sequential ts) (h : ∀ t ∈ ts, source.Has t.span)
    {span : Span} (hspan : Within ts span) : source.Has span := by
  obtain ⟨part, hpart, hspans | ⟨stop, hstop, rfl⟩⟩ := hspan
  · obtain ⟨first, hfirst, last, hlast, hstart, hstop⟩ := hspans.exists_ends
    refine ⟨(hts.sublist hpart).isValid hspans, ?_, ?_⟩
    · rw [← hstart]
      exact (h first (hpart.subset hfirst)).start
    · rw [← hstop]
      exact (h last (hpart.subset hlast)).stop
  · obtain ⟨last, hlast, rfl⟩ := Option.map_eq_some_iff.1 hstop
    have hhas := h last (hpart.subset (List.mem_of_getLast? hlast))
    obtain ⟨-, hvalid, hle⟩ := (Span.isValid_iff _).1 hhas.valid
    exact ⟨(Span.isValid_iff _).2 ⟨hvalid, hvalid, le_refl _⟩, le_trans hhas.start hle, hhas.stop⟩

theorem has_of_recovered {errors : List Recovered}
    (h : source.parse = .error (.recovered errors)) {r : Recovered} (hr : r ∈ errors) :
    source.Has r.span := by
  obtain ⟨outcome, hrun, rfl⟩ := run_of_parse_recovered h
  obtain ⟨phrases, eof, rest, hreadings, heof, -, rfl⟩ := exists_phrases_of_run hrun
  obtain ⟨-, hseq, -, -⟩ := sequential_of_readings hreadings heof
  refine has_of_within hseq ?_ (covers_flatMap ItemPhrase.covers phrases r hr)
  intro t ht
  refine has_of_mem_readings (r := .ok t) ?_ rfl
  rw [hreadings]
  exact List.mem_append_left _ (List.mem_map_of_mem ht)

end Source

theorem Diagnostic.span_ofRecovered (r : Recovered) : (ofRecovered r).span = r.span := by
  cases r <;> rfl

theorem Diagnostic.span_ofLexError (e : LexError) : (ofLexError e).span = e.span := by
  obtain ⟨cause, span⟩ := e
  cases cause <;> rfl

namespace Source

variable {source : Source} {e : ParseError}

theorem has_of_parse_error (hread : source.readError = none) (h : source.parse = .error e)
    {d : Diagnostic} (hd : d ∈ Diagnostic.ofParseError e) : source.Has d.span := by
  obtain ⟨-, hcomplete⟩ | ⟨t, expected, hmem, hparse⟩ | ⟨failure, hmem, hparse⟩ |
    ⟨reason, hsome, -⟩ := source.parse_cases
  · rw [h] at hcomplete
    cases e with
    | recovered errors =>
      obtain ⟨r, hr, rfl⟩ := List.mem_map.1 hd
      rw [Diagnostic.span_ofRecovered]
      exact has_of_recovered h hr
    | endOfTokens | unexpected | lexical | unreadable => exact hcomplete.elim
  · obtain rfl := Except.error.inj (h.symm.trans hparse)
    obtain rfl := List.mem_singleton.1 hd
    exact has_of_mem_readings hmem rfl
  · obtain rfl := Except.error.inj (h.symm.trans hparse)
    obtain rfl := List.mem_singleton.1 hd
    rw [Diagnostic.span_ofLexError]
    exact has_of_mem_readings hmem rfl
  · rw [hread] at hsome
    cases hsome

theorem Has.marksStart {span : Span} (h : source.Has span) {style : SnippetStyle}
    (hcontext : 0 ≤ style.context) (hword : Position.fitsWord
      ((SourceFile.ofBytes source.name source.content).lines.length + style.context) = true) :
    Snippet.MarksStart style (SourceFile.ofBytes source.name source.content) span := by
  apply Snippet.marksStart h.valid ?_ hcontext hword
  have hle := Position.le_iff.1 h.stop
  rw [SourceFile.length_lines_ofBytes]
  omega

end Source

/-- The diagnostic points between the start of the source and the given place, and a snippet of the
file marks where. -/
structure Diagnostic.PointsInto (d : Diagnostic) (source : Source) (last : Position) : Prop where
  valid : d.span.isValid = true
  start : Position.origin ≤ d.span.start
  stop : d.span.stop ≤ last
  shown : ∀ style : SnippetStyle, 0 ≤ style.context →
    Position.fitsWord ((SourceFile.ofBytes source.name source.content).lines.length +
      style.context) = true →
    Snippet.MarksStart style (SourceFile.ofBytes source.name source.content) d.span

/-- A source that does not parse has diagnostics: one for each error that was noted, in the order in
which they were, or one for what stopped the parse. Each of them is an error and points into the
file. -/
theorem parse_error_points {source : Source} {e : ParseError} (hread : source.readError = none)
    (h : source.parse = .error e) :
    ∃ last, source.readings.getLast? = some (.ok ⟨.eof, Span.point last⟩) ∧
      Diagnostic.ofParseError e ≠ [] ∧
      (∀ errors, e = .recovered errors →
        Diagnostic.ofParseError e = errors.map Diagnostic.ofRecovered ∧
        ∃ outcome, run .initial source.readings = .ok outcome ∧ outcome.recovered = errors) ∧
      ((∀ errors, e ≠ .recovered errors) → (Diagnostic.ofParseError e).length = 1) ∧
      ∀ d ∈ Diagnostic.ofParseError e, d.severity = .error ∧ d.PointsInto source last := by
  refine ⟨_, Source.getLast?_readings hread, ?_, ?_, ?_, ?_⟩
  · cases e with
    | recovered errors =>
      rw [Diagnostic.ofParseError, Ne, List.map_eq_nil_iff]
      exact ne_nil_of_parse_recovered h
    | endOfTokens | unexpected | lexical | unreadable => exact List.cons_ne_nil _ _
  · rintro errors rfl
    exact ⟨rfl, run_of_parse_recovered h⟩
  · intro hfatal
    cases e with
    | recovered errors => exact absurd rfl (hfatal errors)
    | endOfTokens | unexpected | lexical | unreadable => rfl
  · intro d hd
    have hhas := Source.has_of_parse_error hread h hd
    refine ⟨Diagnostic.severity_ofParseError e d hd, hhas.valid, hhas.start, hhas.stop, ?_⟩
    intro style hcontext hword
    exact hhas.marksStart hcontext hword

def unboundSource : Source :=
  ⟨"a.rs", "fn f() \x7b\n\tlet x: i32 = _\n\x7d\n".toUTF8.toList, none⟩

def unboundErrors : List Recovered :=
  [.wrongRole ⟨⟨2, 15⟩, ⟨2, 16⟩⟩ .value .assignee "let initializer",
    .missingToken (.symbol .semicolon) ⟨2, 16⟩]

theorem parse_error_points_unboundSource :
    unboundSource.parse = .error (.recovered unboundErrors) ∧
      ∃ last, unboundSource.readings.getLast? = some (.ok ⟨.eof, Span.point last⟩) ∧
        ∀ d ∈ unboundErrors.map Diagnostic.ofRecovered, d.severity = .error ∧
          d.span.stop ≤ last ∧ Snippet.MarksStart ⟨1, 12⟩
            (SourceFile.ofBytes unboundSource.name unboundSource.content) d.span := by
  have hparse : unboundSource.parse = .error (.recovered unboundErrors) :=
    parse_of_recovered (List.cons_ne_nil _ _) (by decide +kernel)
  obtain ⟨last, hlast, -, -, -, hpoints⟩ := parse_error_points rfl hparse
  refine ⟨hparse, last, hlast, fun d hd => ?_⟩
  obtain ⟨hseverity, hpoint⟩ := hpoints d hd
  exact ⟨hseverity, hpoint.stop, hpoint.shown ⟨1, 12⟩ (by decide) (by decide +kernel)⟩

end MicroRust
