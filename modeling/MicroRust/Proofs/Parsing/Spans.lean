import MicroRust.Proofs.Parsing.Soundness
import MicroRust.Proofs.Token.Tiling
import MicroRust.Proofs.Tree.Parts

/-! The ranges of the nodes of a crate.

A node reaches from its first token to its last one. Tokens are in order, so nodes that are made of
separate tokens are in order as well, and a node is inside the one that has its tokens too. -/

namespace MicroRust

/-- The ranges of an outline: each is valid and inside the one of the node above it, and none begins
before the end of its left neighbour. -/
inductive Outline.Nested : Outline → Prop where
  | node {label : Node} {children : List Outline} (hvalid : label.span.isValid = true)
      (hinside : ∀ c ∈ children, label.span.start ≤ c.span.start ∧ c.span.stop ≤ label.span.stop)
      (horder : children.Pairwise fun c d => c.span.stop ≤ d.span.start)
      (h : ∀ c ∈ children, c.Nested) : Nested (.node label children)

/-- A node reaches from its first token to its last one, and so does every node below it. The
tokens of its children are among its own, whole and in order. -/
inductive Part.Exact : Part → Prop where
  | mk {p : Part} (hspan : Spans p.tokens p.outline.span)
      (houtline : p.outline.children = p.children.map outline)
      (hlaid : Laid p.tokens (p.children.map tokens)) (h : ∀ c ∈ p.children, c.Exact) : p.Exact

theorem Part.exact (p : Part) : p.Exact :=
  Part.induction (fun p h => .mk p.spans p.children_outline p.laid h) p

theorem Spans.exists_ends {ts : List Token} {span : Span} (h : Spans ts span) :
    ∃ first ∈ ts, ∃ last ∈ ts, first.span.start = span.start ∧ last.span.stop = span.stop := by
  obtain ⟨first, hfirst, hstart⟩ := Option.map_eq_some_iff.1 h.1
  obtain ⟨last, hlast, hstop⟩ := Option.map_eq_some_iff.1 h.2
  exact ⟨first, List.mem_of_mem_head? hfirst, last, List.mem_of_getLast? hlast, hstart, hstop⟩

namespace Sequential

variable {ts us : List Token} {span : Span}

theorem sublist (h : Sequential ts) (hus : us.Sublist ts) : Sequential us :=
  ⟨fun t ht => h.1 t (hus.subset ht), h.2.sublist hus⟩

theorem start_le {t : Token} (h : Sequential (t :: ts)) {u : Token} (hu : u ∈ t :: ts) :
    t.span.start ≤ u.span.start := by
  rcases List.mem_cons.1 hu with rfl | hu
  · exact le_refl _
  · have hlt := (h.1 t (List.mem_cons_self ..)).2
    have hle := (List.pairwise_cons.1 h.2).1 u hu
    exact le_of_lt (lt_of_lt_of_le hlt hle)

theorem le_stop {t : Token} (h : Sequential (ts ++ [t])) {u : Token} (hu : u ∈ ts ++ [t]) :
    u.span.stop ≤ t.span.stop := by
  rcases List.mem_append.1 hu with hu | hu
  · have hlt := (h.1 t (by simp)).2
    have hle := (List.pairwise_append.1 h.2).2.2 u hu t (by simp)
    exact le_of_lt (lt_of_le_of_lt hle hlt)
  · rw [List.mem_singleton.1 hu]

theorem bounds (h : Sequential ts) (hspan : Spans ts span) {t : Token} (ht : t ∈ ts) :
    span.start ≤ t.span.start ∧ t.span.stop ≤ span.stop := by
  obtain ⟨first, hfirst, hstart⟩ := Option.map_eq_some_iff.1 hspan.1
  obtain ⟨last, hlast, hstop⟩ := Option.map_eq_some_iff.1 hspan.2
  obtain ⟨rest, hrest⟩ := List.head?_eq_some_iff.1 hfirst
  obtain ⟨init, hinit⟩ := List.getLast?_eq_some_iff.1 hlast
  constructor
  · rw [← hstart]
    rw [hrest] at h ht
    exact h.start_le ht
  · rw [← hstop]
    rw [hinit] at h ht
    exact h.le_stop ht

theorem isValid (h : Sequential ts) (hspan : Spans ts span) : span.isValid = true := by
  obtain ⟨first, hfirst, last, hlast, hstart, hstop⟩ := hspan.exists_ends
  obtain ⟨hvalid, hlt⟩ := h.1 first hfirst
  have hle := (h.bounds hspan hfirst).2
  rw [Span.isValid_iff, ← hstart]
  refine ⟨((Span.isValid_iff _).1 hvalid).1, ?_, le_of_lt (lt_of_lt_of_le hlt hle)⟩
  rw [← hstop]
  exact ((Span.isValid_iff _).1 (h.1 last hlast).1).2.1

end Sequential

theorem nested_of_laid {label : Node} {ts : List Token} {parts : List Part}
    (hvalid : label.span.isValid = true) (hts : Sequential ts)
    (hlaid : Laid ts (parts.map Part.tokens))
    (hbounds : ∀ t ∈ ts, label.span.start ≤ t.span.start ∧ t.span.stop ≤ label.span.stop)
    (h : ∀ p ∈ parts, Sequential p.tokens → p.outline.Nested) :
    (Outline.node label (parts.map Part.outline)).Nested := by
  have hsublist (p : Part) (hp : p ∈ parts) : p.tokens.Sublist ts :=
    hlaid.sublist (List.mem_map_of_mem hp)
  refine .node hvalid ?_ ?_ ?_
  · refine List.forall_mem_map.2 fun p hp => ?_
    obtain ⟨first, hfirst, last, hlast, hstart, hstop⟩ := p.spans.exists_ends
    rw [← hstart, ← hstop]
    exact ⟨(hbounds first ((hsublist p hp).subset hfirst)).1,
      (hbounds last ((hsublist p hp).subset hlast)).2⟩
  · refine List.pairwise_map.2 ((List.pairwise_map.1 (hlaid.pairwise hts.2)).imp ?_)
    intro p q hpq
    obtain ⟨-, -, last, hlast, -, hstop⟩ := p.spans.exists_ends
    obtain ⟨first, hfirst, -, -, hstart, -⟩ := q.spans.exists_ends
    rw [← hstop, ← hstart]
    exact hpq last hlast first hfirst
  · exact List.forall_mem_map.2 fun p hp => h p hp (hts.sublist (hsublist p hp))

theorem Part.nested (p : Part) : Sequential p.tokens → p.outline.Nested := by
  induction p using Part.induction with
  | h p ih =>
    intro hp
    rw [p.outline.eq_node, p.children_outline]
    exact nested_of_laid (hp.isValid p.spans) hp p.laid (fun t ht => hp.bounds p.spans ht) ih

theorem ItemPhrase.tokens_part (p : ItemPhrase) : p.part.tokens = p.tokens := by
  cases p <;> rfl

theorem ItemPhrase.outline_part (p : ItemPhrase) : p.part.outline = p.tree.outline := by
  cases p <;> rfl

theorem laid_flatMap (parts : List Part) :
    Laid (parts.flatMap Part.tokens) (parts.map Part.tokens) := by
  induction parts with
  | nil => exact .nil
  | cons p parts ih =>
    rw [List.flatMap_cons]
    exact .piece p.tokens ih

theorem exists_parts_of_parse {source : Source} {crate : Crate} (h : source.parse = .ok crate) :
    ∃ (parts : List Part) (eof : Token),
      source.readings = (parts.flatMap Part.tokens).map .ok ++ [.ok eof] ∧ eof.lexeme = .eof ∧
      crate.outline.children = parts.map Part.outline ∧
      crate.span = ⟨Position.origin, eof.span.stop⟩ ∧ Sequential (parts.flatMap Part.tokens) ∧
      crate.span.isValid = true ∧ ∀ t ∈ parts.flatMap Part.tokens,
        crate.span.start ≤ t.span.start ∧ t.span.stop ≤ crate.span.stop := by
  obtain ⟨stop, hrun⟩ := run_of_parse_ok h
  obtain ⟨phrases, eof, rest, hstream, heof, -, hout⟩ := exists_phrases_of_run hrun
  simp only [Outcome.mk.injEq] at hout
  obtain ⟨hitems, -, hstop⟩ := hout
  obtain ⟨rfl, hseq, hvalid, hbounds⟩ := Source.sequential_of_readings hstream heof
  have htokens : (phrases.map ItemPhrase.part).flatMap Part.tokens =
      phrases.flatMap ItemPhrase.tokens := by
    simp only [List.flatMap_map, ItemPhrase.tokens_part]
  have houtline : crate.outline.children = (phrases.map ItemPhrase.part).map Part.outline := by
    simp only [Crate.outline, Outline.children, hitems, List.map_map, Function.comp_def,
      ItemPhrase.outline_part]
  have hspan : crate.span = ⟨Position.origin, eof.span.stop⟩ := by
    have hcrate := Except.ok.inj (h.symm.trans (parse_of_run_clean hrun))
    rw [hcrate, hstop]
  rw [← hspan] at hvalid
  refine ⟨phrases.map ItemPhrase.part, eof, ?_, heof, houtline, hspan, ?_, hvalid, ?_⟩
  · rw [htokens, hstream]
  · rwa [htokens]
  · rwa [htokens, hspan]

/-- The nodes of a crate reach from their first token to their last one, they are nested and in
order, and all of them are between the start and the end of the file. -/
theorem parse_spans {source : Source} {crate : Crate} (h : source.parse = .ok crate) :
    ∃ (parts : List Part) (eof : Token),
      source.readings = (parts.flatMap Part.tokens).map .ok ++ [.ok eof] ∧ eof.lexeme = .eof ∧
      crate.outline.children = parts.map Part.outline ∧ (∀ p ∈ parts, p.Exact) ∧
      crate.span = ⟨Position.origin, eof.span.stop⟩ ∧ crate.outline.Nested := by
  obtain ⟨parts, eof, hreadings, heof, houtline, hspan, hseq, hvalid, hbounds⟩ :=
    exists_parts_of_parse h
  refine ⟨parts, eof, hreadings, heof, houtline, fun p _ => p.exact, hspan, ?_⟩
  rw [crate.outline.eq_node, houtline]
  exact nested_of_laid hvalid hseq (laid_flatMap parts) hbounds fun p _ => p.nested

def sumSource : Source := ⟨"sum.rs", "static sum: i32 =\n  1 + 2; // three\n".toUTF8.toList, none⟩

theorem parse_spans_sumSource :
    ∃ crate, sumSource.parse = .ok crate ∧
      ∃ (parts : List Part) (eof : Token),
        sumSource.readings = (parts.flatMap Part.tokens).map .ok ++ [.ok eof] ∧
        eof.lexeme = .eof ∧ crate.outline.children = parts.map Part.outline ∧
        (∀ p ∈ parts, p.Exact) ∧ crate.span = ⟨Position.origin, eof.span.stop⟩ ∧
        crate.outline.Nested := by
  have hok : sumSource.parse.toOption.isSome = true := by decide +kernel
  cases h : sumSource.parse with
  | error e =>
    rw [h] at hok
    cases hok
  | ok crate => exact ⟨crate, rfl, parse_spans h⟩

end MicroRust
