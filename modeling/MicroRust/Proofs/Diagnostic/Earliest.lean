import MicroRust.Proofs.Diagnostic.Limit
import MicroRust.Proofs.Diagnostic.Order
import MicroRust.Proofs.Diagnostic.Places

/-! Which errors of a source are kept by a limit.

Errors are counted when they come to light, and put in order when all are there. The fault of a
condition comes to light behind those of its block, so the errors within the limit need not be the
first ones of the file. -/

namespace MicroRust

open Parsing

namespace Policy

variable {policy : Policy} {ds : List Diagnostic}

theorem seen_of_error (policy : Policy) {d : Diagnostic} (hd : d.severity = .error) :
    policy.seen d = d := by
  rw [seen, hd]

theorem admitted_of_errors (hcodes : policy.ignoreCodes = [])
    (h : ∀ d ∈ ds, d.severity = .error) : policy.admitted ds = ds := by
  have hall : ds.filter (·.code ∉ policy.ignoreCodes) = ds := by simp [hcodes]
  have hself : ds.map policy.seen = ds.map id :=
    List.map_congr_left fun d hd => policy.seen_of_error (h d hd)
  rw [admitted, hall, hself, List.map_id]

theorem limited_of_errors {k : Nat} (hk : policy.maxErrors = k) (hpos : 0 < k)
    (h : ∀ d ∈ ds, d.severity = .error) :
    policy.limited ds = ds.take k ++ if k < ds.length then [.limitMark k] else [] := by
  have herrors : ds.filter (·.severity = .error) = ds := by
    rw [List.filter_eq_self]
    intro d hd
    exact decide_eq_true (h d hd)
  have hlimited : (policy.limited ds).filter (·.severity = .error) = policy.limited ds := by
    rw [List.filter_eq_self]
    intro d hd
    cases hseverity : d.severity with
    | error => rfl
    | warning =>
      have hmem : d ∈ (policy.limited ds).filter (·.severity = .warning) :=
        List.mem_filter.2 ⟨hd, decide_eq_true hseverity⟩
      rw [filter_warning_limited] at hmem
      rw [h d (List.mem_filter.1 hmem).1] at hseverity
      cases hseverity
  have hfilter := filter_error_limited hk hpos ds
  rwa [hlimited, herrors, errorCount_eq, herrors] at hfilter

end Policy

theorem Diagnostic.code_ofRecovered (r : Recovered) : (ofRecovered r).code ≠ "E0001" := by
  cases r <;> simp [ofRecovered]

theorem Diagnostic.hasSpan_ofRecovered {r : Recovered} (hr : r.span.isValid = true) :
    (ofRecovered r).hasSpan = true := by
  rw [hasSpan, span_ofRecovered]
  exact ((Span.isValid_iff _).1 hr).1

namespace Engine

variable {policy : Policy} {errors : List Recovered}

theorem diagnostics_collect (policy : Policy) (hcodes : policy.ignoreCodes = []) (filename : String)
    (e : ParseError) :
    (collect policy filename (Diagnostic.ofParseError e)).diagnostics =
      policy.limited (Diagnostic.ofParseError e) := by
  have hadmitted := Policy.admitted_of_errors hcodes (Diagnostic.severity_ofParseError e)
  rw [(keeps_collect policy filename _).shown, hadmitted]

theorem sort_collect_recovered (hcodes : policy.ignoreCodes = []) {k : Nat}
    (hk : policy.maxErrors = k) (hpos : 0 < k) (hspan : ∀ r ∈ errors, r.span.isValid = true)
    (filename : String) :
    (collect policy filename (Diagnostic.ofParseError (.recovered errors))).sort.diagnostics =
      sorted ((errors.take k).map Diagnostic.ofRecovered) ++
        if k < errors.length then [.limitMark k] else [] := by
  have hlimited :=
    Policy.limited_of_errors hk hpos (Diagnostic.severity_ofParseError (.recovered errors))
  rw [diagnostics_sort, diagnostics_collect policy hcodes, hlimited, Diagnostic.ofParseError,
    List.length_map, ← List.map_take, sorted_append]
  · split <;> simp [sorted]
  · -- The mark has no place.
    intro a ha b hb
    obtain ⟨r, hr, rfl⟩ := List.mem_map.1 ha
    split at hb
    · obtain rfl := List.mem_singleton.1 hb
      have hplaced := Diagnostic.hasSpan_ofRecovered (hspan r (List.mem_of_mem_take hr))
      exact Diagnostic.key_le_of_hasSpan hplaced rfl
    · cases hb

/-- The errors that are told of a failed parse, in order and without the mark. -/
def told (policy : Policy) (filename : String) (e : ParseError) : List Diagnostic :=
  (collect policy filename (Diagnostic.ofParseError e)).sort.errors.filter (·.code ≠ "E0001")

theorem filter_sorted_recovered (errors : List Recovered) :
    ((sorted (errors.map Diagnostic.ofRecovered)).filter (·.severity = .error)).filter
      (·.code ≠ "E0001") = sorted (errors.map Diagnostic.ofRecovered) := by
  have hmem : ∀ d ∈ sorted (errors.map Diagnostic.ofRecovered), d.severity = .error ∧
      d.code ≠ "E0001" := by
    intro d hd
    obtain ⟨r, -, rfl⟩ := List.mem_map.1 ((perm_sorted _).mem_iff.1 hd)
    exact ⟨Diagnostic.severity_ofRecovered r, Diagnostic.code_ofRecovered r⟩
  rw [List.filter_eq_self.2 fun d hd => decide_eq_true (hmem d hd).1]
  exact List.filter_eq_self.2 fun d hd => decide_eq_true (hmem d hd).2

theorem told_limited (hcodes : policy.ignoreCodes = []) {k : Nat} (hk : policy.maxErrors = k)
    (hpos : 0 < k) (hspan : ∀ r ∈ errors, r.span.isValid = true) (filename : String) :
    told policy filename (.recovered errors) =
      sorted ((errors.take k).map Diagnostic.ofRecovered) := by
  have hmark : ((if k < errors.length then [Diagnostic.limitMark k] else []).filter
      (·.severity = .error)).filter (·.code ≠ "E0001") = [] := by
    split <;> rfl
  have hsort := sort_collect_recovered hcodes hk hpos hspan filename
  rw [told, Engine.errors, hsort, List.filter_append, List.filter_append, filter_sorted_recovered,
    hmark, List.append_nil]

theorem told_unlimited (hcodes : policy.ignoreCodes = []) (filename : String)
    (errors : List Recovered) :
    told { policy with maxErrors := 0 } filename (.recovered errors) =
      sorted (errors.map Diagnostic.ofRecovered) := by
  have hcollect :=
    diagnostics_collect { policy with maxErrors := 0 } hcodes filename (.recovered errors)
  rw [told, Engine.errors, diagnostics_sort, hcollect, Policy.limited_of_nonpos (Int.le_refl 0)]
  exact filter_sorted_recovered errors

theorem sorted_take_recovered_iff (hspan : ∀ r ∈ errors, r.span.isValid = true) (k : Nat) :
    sorted ((errors.take k).map Diagnostic.ofRecovered) =
        (sorted (errors.map Diagnostic.ofRecovered)).take k ↔
      ∀ r ∈ errors.take k, ∀ s ∈ errors.drop k, r.span.start ≤ s.span.start := by
  have hkey : ∀ r ∈ errors, ∀ s ∈ errors, (Diagnostic.ofRecovered r).key ≤
      (Diagnostic.ofRecovered s).key ↔ r.span.start ≤ s.span.start := by
    intro r hr s hs
    have hseverity : (Diagnostic.ofRecovered r).severity = (Diagnostic.ofRecovered s).severity :=
      (Diagnostic.severity_ofRecovered r).trans (Diagnostic.severity_ofRecovered s).symm
    have hplaced := Diagnostic.key_le_iff (Diagnostic.hasSpan_ofRecovered (hspan r hr))
      (Diagnostic.hasSpan_ofRecovered (hspan s hs)) hseverity
    rwa [Diagnostic.span_ofRecovered, Diagnostic.span_ofRecovered] at hplaced
  rw [List.map_take, sorted_take_iff, ← List.map_take, ← List.map_drop, List.forall_mem_map]
  refine forall₂_congr fun r hr => ?_
  rw [List.forall_mem_map]
  exact forall₂_congr fun s hs => hkey r (List.mem_of_mem_take hr) s (List.mem_of_mem_drop hs)

theorem told_eq_take_iff (hcodes : policy.ignoreCodes = []) {k : Nat} (hk : policy.maxErrors = k)
    (hpos : 0 < k) (hspan : ∀ r ∈ errors, r.span.isValid = true) (filename : String) :
    told policy filename (.recovered errors) =
        (told { policy with maxErrors := 0 } filename (.recovered errors)).take k ↔
      ∀ r ∈ errors.take k, ∀ s ∈ errors.drop k, r.span.start ≤ s.span.start := by
  rw [told_limited hcodes hk hpos hspan, told_unlimited hcodes]
  exact sorted_take_recovered_iff hspan k

/-- Of the errors of a source that is parsed to its end, a limit keeps those that come to light
first, and they are told in order. They are the first ones of the file exactly if none of them is
behind one that comes to light later. -/
theorem told_discovered {source : Source} {errors : List Recovered}
    (h : source.parse = .error (.recovered errors)) {policy : Policy}
    (hcodes : policy.ignoreCodes = []) {k : Nat} (hk : policy.maxErrors = k) (hpos : 0 < k)
    (filename : String) :
    told policy filename (.recovered errors) =
      sorted ((errors.take k).map Diagnostic.ofRecovered) ∧
    (told policy filename (.recovered errors) =
        (told { policy with maxErrors := 0 } filename (.recovered errors)).take k ↔
      ∀ r ∈ errors.take k, ∀ s ∈ errors.drop k, r.span.start ≤ s.span.start) := by
  have hspan : ∀ r ∈ errors, r.span.isValid = true := by
    intro r hr
    exact (Source.has_of_recovered h hr).valid
  exact ⟨told_limited hcodes hk hpos hspan filename,
    told_eq_take_iff hcodes hk hpos hspan filename⟩

def loopSource : Source :=
  ⟨"a.rs", "fn f() \x7b while _ \x7b 1 = 2; \x7d \x7d".toUTF8.toList, none⟩

/-- The fault in the block comes to light before the one in the condition. -/
def loopErrors : List Recovered :=
  [.wrongRole ⟨⟨1, 20⟩, ⟨1, 21⟩⟩ .assignee .value "assignment target",
    .wrongRole ⟨⟨1, 16⟩, ⟨1, 17⟩⟩ .value .assignee "while condition"]

theorem parse_loopSource : loopSource.parse = .error (.recovered loopErrors) :=
  parse_of_recovered (List.cons_ne_nil _ _) (by decide +kernel)

theorem told_discovered_loopSource :
    loopSource.parse = .error (.recovered loopErrors) ∧
      told { maxErrors := 1 } "a.rs" (.recovered loopErrors) = [.ofRecovered
        (.wrongRole ⟨⟨1, 20⟩, ⟨1, 21⟩⟩ .assignee .value "assignment target")] := by
  refine ⟨parse_loopSource, ?_⟩
  rw [(told_discovered parse_loopSource rfl rfl Nat.one_pos "a.rs").1]
  exact List.mergeSort_singleton _

/-- The errors within a limit need not be the first ones of the file. -/
theorem told_ne_first :
    ∃ (source : Source) (errors : List Recovered) (policy : Policy) (k : Nat),
      source.parse = .error (.recovered errors) ∧ policy.ignoreCodes = [] ∧
      policy.maxErrors = k ∧ 0 < k ∧
      told policy source.name (.recovered errors) ≠
        (told { policy with maxErrors := 0 } source.name (.recovered errors)).take k := by
  have hspan : ∀ r ∈ loopErrors, r.span.isValid = true := by decide
  refine ⟨loopSource, loopErrors, { maxErrors := 1 }, 1, parse_loopSource, rfl, rfl, Nat.one_pos,
    ?_⟩
  rw [Ne, told_eq_take_iff rfl rfl Nat.one_pos hspan]
  intro hfirst
  have hle := hfirst _ (List.mem_singleton_self _) _ (List.mem_singleton_self _)
  exact absurd (Position.le_iff.1 hle) (by decide)

end Engine

end MicroRust
