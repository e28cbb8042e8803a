import MicroRust.Proofs.Diagnostic.Limit
import MicroRust.Proofs.Diagnostic.Order

/-! Engines that are sorted more than once.

An engine decides by its policy, its mark and the number of its errors. Sorting changes none of
them, and it keeps apart in their order what has the same key. So it does not matter whether an
engine is sorted, or reported, between the diagnostics that it is given. -/

namespace MicroRust

open Text

namespace Engine

def render (e : Engine) (style : ReportStyle) (file : Option SourceFile) : List Glyph × Engine :=
  (Report.text style file e, e.sort)

inductive Operation where
  | give (call : Call)
  | sort
  | render (style : ReportStyle) (file : Option SourceFile)

def perform (e : Engine) : Operation → Engine
  | .give call => e.take call
  | .sort => e.sort
  | .render style file => (e.render style file).2

def run (e : Engine) (operations : List Operation) : Engine := operations.foldl perform e

/-- What is given, without the sorting in between. -/
def Operation.calls (operations : List Operation) : List Call :=
  operations.filterMap fun
    | .give call => some call
    | _ => none

theorem sorted_congr {ds es : List Diagnostic}
    (h : ∀ k, ds.filter (·.key = k) = es.filter (·.key = k)) : sorted ds = sorted es := by
  refine sorted_eq_of_pairwise (pairwise_sorted es) fun k => ?_
  rw [filter_key_sorted, h]

theorem sorted_sorted_append (ds es : List Diagnostic) :
    sorted (sorted ds ++ es) = sorted (ds ++ es) := by
  refine sorted_congr fun k => ?_
  rw [List.filter_append, filter_key_sorted, List.filter_append]

theorem sorted_sorted (ds : List Diagnostic) : sorted (sorted ds) = sorted ds :=
  sorted_congr (filter_key_sorted ds)

variable {e f : Engine}

theorem sort_eq (e : Engine) : e.sort = { e with diagnostics := sorted e.diagnostics } := rfl

theorem sort_sort (e : Engine) : e.sort.sort = e.sort := by
  simp only [sort_eq, sorted_sorted]

theorem length_errors_sort (e : Engine) : e.sort.errors.length = e.errors.length :=
  (e.perm_sort.filter _).length_eq

theorem length_warnings_sort (e : Engine) : e.sort.warnings.length = e.warnings.length :=
  (e.perm_sort.filter _).length_eq

theorem limitReached_sort (e : Engine) : e.sort.limitReached = e.limitReached := by
  unfold limitReached
  rw [length_errors_sort]
  rfl

theorem sort_append (e : Engine) (ds : List Diagnostic) (truncated : Bool) :
    sort { e.sort with diagnostics := e.sort.diagnostics ++ ds, truncated } =
      sort { e with diagnostics := e.diagnostics ++ ds, truncated } := by
  simp only [sort_eq, sorted_sorted_append]

theorem sort_add (e : Engine) (d : Diagnostic) : (e.sort.add d).sort = (e.add d).sort := by
  have hpolicy : e.sort.policy = e.policy := rfl
  have htruncated : e.sort.truncated = e.truncated := rfl
  unfold add
  rw [limitReached_sort, hpolicy, htruncated]
  split
  · exact e.sort_sort
  · dsimp only
    split
    · split
      · exact e.sort_sort
      · exact e.sort_append [.tooMany e.policy.maxErrors] true
    · exact e.sort_append [promote e.policy d] e.truncated

theorem sort_addAll (e : Engine) (ds : List Diagnostic) :
    (e.sort.addAll ds).sort = (e.addAll ds).sort := by
  induction ds generalizing e with
  | nil => exact e.sort_sort
  | cons d ds ih =>
    calc (e.sort.addAll (d :: ds)).sort = ((e.sort.add d).sort.addAll ds).sort := (ih _).symm
      _ = ((e.add d).sort.addAll ds).sort := by rw [sort_add]
      _ = (e.addAll (d :: ds)).sort := ih _

theorem sort_perform (h : e.sort = f.sort) (operation : Operation) :
    (e.perform operation).sort = ((Operation.calls [operation]).foldl take f).sort := by
  cases operation with
  | give call =>
    change (e.take call).sort = (f.take call).sort
    rw [take_eq, take_eq, ← sort_addAll e, h, sort_addAll]
  | sort | render style file =>
    change e.sort.sort = f.sort
    rw [sort_sort, h]

theorem sort_run (h : e.sort = f.sort) (operations : List Operation) :
    (e.run operations).sort = ((Operation.calls operations).foldl take f).sort := by
  induction operations generalizing e f with
  | nil => exact h
  | cons operation operations ih =>
    have hcalls : Operation.calls (operation :: operations) =
        Operation.calls [operation] ++ Operation.calls operations :=
      List.filterMap_append (l := [operation])
    rw [hcalls, List.foldl_append, run, List.foldl_cons]
    exact ih (sort_perform h operation)

theorem length_errors_congr (h : e.sort = f.sort) : e.errors.length = f.errors.length := by
  rw [← length_errors_sort e, h, length_errors_sort]

theorem length_warnings_congr (h : e.sort = f.sort) : e.warnings.length = f.warnings.length := by
  rw [← length_warnings_sort e, h, length_warnings_sort]

/-- Sorting is stable: it orders by the key and keeps what has the same key in the order of arrival.
An engine that is sorted or reported in between ends as if it were not: sorted at last it is the
same engine, with the same mark and the same counts. -/
theorem sort_stable_and_absorbed :
    (∀ e : Engine, e.sort.diagnostics.Perm e.diagnostics ∧
      (e.sort.diagnostics.Pairwise fun a b => a.key ≤ b.key) ∧
      ∀ k, e.sort.diagnostics.filter (·.key = k) = e.diagnostics.filter (·.key = k)) ∧
    ∀ (e : Engine) (operations : List Operation),
      let plain := (Operation.calls operations).foldl take e
      (e.run operations).sort = plain.sort ∧
      (e.run operations).truncated = plain.truncated ∧
      (e.run operations).errors.length = plain.errors.length ∧
      (e.run operations).warnings.length = plain.warnings.length := by
  refine ⟨fun e => ⟨e.perm_sort, pairwise_sorted e.diagnostics, filter_key_sorted e.diagnostics⟩,
    fun e operations => ?_⟩
  have hsort := sort_run (rfl : e.sort = e.sort) operations
  have htruncated := congrArg truncated hsort
  exact ⟨hsort, htruncated, length_errors_congr hsort, length_warnings_congr hsort⟩

end Engine

end MicroRust
