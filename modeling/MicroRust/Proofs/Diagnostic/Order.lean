import Mathlib.Data.Prod.Lex
import MicroRust.Proofs.Diagnostic.Engine
import MicroRust.Proofs.Source.Places

/-! The order of diagnostics.

Diagnostics are put in order by a key, and those with the same key stay in the order in which they
came. This fixes the order: a list with ordered keys is known by its parts with equal keys. -/

namespace MicroRust

section

variable {α β : Type} [LinearOrder β] {f : α → β} {xs ys : List α}

theorem mem_of_filter_eq {x : α}
    (h : ∀ b, xs.filter (f · = b) = ys.filter (f · = b)) (hx : x ∈ xs) : x ∈ ys := by
  have hmem : x ∈ xs.filter (f · = f x) := List.mem_filter.2 ⟨hx, decide_eq_true rfl⟩
  rw [h] at hmem
  exact (List.mem_filter.1 hmem).1

theorem eq_of_filter_eq (hxs : xs.Pairwise (f · ≤ f ·)) (hys : ys.Pairwise (f · ≤ f ·))
    (h : ∀ b, xs.filter (f · = b) = ys.filter (f · = b)) : xs = ys := by
  induction xs generalizing ys with
  | nil =>
    cases ys with
    | nil => rfl
    | cons y ys => cases mem_of_filter_eq (fun b => (h b).symm) (List.mem_cons_self ..)
  | cons x xs ih =>
    cases ys with
    | nil => cases mem_of_filter_eq h (List.mem_cons_self ..)
    | cons y ys =>
      obtain ⟨hx, hxtail⟩ := List.pairwise_cons.1 hxs
      obtain ⟨hy, hytail⟩ := List.pairwise_cons.1 hys
      -- Each head is somewhere in the other list, so the keys of both are equal.
      have hxy : f x ≤ f y := by
        rcases List.mem_cons.1 (mem_of_filter_eq (fun b => (h b).symm) (List.mem_cons_self ..))
          with rfl | hmem
        · exact le_refl _
        · exact hx y hmem
      have hyx : f y ≤ f x := by
        rcases List.mem_cons.1 (mem_of_filter_eq h (List.mem_cons_self ..)) with rfl | hmem
        · exact le_refl _
        · exact hy x hmem
      have hkey : f x = f y := le_antisymm hxy hyx
      have hhead := h (f x)
      rw [List.filter_cons_of_pos (by simp), List.filter_cons_of_pos (by simp [hkey])] at hhead
      obtain ⟨rfl, -⟩ := List.cons.inj hhead
      refine congrArg (x :: ·) (ih hxtail hytail fun b => ?_)
      have hb := h b
      rw [List.filter_cons, List.filter_cons] at hb
      split at hb
      · exact (List.cons.inj hb).2
      · exact hb

end

/-- What the order goes by: a place or none, the line, the column, and the severity. -/
def Diagnostic.key (d : Diagnostic) : ℕ ×ₗ ℤ ×ₗ ℤ ×ₗ ℕ :=
  toLex (if d.hasSpan then 0 else 1, toLex (d.span.start.line,
    toLex (d.span.start.column, d.severity.rank)))

namespace Diagnostic

variable {a b : Diagnostic}

theorem key_le_of_hasSpan (ha : a.hasSpan = true) (hb : b.hasSpan = false) : a.key ≤ b.key := by
  simp [key, ha, hb, Prod.Lex.toLex_le_toLex]

theorem key_le_iff (ha : a.hasSpan = true) (hb : b.hasSpan = true)
    (hseverity : a.severity = b.severity) : a.key ≤ b.key ↔ a.span.start ≤ b.span.start := by
  simp only [key, ha, hb, hseverity, if_true, Prod.Lex.toLex_le_toLex, Position.le_iff, true_and,
    le_refl, and_true]
  omega

end Diagnostic

namespace Engine

theorem precedes_iff (a b : Diagnostic) : precedes a b = true ↔ a.key < b.key := by
  simp only [Diagnostic.key, Prod.Lex.toLex_lt_toLex]
  unfold precedes
  by_cases hspan : a.hasSpan = b.hasSpan
  · rw [hspan, if_neg (by simp)]
    split
    · rename_i hline
      simp [hline]
    · rename_i hline
      rw [not_not] at hline
      split
      · rename_i hcolumn
        simp [hline, hcolumn]
      · rename_i hcolumn
        rw [not_not] at hcolumn
        simp [hline, hcolumn]
  · rw [if_pos (by simpa using hspan)]
    cases ha : a.hasSpan <;> cases hb : b.hasSpan <;> simp_all

def sorted (ds : List Diagnostic) : List Diagnostic := ds.mergeSort fun a b => !precedes b a

theorem diagnostics_sort (e : Engine) : e.sort.diagnostics = sorted e.diagnostics := rfl

theorem not_precedes_iff (a b : Diagnostic) : (!precedes b a) = true ↔ a.key ≤ b.key := by
  rw [Bool.not_eq_true', ← Bool.not_eq_true, precedes_iff, not_lt]

theorem not_precedes_trans (a b c : Diagnostic) (hab : (!precedes b a) = true)
    (hbc : (!precedes c b) = true) : (!precedes c a) = true := by
  rw [not_precedes_iff] at *
  exact le_trans hab hbc

theorem not_precedes_total (a b : Diagnostic) : (!precedes b a || !precedes a b) = true := by
  rw [Bool.or_eq_true, not_precedes_iff, not_precedes_iff]
  exact le_total a.key b.key

theorem perm_sorted (ds : List Diagnostic) : (sorted ds).Perm ds := List.mergeSort_perm ..

theorem pairwise_sorted (ds : List Diagnostic) :
    (sorted ds).Pairwise fun a b => a.key ≤ b.key := by
  have hpairs := List.pairwise_mergeSort not_precedes_trans not_precedes_total ds
  exact hpairs.imp (not_precedes_iff _ _).1

theorem filter_key_sorted (ds : List Diagnostic) (k : ℕ ×ₗ ℤ ×ₗ ℤ ×ₗ ℕ) :
    (sorted ds).filter (·.key = k) = ds.filter (·.key = k) := by
  have htied : (ds.filter (·.key = k)).Pairwise fun a b => (!precedes b a) = true := by
    refine List.pairwise_of_forall_mem_list fun a ha b hb => ?_
    have hka := of_decide_eq_true (List.mem_filter.1 ha).2
    have hkb := of_decide_eq_true (List.mem_filter.1 hb).2
    rw [not_precedes_iff, hka, hkb]
  -- They are in order already, so sorting leaves them as they are.
  have hsub : (ds.filter (·.key = k)).Sublist (sorted ds) :=
    List.sublist_mergeSort not_precedes_trans not_precedes_total htied List.filter_sublist
  have hfilter := hsub.filter (·.key = k)
  rw [List.filter_filter] at hfilter
  simp only [Bool.and_self] at hfilter
  exact (hfilter.eq_of_length ((perm_sorted ds).filter _).length_eq.symm).symm

theorem sorted_eq_of_pairwise {ds es : List Diagnostic}
    (hes : es.Pairwise fun a b => a.key ≤ b.key)
    (h : ∀ k, es.filter (·.key = k) = ds.filter (·.key = k)) : sorted ds = es := by
  refine eq_of_filter_eq (pairwise_sorted ds) hes fun k => ?_
  rw [filter_key_sorted, h]

theorem sorted_append {ds es : List Diagnostic} (h : ∀ a ∈ ds, ∀ b ∈ es, a.key ≤ b.key) :
    sorted (ds ++ es) = sorted ds ++ sorted es := by
  apply sorted_eq_of_pairwise
  · refine List.pairwise_append.2 ⟨pairwise_sorted ds, pairwise_sorted es, ?_⟩
    intro a ha b hb
    exact h a ((perm_sorted ds).mem_iff.1 ha) b ((perm_sorted es).mem_iff.1 hb)
  · intro k
    rw [List.filter_append, filter_key_sorted, filter_key_sorted, List.filter_append]

/-- The first diagnostics that came are the first ones in order exactly if none of them is behind
one that came later. -/
theorem sorted_take_iff (ds : List Diagnostic) (n : Nat) :
    sorted (ds.take n) = (sorted ds).take n ↔
      ∀ a ∈ ds.take n, ∀ b ∈ ds.drop n, a.key ≤ b.key := by
  constructor
  · intro htake
    -- What is not among the first in order came later.
    have hperm : ((sorted ds).take n ++ (sorted ds).drop n).Perm
        ((sorted ds).take n ++ ds.drop n) := by
      have hfront := (perm_sorted (ds.take n)).append_right (ds.drop n)
      rw [List.take_append_drop, htake] at hfront
      rw [List.take_append_drop]
      exact (perm_sorted ds).trans hfront.symm
    have hdrop := (List.perm_append_left_iff _).1 hperm
    have hpairs := pairwise_sorted ds
    rw [← List.take_append_drop n (sorted ds)] at hpairs
    intro a ha b hb
    refine (List.pairwise_append.1 hpairs).2.2 a ?_ b (hdrop.mem_iff.2 hb)
    rw [← htake]
    exact (perm_sorted _).mem_iff.2 ha
  · intro h
    rcases Nat.le_total n ds.length with hn | hn
    · have hlength : (sorted (ds.take n)).length = n := by
        rw [(perm_sorted _).length_eq, List.length_take_of_le hn]
      have hsplit := sorted_append h
      rw [List.take_append_drop] at hsplit
      rw [hsplit, List.take_left' hlength]
    · have hlength : (sorted ds).length ≤ n := by rwa [(perm_sorted ds).length_eq]
      rw [List.take_of_length_le hn, List.take_of_length_le hlength]

end Engine

end MicroRust
