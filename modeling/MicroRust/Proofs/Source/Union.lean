import Mathlib.Order.MinMax
import MicroRust.Proofs.Source.Places

/-! The least range around two ranges.

Reading order is a linear order, so two valid ranges have a least start and a greatest end, and the
range between these is the least one that covers both. An invalid range takes no part. -/

namespace MicroRust

namespace Position

instance : LinearOrder Position where
  le_antisymm p q hpq hqp := by
    cases p
    cases q
    simp only [le_iff, Position.mk.injEq] at *
    omega
  le_total p q := by
    simp only [le_iff]
    omega
  toDecidableLE p q := inferInstanceAs (Decidable (q.before p = false))

end Position

namespace Span

variable {s t u : Span}

/-- The range starts no later and ends no earlier than another one. -/
def Covers (u s : Span) : Prop :=
  u.start.after s.start = false ∧ u.stop.before s.stop = false

instance (u s : Span) : Decidable (u.Covers s) := inferInstanceAs (Decidable (_ ∧ _))

theorem covers_iff : u.Covers s ↔ u.start ≤ s.start ∧ s.stop ≤ u.stop := Iff.rfl

theorem Covers.contains (h : u.Covers s) (hu : u.isValid = true) {p : Position}
    (hp : s.contains p = true) : u.contains p = true := by
  obtain ⟨hstart, hstop⟩ := covers_iff.1 h
  obtain ⟨-, hvalid, hle, hlt⟩ := (s.contains_iff p).1 hp
  exact (u.contains_iff p).2 ⟨hu, hvalid, le_trans hstart hle, lt_of_lt_of_le hlt hstop⟩

theorem invalid_union (hs : s.isValid = false) (t : Span) : s.union t = t := by
  simp [union, hs]

theorem union_invalid (hs : s.isValid = true) (ht : t.isValid = false) : s.union t = s := by
  simp [union, hs, ht]

theorem union_eq (hs : s.isValid = true) (ht : t.isValid = true) :
    s.union t = ⟨min s.start t.start, max s.stop t.stop⟩ := by
  have hmin : min s.start t.start = if t.start.before s.start then t.start else s.start := by
    split
    · rename_i h
      exact min_eq_right (le_of_lt h)
    · rename_i h
      exact min_eq_left (Bool.eq_false_iff.2 h)
  have hmax : max s.stop t.stop = if t.stop.after s.stop then t.stop else s.stop := by
    split
    · rename_i h
      exact max_eq_right (le_of_lt h)
    · rename_i h
      exact max_eq_left (Bool.eq_false_iff.2 h)
  rw [union, hs, ht, hmin, hmax]
  rfl

theorem isValid_union (hs : s.isValid = true) (ht : t.isValid = true) :
    (s.union t).isValid = true := by
  rw [union_eq hs ht, isValid_iff]
  obtain ⟨hstart, hstop, hle⟩ := s.isValid_iff.1 hs
  obtain ⟨hstart', hstop', -⟩ := t.isValid_iff.1 ht
  refine ⟨?_, ?_, le_trans (min_le_left ..) (le_trans hle (le_max_left ..))⟩
  · rcases min_choice s.start t.start with h | h <;> simpa only [h]
  · rcases max_choice s.stop t.stop with h | h <;> simpa only [h]

theorem union_comm (hs : s.isValid = true) (ht : t.isValid = true) : s.union t = t.union s := by
  rw [union_eq hs ht, union_eq ht hs, min_comm, max_comm]

theorem union_self (s : Span) : s.union s = s := by
  cases hs : s.isValid with
  | false => exact invalid_union hs s
  | true => rw [union_eq hs hs, min_self, max_self]

theorem union_assoc (s t u : Span) : (s.union t).union u = s.union (t.union u) := by
  cases hs : s.isValid with
  | false => rw [invalid_union hs, invalid_union hs]
  | true =>
    cases ht : t.isValid with
    | false => rw [union_invalid hs ht, invalid_union ht]
    | true =>
      cases hu : u.isValid with
      | false => rw [union_invalid ht hu, union_invalid (isValid_union hs ht) hu]
      | true =>
        rw [union_eq (isValid_union hs ht) hu, union_eq hs (isValid_union ht hu), union_eq hs ht,
          union_eq ht hu, min_assoc, max_assoc]

theorem union_covers (hs : s.isValid = true) (ht : t.isValid = true) :
    (s.union t).Covers s ∧ (s.union t).Covers t := by
  rw [union_eq hs ht, covers_iff, covers_iff]
  exact ⟨⟨min_le_left .., le_max_left ..⟩, ⟨min_le_right .., le_max_right ..⟩⟩

theorem Covers.union (hs : s.isValid = true) (ht : t.isValid = true) (h : u.Covers s)
    (h' : u.Covers t) : u.Covers (s.union t) := by
  rw [union_eq hs ht, covers_iff]
  exact ⟨le_min h.1 h'.1, max_le h.2 h'.2⟩

theorem contains_union (s t : Span) {p : Position}
    (h : s.contains p = true ∨ t.contains p = true) : (s.union t).contains p = true := by
  have hvalid {r : Span} (hr : r.contains p = true) : r.isValid = true :=
    ((r.contains_iff p).1 hr).1
  cases hs : s.isValid with
  | false =>
    rw [invalid_union hs]
    refine h.resolve_left fun hp => ?_
    rw [hvalid hp] at hs
    cases hs
  | true =>
    cases ht : t.isValid with
    | false =>
      rw [union_invalid hs ht]
      refine h.resolve_right fun hp => ?_
      rw [hvalid hp] at ht
      cases ht
    | true =>
      obtain ⟨hleft, hright⟩ := union_covers hs ht
      exact h.elim (hleft.contains (isValid_union hs ht)) (hright.contains (isValid_union hs ht))

/-- The union of ranges is associative, also where some are invalid, and it loses no place. An
invalid range adds nothing to a valid one. The union of valid ranges does not depend on their order,
is valid, and is the least range that covers them, in an order of places that is strict and
total. -/
theorem union_least_cover :
    IsStrictTotalOrder Position (fun p q => p.before q = true) ∧
    (∀ p q : Position, p.after q = true ↔ q.before p = true) ∧
    (∀ s t u : Span, (s.union t).union u = s.union (t.union u)) ∧
    (∀ s : Span, s.union s = s) ∧
    (∀ s t : Span, s.isValid = false → s.union t = t ∧ (t.isValid = true → t.union s = t)) ∧
    (∀ (s t : Span) (p : Position), s.contains p = true ∨ t.contains p = true →
      (s.union t).contains p = true) ∧
    ∀ s t : Span, s.isValid = true → t.isValid = true →
      s.union t = t.union s ∧ (s.union t).isValid = true ∧
      (s.union t).Covers s ∧ (s.union t).Covers t ∧
      ∀ u : Span, u.isValid = true → u.Covers s → u.Covers t →
        u.Covers (s.union t) ∧ ∀ p, (s.union t).contains p = true → u.contains p = true := by
  have horder : IsStrictTotalOrder Position (· < ·) := inferInstance
  refine ⟨horder, fun _ _ => Iff.rfl, union_assoc, union_self, ?_, fun s t _ => contains_union s t,
    ?_⟩
  · exact fun s t hs => ⟨invalid_union hs t, fun ht => union_invalid ht hs⟩
  · intro s t hs ht
    obtain ⟨hleft, hright⟩ := union_covers hs ht
    refine ⟨union_comm hs ht, isValid_union hs ht, hleft, hright, fun u hu hus hut => ?_⟩
    have hcovers := hus.union hs ht hut
    exact ⟨hcovers, fun p hp => hcovers.contains hu hp⟩

-- Of two invalid ranges, it is the second that is left.
example : unknown.union ⟨⟨2, 1⟩, ⟨1, 1⟩⟩ = ⟨⟨2, 1⟩, ⟨1, 1⟩⟩ ∧
    (Span.mk ⟨2, 1⟩ ⟨1, 1⟩).union unknown = unknown := by
  decide

theorem union_least_cover_apart :
    unknown.isValid = false ∧ (Span.mk ⟨1, 4⟩ ⟨1, 7⟩).union unknown = ⟨⟨1, 4⟩, ⟨1, 7⟩⟩ ∧
    (Span.mk ⟨3, 2⟩ ⟨4, 1⟩).union ⟨⟨1, 4⟩, ⟨1, 7⟩⟩ = ⟨⟨1, 4⟩, ⟨4, 1⟩⟩ ∧
    (Span.mk ⟨1, 1⟩ ⟨5, 1⟩).Covers ((Span.mk ⟨1, 4⟩ ⟨1, 7⟩).union ⟨⟨3, 2⟩, ⟨4, 1⟩⟩) ∧
    ((Span.mk ⟨1, 4⟩ ⟨1, 7⟩).union ⟨⟨3, 2⟩, ⟨4, 1⟩⟩).contains ⟨1, 5⟩ = true := by
  obtain ⟨-, -, -, -, hinvalid, hcontains, hvalid⟩ := union_least_cover
  obtain ⟨hcomm, -, -, -, hleast⟩ :=
    hvalid ⟨⟨1, 4⟩, ⟨1, 7⟩⟩ ⟨⟨3, 2⟩, ⟨4, 1⟩⟩ (by decide) (by decide)
  refine ⟨rfl, (hinvalid _ _ rfl).2 rfl, ?_, ?_, hcontains _ _ _ (.inl rfl)⟩
  · rw [← hcomm]
    decide
  · exact (hleast ⟨⟨1, 1⟩, ⟨5, 1⟩⟩ rfl (by decide) (by decide)).1

end Span

end MicroRust
