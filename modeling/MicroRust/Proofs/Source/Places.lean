import Mathlib.Order.Defs.PartialOrder
import MicroRust.Source.Position

/-! Reading order on places, and the places of a text counted from its characters.

A place only moves forward while a text is read, so the order of characters is the order of their
places. -/

namespace MicroRust

namespace Position

variable {p q : Position}

theorem before_iff (p q : Position) :
    p.before q = true ↔ p.line < q.line ∨ p.line = q.line ∧ p.column < q.column := by
  unfold before
  split <;> simp <;> omega

instance : LE Position := ⟨fun p q => q.before p = false⟩

instance : LT Position := ⟨fun p q => p.before q = true⟩

theorem lt_iff : p < q ↔ p.line < q.line ∨ p.line = q.line ∧ p.column < q.column :=
  before_iff p q

theorem le_iff : p ≤ q ↔ p.line < q.line ∨ p.line = q.line ∧ p.column ≤ q.column := by
  have h := before_iff q p
  change q.before p = false ↔ _
  rw [← Bool.not_eq_true, h]
  omega

instance : Preorder Position where
  le_refl p := le_iff.2 (by omega)
  le_trans p q r hpq hqr := by
    rw [le_iff] at *
    omega
  lt_iff_le_not_ge p q := by
    rw [lt_iff, le_iff, le_iff]
    omega

theorem isValid_iff (p : Position) : p.isValid = true ↔ 0 < p.line ∧ 0 < p.column := by
  simp [isValid]

theorem lt_next (p : Position) (c : Char) : p < p.next c := by
  rw [lt_iff, next]
  split
  · exact .inl (Int.lt_succ _)
  · exact .inr ⟨rfl, Int.lt_succ _⟩

@[simp] theorem advance_nil (p : Position) : p.advance [] = p := rfl

@[simp] theorem advance_cons (p : Position) (c : Char) (text : List Char) :
    p.advance (c :: text) = (p.next c).advance text := rfl

theorem advance_append (p : Position) (text more : List Char) :
    p.advance (text ++ more) = (p.advance text).advance more :=
  List.foldl_append

theorem le_advance (p : Position) (text : List Char) : p ≤ p.advance text := by
  induction text generalizing p with
  | nil => exact le_refl p
  | cons c text ih => exact le_trans (le_of_lt (lt_next p c)) (ih _)

theorem lt_advance (p : Position) {text : List Char} (h : text ≠ []) : p < p.advance text := by
  obtain ⟨c, text, rfl⟩ := List.exists_cons_of_ne_nil h
  exact lt_of_lt_of_le (lt_next p c) (le_advance _ text)

end Position

theorem Span.isValid_iff (s : Span) :
    s.isValid = true ↔ s.start.isValid = true ∧ s.stop.isValid = true ∧ s.start ≤ s.stop := by
  have hle : s.start ≤ s.stop ↔ s.stop.before s.start = false := Iff.rfl
  rw [hle]
  simp [isValid, and_assoc]

theorem Span.contains_iff (span : Span) (p : Position) :
    span.contains p = true ↔
      span.isValid = true ∧ p.isValid = true ∧ span.start ≤ p ∧ p < span.stop := by
  have hle : span.start ≤ p ↔ p.before span.start = false := Iff.rfl
  have hlt : p < span.stop ↔ p.before span.stop = true := Iff.rfl
  rw [hle, hlt]
  simp [contains, and_assoc]

/-- The place behind some text at the head of a file: one line further for each line end in it, and
one column further for each character behind the last of them. -/
def placeAfter (text : List Char) : Position :=
  ⟨1 + text.count '\n', 1 + (text.reverse.takeWhile (· ≠ '\n')).length⟩

def placeAt (text : List Char) (k : Nat) : Position := placeAfter (text.take k)

theorem placeAfter_snoc (text : List Char) (c : Char) :
    placeAfter (text ++ [c]) = (placeAfter text).next c := by
  by_cases hc : c = '\n'
  · subst hc
    simp [placeAfter, Position.next]
    omega
  · simp [placeAfter, Position.next, hc]
    omega

theorem advance_placeAfter (text more : List Char) :
    (placeAfter text).advance more = placeAfter (text ++ more) := by
  induction more generalizing text with
  | nil => rw [List.append_nil, Position.advance_nil]
  | cons c more ih => rw [Position.advance_cons, ← placeAfter_snoc, ih, ← List.append_cons]

theorem advance_placeAt {text piece : List Char} {k : Nat} (h : piece <+: text.drop k) :
    (placeAt text k).advance piece = placeAt text (k + piece.length) := by
  obtain ⟨rest, hrest⟩ := h
  rw [placeAt, advance_placeAfter, placeAt, List.take_add, ← hrest, List.take_left]

theorem placeAt_le (text : List Char) {j k : Nat} (h : j ≤ k) : placeAt text j ≤ placeAt text k := by
  have hadvance := (placeAt text j).le_advance ((text.drop j).take (k - j))
  rw [placeAt, advance_placeAfter, ← List.take_add, Nat.add_sub_cancel' h] at hadvance
  exact hadvance

theorem placeAt_lt {text : List Char} {j k : Nat} (h : j < k) (hk : k ≤ text.length) :
    placeAt text j < placeAt text k := by
  have hne : (text.drop j).take (k - j) ≠ [] := by
    rw [← List.length_pos_iff, List.length_take, List.length_drop]
    omega
  have hadvance := (placeAt text j).lt_advance hne
  rw [placeAt, advance_placeAfter, ← List.take_add, Nat.add_sub_cancel' (Nat.le_of_lt h)] at hadvance
  exact hadvance

theorem isValid_placeAt (text : List Char) (k : Nat) : (placeAt text k).isValid = true := by
  rw [Position.isValid_iff]
  simp only [placeAt, placeAfter]
  omega

end MicroRust
