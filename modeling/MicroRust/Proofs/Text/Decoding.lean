import MicroRust.Source.LineReader

/-! Where line ends stand in a text, read from its bytes.

A line end is a character of its own wherever it stands, also behind a character that is cut short,
and no other byte gives one. -/

namespace MicroRust.Text

open LineReader (newline)

section

variable {α : Type} {p : α → Bool} {a : α}

theorem takeWhile_append_cons (ha : p a = false) (front rest : List α) :
    (front ++ a :: rest).takeWhile p = front.takeWhile p := by
  induction front with
  | nil => simp [ha]
  | cons b front ih => rw [List.cons_append, List.takeWhile_cons, ih, List.takeWhile_cons]

theorem dropWhile_append_cons (ha : p a = false) (front rest : List α) :
    (front ++ a :: rest).dropWhile p = front.dropWhile p ++ a :: rest := by
  induction front with
  | nil => simp [ha]
  | cons b front ih =>
    rw [List.cons_append, List.dropWhile_cons, ih, List.dropWhile_cons]
    split <;> rfl

end

def isHigh (b : UInt8) : Bool := 0x80 ≤ b

theorem isTail_of_isHigh_eq_false {b : UInt8} (h : isHigh b = false) : isTail b = false := by
  rw [isHigh] at h
  rw [isTail, h, Bool.false_and]

theorem pair?_takeWhile (a : UInt8) (rest : List UInt8) :
    pair? a (rest.takeWhile isHigh) = pair? a rest := by
  match rest with
  | [] => rfl
  | b :: rest =>
    cases hb : isHigh b with
    | true => rw [List.takeWhile_cons_of_pos hb, pair?, pair?]
    | false => simp [hb, pair?, isTail_of_isHigh_eq_false hb]

theorem triple?_takeWhile (a : UInt8) (rest : List UInt8) :
    triple? a (rest.takeWhile isHigh) = triple? a rest := by
  match rest with
  | [] => rfl
  | [b] => cases hb : isHigh b <;> simp [hb, triple?]
  | b :: c :: rest =>
    cases hb : isHigh b with
    | false => simp [hb, triple?, isTail_of_isHigh_eq_false hb]
    | true =>
      cases hc : isHigh c with
      | false => simp [hb, hc, triple?, isTail_of_isHigh_eq_false hc]
      | true => simp [hb, hc, triple?]

theorem quadruple?_takeWhile (a : UInt8) (rest : List UInt8) :
    quadruple? a (rest.takeWhile isHigh) = quadruple? a rest := by
  match rest with
  | [] => rfl
  | [b] => cases hb : isHigh b <;> simp [hb, quadruple?]
  | [b, c] => cases hb : isHigh b <;> cases hc : isHigh c <;> simp [hb, hc, quadruple?]
  | b :: c :: d :: rest =>
    cases hb : isHigh b with
    | false => simp [hb, quadruple?, isTail_of_isHigh_eq_false hb]
    | true =>
      cases hc : isHigh c with
      | false => simp [hb, hc, quadruple?, isTail_of_isHigh_eq_false hc]
      | true =>
        cases hd : isHigh d with
        | false => simp [hb, hc, hd, quadruple?, isTail_of_isHigh_eq_false hd]
        | true => simp [hb, hc, hd, quadruple?]

theorem firstGlyph_takeWhile (a : UInt8) (rest : List UInt8) :
    firstGlyph a (rest.takeWhile isHigh) = firstGlyph a rest := by
  simp only [firstGlyph, pair?_takeWhile, triple?_takeWhile, quadruple?_takeWhile]

theorem firstGlyph_congr (a : UInt8) {rest rest' : List UInt8}
    (h : rest.takeWhile isHigh = rest'.takeWhile isHigh) :
    firstGlyph a rest = firstGlyph a rest' := by
  rw [← firstGlyph_takeWhile, h, firstGlyph_takeWhile]

theorem firstGlyph_append_newline (a : UInt8) (front rest : List UInt8) :
    firstGlyph a (front ++ newline :: rest) = firstGlyph a front :=
  firstGlyph_congr a (takeWhile_append_cons rfl front rest)

theorem firstGlyph_le (a : UInt8) (rest : List UInt8) : (firstGlyph a rest).2 ≤ rest.length := by
  unfold firstGlyph
  split
  · exact Nat.zero_le _
  · split
    · rename_i h
      unfold pair? at h
      split at h
      · simp
      · cases h
    · split
      · rename_i h
        unfold triple? at h
        split at h
        · simp
        · cases h
      · split
        · rename_i h
          unfold quadruple? at h
          split at h
          · simp
          · cases h
        · exact Nat.zero_le _

theorem firstGlyph_le_takeWhile (a : UInt8) (rest : List UInt8) :
    (firstGlyph a rest).2 ≤ (rest.takeWhile isHigh).length := by
  have h := firstGlyph_le a (rest.takeWhile isHigh)
  rwa [firstGlyph_takeWhile] at h

theorem decodeAfter_append_newline (n : Nat) (front rest : List UInt8) (hn : n ≤ front.length) :
    decodeAfter n (front ++ newline :: rest) =
      decodeAfter n front ++ .char '\n' :: decode rest := by
  induction front generalizing n with
  | nil =>
    obtain rfl := Nat.le_zero.1 hn
    rfl
  | cons a front ih =>
    cases n with
    | zero =>
      rw [List.cons_append, decodeAfter, decodeAfter, firstGlyph_append_newline,
        ih _ (firstGlyph_le a front), List.cons_append]
    | succ n =>
      rw [List.cons_append, decodeAfter, decodeAfter, ih n (Nat.le_of_succ_le_succ hn)]

/-- The characters of a line and those of what follows it do not depend on each other. -/
theorem characters_append_newline (front rest : List UInt8) :
    characters (front ++ newline :: rest) = characters front ++ '\n' :: characters rest := by
  rw [characters, decode, decodeAfter_append_newline 0 front rest (Nat.zero_le _), List.map_append]
  rfl

theorem pair?_high {a : UInt8} {rest : List UInt8} {d : Char} (h : pair? a rest = some d) :
    ∃ n, 0x80 ≤ n ∧ Char.ofNat n = d := by
  unfold pair? at h
  split at h
  · rename_i b _
    split at h
    · rename_i hb
      simp only [Bool.and_eq_true, decide_eq_true_eq] at hb
      have ha : 0xC2 ≤ a.toNat := UInt8.le_iff_toNat_le.1 hb.1.1
      have hn : 0x80 ≤ (a.toNat - 0xC0) * 64 + tailBits b := by omega
      exact ⟨_, hn, Option.some.inj h⟩
    · cases h
  · cases h

theorem triple?_high {a : UInt8} {rest : List UInt8} {d : Char} (h : triple? a rest = some d) :
    ∃ n, 0x80 ≤ n ∧ Char.ofNat n = d := by
  unfold triple? at h
  split at h
  · rename_i b c _
    split at h
    · rename_i hb
      simp only [Bool.and_eq_true, Bool.or_eq_true, bne_iff_ne, decide_eq_true_eq] at hb
      obtain ⟨⟨⟨⟨⟨ha, -⟩, -⟩, -⟩, hb⟩, -⟩ := hb
      have ha : 0xE0 ≤ a.toNat := UInt8.le_iff_toNat_le.1 ha
      have hb : a.toNat ≠ 0xE0 ∨ 0xA0 ≤ b.toNat :=
        hb.imp (fun hne heq => hne (UInt8.toNat_inj.1 heq)) UInt8.le_iff_toNat_le.1
      have hn : 0x80 ≤ ((a.toNat - 0xE0) * 64 + tailBits b) * 64 + tailBits c := by
        unfold tailBits
        omega
      exact ⟨_, hn, Option.some.inj h⟩
    · cases h
  · cases h

theorem quadruple?_high {a : UInt8} {rest : List UInt8} {d : Char}
    (h : quadruple? a rest = some d) : ∃ n, 0x80 ≤ n ∧ Char.ofNat n = d := by
  unfold quadruple? at h
  split at h
  · rename_i b c e _
    split at h
    · rename_i hb
      simp only [Bool.and_eq_true, Bool.or_eq_true, bne_iff_ne, decide_eq_true_eq] at hb
      obtain ⟨⟨⟨⟨⟨⟨ha, -⟩, -⟩, -⟩, -⟩, hb⟩, -⟩ := hb
      have ha : 0xF0 ≤ a.toNat := UInt8.le_iff_toNat_le.1 ha
      have hb : a.toNat ≠ 0xF0 ∨ 0x90 ≤ b.toNat :=
        hb.imp (fun hne heq => hne (UInt8.toNat_inj.1 heq)) UInt8.le_iff_toNat_le.1
      have hn : 0x80 ≤
          (((a.toNat - 0xF0) * 64 + tailBits b) * 64 + tailBits c) * 64 + tailBits e := by
        unfold tailBits
        omega
      exact ⟨_, hn, Option.some.inj h⟩
    · cases h
  · cases h

theorem toChar_firstGlyph_of_isHigh {a : UInt8} (ha : isHigh a = true) (rest : List UInt8) :
    ∃ n, 0x80 ≤ n ∧ Char.ofNat n = (firstGlyph a rest).1.toChar := by
  have hnot : ¬ a < 0x80 := UInt8.not_lt.2 (of_decide_eq_true ha)
  rw [firstGlyph, if_neg hnot]
  split
  · rename_i h
    exact pair?_high h
  · split
    · rename_i h
      exact triple?_high h
    · split
      · rename_i h
        exact quadruple?_high h
      · exact ⟨0xFFFD, by decide, rfl⟩

theorem firstGlyph_of_not_isHigh {a : UInt8} (ha : isHigh a = false) (rest : List UInt8) :
    firstGlyph a rest = (.char (Char.ofNat a.toNat), 0) := by
  rw [firstGlyph, if_pos (UInt8.not_le.1 (of_decide_eq_false ha))]

theorem eq_of_ofNat_eq {n : Nat} {c : Char} (h : Char.ofNat n = c) (hc : c.toNat ≠ 0) :
    n = c.toNat := by
  by_cases hn : n.isValidChar
  · rw [Char.ofNat, dif_pos hn] at h
    subst h
    rfl
  · rw [Char.ofNat, dif_neg hn] at h
    subst h
    exact absurd rfl hc

theorem toChar_firstGlyph_eq_iff {b : UInt8} {c : Char} (hb : b.toNat = c.toNat)
    (h0 : c.toNat ≠ 0) (hc : c.toNat < 0x80) (a : UInt8) (rest : List UInt8) :
    (firstGlyph a rest).1.toChar = c ↔ a = b := by
  cases ha : isHigh a with
  | true =>
    have hle : 0x80 ≤ a.toNat := UInt8.le_iff_toNat_le.1 (of_decide_eq_true ha)
    obtain ⟨n, hn, heq⟩ := toChar_firstGlyph_of_isHigh ha rest
    constructor
    · intro h
      have := eq_of_ofNat_eq (heq.trans h) h0
      omega
    · rintro rfl
      omega
  | false =>
    rw [firstGlyph_of_not_isHigh ha]
    constructor
    · intro h
      have hnat := eq_of_ofNat_eq h h0
      exact UInt8.toNat_inj.1 (hnat.trans hb.symm)
    · rintro rfl
      rw [hb]
      exact Char.ofNat_toNat c

theorem toChar_firstGlyph_eq_newline_iff (a : UInt8) (rest : List UInt8) :
    (firstGlyph a rest).1.toChar = '\n' ↔ a = newline :=
  toChar_firstGlyph_eq_iff rfl (by decide) (by decide) a rest

theorem isHigh_of_lt_takeWhile {n : Nat} {a : UInt8} {rest : List UInt8}
    (hn : n < ((a :: rest).takeWhile isHigh).length) :
    isHigh a = true ∧ n ≤ (rest.takeWhile isHigh).length := by
  cases ha : isHigh a with
  | true =>
    rw [List.takeWhile_cons_of_pos ha, List.length_cons] at hn
    exact ⟨rfl, Nat.le_of_lt_succ hn⟩
  | false => simp [ha] at hn

theorem count_decodeAfter (n : Nat) (bytes : List UInt8)
    (hn : n ≤ (bytes.takeWhile isHigh).length) :
    ((decodeAfter n bytes).map Glyph.toChar).count '\n' = bytes.count newline := by
  induction bytes generalizing n with
  | nil => rfl
  | cons a rest ih =>
    cases n with
    | zero =>
      rw [decodeAfter, List.map_cons, List.count_cons, List.count_cons,
        ih _ (firstGlyph_le_takeWhile a rest)]
      simp only [beq_iff_eq, toChar_firstGlyph_eq_newline_iff]
    | succ n =>
      obtain ⟨ha, hrest⟩ := isHigh_of_lt_takeWhile hn
      have hne : a ≠ newline := by
        rintro rfl
        cases ha
      rw [decodeAfter, ih n hrest, List.count_cons_of_ne hne]

theorem count_characters (bytes : List UInt8) :
    (characters bytes).count '\n' = bytes.count newline :=
  count_decodeAfter 0 bytes (Nat.zero_le _)

end MicroRust.Text
