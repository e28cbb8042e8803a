import MicroRust.Text.Normalization
import MicroRust.Text.Quoted

/-! The control characters of normal forms and of quoted texts.

What normalization makes of characters are letters and marks, so a control character of a normal
form stands in the text already, whatever is taken apart, moved, joined or cut. A quoted text has
none: the escapes are printable. -/

namespace MicroRust.Text

def Plain (text : List Char) : Prop := ∀ c ∈ text, 0x20 ≤ c.toNat

theorem plain_iff_all (text : List Char) :
    Plain text ↔ text.all (0x20 ≤ ·.toNat) = true := by
  simp only [Plain, List.all_eq_true, decide_eq_true_eq]

-- The search goes through the text, and not through all characters there are.
instance (text : List Char) : Decidable (Plain text) :=
  decidable_of_iff _ (plain_iff_all text).symm

theorem plain_append (text more : List Char) : Plain (text ++ more) ↔ Plain text ∧ Plain more :=
  List.forall_mem_append

theorem plain_cons (c : Char) (text : List Char) :
    Plain (c :: text) ↔ 0x20 ≤ c.toNat ∧ Plain text :=
  List.forall_mem_cons

theorem plain_replicate {c : Char} (hc : 0x20 ≤ c.toNat) (n : Nat) : Plain (List.replicate n c) :=
  List.forall_mem_replicate.2 (.inr hc)

def isCode (n : Nat) : Bool := 0x20 ≤ n && (n < 0xD800 || 0xDFFF < n && n < 0x110000)

theorem toNat_ofNat_of_isCode {n : Nat} (h : isCode n = true) :
    (Char.ofNat n).toNat = n ∧ 0x20 ≤ n := by
  simp only [isCode, Bool.and_eq_true, Bool.or_eq_true, decide_eq_true_eq] at h
  rw [Char.ofNat, dif_pos h.2]
  exact ⟨rfl, h.1⟩

theorem letterDecompositions_isCode :
    ∀ entry ∈ letterDecompositions, ∀ m ∈ entry.2, isCode m = true := by
  have hall : (letterDecompositions.all fun entry => entry.2.all isCode) = true := by
    decide +kernel
  simpa only [List.all_eq_true] using hall

theorem ideographDecompositions_isCode :
    ∀ entry ∈ ideographDecompositions, isCode entry.2 = true := by
  have hall : (ideographDecompositions.all (isCode ·.2)) = true := by decide +kernel
  simpa only [List.all_eq_true] using hall

theorem compositions_isCode : ∀ entry ∈ compositions, isCode entry.2.2 = true := by
  have hall : (compositions.all (isCode ·.2.2)) = true := by decide +kernel
  simpa only [List.all_eq_true] using hall

theorem mem_of_lookup {α β : Type} [BEq α] [LawfulBEq α] {a : α} {b : β} {entries : List (α × β)}
    (h : entries.lookup a = some b) : (a, b) ∈ entries := by
  obtain ⟨front, rest, rfl, -⟩ := List.lookup_eq_some_iff.1 h
  exact List.mem_append_right front List.mem_cons_self

theorem isCode_of_lt {n : Nat} (hlow : 0x20 ≤ n) (hhigh : n < 0xD800) : isCode n = true := by
  simp [isCode, hlow, hhigh]

theorem syllableLetters?_isCode {n m : Nat} {letters : List Nat}
    (h : syllableLetters? n = some letters) (hm : m ∈ letters) : isCode m = true := by
  unfold syllableLetters? at h
  split at h
  · rename_i hn
    obtain rfl := Option.some.inj h
    have hcases : m ∈ [leadBase + (n - syllableBase) / (vowelCount * trailCount),
        vowelBase + (n - syllableBase) % (vowelCount * trailCount) / trailCount,
        trailBase + (n - syllableBase) % trailCount] := by
      split at hm
      · exact List.mem_append_left _ hm
      · exact hm
    simp only [List.mem_cons, List.not_mem_nil, or_false] at hcases
    simp only [Bool.and_eq_true, decide_eq_true_eq] at hn
    simp only [leadBase, vowelBase, trailBase, syllableBase, syllableCount, vowelCount, trailCount]
      at hn hcases
    exact isCode_of_lt (by omega) (by omega)
  · cases h

theorem syllableOf?_isCode {a b n : Nat} (h : syllableOf? a b = some n) : isCode n = true := by
  unfold syllableOf? at h
  split at h
  · rename_i hletters
    have heq := Option.some.inj h
    simp only [Bool.and_eq_true, decide_eq_true_eq] at hletters
    simp only [leadBase, vowelBase, syllableBase, vowelCount, trailCount] at hletters heq
    exact isCode_of_lt (by omega) (by omega)
  · split at h
    · rename_i hopen
      have heq := Option.some.inj h
      simp only [Bool.and_eq_true, decide_eq_true_eq] at hopen
      simp only [trailBase, syllableBase, syllableCount, vowelCount, trailCount] at hopen heq
      exact isCode_of_lt (by omega) (by omega)
    · cases h

theorem decomposition?_isCode {n m : Nat} {parts : List Nat} (h : decomposition? n = some parts)
    (hm : m ∈ parts) : isCode m = true := by
  unfold decomposition? at h
  split at h
  · cases h
  · split at h
    · rename_i letters hletters
      cases h
      exact syllableLetters?_isCode hletters hm
    · split at h
      · rename_i parts' hparts
        cases h
        exact letterDecompositions_isCode _ (mem_of_lookup hparts) m hm
      · obtain ⟨k, hk, rfl⟩ := Option.map_eq_some_iff.1 h
        rw [List.mem_singleton.1 hm]
        exact ideographDecompositions_isCode _ (mem_of_lookup hk)

theorem insertMark_perm (d : Char) (done : List Char) : (insertMark d done).Perm (d :: done) := by
  induction done with
  | nil => exact .refl _
  | cons e done ih =>
    unfold insertMark
    split
    · exact (ih.cons e).trans (.swap ..)
    · exact .refl _

theorem orderMarks_perm (text : List Char) : (orderMarks text).Perm text := by
  have hfold : ∀ done,
      (text.foldl (fun done c => insertMark c done) done).Perm (text.reverse ++ done) := by
    induction text with
    | nil => exact fun done => .refl _
    | cons d text ih =>
      intro done
      rw [List.foldl_cons, List.reverse_cons, List.append_assoc]
      exact (ih _).trans ((insertMark_perm d done).append_left _)
  have hall := hfold []
  rw [List.append_nil] at hall
  exact (List.reverse_perm _).trans (hall.trans (List.reverse_perm _))

namespace JoinedRun

@[simp] theorem text_keep (r : JoinedRun) (d : Char) : (r.keep d).text = r.text ++ [d] := by
  simp [keep, text]

@[simp] theorem text_rebase (r : JoinedRun) : r.rebase.text = r.text := by
  unfold rebase
  split
  · rfl
  · split <;> simp_all [text]

theorem mem_text_add {c d : Char} {pair? : Char → Char → Option Char}
    (hpair : ∀ a b, pair? a b ≠ some c) (r : JoinedRun) (h : c ∈ (r.add pair? d).text) :
    c ∈ r.text ∨ c = d := by
  rw [← r.text_rebase]
  unfold add at h
  dsimp only at h
  generalize r.rebase = r at h ⊢
  split at h
  · rename_i z hz
    split at hz
    · cases hz
    · have hne : c ≠ z := fun heq => hpair _ _ (heq ▸ hz)
      simp only [text, List.mem_append, List.mem_cons] at h ⊢
      grind
  · simpa using h

theorem mem_text_foldl {c : Char} {pair? : Char → Char → Option Char}
    (hpair : ∀ a b, pair? a b ≠ some c) (text : List Char) (r : JoinedRun)
    (h : c ∈ (text.foldl (add pair?) r).text) : c ∈ r.text ∨ c ∈ text := by
  induction text generalizing r with
  | nil => exact .inl h
  | cons d text ih =>
    rcases ih _ h with hmem | hmem
    · exact (mem_text_add hpair r hmem).imp_right fun heq => List.mem_cons.2 (.inl heq)
    · exact .inr (List.mem_cons_of_mem d hmem)

end JoinedRun

section

variable {c : Char} (hc : c.toNat < 0x20)
include hc

theorem ofNat_ne_control {n : Nat} (hn : isCode n = true) : Char.ofNat n ≠ c := by
  rintro rfl
  obtain ⟨hnat, hle⟩ := toNat_ofNat_of_isCode hn
  omega

theorem eq_of_mem_decompose {d : Char} (h : c ∈ decompose d) : c = d := by
  unfold decompose at h
  split at h
  · rename_i parts hparts
    obtain ⟨m, hm, hmc⟩ := List.mem_map.1 h
    exact absurd hmc (ofNat_ne_control hc (decomposition?_isCode hparts hm))
  · exact List.mem_singleton.1 h

theorem composite?_ne (a b : Char) : composite? a b ≠ some c := by
  intro h
  obtain ⟨entry, hfind, hmade⟩ := Option.map_eq_some_iff.1 h
  exact ofNat_ne_control hc (compositions_isCode _ (List.mem_of_find?_eq_some hfind)) hmade

theorem syllable?_ne (a b : Char) : syllable? a b ≠ some c := by
  intro h
  obtain ⟨n, hn, hmade⟩ := Option.map_eq_some_iff.1 h
  exact ofNat_ne_control hc (syllableOf?_isCode hn) hmade

theorem JoinedRun.mem_text_addAll (text : List Char) (r : JoinedRun)
    (h : c ∈ (r.addAll text).text) : c ∈ r.text ∨ c ∈ text := by
  induction text generalizing r with
  | nil => exact .inl h
  | cons d text ih =>
    unfold addAll at h
    split at h
    · exact mem_text_foldl (syllable?_ne hc) (d :: text) r h
    · rcases ih _ h with hmem | hmem
      · split at hmem
        · exact (mem_text_add (composite?_ne hc) r hmem).imp_right
            fun heq => List.mem_cons.2 (.inl heq)
        · rw [text_keep, List.mem_append, List.mem_singleton] at hmem
          exact hmem.imp_right fun heq => List.mem_cons.2 (.inl heq)
      · exact .inr (List.mem_cons_of_mem d hmem)

theorem mem_of_mem_composeRun {run : List Char} (h : c ∈ composeRun run) : c ∈ run := by
  have hdecompose : c ∈ run.flatMap decompose → c ∈ run := by
    intro hmem
    obtain ⟨d, hd, hcd⟩ := List.mem_flatMap.1 hmem
    rwa [eq_of_mem_decompose hc hcd]
  refine hdecompose ((orderMarks_perm _).mem_iff.1 ?_)
  unfold composeRun at h
  split at h
  · cases h
  · rename_i d rest hordered
    rw [hordered, List.mem_cons]
    exact (JoinedRun.mem_text_addAll hc rest _ h).imp List.mem_singleton.1 id

theorem mem_of_mem_runsFrom {run piece text : List Char} {marks : Nat}
    (hpiece : piece ∈ runsFrom run marks text) (h : c ∈ piece) : c ∈ run ∨ c ∈ text := by
  have hjoiner : c ≠ joiner := by
    rintro rfl
    exact absurd hc (by decide)
  fun_induction runsFrom run marks text with
  | case1 run marks =>
    rw [List.mem_singleton.1 hpiece] at h
    exact .inl (List.mem_reverse.1 h)
  | case2 run marks d rest more hmore ih =>
    rcases List.mem_cons.1 hpiece with rfl | hpiece
    · exact .inl (List.mem_reverse.1 h)
    · exact .inr (List.mem_cons.2 ((ih hpiece).imp_left List.mem_singleton.1))
  | case3 run marks d rest more hmore hlimit ih =>
    rcases List.mem_cons.1 hpiece with rfl | hpiece
    · rw [List.mem_reverse, List.mem_cons] at h
      exact .inl (h.resolve_left hjoiner)
    · exact .inr (List.mem_cons.2 ((ih hpiece).imp_left List.mem_singleton.1))
  | case4 run marks d rest more hmore hlimit ih =>
    rcases ih hpiece with hmem | hmem
    · rw [List.mem_cons] at hmem
      exact hmem.elim (fun heq => .inr (List.mem_cons.2 (.inl heq))) .inl
    · exact .inr (List.mem_cons_of_mem d hmem)

theorem mem_of_mem_normalize {text : List Char} (h : c ∈ normalize text) : c ∈ text := by
  unfold normalize at h
  split at h
  · exact h
  · obtain ⟨run, hrun, hmem⟩ := List.mem_flatMap.1 h
    exact (mem_of_mem_runsFrom hc hrun (mem_of_mem_composeRun hc hmem)).resolve_left
      List.not_mem_nil

end

theorem digitChar_le (n : Nat) : 0x20 ≤ n.digitChar.toNat := by
  match n with
  | 0 | 1 | 2 | 3 | 4 | 5 | 6 | 7 | 8 | 9 | 10 | 11 | 12 | 13 | 14 | 15 | _ + 16 =>
    simp [Nat.digitChar]

theorem plain_toDigits {b : Nat} (hb : 1 < b) (n : Nat) : Plain (Nat.toDigits b n) := by
  induction n using Nat.strongRecOn with
  | _ n ih =>
    rw [Nat.toDigits_eq_if hb]
    split
    · exact List.forall_mem_singleton.2 (digitChar_le n)
    · have hlt : n / b < n := Nat.div_lt_self (by omega) hb
      exact (plain_append ..).2 ⟨ih _ hlt, List.forall_mem_singleton.2 (digitChar_le _)⟩

theorem plain_hexDigits (width n : Nat) : Plain (hexDigits width n) :=
  (plain_append ..).2 ⟨plain_replicate (by decide) _, plain_toDigits (by decide) n⟩

theorem isPrintable_le {c : Char} (h : isPrintable c = true) : 0x20 ≤ c.toNat := by
  unfold isPrintable at h
  split at h
  · exact of_decide_eq_true h
  · omega

theorem plain_numericEscape (c : Char) : Plain (numericEscape c) := by
  unfold numericEscape
  repeat' split
  all_goals
    exact (plain_cons ..).2 ⟨by decide, (plain_cons ..).2 ⟨by decide, plain_hexDigits _ _⟩⟩

theorem plain_escapeChar (c : Char) : Plain (escapeChar '"' c) := by
  unfold escapeChar
  split
  · rename_i hspecial
    rw [Bool.or_eq_true, decide_eq_true_eq, decide_eq_true_eq] at hspecial
    rcases hspecial with rfl | rfl <;> decide
  · split
    · rename_i hprintable
      exact List.forall_mem_singleton.2 (isPrintable_le hprintable)
    · split
      any_goals decide
      exact plain_numericEscape _

theorem plain_quoted (s : String) : Plain (quoted s).toList := by
  have hbody : Plain (s.toList.flatMap (escapeChar '"')) := by
    intro c hc
    obtain ⟨d, -, hd⟩ := List.mem_flatMap.1 hc
    exact plain_escapeChar d c hd
  rw [quoted, String.toList_ofList]
  exact (plain_append ..).2 ⟨(plain_cons ..).2 ⟨by decide, hbody⟩, by decide⟩

end MicroRust.Text
