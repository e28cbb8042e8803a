import Mathlib.Data.List.Basic
import MicroRust.Proofs.Text.ByteOrder
import MicroRust.Text.Glyph

/-! The bytes of a text.

A character of one byte is found in the bytes of a text exactly where it stands in the text: the
bytes of all other characters are either their own number or high. -/

namespace MicroRust.Text

theorem toList_loop (bytes : ByteArray) (i : Nat) (front : List UInt8) :
    ByteArray.toList.loop bytes i front = front.reverse ++ bytes.data.toList.drop i := by
  induction i, front using ByteArray.toList.loop.induct bytes with
  | case1 i front hlt ih =>
    have hdata : i < bytes.data.toList.length := hlt
    have hget : bytes.get! i = bytes.data.toList[i] := by
      rw [ByteArray.get!, getElem!_pos bytes.data i hlt, Array.getElem_toList]
    rw [ByteArray.toList.loop, if_pos hlt, ih, List.drop_eq_getElem_cons hdata, hget,
      List.reverse_cons, List.append_assoc, List.singleton_append]
  | case2 i front hge =>
    have hdata : bytes.data.toList.length ≤ i := Nat.le_of_not_lt hge
    rw [ByteArray.toList.loop, if_neg hge, List.drop_of_length_le hdata, List.append_nil]

theorem toList_eq_data (bytes : ByteArray) : bytes.toList = bytes.data.toList :=
  toList_loop bytes 0 []

theorem bytes_char (c : Char) : (Glyph.char c).bytes = String.utf8EncodeChar c := by
  have hbytes := utf8Bytes_eq_flatMap (String.singleton c)
  rw [String.toList_singleton, List.flatMap_singleton] at hbytes
  rw [Glyph.bytes, toList_eq_data]
  exact hbytes

@[simp] theorem encode_append (text more : List Glyph) :
    encode (text ++ more) = encode text ++ encode more :=
  List.flatMap_append

@[simp] theorem encode_cons (g : Glyph) (text : List Glyph) :
    encode (g :: text) = g.bytes ++ encode text :=
  List.flatMap_cons

theorem encode_flatMap {α : Type} (xs : List α) (f : α → List Glyph) :
    encode (xs.flatMap f) = xs.flatMap fun x => encode (f x) :=
  List.flatMap_assoc

theorem glyphs_append (s t : String) : glyphs (s ++ t) = glyphs s ++ glyphs t := by
  simp [glyphs]

def Glyph.isByte (b : UInt8) : Glyph → Bool
  | .char c => c.toNat = b.toNat
  | .stray a => a = b

theorem mem_utf8EncodeChar_iff {b : UInt8} (hb : b.toNat < 0x80) (c : Char) :
    b ∈ String.utf8EncodeChar c ↔ c.toNat = b.toNat := by
  have hbound := codePoint_lt c
  have hc : c.toNat = c.val.toNat := rfl
  rw [hc]
  simp only [String.utf8EncodeChar]
  generalize c.val.toNat = n at hbound
  repeat' split
  all_goals
    simp only [List.mem_cons, List.not_mem_nil, or_false, ← UInt8.toNat_inj, UInt8.toNat_ofNat']
    omega

theorem Glyph.mem_bytes_iff {b : UInt8} (hb : b.toNat < 0x80) (g : Glyph) :
    b ∈ g.bytes ↔ g.isByte b = true := by
  cases g with
  | char c => rw [bytes_char, mem_utf8EncodeChar_iff hb, isByte, decide_eq_true_eq]
  | stray a => rw [bytes, List.mem_singleton, isByte, decide_eq_true_eq, eq_comm]

theorem encode_glyphs_of_ascii {s : String} (h : s.toList.all (·.toNat < 0x80) = true) :
    encode (glyphs s) = s.toList.map fun c => UInt8.ofNat c.toNat := by
  rw [encode, glyphs, List.flatMap_map, List.map_eq_flatMap]
  refine List.flatMap_congr fun c hc => ?_
  have hlt := of_decide_eq_true (List.all_eq_true.1 h c hc)
  have hle : c.toNat ≤ 127 := Nat.le_of_lt_succ hlt
  rw [bytes_char]
  exact if_pos hle

def Free (b : UInt8) (text : List Glyph) : Prop := b ∉ encode text

section

variable {b : UInt8}

theorem free_iff (hb : b.toNat < 0x80) (text : List Glyph) :
    Free b text ↔ ∀ g ∈ text, g.isByte b = false := by
  simp only [Free, encode, List.mem_flatMap, Glyph.mem_bytes_iff hb, not_exists, not_and,
    Bool.not_eq_true]

theorem free_glyphs_iff (hb : b.toNat < 0x80) (s : String) :
    Free b (glyphs s) ↔ ∀ c ∈ s.toList, c.toNat ≠ b.toNat := by
  rw [free_iff hb, glyphs, List.forall_mem_map]
  simp only [Glyph.isByte, decide_eq_false_iff_not, ne_eq]

@[simp] theorem free_append (text more : List Glyph) :
    Free b (text ++ more) ↔ Free b text ∧ Free b more := by
  simp only [Free, encode_append, List.mem_append, not_or]

instance (text : List Glyph) : Decidable (Free b text) :=
  if hb : b.toNat < 0x80 then decidable_of_iff _ (free_iff hb text).symm
  else inferInstanceAs (Decidable (b ∉ encode text))

end

end MicroRust.Text
