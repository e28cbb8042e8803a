import MicroRust.Proofs.Text.Encoding
import MicroRust.Text.Paint

/-! Text without its colours.

An escape that switches attributes is a bracket, the attributes and an `m` behind the escape byte.
Where nothing else in a text begins with that byte, dropping the escapes leaves what was painted. -/

namespace MicroRust.Text

def escape : UInt8 := 0x1B

def isAttribute (b : UInt8) : Bool := 0x30 ≤ b && b ≤ 0x39 || b = 0x3B

/-- How many bytes the escape has behind the escape byte, if what follows makes it one. -/
def escapeLength? : List UInt8 → Option Nat
  | [] => none
  | b :: rest =>
    let attributes := rest.takeWhile isAttribute
    if b = 0x5B && rest[attributes.length]? = some 0x6D then some (attributes.length + 2) else none

/-- Drops the escapes in a text whose first `n` bytes belong to one already. -/
def dropEscapes : Nat → List UInt8 → List UInt8
  | _, [] => []
  | n + 1, _ :: rest => dropEscapes n rest
  | 0, b :: rest =>
    match if b = escape then escapeLength? rest else none with
    | some n => dropEscapes n rest
    | none => b :: dropEscapes 0 rest

def eraseEscapes (bytes : List UInt8) : List UInt8 := dropEscapes 0 bytes

theorem dropEscapes_append (front rest : List UInt8) :
    dropEscapes front.length (front ++ rest) = eraseEscapes rest := by
  induction front with
  | nil => rfl
  | cons b front ih => exact ih

theorem eraseEscapes_append {front : List UInt8} (h : escape ∉ front) (rest : List UInt8) :
    eraseEscapes (front ++ rest) = front ++ eraseEscapes rest := by
  induction front with
  | nil => rfl
  | cons b front ih =>
    obtain ⟨hb, hfront⟩ := not_or.1 (mt List.mem_cons.2 h)
    rw [List.cons_append, eraseEscapes, dropEscapes, if_neg (Ne.symm hb)]
    exact congrArg (b :: ·) (ih hfront)

theorem escapeLength?_attributes {attributes : List UInt8}
    (h : ∀ b ∈ attributes, isAttribute b = true) (rest : List UInt8) :
    escapeLength? (0x5B :: (attributes ++ 0x6D :: rest)) = some (attributes.length + 2) := by
  have htake : (attributes ++ 0x6D :: rest).takeWhile isAttribute = attributes := by
    rw [List.takeWhile_append_of_pos h, List.takeWhile_cons_of_neg (by decide), List.append_nil]
  have hnext : (attributes ++ 0x6D :: rest)[attributes.length]? = some 0x6D := by
    rw [List.getElem?_append_right (Nat.le_refl _), Nat.sub_self]
    rfl
  rw [escapeLength?, htake, hnext]
  rfl

theorem eraseEscapes_escape {attributes : List UInt8}
    (h : ∀ b ∈ attributes, isAttribute b = true) (rest : List UInt8) :
    eraseEscapes (escape :: 0x5B :: (attributes ++ 0x6D :: rest)) = eraseEscapes rest := by
  have hlength := escapeLength?_attributes h rest
  have hdrop := dropEscapes_append (0x5B :: (attributes ++ [0x6D])) rest
  rw [eraseEscapes, dropEscapes, if_pos rfl, hlength]
  simpa using hdrop

example : eraseEscapes [0x1B, 0x5B, 0x31, 0x3B, 0x34, 0x6D, 0x78, 0x1B, 0x5B, 0x78] =
    [0x78, 0x1B, 0x5B, 0x78] := by
  decide

/-- The second text is the first one without its escapes, whatever follows. -/
def Erases (colored plain : List Glyph) : Prop :=
  ∀ rest, eraseEscapes (encode colored ++ rest) = encode plain ++ eraseEscapes rest

theorem Erases.eraseEscapes_eq {colored plain : List Glyph} (h : Erases colored plain) :
    eraseEscapes (encode colored) = encode plain := by
  have hnil := h []
  rwa [List.append_nil, eraseEscapes, eraseEscapes, dropEscapes, List.append_nil] at hnil

theorem erases_self {text : List Glyph} (h : Free escape text) : Erases text text :=
  eraseEscapes_append h

theorem erases_nil : Erases [] [] := erases_self (by decide)

theorem Erases.append {c p d q : List Glyph} (h : Erases c p) (h' : Erases d q) :
    Erases (c ++ d) (p ++ q) := by
  intro rest
  rw [encode_append, List.append_assoc, h, h', encode_append, List.append_assoc]

theorem Erases.flatMap {α : Type} {xs : List α} {f g : α → List Glyph}
    (h : ∀ x ∈ xs, Erases (f x) (g x)) : Erases (xs.flatMap f) (xs.flatMap g) := by
  induction xs with
  | nil => exact erases_nil
  | cons x xs ih =>
    obtain ⟨hx, hxs⟩ := List.forall_mem_cons.1 h
    exact hx.append (ih hxs)

theorem Erases.intercalate {α : Type} {xs : List α} {f g : α → List Glyph} {separator : List Glyph}
    (hseparator : Free escape separator) (h : ∀ x ∈ xs, Erases (f x) (g x)) :
    Erases (separator.intercalate (xs.map f)) (separator.intercalate (xs.map g)) := by
  induction xs with
  | nil => exact erases_nil
  | cons x xs ih =>
    obtain ⟨hx, hxs⟩ := List.forall_mem_cons.1 h
    cases xs with
    | nil => simpa using hx
    | cons y ys =>
      have hrest := (erases_self hseparator).append (ih hxs)
      have hall := hx.append hrest
      simpa [List.intercalate_cons_cons] using hall

theorem range_of_isDigit {c : Char} (h : c.isDigit = true) : 48 ≤ c.toNat ∧ c.toNat ≤ 57 := by
  simpa [Char.isDigit, UInt32.le_iff_toNat_le] using h

def areCodes (codes : String) : Bool := codes.toList.all fun c => c.isDigit || c = ';'

theorem toNat_ofNat_of_isDigit {c : Char} (h : c.isDigit = true) :
    (UInt8.ofNat c.toNat).toNat = c.toNat := by
  have hrange := range_of_isDigit h
  rw [UInt8.toNat_ofNat']
  omega

theorem isAttribute_of_mem_encode {codes : String} (h : areCodes codes = true) :
    ∀ b ∈ encode (glyphs codes), isAttribute b = true := by
  have hcode : ∀ c ∈ codes.toList, c.toNat < 0x80 ∧ isAttribute (UInt8.ofNat c.toNat) = true := by
    intro c hc
    have hcase := List.all_eq_true.1 h c hc
    rw [Bool.or_eq_true, decide_eq_true_eq] at hcase
    rcases hcase with hdigit | rfl
    · have hrange := range_of_isDigit hdigit
      have hnat := toNat_ofNat_of_isDigit hdigit
      refine ⟨by omega, ?_⟩
      simp [isAttribute, UInt8.le_iff_toNat_le, hnat, hrange]
    · decide
  have hascii : codes.toList.all (·.toNat < 0x80) = true :=
    List.all_eq_true.2 fun c hc => decide_eq_true (hcode c hc).1
  rw [encode_glyphs_of_ascii hascii]
  exact List.forall_mem_map.2 fun c hc => (hcode c hc).2

theorem erases_paint {codes text : String} (hcodes : areCodes codes = true)
    (htext : Free escape (glyphs text)) :
    Erases (glyphs (paint true codes text)) (glyphs (paint false codes text)) := by
  intro rest
  have hon : encode (glyphs "\x1b[") = [escape, 0x5B] := by
    rw [encode_glyphs_of_ascii (by decide)]
    decide
  have hm : encode (glyphs "m") = [0x6D] := by
    rw [encode_glyphs_of_ascii (by decide)]
    decide
  have hoff : encode (glyphs "\x1b[0m") = [escape, 0x5B, 0x30, 0x6D] := by
    rw [encode_glyphs_of_ascii (by decide)]
    decide
  have hzero : ∀ b ∈ [(0x30 : UInt8)], isAttribute b = true := List.forall_mem_singleton.2 rfl
  have hreset : eraseEscapes (escape :: 0x5B :: 0x30 :: 0x6D :: rest) = eraseEscapes rest :=
    eraseEscapes_escape hzero rest
  have hset := eraseEscapes_escape (isAttribute_of_mem_encode hcodes)
    (encode (glyphs text) ++ (escape :: 0x5B :: 0x30 :: 0x6D :: rest))
  rw [eraseEscapes_append htext, hreset] at hset
  simpa [paint, glyphs_append, hon, hm, hoff] using hset

end MicroRust.Text
