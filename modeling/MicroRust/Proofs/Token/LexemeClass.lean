import Mathlib.Computability.Language
import MicroRust.Proofs.Token.Tiling

/-! The lexemes, class by class, as regular languages.

A lexeme is of the kind that its first character tells: no table has a character that begins
lexemes of two kinds. Between the quotes of a string, the language and the search for the quote
agree on where the string ends. -/

namespace MicroRust

open Text
open scoped Computability

def oneOf (p : Char → Bool) : Language Char := {text | ∃ c, p c = true ∧ text = [c]}

/-- A class of lexemes. Each symbol is a class by itself. -/
inductive LexemeClass where
  | symbol (s : Symbol)
  | integer
  | float
  | string
  | word
deriving DecidableEq, Repr

-- The symbols have one character or two.
example : (Symbol.delimiters ++ Symbol.operators).countP (·.text.length = 2) = 7 ∧
    (Symbol.delimiters ++ Symbol.operators).countP (·.text.length = 1) = 19 := by
  decide +kernel

def digits : Language Char := (oneOf Char.isDigit)∗

/-- What stands between the quotes of a string. -/
def stringBodies : Language Char :=
  (oneOf (fun c => c ≠ '"' ∧ c ≠ '\\') + {['\\']} * oneOf fun _ => true)∗

namespace LexemeClass

def language : LexemeClass → Language Char
  | symbol s => {s.text.toList}
  | integer => oneOf Char.isDigit * digits
  | float => oneOf Char.isDigit * digits * {['.']} * digits
  | string => {['"']} * stringBodies * {['"']}
  | word => oneOf beginsIdentifier * (oneOf continuesIdentifier)∗

end LexemeClass

def IsLexeme (piece : List Char) : Prop := ∃ kind : LexemeClass, piece ∈ kind.language

def reservedWords : List String := Keyword.all.map (·.text) ++ ["true", "false", "_"]

def Lexeme.StandsFor (word : String) : Lexeme → Prop
  | .keyword k => word = k.text
  | .boolean true => word = "true"
  | .boolean false => word = "false"
  | .underscore => word = "_"
  | .identifier name => word = name ∧ name ∉ reservedWords
  | _ => False

/-- What comes of a piece of a class. -/
def LexemeClass.Reports (piece : List Char) (outcome : Except LexCause Lexeme) :
    LexemeClass → Prop
  | symbol s => outcome = .ok (.symbol s)
  | integer => outcome = if decimalValue piece < 2 ^ 31
      then .ok (.integer (String.ofList piece) (Int32.ofNat (decimalValue piece)))
      else .error (.invalidInteger (String.ofList piece))
  | float => ∃ whole fraction, piece = whole ++ '.' :: fraction ∧ '.' ∉ fraction ∧
      outcome = match Binary64.ofQuotient? (decimalValue (whole ++ fraction))
          (10 ^ fraction.length) with
        | some value => .ok (.float (String.ofList piece) value)
        | none => .error (.invalidFloat (String.ofList piece))
  | string => ∃ body, piece = '"' :: body ++ ['"'] ∧ outcome = .ok (.abi (String.ofList body))
  | word => ∃ lexeme : Lexeme, outcome = .ok lexeme ∧
      lexeme.StandsFor (String.ofList (normalize piece))

theorem mem_oneOf_mul {p : Char → Bool} {l : Language Char} {text : List Char} :
    text ∈ oneOf p * l ↔ ∃ c rest, p c = true ∧ rest ∈ l ∧ text = c :: rest := by
  rw [Language.mem_mul]
  constructor
  · rintro ⟨_, ⟨c, hc, rfl⟩, rest, hrest, rfl⟩
    exact ⟨c, rest, hc, hrest, rfl⟩
  · rintro ⟨c, rest, hc, hrest, rfl⟩
    exact ⟨[c], ⟨c, hc, rfl⟩, rest, hrest, rfl⟩

theorem mem_oneOf_kstar {p : Char → Bool} {text : List Char} :
    text ∈ (oneOf p)∗ ↔ ∀ c ∈ text, p c = true := by
  rw [Language.mem_kstar]
  constructor
  · rintro ⟨pieces, rfl, hpieces⟩ c hc
    obtain ⟨piece, hpiece, hmem⟩ := List.mem_flatten.1 hc
    obtain ⟨d, hd, rfl⟩ := hpieces piece hpiece
    obtain rfl := List.mem_singleton.1 hmem
    exact hd
  · intro h
    refine ⟨text.map fun c => [c], (List.flatMap_singleton' text).symm, ?_⟩
    intro piece hpiece
    obtain ⟨c, hc, rfl⟩ := List.mem_map.1 hpiece
    exact ⟨c, h c hc, rfl⟩

theorem mem_singleton_mul {front text : List Char} {l : Language Char} :
    text ∈ {front} * l ↔ ∃ rest ∈ l, front ++ rest = text := by
  rw [Language.mem_mul]
  constructor
  · rintro ⟨_, rfl, rest, hrest, rfl⟩
    exact ⟨rest, hrest, rfl⟩
  · rintro ⟨rest, hrest, rfl⟩
    exact ⟨front, rfl, rest, hrest, rfl⟩

theorem LexemeClass.mem_integer {text : List Char} :
    text ∈ LexemeClass.integer.language ↔
      ∃ c rest, text = c :: rest ∧ ∀ d ∈ c :: rest, d.isDigit = true := by
  unfold LexemeClass.language digits
  rw [mem_oneOf_mul]
  simp only [mem_oneOf_kstar, List.forall_mem_cons]
  constructor
  · rintro ⟨c, rest, hc, hrest, rfl⟩
    exact ⟨c, rest, rfl, hc, hrest⟩
  · rintro ⟨c, rest, rfl, hc, hrest⟩
    exact ⟨c, rest, hc, hrest, rfl⟩

theorem LexemeClass.mem_float {text : List Char} :
    text ∈ LexemeClass.float.language ↔
      ∃ whole ∈ LexemeClass.integer.language, ∃ fraction, (∀ d ∈ fraction, d.isDigit = true) ∧
        text = whole ++ '.' :: fraction := by
  have hlanguage : LexemeClass.float.language =
      LexemeClass.integer.language * ({['.']} * digits) := mul_assoc _ _ _
  rw [hlanguage, Language.mem_mul]
  simp only [mem_singleton_mul, digits, mem_oneOf_kstar]
  constructor
  · rintro ⟨whole, hwhole, _, ⟨fraction, hfraction, rfl⟩, rfl⟩
    exact ⟨whole, hwhole, fraction, hfraction, rfl⟩
  · rintro ⟨whole, hwhole, fraction, hfraction, rfl⟩
    exact ⟨whole, hwhole, _, ⟨fraction, hfraction, rfl⟩, rfl⟩

theorem LexemeClass.mem_string {text : List Char} :
    text ∈ LexemeClass.string.language ↔ ∃ body ∈ stringBodies, text = '"' :: body ++ ['"'] := by
  have hlanguage : LexemeClass.string.language = {['"']} * (stringBodies * {['"']}) :=
    mul_assoc _ _ _
  rw [hlanguage, mem_singleton_mul]
  simp only [Language.mem_mul]
  constructor
  · rintro ⟨_, ⟨body, hbody, _, rfl, rfl⟩, rfl⟩
    exact ⟨body, hbody, rfl⟩
  · rintro ⟨body, hbody, rfl⟩
    exact ⟨_, ⟨body, hbody, _, rfl, rfl⟩, rfl⟩

theorem LexemeClass.mem_word {text : List Char} :
    text ∈ LexemeClass.word.language ↔ ∃ c rest, text = c :: rest ∧
      beginsIdentifier c = true ∧ ∀ d ∈ rest, continuesIdentifier d = true := by
  unfold LexemeClass.language
  rw [mem_oneOf_mul]
  simp only [mem_oneOf_kstar]
  constructor
  · rintro ⟨c, rest, hc, hrest, rfl⟩
    exact ⟨c, rest, rfl, hc, hrest⟩
  · rintro ⟨c, rest, rfl, hc, hrest⟩
    exact ⟨c, rest, hc, hrest, rfl⟩

theorem stringBody?_plain {c : Char} (hquote : c ≠ '"') (hescape : c ≠ '\\') (rest : List Char) :
    stringBody? (c :: rest) = (stringBody? rest).map fun split => (c :: split.1, split.2) := by
  rw [stringBody?]
  · exact hquote
  · exact fun _ _ hc => absurd hc hescape

theorem stringBody?_of_mem {body : List Char} (h : body ∈ stringBodies) (tail : List Char) :
    stringBody? (body ++ '"' :: tail) = some (body, tail) := by
  obtain ⟨pieces, rfl, hpieces⟩ := Language.mem_kstar.1 h
  clear h
  induction pieces with
  | nil => rfl
  | cons piece pieces ih =>
    obtain ⟨hpiece, hrest⟩ := List.forall_mem_cons.1 hpieces
    have hbody := ih hrest
    rcases hpiece with ⟨c, hc, rfl⟩ | hpiece
    · obtain ⟨hquote, hescape⟩ := of_decide_eq_true hc
      have hplain := stringBody?_plain hquote hescape (pieces.flatten ++ '"' :: tail)
      rw [hbody] at hplain
      exact hplain
    · obtain ⟨_, ⟨c, -, rfl⟩, rfl⟩ := mem_singleton_mul.1 hpiece
      have hescaped := congrArg (Option.map fun split => ('\\' :: c :: split.1, split.2)) hbody
      exact hescaped

theorem mem_of_stringBody? {text body tail : List Char}
    (h : stringBody? text = some (body, tail)) : body ∈ stringBodies := by
  have hcons {piece body : List Char} (hpiece : piece ∈ oneOf (fun c => c ≠ '"' ∧ c ≠ '\\') +
      ({['\\']} * oneOf fun _ => true : Language Char)) (hbody : body ∈ stringBodies) :
      piece ++ body ∈ stringBodies := by
    obtain ⟨pieces, rfl, hpieces⟩ := Language.mem_kstar.1 hbody
    exact Language.mem_kstar.2 ⟨piece :: pieces, rfl, List.forall_mem_cons.2 ⟨hpiece, hpieces⟩⟩
  fun_induction stringBody? text generalizing body with
  | case1 => cases h
  | case2 rest =>
    cases h
    exact Language.nil_mem_kstar _
  | case3 c rest ih =>
    obtain ⟨⟨b, t⟩, hb, he⟩ := Option.map_eq_some_iff.1 h
    cases he
    have hpiece : ['\\', c] ∈ ({['\\']} * oneOf fun _ => true : Language Char) :=
      mem_singleton_mul.2 ⟨[c], ⟨c, rfl, rfl⟩, rfl⟩
    exact hcons (Or.inr hpiece) (ih hb)
  | case4 c rest hquote hpair ih =>
    obtain ⟨⟨b, t⟩, hb, he⟩ := Option.map_eq_some_iff.1 h
    cases he
    -- A backslash would have taken the next character, and there is one.
    have hescape : c ≠ '\\' := by
      rintro rfl
      cases rest with
      | nil => cases hb
      | cons d rest => exact hpair d rest rfl rfl
    have hpiece : [c] ∈ oneOf (fun c => c ≠ '"' ∧ c ≠ '\\') :=
      ⟨c, decide_eq_true ⟨hquote, hescape⟩, rfl⟩
    exact hcons (Or.inl hpiece) (ih hb)

inductive Initial where
  | symbol
  | digit
  | quote
  | letter
deriving DecidableEq, Repr

def Initial.Has (c : Char) : Initial → Prop
  | symbol => (Symbol.ofChar? c).isSome = true
  | digit => c.isDigit = true
  | quote => c = '"'
  | letter => beginsIdentifier c = true

def LexemeClass.initial : LexemeClass → Initial
  | symbol _ => .symbol
  | integer => .digit
  | float => .digit
  | string => .quote
  | word => .letter

theorem isDigit_cases {c : Char} (h : c.isDigit = true) :
    c ∈ ['0', '1', '2', '3', '4', '5', '6', '7', '8', '9'] := by
  have hall : ∀ n < 58, 48 ≤ n →
      Char.ofNat n ∈ ['0', '1', '2', '3', '4', '5', '6', '7', '8', '9'] := by decide
  simp only [Char.isDigit, Bool.and_eq_true, decide_eq_true_eq, ge_iff_le, UInt32.le_iff_toNat_le]
    at h
  obtain ⟨hlow, hhigh⟩ := h
  rw [← Char.ofNat_toNat c]
  exact hall c.toNat (Nat.lt_succ_of_le hhigh) hlow

theorem not_beginsIdentifier {c : Char} {i : Initial} (h : i.Has c) (hi : i ≠ .letter) :
    beginsIdentifier c = false := by
  cases i with
  | symbol =>
    obtain ⟨s, hs⟩ := Option.isSome_iff_exists.1 h
    unfold Symbol.ofChar? at hs
    split at hs <;> first | decide +kernel | cases hs
  | digit =>
    have hcases := isDigit_cases h
    simp only [List.mem_cons, List.not_mem_nil, or_false] at hcases
    rcases hcases with rfl | rfl | rfl | rfl | rfl | rfl | rfl | rfl | rfl | rfl <;> decide +kernel
  | quote =>
    obtain rfl : c = '"' := h
    decide +kernel
  | letter => exact absurd rfl hi

theorem ofChar?_of_isDigit {c : Char} (h : c.isDigit = true) : Symbol.ofChar? c = none := by
  have hcases := isDigit_cases h
  simp only [List.mem_cons, List.not_mem_nil, or_false] at hcases
  rcases hcases with rfl | rfl | rfl | rfl | rfl | rfl | rfl | rfl | rfl | rfl <;> rfl

theorem Initial.eq_of_has {c : Char} {i j : Initial} (hi : i.Has c) (hj : j.Has c) : i = j := by
  have hletter {k : Initial} (hk : k.Has c) (hne : k ≠ .letter) : ¬ letter.Has c := by
    intro h
    have hnot := not_beginsIdentifier hk hne
    rw [h] at hnot
    cases hnot
  have hdigit : digit.Has c → ¬ symbol.Has c := by
    intro h hsymbol
    rw [Has, ofChar?_of_isDigit h] at hsymbol
    cases hsymbol
  have hquote : quote.Has c → ¬ symbol.Has c ∧ ¬ digit.Has c := by
    rintro rfl
    constructor <;> intro h <;> cases h
  cases i <;> cases j <;> grind

theorem Symbol.text_cases (s : Symbol) :
    (∃ c, s.text.toList = [c] ∧ ofChar? c = some s) ∨
      ∃ c d, s.text.toList = [c, d] ∧ (ofChar? c).isSome = true ∧ ofPair? c d = some s := by
  cases s <;> first
    | exact .inl ⟨_, rfl, rfl⟩
    | exact .inr ⟨_, _, rfl, rfl, rfl⟩

theorem Symbol.eq_of_toList_text {s t : Symbol} (h : s.text.toList = t.text.toList) : s = t := by
  rcases s.text_cases with ⟨c, hs, hone⟩ | ⟨c, d, hs, -, hpair⟩
  · rcases t.text_cases with ⟨c', ht, hone'⟩ | ⟨c', d', ht, -⟩
    · rw [hs, ht] at h
      cases h
      exact Option.some.inj (hone.symm.trans hone')
    · rw [hs, ht] at h
      cases h
  · rcases t.text_cases with ⟨c', ht, -⟩ | ⟨c', d', ht, -, hpair'⟩
    · rw [hs, ht] at h
      cases h
    · rw [hs, ht] at h
      cases h
      exact Option.some.inj (hpair.symm.trans hpair')

theorem Symbol.isSome_ofChar? {c d : Char} {s : Symbol} (h : ofPair? c d = some s) :
    (ofChar? c).isSome = true := by
  unfold ofPair? at h
  split at h <;> first | rfl | cases h

theorem symbolAt?_eq_none_iff {c : Char} {rest : List Char} :
    symbolAt? c rest = none ↔ Symbol.ofChar? c = none := by
  cases rest with
  | nil => exact Option.map_eq_none_iff
  | cons d rest =>
    simp only [symbolAt?]
    split
    · rename_i s hs
      have hsome := Symbol.isSome_ofChar? hs
      simp only [reduceCtorEq, false_iff]
      intro hnone
      rw [hnone] at hsome
      cases hsome
    · exact Option.map_eq_none_iff

theorem exists_initial_of_mem {kind : LexemeClass} {piece : List Char}
    (h : piece ∈ kind.language) : ∃ c rest, piece = c :: rest ∧ kind.initial.Has c := by
  have hinteger {piece : List Char} (h : piece ∈ LexemeClass.integer.language) :
      ∃ c rest, piece = c :: rest ∧ c.isDigit = true := by
    obtain ⟨c, rest, rfl, hall⟩ := LexemeClass.mem_integer.1 h
    exact ⟨c, rest, rfl, hall c (List.mem_cons_self ..)⟩
  cases kind with
  | symbol s =>
    obtain rfl : piece = s.text.toList := h
    rcases s.text_cases with ⟨c, htext, hc⟩ | ⟨c, d, htext, hc, -⟩
    · exact ⟨c, [], htext, Option.isSome_of_eq_some hc⟩
    · exact ⟨c, [d], htext, hc⟩
  | integer => exact hinteger h
  | float =>
    obtain ⟨whole, hwhole, fraction, -, rfl⟩ := LexemeClass.mem_float.1 h
    obtain ⟨c, rest, rfl, hc⟩ := hinteger hwhole
    exact ⟨c, _, rfl, hc⟩
  | string =>
    obtain ⟨body, -, rfl⟩ := LexemeClass.mem_string.1 h
    exact ⟨'"', _, rfl, rfl⟩
  | word =>
    obtain ⟨c, rest, rfl, hc, -⟩ := LexemeClass.mem_word.1 h
    exact ⟨c, rest, rfl, hc⟩

theorem initial_of_isPrefix {c : Char} {rest piece : List Char} {kind : LexemeClass} {i : Initial}
    (hi : i.Has c) (hinitial : piece <+: c :: rest) (h : piece ∈ kind.language) :
    kind.initial = i := by
  obtain ⟨d, tail, rfl, hd⟩ := exists_initial_of_mem h
  obtain ⟨rfl, -⟩ := List.cons_prefix_cons.1 hinitial
  exact Initial.eq_of_has hd hi

end MicroRust
