import MicroRust.Proofs.Source.Places
import MicroRust.Proofs.Text.Decoding
import MicroRust.Source.File

/-! The lines of a file hold its text.

A file is cut into lines by its bytes and a text is read by its characters. Where each line end is
one character, the two agree, and so a range of the text can be cut out of the lines. -/

namespace MicroRust

open Text
open LineReader (newline)
open SourceFile (carriageReturn joinLineEnds)

section

variable {α : Type} [BEq α] [LawfulBEq α] {a : α}

theorem line_induction (a : α) {motive : List α → Prop} (last : ∀ xs, a ∉ xs → motive xs)
    (cons : ∀ xs ys, a ∉ xs → motive ys → motive (xs ++ a :: ys)) (xs : List α) : motive xs := by
  induction hn : xs.length using Nat.strongRecOn generalizing xs with
  | _ n ih =>
    by_cases ha : a ∈ xs
    · obtain ⟨front, rest, rfl, hfront⟩ := List.eq_append_cons_of_mem ha
      have hlt : rest.length < n := by
        rw [List.length_append, List.length_cons] at hn
        omega
      exact cons front rest hfront (ih rest.length hlt rest rfl)
    · exact last xs ha

theorem splitOn_line {xs : List α} (hxs : a ∉ xs) (ys : List α) :
    (xs ++ a :: ys).splitOn a = xs :: ys.splitOn a := by
  rw [List.splitOn_append_cons_self, List.splitOn_eq_singleton hxs, List.singleton_append]

theorem length_splitOn (xs : List α) : (xs.splitOn a).length = 1 + xs.count a := by
  induction xs using line_induction a with
  | last xs hxs =>
    rw [List.splitOn_eq_singleton hxs, List.count_eq_zero_of_not_mem hxs, List.length_singleton]
  | cons xs ys hxs ih =>
    rw [splitOn_line hxs, List.length_cons, ih, List.count_append,
      List.count_eq_zero_of_not_mem hxs, List.count_cons_self]
    omega

theorem takeWhile_line {xs : List α} (hxs : a ∉ xs) (ys : List α) :
    (xs ++ ys).takeWhile (· != a) = xs ++ ys.takeWhile (· != a) := by
  apply List.takeWhile_append_of_pos
  intro x hx
  rw [bne_iff_ne]
  rintro rfl
  exact hxs hx

theorem takeWhile_of_not_mem {xs : List α} (hxs : a ∉ xs) : xs.takeWhile (· != a) = xs := by
  have h := takeWhile_line hxs []
  rwa [List.takeWhile_nil, List.append_nil] at h

theorem getElem?_zero_splitOn (xs : List α) :
    (xs.splitOn a)[0]? = some (xs.takeWhile (· != a)) := by
  induction xs using line_induction a with
  | last xs hxs =>
    rw [List.splitOn_eq_singleton hxs, takeWhile_of_not_mem hxs, List.getElem?_cons_zero]
  | cons xs ys hxs =>
    rw [splitOn_line hxs, takeWhile_line hxs, List.takeWhile_cons_of_neg (by simp),
      List.append_nil, List.getElem?_cons_zero]

theorem getElem?_splitOn_append (xs ys : List α) :
    ((xs ++ ys).splitOn a)[xs.count a]? =
      some ((xs.reverse.takeWhile (· != a)).reverse ++ ys.takeWhile (· != a)) := by
  induction xs using line_induction a with
  | last xs hxs =>
    have hreverse : a ∉ xs.reverse := by rwa [List.mem_reverse]
    rw [List.count_eq_zero_of_not_mem hxs, getElem?_zero_splitOn, takeWhile_line hxs,
      takeWhile_of_not_mem hreverse, List.reverse_reverse]
  | cons front xs hfront ih =>
    have hreverse : (front ++ a :: xs).reverse = xs.reverse ++ a :: front.reverse := by simp
    rw [List.append_assoc, List.cons_append, splitOn_line hfront, List.count_append,
      List.count_eq_zero_of_not_mem hfront, List.count_cons_self, Nat.zero_add,
      List.getElem?_cons_succ, ih, hreverse, takeWhile_append_cons (by simp)]

end

/-- A text in which each line end is one character. -/
def oneLineEnd : List Char → List Char
  | '\r' :: '\n' :: rest => '\n' :: oneLineEnd rest
  | c :: rest => c :: oneLineEnd rest
  | [] => []

theorem oneLineEnd_cons {c : Char} {rest : List Char}
    (h : ¬ (c = '\r' ∧ rest.head? = some '\n')) :
    oneLineEnd (c :: rest) = c :: oneLineEnd rest := by
  rw [oneLineEnd.eq_def]
  split
  · rename_i heq
    cases heq
    exact absurd ⟨rfl, rfl⟩ h
  · rename_i heq
    cases heq
    rfl
  · contradiction

theorem oneLineEnd_of_length_le_one {text : List Char} (h : text.length ≤ 1) :
    oneLineEnd text = text := by
  match text with
  | [] => rfl
  | [c] =>
    apply oneLineEnd_cons
    rintro ⟨-, hhead⟩
    cases hhead
  | _ :: _ :: _ =>
    simp only [List.length_cons] at h
    omega

-- A line end that is split between the two texts would be joined in the whole.
theorem oneLineEnd_append {front rest : List Char}
    (h : front.getLast? = some '\r' → rest.head? ≠ some '\n') :
    oneLineEnd (front ++ rest) = oneLineEnd front ++ oneLineEnd rest := by
  fun_induction oneLineEnd front with
  | case1 front ih =>
    have hfront : front.getLast? = some '\r' → rest.head? ≠ some '\n' := by
      intro hlast
      apply h
      rw [List.getLast?_cons_cons, List.getLast?_cons, hlast]
      rfl
    exact congrArg ('\n' :: ·) (ih hfront)
  | case2 c front hpair ih =>
    have hfront : front.getLast? = some '\r' → rest.head? ≠ some '\n' := by
      intro hlast
      apply h
      rw [List.getLast?_cons, hlast]
      rfl
    rw [List.cons_append, oneLineEnd_cons, ih hfront, List.cons_append]
    rintro ⟨rfl, hhead⟩
    cases front with
    | nil => exact h rfl hhead
    | cons d front =>
      obtain rfl : d = '\n' := Option.some.inj hhead
      exact hpair front rfl rfl
  | case3 => rfl

theorem advance_oneLineEnd (p : Position) (text : List Char) :
    p.advance (oneLineEnd text) = p.advance text := by
  fun_induction oneLineEnd text generalizing p with
  | case1 rest ih => exact ih (p.next '\n')
  | case2 c rest _ ih => exact ih (p.next c)
  | case3 => rfl

theorem placeAfter_oneLineEnd (text : List Char) :
    placeAfter (oneLineEnd text) = placeAfter text := by
  have h := advance_oneLineEnd (placeAfter []) text
  rwa [advance_placeAfter, advance_placeAfter] at h

theorem takeWhile_joinLineEnds (bytes : List UInt8) :
    (joinLineEnds bytes).takeWhile isHigh = bytes.takeWhile isHigh := by
  fun_induction joinLineEnds bytes with
  | case1 a b rest hend ih =>
    simp only [Bool.and_eq_true, decide_eq_true_eq] at hend
    obtain ⟨rfl, rfl⟩ := hend
    rfl
  | case2 a b rest hend ih => rw [List.takeWhile_cons, ih, ← List.takeWhile_cons]
  | case3 => rfl

theorem toChar_firstGlyph_eq_carriageReturn_iff (a : UInt8) (rest : List UInt8) :
    (firstGlyph a rest).1.toChar = '\r' ↔ a = carriageReturn :=
  toChar_firstGlyph_eq_iff rfl (by decide) (by decide) a rest

theorem decodeAfter_joinLineEnds (n : Nat) (bytes : List UInt8)
    (hn : n ≤ (bytes.takeWhile isHigh).length) :
    (decodeAfter n (joinLineEnds bytes)).map Glyph.toChar =
      oneLineEnd ((decodeAfter n bytes).map Glyph.toChar) := by
  fun_induction joinLineEnds bytes generalizing n with
  | case1 a b rest hend ih =>
    simp only [Bool.and_eq_true, decide_eq_true_eq] at hend
    obtain ⟨rfl, rfl⟩ := hend
    obtain rfl : n = 0 := Nat.le_zero.1 hn
    exact congrArg ('\n' :: ·) (ih 0 (Nat.zero_le _))
  | case2 a b rest hend ih =>
    cases n with
    | zero =>
      have hfirst : firstGlyph a (joinLineEnds (b :: rest)) = firstGlyph a (b :: rest) :=
        firstGlyph_congr a (takeWhile_joinLineEnds _)
      rw [decodeAfter, decodeAfter, hfirst, List.map_cons, List.map_cons,
        ih _ (firstGlyph_le_takeWhile a _), oneLineEnd_cons]
      rintro ⟨ha, hb⟩
      rw [toChar_firstGlyph_eq_carriageReturn_iff] at ha
      subst ha
      have hzero : (firstGlyph carriageReturn (b :: rest)).2 = 0 := rfl
      rw [hzero, decodeAfter, List.map_cons, List.head?_cons, Option.some.injEq,
        toChar_firstGlyph_eq_newline_iff] at hb
      subst hb
      exact hend rfl
    | succ n =>
      obtain ⟨-, hrest⟩ := isHigh_of_lt_takeWhile hn
      exact ih n hrest
  | case3 bytes hshort =>
    have hlength : bytes.length ≤ 1 := by
      rcases bytes with _ | ⟨a, _ | ⟨b, rest⟩⟩
      · exact Nat.zero_le _
      · exact Nat.le_refl _
      · exact absurd rfl (hshort a b rest)
    have hle := length_decodeAfter_le n bytes
    rw [oneLineEnd_of_length_le_one]
    rw [List.length_map]
    omega

theorem characters_joinLineEnds (bytes : List UInt8) :
    characters (joinLineEnds bytes) = oneLineEnd (characters bytes) :=
  decodeAfter_joinLineEnds 0 bytes (Nat.zero_le _)

theorem newline_mem_characters_iff (bytes : List UInt8) :
    '\n' ∈ characters bytes ↔ newline ∈ bytes := by
  rw [← List.count_pos_iff, count_characters, List.count_pos_iff]

theorem map_characters_splitOn (bytes : List UInt8) :
    (bytes.splitOn newline).map characters = (characters bytes).splitOn '\n' := by
  induction bytes using line_induction newline with
  | last line hline =>
    have hchars : '\n' ∉ characters line := by rwa [newline_mem_characters_iff]
    rw [List.splitOn_eq_singleton hline, List.splitOn_eq_singleton hchars]
    rfl
  | cons line rest hline ih =>
    have hchars : '\n' ∉ characters line := by rwa [newline_mem_characters_iff]
    rw [splitOn_line hline, characters_append_newline, splitOn_line hchars, List.map_cons, ih]

def lastLine (text : List Char) : List Char := (text.reverse.takeWhile (· != '\n')).reverse

theorem column_placeAfter (text : List Char) :
    ((placeAfter text).column - 1).toNat = (lastLine text).length := by
  have hne : (fun c : Char => decide (c ≠ '\n')) = (· != '\n') := by
    funext c
    rw [decide_not]
    rfl
  simp only [placeAfter, hne, lastLine, List.length_reverse]
  omega

theorem lastLine_append {text : List Char} (h : '\n' ∉ text) (front : List Char) :
    lastLine (front ++ text) = lastLine front ++ text := by
  have hreverse : '\n' ∉ text.reverse := by rwa [List.mem_reverse]
  rw [lastLine, List.reverse_append, takeWhile_line hreverse, List.reverse_append,
    List.reverse_reverse, lastLine]

namespace SourceFile

def shown (file : SourceFile) : List (List Char) := file.lines.map (List.map Glyph.toChar)

theorem shown_ofBytes (name : String) (content : List UInt8) :
    (ofBytes name content).shown = (oneLineEnd (characters content)).splitOn '\n' := by
  rw [← characters_joinLineEnds, ← map_characters_splitOn, shown, ofBytes, List.map_map]
  rfl

theorem length_lines_ofBytes (name : String) (content : List UInt8) :
    (ofBytes name content).lines.length = (placeAfter (characters content)).line := by
  have hlength := congrArg List.length (shown_ofBytes name content)
  rw [shown, List.length_map, length_splitOn] at hlength
  rw [hlength, ← placeAfter_oneLineEnd]
  rfl

/-- The part of a line that a range covers. -/
def cut (file : SourceFile) (span : Span) (number : Int) : List Char :=
  let line := (file.line number).map Glyph.toChar
  let first := if number = span.start.line then span.start.column else 1
  let last := if number = span.stop.line then span.stop.column else (line.length : Int) + 1
  line.extract (first - 1).toNat (last - 1).toNat

/-- The text of a range: its parts of the lines from the first one to the last, with line ends in
between. -/
def excerpt (file : SourceFile) (span : Span) : List Char :=
  ['\n'].intercalate ((List.range (span.stop.line + 1 - span.start.line).toNat).map
    fun k : Nat => file.cut span (span.start.line + k))

variable {file : SourceFile} {start stop : Position}

theorem cut_start (h : start.line < stop.line) : file.cut ⟨start, stop⟩ start.line =
    ((file.line start.line).map Glyph.toChar).drop (start.column - 1).toNat := by
  have hne : ¬ start.line = stop.line := by omega
  simp only [cut, if_pos, if_neg hne, List.extract]
  rw [List.take_of_length_le]
  rw [List.length_drop]
  omega

theorem cut_succ (k : Nat) : file.cut ⟨start, stop⟩ (start.line + ↑(k + 1)) =
    file.cut ⟨⟨start.line + 1, 1⟩, stop⟩ (start.line + 1 + k) := by
  have hnumber : start.line + ↑(k + 1) = start.line + 1 + k := by omega
  have hne : ¬ start.line + 1 + k = start.line := by omega
  rw [hnumber]
  simp only [cut, if_neg hne, ite_self]

theorem excerpt_of_line_eq (h : start.line = stop.line) :
    file.excerpt ⟨start, stop⟩ = ((file.line start.line).map Glyph.toChar).extract
      (start.column - 1).toNat (stop.column - 1).toNat := by
  have hlines : (stop.line + 1 - start.line).toNat = 1 := by omega
  simp only [excerpt, hlines]
  simp [cut, h]

theorem excerpt_of_line_lt (h : start.line < stop.line) :
    file.excerpt ⟨start, stop⟩ =
      ((file.line start.line).map Glyph.toChar).drop (start.column - 1).toNat ++
        '\n' :: file.excerpt ⟨⟨start.line + 1, 1⟩, stop⟩ := by
  obtain ⟨n, hn⟩ : ∃ n, (stop.line + 1 - (start.line + 1)).toNat = n + 1 :=
    ⟨(stop.line - start.line - 1).toNat, by omega⟩
  have hlines : (stop.line + 1 - start.line).toNat = n + 1 + 1 := by omega
  simp only [excerpt, hlines, hn]
  rw [List.range_succ_eq_map, List.map_cons, List.map_map]
  simp only [Function.comp_def, Nat.succ_eq_add_one, cut_succ]
  rw [List.range_succ_eq_map, List.map_cons, List.intercalate_cons_cons, Int.ofNat_zero,
    Int.add_zero, cut_start h, List.append_assoc, List.singleton_append]

theorem line_eq (file : SourceFile) (k : Nat) :
    (file.line (1 + k)).map Glyph.toChar = (file.shown[k]?).getD [] := by
  have hnot : ¬ (1 + k : Int) < 1 := by omega
  have hindex : ((1 + k : Int) - 1).toNat = k := by omega
  rw [line, if_neg hnot, hindex, shown, List.getElem?_map]
  cases file.lines[k]? <;> rfl

theorem line_placeAfter {front rest : List Char} (h : file.shown = (front ++ rest).splitOn '\n') :
    (file.line (placeAfter front).line).map Glyph.toChar =
      lastLine front ++ rest.takeWhile (· != '\n') := by
  have hline : (placeAfter front).line = 1 + (front.count '\n' : Int) := rfl
  rw [hline, line_eq, h, getElem?_splitOn_append, Option.getD_some, lastLine]

/-- Between the places in front of a text and behind it, the lines hold that text. -/
theorem excerpt_eq {front text rest : List Char}
    (h : file.shown = (front ++ (text ++ rest)).splitOn '\n') :
    file.excerpt ⟨placeAfter front, placeAfter (front ++ text)⟩ = text := by
  induction text using line_induction '\n' generalizing front with
  | last text htext =>
    have hlines : (placeAfter front).line = (placeAfter (front ++ text)).line := by
      simp [placeAfter, List.count_eq_zero_of_not_mem htext]
    rw [excerpt_of_line_eq hlines, line_placeAfter h, column_placeAfter, column_placeAfter,
      lastLine_append htext, takeWhile_line htext, List.extract, List.length_append,
      Nat.add_sub_cancel_left, List.drop_left, List.take_left]
  | cons line text hline ih =>
    have hlines :
        (placeAfter front).line < (placeAfter (front ++ (line ++ '\n' :: text))).line := by
      simp [placeAfter]
      omega
    have hnext : placeAfter (front ++ line ++ ['\n']) = ⟨(placeAfter front).line + 1, 1⟩ := by
      rw [placeAfter_snoc]
      simp [placeAfter, List.count_eq_zero_of_not_mem hline, Position.next]
    have hassoc : front ++ (line ++ '\n' :: text) = front ++ line ++ ['\n'] ++ text := by simp
    have hshown : file.shown = (front ++ line ++ ['\n'] ++ (text ++ rest)).splitOn '\n' := by
      rw [h]
      simp
    rw [excerpt_of_line_lt hlines, line_placeAfter h, column_placeAfter, hassoc, ← hnext,
      ih hshown, List.append_assoc line, takeWhile_line hline, List.cons_append,
      List.takeWhile_cons_of_neg (by simp), List.append_nil, List.drop_left]

end SourceFile

end MicroRust
