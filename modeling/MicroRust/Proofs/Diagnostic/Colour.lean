import MicroRust.Proofs.Diagnostic.Engine
import MicroRust.Proofs.Source.Controls

/-! Reports with colours and without.

Colours only add escapes: without them, a report with colours is the plain one, byte for byte. The
margin of each line of a snippet ends at its first bar, so it can be set off by reading the snippet
again, whatever bars the source has in it. -/

namespace MicroRust

open Text
open LineReader (newline)

/-- Nothing that is told of a diagnostic begins an escape. -/
structure Diagnostic.Unescaped (d : Diagnostic) : Prop where
  code : Free escape (glyphs d.code)
  title : Free escape (glyphs d.title)
  message : Free escape (glyphs d.message)
  notes : ∀ note ∈ d.notes, Free escape (glyphs note)

namespace Report

/-- Nothing that a report shows begins an escape. -/
structure Unescaped (file : Option SourceFile) (e : Engine) : Prop where
  filename : Free escape (glyphs e.filename)
  diagnostics : ∀ d ∈ e.diagnostics, d.Unescaped
  rows : ∀ f ∈ file, ∀ row ∈ f.lines, Free escape row

section

variable {filename : String} {d : Diagnostic} (style : SnippetStyle)

theorem free_location (hname : Free escape (glyphs filename)) :
    Free escape (glyphs (location filename d)) := by
  have hplace := d.span.start.free_text (b := escape) (by decide)
  unfold location
  split
  · have htext : s!"{filename}:{d.span.start.text}" = filename ++ ":" ++ d.span.start.text := by
      simp only [toString, String.append_assoc]
    rw [htext, glyphs_append, glyphs_append, free_append, free_append]
    exact ⟨⟨hname, by decide⟩, hplace⟩
  · exact hname

theorem free_label (hd : d.Unescaped) :
    Free escape (glyphs s!"{d.severity.name}[{d.code}]") := by
  have htext : s!"{d.severity.name}[{d.code}]" = d.severity.name ++ "[" ++ d.code ++ "]" := by
    simp only [toString, String.append_assoc]
  rw [htext, glyphs_append, glyphs_append, glyphs_append, free_append, free_append, free_append]
  refine ⟨⟨⟨?_, by decide⟩, hd.code⟩, by decide⟩
  cases d.severity <;> decide

theorem erases_header (hname : Free escape (glyphs filename)) (hd : d.Unescaped) :
    Erases (glyphs (header ⟨true, style⟩ filename d))
      (glyphs (header ⟨false, style⟩ filename d)) := by
  have hcolon : Erases (glyphs ": ") (glyphs ": ") := erases_self (by decide)
  have hend : Erases (glyphs "\n") (glyphs "\n") := erases_self (by decide)
  have hlocation := erases_self (free_location hname (d := d))
  have hcodes : areCodes (severityCodes d.severity) = true := by
    cases d.severity <;> decide
  have hlabel := erases_paint hcodes (free_label hd)
  have htitle : Erases (glyphs (paint true titleCodes d.title))
      (glyphs (paint false titleCodes d.title)) := erases_paint (by decide) hd.title
  simp only [header, glyphs_append]
  exact ((((hlocation.append hcolon).append hlabel).append hcolon).append htitle).append hend

theorem erases_snippet {file : Option SourceFile}
    (hrows : ∀ f ∈ file, ∀ row ∈ f.lines, Free escape row) :
    Erases (snippet ⟨true, style⟩ file d) (snippet ⟨false, style⟩ file d) := by
  cases file with
  | none => exact erases_nil
  | some f =>
    unfold snippet
    dsimp only
    split
    · refine .flatMap fun line hline => ?_
      obtain ⟨front, hmargin, -, hfront, hrest⟩ :=
        Snippet.free_lines (by decide) (by decide) (hrows f rfl) _ _ line hline
      have hfree : Free escape (glyphs line.margin) := by
        rw [hmargin, glyphs_append, free_append]
        exact ⟨hfront, by decide⟩
      have hpaint : Erases (glyphs (paint true marginCodes line.margin))
          (glyphs (paint false marginCodes line.margin)) := erases_paint (by decide) hfree
      exact (hpaint.append (erases_self hrest)).append (erases_self (by decide))
    · exact erases_nil

theorem erases_note {text : String} (h : Free escape (glyphs text)) :
    Erases (glyphs (note ⟨true, style⟩ text)) (glyphs (note ⟨false, style⟩ text)) := by
  have hpaint : Erases (glyphs (paint true noteCodes "= note:"))
      (glyphs (paint false noteCodes "= note:")) := erases_paint (by decide) (by decide)
  have hblanks : Erases (glyphs "  ") (glyphs "  ") := erases_self (by decide)
  have hblank : Erases (glyphs " ") (glyphs " ") := erases_self (by decide)
  have hend : Erases (glyphs "\n") (glyphs "\n") := erases_self (by decide)
  simp only [note, glyphs_append]
  exact (((hblanks.append hpaint).append hblank).append (erases_self h)).append hend

theorem erases_entry {file : Option SourceFile} (hname : Free escape (glyphs filename))
    (hd : d.Unescaped) (hrows : ∀ f ∈ file, ∀ row ∈ f.lines, Free escape row) :
    Erases (entry ⟨true, style⟩ filename file d) (entry ⟨false, style⟩ filename file d) := by
  have hmessage : Free escape (if d.message.isEmpty then [] else glyphs s!"  {d.message}\n") := by
    split
    · decide
    · have htext : s!"  {d.message}\n" = "  " ++ d.message ++ "\n" := by
        simp only [toString, String.append_assoc]
      rw [htext, glyphs_append, glyphs_append, free_append, free_append]
      exact ⟨⟨by decide, hd.message⟩, by decide⟩
  have hheader := erases_header style hname hd
  have hsnippet := erases_snippet style (d := d) hrows
  have hnotes := Erases.flatMap fun text htext => erases_note style (hd.notes text htext)
  exact ((hheader.append (erases_self hmessage)).append hsnippet).append hnotes

theorem free_intercalate {separator : String} {parts : List String}
    (hseparator : Free escape (glyphs separator)) (h : ∀ part ∈ parts, Free escape (glyphs part)) :
    Free escape (glyphs (separator.intercalate parts)) := by
  induction parts with
  | nil =>
    rw [String.intercalate_nil]
    decide
  | cons part parts ih =>
    obtain ⟨hpart, hparts⟩ := List.forall_mem_cons.1 h
    cases parts with
    | nil => rwa [String.intercalate_singleton]
    | cons next parts =>
      rw [String.intercalate_cons_cons, glyphs_append, glyphs_append, free_append, free_append]
      exact ⟨⟨hpart, hseparator⟩, ih hparts⟩

theorem free_count (n : Nat) {word : String} (hword : Free escape (glyphs word)) :
    Free escape (glyphs (n.repr ++ word)) := by
  rw [glyphs_append, free_append]
  exact ⟨free_repr (by decide) n, hword⟩

theorem free_summary {e : Engine} (h : Free escape (glyphs e.filename)) :
    Free escape (glyphs (summary e)) := by
  simp only [summary, toString]
  split
  · rw [glyphs_append, free_append]
    exact ⟨h, by decide⟩
  · have hparts : ∀ part ∈ (if 0 < e.errors.length then [e.errors.length.repr ++ " error(s)"]
        else []) ++ (if 0 < e.warnings.length then [e.warnings.length.repr ++ " warning(s)"]
        else []), Free escape (glyphs part) := by
      intro part hpart
      rcases List.mem_append.1 hpart with hpart | hpart
      · split at hpart
        · obtain rfl := List.mem_singleton.1 hpart
          exact free_count _ (by decide)
        · cases hpart
      · split at hpart
        · obtain rfl := List.mem_singleton.1 hpart
          exact free_count _ (by decide)
        · cases hpart
    have hseparator : Free escape (glyphs ", ") := by decide
    have hlist := free_intercalate hseparator hparts
    simp only [glyphs_append, free_append]
    exact ⟨⟨⟨⟨by decide, h⟩, by decide⟩, hlist⟩, by decide⟩

end

/-- The pieces of some bytes: up to each separator and with it, and what is behind the last one. -/
def splitAfter (separator : UInt8) : List UInt8 → List (List UInt8)
  | [] => [[]]
  | b :: rest =>
    if b = separator then [b] :: splitAfter separator rest
    else match splitAfter separator rest with
      | [] => [[b]]
      | piece :: pieces => (b :: piece) :: pieces

def bar : UInt8 := 0x7C

def paintBytes (colored : Bool) (codes : String) (bytes : List UInt8) : List UInt8 :=
  if colored then
    encode (glyphs ("\x1b[" ++ codes ++ "m")) ++ bytes ++ encode (glyphs "\x1b[0m")
  else bytes

/-- A line whose margin, up to the first bar, is set off. A line without a bar is left alone. -/
def setOff (colored : Bool) (line : List UInt8) : List UInt8 :=
  match line.dropWhile (· ≠ bar) with
  | [] => line
  | b :: rest => paintBytes colored marginCodes (line.takeWhile (· ≠ bar) ++ [b]) ++ rest

theorem splitAfter_append_cons {separator : UInt8} {front : List UInt8} (h : separator ∉ front)
    (rest : List UInt8) : splitAfter separator (front ++ separator :: rest) =
      (front ++ [separator]) :: splitAfter separator rest := by
  induction front with
  | nil => exact if_pos rfl
  | cons b front ih =>
    obtain ⟨hb, hfront⟩ := not_or.1 (mt List.mem_cons.2 h)
    rw [List.cons_append, splitAfter, if_neg (Ne.symm hb), ih hfront]
    rfl

theorem splitAfter_flatMap {α : Type} {separator : UInt8} {xs : List α} {f : α → List UInt8}
    (h : ∀ x ∈ xs, separator ∉ f x) :
    splitAfter separator (xs.flatMap fun x => f x ++ [separator]) =
      (xs.map fun x => f x ++ [separator]) ++ [[]] := by
  induction xs with
  | nil => rfl
  | cons x xs ih =>
    obtain ⟨hx, hxs⟩ := List.forall_mem_cons.1 h
    rw [List.flatMap_cons, List.append_assoc, List.singleton_append, splitAfter_append_cons hx,
      ih hxs, List.map_cons, List.cons_append]

theorem encode_paint (colored : Bool) (codes text : String) :
    encode (glyphs (paint colored codes text)) =
      paintBytes colored codes (encode (glyphs text)) := by
  cases colored with
  | true => simp only [paint, paintBytes, if_pos, glyphs_append, encode_append, List.append_assoc]
  | false => rfl

theorem setOff_append {front : List UInt8} (h : bar ∉ front) (colored : Bool)
    (rest : List UInt8) : setOff colored (front ++ bar :: rest) =
      paintBytes colored marginCodes (front ++ [bar]) ++ rest := by
  have hfront : ∀ b ∈ front, decide (b ≠ bar) = true := by
    intro b hb
    refine decide_eq_true fun hbar => ?_
    exact h (hbar ▸ hb)
  rw [setOff, List.dropWhile_append_of_pos hfront, List.takeWhile_append_of_pos hfront]
  simp

theorem encode_newline : encode [.char '\n'] = [newline] := by
  rw [encode_cons, bytes_char]
  decide

theorem encode_text (line : SnippetLine) :
    encode line.text = encode (glyphs line.margin ++ line.rest) ++ [newline] := by
  rw [SnippetLine.text, encode_append, encode_newline]

theorem setOff_text {line : SnippetLine} {front : String} (hmargin : line.margin = front ++ "|")
    (hfront : '|' ∉ front.toList) (colored : Bool) (style : SnippetStyle) :
    setOff colored (encode line.text) = encode (snippetLine ⟨colored, style⟩ line) := by
  have hbar : encode (glyphs "|") = [bar] := by
    rw [encode_glyphs_of_ascii (by decide)]
    decide
  have hfree : bar ∉ encode (glyphs front) := by
    refine (free_glyphs_iff (by decide) front).2 fun c hc heq => hfront ?_
    have hc' : c = '|' := Char.toNat_inj.1 (heq.trans (by decide : bar.toNat = '|'.toNat))
    rwa [hc'] at hc
  rw [encode_text, hmargin, encode_append, glyphs_append, encode_append, hbar, List.append_assoc,
    List.append_assoc, List.singleton_append, setOff_append hfree, snippetLine, encode_append,
    encode_append, encode_paint, hmargin, glyphs_append, encode_append, hbar, encode_newline,
    List.append_assoc]

theorem encode_snippet {f : SourceFile} (hrows : ∀ row ∈ f.lines, Free newline row)
    {d : Diagnostic} (hd : d.hasSpan = true) (colored : Bool) (style : SnippetStyle) :
    encode (snippet ⟨colored, style⟩ (some f) d) =
      (splitAfter newline (encode (Snippet.text style f d.span))).flatMap (setOff colored) := by
  have hlines := Snippet.free_lines (b := newline) (by decide) (by decide) hrows style d.span
  have hfree : ∀ line ∈ Snippet.lines style f d.span,
      newline ∉ encode (glyphs line.margin ++ line.rest) := by
    intro line hline
    obtain ⟨front, hmargin, -, hfront, hrest⟩ := hlines line hline
    refine (free_append _ _).2 ⟨?_, hrest⟩
    rw [hmargin, glyphs_append, free_append]
    exact ⟨hfront, by decide⟩
  have htext : encode (Snippet.text style f d.span) = (Snippet.lines style f d.span).flatMap
      fun line => encode (glyphs line.margin ++ line.rest) ++ [newline] := by
    rw [Snippet.text, encode_flatMap]
    simp only [encode_text]
  have hsplit := splitAfter_flatMap hfree
  rw [← htext] at hsplit
  rw [hsplit, List.flatMap_append, List.flatMap_map, snippet, if_pos hd, encode_flatMap]
  have hnone : [[]].flatMap (setOff colored) = [] := rfl
  rw [hnone, List.append_nil]
  refine List.flatMap_congr fun line hline => ?_
  obtain ⟨front, hmargin, hfront, -, -⟩ := hlines line hline
  rw [← encode_text, setOff_text hmargin hfront]

/-- Without its escapes a report with colours is the plain one, and margins are set off by cutting
each line of a snippet at its first bar. -/
theorem eraseEscapes_text {file : Option SourceFile} {e : Engine} (h : Unescaped file e)
    (style : SnippetStyle) :
    eraseEscapes (encode (text ⟨true, style⟩ file e)) =
        encode (text ⟨false, style⟩ file e) ∧
      ∀ f ∈ file, (∀ row ∈ f.lines, Free newline row) → ∀ d ∈ e.diagnostics, d.hasSpan = true →
        ∀ colored, encode (snippet ⟨colored, style⟩ file d) =
          (splitAfter newline (encode (Snippet.text style f d.span))).flatMap (setOff colored) := by
  constructor
  · have hentries : ∀ d ∈ e.sort.diagnostics, Erases (entry ⟨true, style⟩ e.filename file d)
        (entry ⟨false, style⟩ e.filename file d) := by
      intro d hd
      exact erases_entry style h.filename (h.diagnostics d (e.perm_sort.mem_iff.1 hd)) h.rows
    have hseparator : Free escape [.char '\n'] := by decide
    have hall := Erases.intercalate hseparator hentries
    exact (hall.append (erases_self (free_summary h.filename))).eraseEscapes_eq
  · rintro f rfl hrows d - hd colored
    exact encode_snippet hrows hd colored style

def barFile : SourceFile := .ofBytes "bars.rs" [0x61, 0x7C, 0xFF, 0x7C, 0x0A, 0x7C, 0x62]

def barEngine : Engine :=
  { filename := "bars.rs", policy := {}
    diagnostics := [{ severity := .error, category := .semantic, code := "E2999", title := "",
                      message := "a|b\nc", notes := ["d|e"], span := ⟨⟨1, 2⟩, ⟨2, 2⟩⟩ }] }

theorem eraseEscapes_text_barFile :
    Unescaped (some barFile) barEngine ∧
      eraseEscapes (encode (text ⟨true, ⟨1, 80⟩⟩ (some barFile) barEngine)) =
        encode (text ⟨false, ⟨1, 80⟩⟩ (some barFile) barEngine) ∧
      ∀ d ∈ barEngine.diagnostics, d.hasSpan = true ∧
        encode (snippet ⟨true, ⟨1, 80⟩⟩ (some barFile) d) =
          (splitAfter newline (encode (Snippet.text ⟨1, 80⟩ barFile d.span))).flatMap
            (setOff true) := by
  have h : Unescaped (some barFile) barEngine := by
    refine ⟨by decide, ?_, ?_⟩
    · exact List.forall_mem_singleton.2 ⟨by decide, by decide, by decide, by decide⟩
    · intro f hf
      obtain rfl := Option.mem_some_iff.1 hf
      decide
  have hrows : ∀ row ∈ barFile.lines, Free newline row := SourceFile.free_newline_ofBytes _ _
  have hspan : ∀ d ∈ barEngine.diagnostics, d.hasSpan = true := by decide
  obtain ⟨hplain, hsnippet⟩ := eraseEscapes_text h ⟨1, 80⟩
  exact ⟨h, hplain, fun d hd => ⟨hspan d hd, hsnippet barFile rfl hrows d hd (hspan d hd) true⟩⟩

end Report

end MicroRust
