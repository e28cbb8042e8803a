import Mathlib.Data.List.Forall2
import MicroRust.Proofs.Source.Lines
import MicroRust.Proofs.Tree.NodeText
import MicroRust.Proofs.Tree.Preorder

/-! Drawn trees, and how they are read back.

In a line, one unit of three characters for each level stands in front of the text of the node.
Units are told from texts, which begin with a capital letter, and lines from each other, since no
text holds a line end. So the depths and the texts of all nodes are in the drawing, and they make
the tree: a node is below the last one before it that is less deep. -/

namespace MicroRust

open Text

def Outline.units : List String := ["├─ ", "╰─ ", "│  ", "   "]

/-- A text of one unit for each level. -/
def Margin (depth : Nat) (s : String) : Prop :=
  ∃ units : List String, (∀ u ∈ units, u ∈ Outline.units) ∧ units.length = depth ∧
    s = String.join units

def Outline.dump (tree : Outline) : String := String.join (tree.lines.map (· ++ "\n"))

inductive Drawing where
  | node (text : String) (children : List Drawing)

namespace Outline

mutual

/-- What a drawing of the tree shows. -/
def drawing : Outline → Drawing
  | .node label children => .node label.text (drawings children)

def drawings : List Outline → List Drawing
  | [] => []
  | tree :: rest => drawing tree :: drawings rest

end

end Outline

namespace Drawing

def at? : Drawing → List Nat → Option String
  | node text _, [] => some text
  | node _ children, i :: rest => children[i]?.bind (at? · rest)

def dropUnits : List Char → Nat × List Char
  | a :: b :: c :: rest =>
    if String.ofList [a, b, c] ∈ Outline.units then
      let (depth, text) := dropUnits rest
      (depth + 1, text)
    else (0, a :: b :: c :: rest)
  | text => (0, text)

/-- Puts a line in front of trees. Those that are deeper, up to the first that is not, belong to its
node. -/
def gather (line : Nat × List Char) (trees : List (Nat × Drawing)) : List (Nat × Drawing) :=
  (line.1, node (String.ofList line.2) ((trees.takeWhile (line.1 < ·.1)).map (·.2))) ::
    trees.dropWhile (line.1 < ·.1)

def read? (text : String) : Option Drawing :=
  match (((text.toList.splitOn '\n').dropLast).map dropUnits).foldr gather [] with
  | [(0, tree)] => some tree
  | _ => none

end Drawing

theorem margin_nil : Margin 0 "" := ⟨[], nofun, rfl, rfl⟩

theorem Margin.append {depth : Nat} {s u : String} (h : Margin depth s) (hu : u ∈ Outline.units) :
    Margin (depth + 1) (s ++ u) := by
  obtain ⟨units, hunits, hlength, rfl⟩ := h
  refine ⟨units ++ [u], ?_, ?_, ?_⟩
  · exact List.forall_mem_append.2 ⟨hunits, List.forall_mem_singleton.2 hu⟩
  · rw [List.length_append, hlength, List.length_singleton]
  · rw [String.join_append]
    simp

def LineOf (line : String) (visit : Nat × Node) : Prop :=
  ∃ margin, Margin visit.1 margin ∧ line = margin ++ visit.2.text

namespace Outline

mutual

theorem forall₂_linesFrom {depth : Nat} {first rest : String} (hfirst : Margin depth first)
    (hrest : Margin depth rest) :
    ∀ tree : Outline, List.Forall₂ LineOf (linesFrom first rest tree) (nodesAt depth tree)
  | .node _ children => .cons ⟨first, hfirst, rfl⟩ (forall₂_linesOfAll hrest children)

theorem forall₂_linesOfAll {depth : Nat} {margin : String} (h : Margin depth margin) :
    ∀ trees : List Outline,
      List.Forall₂ LineOf (linesOfAll margin trees) (nodesOfAll (depth + 1) trees)
  | [] => .nil
  | [tree] => by
    have htree := forall₂_linesFrom (h.append (u := "╰─ ") (by decide))
      (h.append (u := "   ") (by decide)) tree
    rwa [linesOfAll, nodesOfAll, nodesOfAll, List.append_nil]
  | tree :: next :: rest => by
    have htree := forall₂_linesFrom (h.append (u := "├─ ") (by decide))
      (h.append (u := "│  ") (by decide)) tree
    exact List.rel_append htree (forall₂_linesOfAll h (next :: rest))

end

theorem forall₂_lines (tree : Outline) : List.Forall₂ LineOf tree.lines (nodesAt 0 tree) :=
  forall₂_linesFrom margin_nil margin_nil tree

end Outline

theorem splitOn_join {lines : List String} (h : ∀ line ∈ lines, '\n' ∉ line.toList) :
    (String.join (lines.map (· ++ "\n"))).toList.splitOn '\n' =
      lines.map String.toList ++ [[]] := by
  induction lines with
  | nil => rfl
  | cons line lines ih =>
    obtain ⟨hline, hlines⟩ := List.forall_mem_cons.1 h
    have htext : (String.join ((line :: lines).map (· ++ "\n"))).toList =
        line.toList ++ '\n' :: (String.join (lines.map (· ++ "\n"))).toList := by
      rw [List.map_cons, String.join_cons, String.toList_append, String.toList_append,
        List.append_assoc]
      rfl
    rw [htext, splitOn_line hline, ih hlines]
    rfl

namespace Drawing

theorem dropUnits_unit {u : String} (hu : u ∈ Outline.units) (rest : List Char) :
    dropUnits (u.toList ++ rest) = ((dropUnits rest).1 + 1, (dropUnits rest).2) := by
  simp only [Outline.units, List.mem_cons, List.not_mem_nil, or_false] at hu
  rcases hu with rfl | rfl | rfl | rfl <;> rfl

theorem dropUnits_of_capital {s : String} (h : Capital s) : dropUnits s.toList = (0, s.toList) := by
  unfold Capital at h
  unfold dropUnits
  split
  · rename_i a b c rest hs
    rw [hs] at h ⊢
    refine if_neg fun hunit => ?_
    have hfront : ∀ u ∈ Outline.units, u.toList.head?.any Char.isUpper = false := by decide
    have hlow := hfront _ hunit
    rw [String.toList_ofList] at hlow
    rw [List.head?_cons] at h hlow
    rw [h] at hlow
    cases hlow
  · rfl

theorem dropUnits_line {line : String} {visit : Nat × Node} (h : LineOf line visit) :
    dropUnits line.toList = (visit.1, visit.2.text.toList) := by
  obtain ⟨_, ⟨units, hunits, hlength, rfl⟩, rfl⟩ := h
  rw [String.toList_append, String.toList_join, ← hlength]
  clear hlength
  induction units with
  | nil => exact dropUnits_of_capital visit.2.capital_text
  | cons u units ih =>
    obtain ⟨hu, hunits⟩ := List.forall_mem_cons.1 hunits
    rw [List.flatMap_cons, List.append_assoc, dropUnits_unit hu, ih hunits]
    rfl

theorem map_dropUnits {lines : List String} {visits : List (Nat × Node)}
    (h : List.Forall₂ LineOf lines visits) :
    lines.map (dropUnits ·.toList) = visits.map fun v => (v.1, v.2.text.toList) := by
  induction h with
  | nil => rfl
  | cons hline _ ih => rw [List.map_cons, List.map_cons, dropUnits_line hline, ih]

end Drawing

theorem Margin.plain {depth : Nat} {s : String} (h : Margin depth s) : Plain s.toList := by
  obtain ⟨units, hunits, -, rfl⟩ := h
  have hplain : ∀ u ∈ Outline.units, Plain u.toList := by decide
  intro c hc
  rw [String.toList_join] at hc
  obtain ⟨u, hu, hcu⟩ := List.mem_flatMap.1 hc
  exact hplain u (hunits u hu) c hcu

theorem plain_of_forall₂ {lines : List String} {visits : List (Nat × Node)}
    (h : List.Forall₂ LineOf lines visits) (hplain : ∀ v ∈ visits, Plain v.2.text.toList) :
    ∀ line ∈ lines, Plain line.toList := by
  induction h with
  | nil => exact nofun
  | cons hline _ ih =>
    obtain ⟨hfirst, hrest⟩ := List.forall_mem_cons.1 hplain
    obtain ⟨margin, hmargin, rfl⟩ := hline
    rw [List.forall_mem_cons, String.toList_append, plain_append]
    exact ⟨⟨hmargin.plain, hfirst⟩, ih hrest⟩

theorem Drawing.gather_append {depth : Nat} {deeper pending : List (Nat × Drawing)}
    (hdeeper : ∀ tree ∈ deeper, depth < tree.1) (hpending : ∀ tree ∈ pending, tree.1 ≤ depth)
    (text : List Char) :
    gather (depth, text) (deeper ++ pending) =
      (depth, node (String.ofList text) (deeper.map (·.2))) :: pending := by
  have hall : ∀ tree ∈ deeper, decide (depth < tree.1) = true :=
    fun tree ht => decide_eq_true (hdeeper tree ht)
  have hstop : pending.takeWhile (depth < ·.1) = [] ∧
      pending.dropWhile (depth < ·.1) = pending := by
    cases pending with
    | nil => exact ⟨rfl, rfl⟩
    | cons next pending =>
      have hnext : ¬ decide (depth < next.1) = true := by
        rw [decide_eq_true_eq]
        exact Nat.not_lt.2 (hpending next List.mem_cons_self)
      exact ⟨List.takeWhile_cons_of_neg hnext, List.dropWhile_cons_of_neg hnext⟩
  rw [gather, List.takeWhile_append_of_pos hall, List.dropWhile_append_of_pos hall, hstop.1,
    hstop.2, List.append_nil]

namespace Outline

-- Lines are taken from the last one on. What was made of those behind a node is no deeper than it,
-- so the line of the node leaves it alone.
mutual

theorem foldr_gather_nodesAt {depth : Nat} {pending : List (Nat × Drawing)}
    (h : ∀ tree ∈ pending, tree.1 ≤ depth) : ∀ tree : Outline,
    ((nodesAt depth tree).map fun v => (v.1, v.2.text.toList)).foldr Drawing.gather pending =
      (depth, tree.drawing) :: pending
  | .node label children => by
    have hnext : ∀ tree ∈ pending, tree.1 ≤ depth + 1 :=
      fun tree ht => Nat.le_succ_of_le (h tree ht)
    have hchildren := foldr_gather_nodesOfAll hnext children
    have hdeeper : ∀ tree ∈ (drawings children).map (depth + 1, ·), depth < tree.1 :=
      List.forall_mem_map.2 fun _ _ => Nat.lt_succ_self depth
    have htexts : ((drawings children).map (depth + 1, ·)).map (·.2) = drawings children := by
      rw [List.map_map]
      exact List.map_id _
    rw [nodesAt, List.map_cons, List.foldr_cons, hchildren, Drawing.gather_append hdeeper h,
      String.ofList_toList, htexts, drawing]

theorem foldr_gather_nodesOfAll {depth : Nat} {pending : List (Nat × Drawing)}
    (h : ∀ tree ∈ pending, tree.1 ≤ depth) : ∀ trees : List Outline,
    ((nodesOfAll depth trees).map fun v => (v.1, v.2.text.toList)).foldr Drawing.gather pending =
      (drawings trees).map (depth, ·) ++ pending
  | [] => rfl
  | tree :: rest => by
    have hrest := foldr_gather_nodesOfAll h rest
    have hpending : ∀ next ∈ (drawings rest).map (depth, ·) ++ pending, next.1 ≤ depth := by
      rw [List.forall_mem_append, List.forall_mem_map]
      exact ⟨fun _ _ => Nat.le_refl depth, h⟩
    rw [nodesOfAll, List.map_append, List.foldr_append, hrest, foldr_gather_nodesAt hpending tree]
    rfl

end

theorem read?_dump (tree : Outline) (h : tree.Every (Plain ·.text.toList)) :
    Drawing.read? tree.dump = some tree.drawing := by
  have hplain := plain_of_forall₂ tree.forall₂_lines fun v hv => h v.2 (List.mem_map_of_mem hv)
  have hlines : ∀ line ∈ tree.lines, '\n' ∉ line.toList := by
    intro line hline hmem
    have hle := hplain line hline '\n' hmem
    exact absurd hle (by decide)
  have hread := @foldr_gather_nodesAt 0 [] nofun tree
  rw [← Drawing.map_dropUnits tree.forall₂_lines] at hread
  rw [Drawing.read?, dump, splitOn_join hlines, List.dropLast_concat, List.map_map,
    Function.comp_def, hread]
  rfl

theorem drawings_eq_map (trees : List Outline) : drawings trees = trees.map drawing := by
  induction trees with
  | nil => rfl
  | cons tree trees ih => rw [drawings, ih, List.map_cons]

theorem at?_drawing (tree : Outline) (a : List Nat) :
    tree.drawing.at? a = (tree.at? a).map Node.text := by
  induction a generalizing tree with
  | nil =>
    cases tree
    rfl
  | cons i rest ih =>
    obtain ⟨label, children⟩ := tree
    rw [drawing, drawings_eq_map, Drawing.at?, at?, List.getElem?_map]
    cases children[i]? with
    | none => rfl
    | some tree => exact ih tree

end Outline

/-- A walk through a crate comes to the nodes that have no refused node above them, in preorder, and
a walk without refusals comes to all nodes. The drawing has one line for each of these, indented by
its depth. From the drawing alone the tree of texts is read back, so two crates with one drawing
have one shape and the same text at every node. -/
theorem parse_dump {source : Source} {crate : Crate} (h : source.parse = .ok crate) :
    (∀ enter, ∃ addresses, crate.outline.InPreorder enter addresses ∧
      addresses.map crate.outline.at? = (crate.outline.inspect enter).map some) ∧
    crate.outline.nodes = crate.outline.inspect (fun _ => true) ∧
    (∃ addresses, crate.outline.InPreorder (fun _ => true) addresses ∧
      addresses.map (fun a => (a.length, crate.outline.at? a)) =
        (crate.outline.nodesAt 0).map fun v => (v.1, some v.2)) ∧
    List.Forall₂ LineOf crate.outline.lines (crate.outline.nodesAt 0) ∧
    Drawing.read? crate.outline.dump = some crate.outline.drawing ∧
    ∀ (other : Source) (crate' : Crate), other.parse = .ok crate' →
      crate'.outline.dump = crate.outline.dump →
      ∀ a, (crate'.outline.at? a).map Node.text = (crate.outline.at? a).map Node.text := by
  have hread := crate.outline.read?_dump (plain_text_of_parse h)
  refine ⟨fun enter => ⟨_, crate.outline.inPreorder_visited, crate.outline.map_at?_visited⟩,
    crate.outline.nodes_eq_inspect,
    ⟨_, crate.outline.inPreorder_visited, crate.outline.map_visited_eq_nodesAt⟩,
    crate.outline.forall₂_lines, hread, fun other crate' h' hdump a => ?_⟩
  have hread' := crate'.outline.read?_dump (plain_text_of_parse h')
  rw [hdump, hread] at hread'
  rw [← Outline.at?_drawing, ← Outline.at?_drawing, Option.some.inj hread']

def shortSource : Source := ⟨"short.rs", "fn f() { x }".toUTF8.toList, none⟩

def notedSource : Source := ⟨"noted.rs", "fn f() { x } // f\n".toUTF8.toList, none⟩

def shortDump : String :=
  "Crate\n" ++
  "╰─ Function \"f\" <1:1>-<1:13>\n" ++
  "   ├─ Function Prototype: f -> ()\n" ++
  "   ╰─ Block <1:8>-<1:13>\n" ++
  "      ╰─ Path <1:10>-<1:11> x\n"

theorem parse_dump_shortSource :
    ∃ crate crate', shortSource.parse = .ok crate ∧ notedSource.parse = .ok crate' ∧
      crate.outline.dump = shortDump ∧ crate'.outline.dump = shortDump ∧
      Drawing.read? shortDump = some crate.outline.drawing ∧
      ∀ a, (crate'.outline.at? a).map Node.text = (crate.outline.at? a).map Node.text := by
  have hshort : shortSource.parse.toOption.map (·.outline.dump) = some shortDump := by
    decide +kernel
  have hnoted : notedSource.parse.toOption.map (·.outline.dump) = some shortDump := by
    decide +kernel
  cases h : shortSource.parse with
  | error e =>
    rw [h] at hshort
    cases hshort
  | ok crate =>
    cases h' : notedSource.parse with
    | error e =>
      rw [h'] at hnoted
      cases hnoted
    | ok crate' =>
      rw [h] at hshort
      rw [h'] at hnoted
      have hdump := Option.some.inj hshort
      have hdump' := Option.some.inj hnoted
      obtain ⟨-, -, -, -, hread, hsame⟩ := parse_dump h
      refine ⟨crate, crate', rfl, rfl, hdump, hdump', ?_, ?_⟩
      · rwa [← hdump]
      · exact hsame notedSource crate' h' (hdump'.trans hdump.symm)

end MicroRust
