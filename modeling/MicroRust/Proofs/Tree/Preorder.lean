import Mathlib.Data.List.Basic
import MicroRust.Proofs.Tree.Levels

/-! The order in which a walk comes to nodes.

An address tells which part to take at every level, counted from zero. In the order of words an
address comes before its extensions, and these before whatever lies to the right of it, so a walk in
preorder comes to addresses in increasing order. -/

namespace MicroRust.Outline

def at? : Outline → List Nat → Option Node
  | node label _, [] => some label
  | node _ children, i :: rest => children[i]?.bind (at? · rest)

/-- There is a node at the address, and every node above it is accepted. -/
def Reachable (enter : Node → Bool) (tree : Outline) (address : List Nat) : Prop :=
  (∃ n, tree.at? address = some n) ∧
    ∀ front n, front <+: address → front ≠ address → tree.at? front = some n → enter n = true

/-- The addresses of the nodes that can be reached, in preorder. -/
structure InPreorder (enter : Node → Bool) (tree : Outline) (addresses : List (List Nat)) :
    Prop where
  ascending : addresses.Pairwise (· < ·)
  mem_iff : ∀ a, a ∈ addresses ↔ tree.Reachable enter a

mutual

def visited (enter : Node → Bool) : Outline → List (List Nat)
  | .node label children => [] :: if enter label then visitedFrom enter 0 children else []

def visitedFrom (enter : Node → Bool) (i : Nat) : List Outline → List (List Nat)
  | [] => []
  | tree :: rest => (visited enter tree).map (i :: ·) ++ visitedFrom enter (i + 1) rest

end

variable {enter : Node → Bool}

theorem reachable_nil (tree : Outline) : tree.Reachable enter [] := by
  obtain ⟨label, children⟩ := tree
  refine ⟨⟨label, rfl⟩, fun front n hfront hne => ?_⟩
  exact absurd (List.prefix_nil.1 hfront) hne

theorem reachable_cons (label : Node) (children : List Outline) (i : Nat) (rest : List Nat) :
    (node label children).Reachable enter (i :: rest) ↔
      enter label = true ∧ ∃ tree, children[i]? = some tree ∧ tree.Reachable enter rest := by
  constructor
  · rintro ⟨⟨n, hn⟩, habove⟩
    obtain ⟨tree, htree, hrest⟩ := Option.bind_eq_some_iff.1 hn
    refine ⟨habove [] label List.nil_prefix (List.cons_ne_nil i rest).symm rfl, tree, htree,
      ⟨n, hrest⟩, fun front m hfront hne hm => ?_⟩
    refine habove (i :: front) m (List.cons_prefix_cons.2 ⟨rfl, hfront⟩) ?_ ?_
    · exact fun heq => hne (List.cons.inj heq).2
    · rwa [at?, htree]
  · rintro ⟨hlabel, tree, htree, ⟨n, hn⟩, habove⟩
    refine ⟨⟨n, by rwa [at?, htree]⟩, ?_⟩
    rintro (_ | ⟨j, front⟩) m hfront hne hm
    · rwa [← Option.some.inj hm]
    · obtain ⟨rfl, htail⟩ := List.cons_prefix_cons.1 hfront
      rw [at?, htree] at hm
      exact habove front m htail (fun heq => hne (heq ▸ rfl)) hm

theorem mem_visitedFrom (trees : List Outline) (i : Nat) (a : List Nat) :
    a ∈ visitedFrom enter i trees ↔ ∃ k tree rest, trees[k]? = some tree ∧
      rest ∈ visited enter tree ∧ a = (i + k) :: rest := by
  induction trees generalizing i with
  | nil => simp [visitedFrom]
  | cons tree trees ih =>
    rw [visitedFrom, List.mem_append, List.mem_map, ih]
    constructor
    · rintro (⟨rest, hrest, rfl⟩ | ⟨k, tree', rest, htree, hrest, rfl⟩)
      · exact ⟨0, tree, rest, rfl, hrest, rfl⟩
      · exact ⟨k + 1, tree', rest, htree, hrest, by rw [Nat.add_right_comm]; rfl⟩
    · rintro ⟨_ | k, tree', rest, htree, hrest, rfl⟩
      · cases htree
        exact .inl ⟨rest, hrest, rfl⟩
      · exact .inr ⟨k, tree', rest, htree, hrest, by rw [Nat.add_right_comm]; rfl⟩

theorem mem_visited_iff (tree : Outline) (a : List Nat) :
    a ∈ tree.visited enter ↔ tree.Reachable enter a := by
  -- By the address, from the root on: each step goes down into one part.
  induction a generalizing tree with
  | nil =>
    obtain ⟨label, children⟩ := tree
    exact iff_of_true List.mem_cons_self (reachable_nil _)
  | cons i rest ih =>
    obtain ⟨label, children⟩ := tree
    have hfrom : (i :: rest) ∈ visitedFrom enter 0 children ↔
        ∃ tree, children[i]? = some tree ∧ tree.Reachable enter rest := by
      rw [mem_visitedFrom]
      constructor
      · rintro ⟨k, tree, rest', htree, hrest, heq⟩
        obtain ⟨hk, rfl⟩ := List.cons.inj heq
        rw [Nat.zero_add] at hk
        exact ⟨tree, hk ▸ htree, (ih tree).1 hrest⟩
      · rintro ⟨tree, htree, hrest⟩
        exact ⟨i, tree, rest, htree, (ih tree).2 hrest, by rw [Nat.zero_add]⟩
    rw [reachable_cons, ← hfrom, visited, List.mem_cons]
    cases enter label <;> simp

mutual

theorem pairwise_visited : ∀ tree : Outline, (tree.visited enter).Pairwise (· < ·)
  | .node label children => by
    have hchildren := pairwise_visitedFrom 0 children
    rw [visited]
    split
    · refine .cons (fun a ha => ?_) hchildren
      obtain ⟨k, -, rest, -, -, rfl⟩ := (mem_visitedFrom children 0 a).1 ha
      exact List.nil_lt_cons ..
    · exact List.pairwise_singleton ..

theorem pairwise_visitedFrom (i : Nat) :
    ∀ trees : List Outline, (visitedFrom enter i trees).Pairwise (· < ·)
  | [] => .nil
  | tree :: rest => by
    have htree := pairwise_visited tree
    have hrest := pairwise_visitedFrom (i + 1) rest
    rw [visitedFrom, List.pairwise_append]
    refine ⟨List.pairwise_map.2 (htree.imp List.cons_lt_cons_self.2), hrest, ?_⟩
    intro a ha b hb
    obtain ⟨inner, -, rfl⟩ := List.mem_map.1 ha
    obtain ⟨k, -, outer, -, -, rfl⟩ := (mem_visitedFrom rest (i + 1) b).1 hb
    exact List.cons_lt_cons_iff.2 (.inl (by omega))

end

theorem inPreorder_visited (tree : Outline) : tree.InPreorder enter (tree.visited enter) :=
  ⟨pairwise_visited tree, mem_visited_iff tree⟩

mutual

theorem map_at?_visited : ∀ tree : Outline,
    (tree.visited enter).map tree.at? = (tree.inspect enter).map some
  | .node label children => by
    have hchildren := map_at?_visitedFrom label children 0 children rfl
    rw [visited, inspect, List.map_cons, List.map_cons, at?]
    split
    · rw [hchildren]
    · rfl

theorem map_at?_visitedFrom (label : Node) (all : List Outline) (i : Nat) :
    ∀ trees : List Outline, all.drop i = trees →
      (visitedFrom enter i trees).map (node label all).at? = (inspectAll enter trees).map some
  | [], _ => rfl
  | tree :: rest, h => by
    have htree := map_at?_visited tree
    have hi : all[i]? = some tree := by
      rw [← Nat.add_zero i, ← List.getElem?_drop, h]
      rfl
    have hdrop : all.drop (i + 1) = rest := by
      rw [← List.drop_drop, h]
      rfl
    have hat : (node label all).at? ∘ (i :: ·) = tree.at? := by
      funext a
      rw [Function.comp_apply, at?, hi]
      rfl
    rw [visitedFrom, inspectAll, List.map_append, List.map_append, List.map_map, hat, htree,
      map_at?_visitedFrom label all (i + 1) rest hdrop]

end

mutual

theorem map_fst_nodesAt (d : Nat) : ∀ tree : Outline,
    (nodesAt d tree).map (·.1) = (tree.visited fun _ => true).map (d + ·.length)
  | .node label children => by
    have hchildren := map_fst_nodesOfAll d 0 children
    rw [visited, nodesAt, List.map_cons, List.map_cons, if_pos rfl, hchildren]
    rfl

theorem map_fst_nodesOfAll (d i : Nat) : ∀ trees : List Outline,
    (nodesOfAll (d + 1) trees).map (·.1) =
      (visitedFrom (fun _ => true) i trees).map (d + ·.length)
  | [] => rfl
  | tree :: rest => by
    have htree := map_fst_nodesAt (d + 1) tree
    have hlength : (d + ·.length) ∘ (i :: ·) = (d + 1 + ·.length : List Nat → Nat) := by
      funext a
      rw [Function.comp_apply, List.length_cons]
      omega
    rw [visitedFrom, nodesOfAll, List.map_append, List.map_append, List.map_map, hlength, htree,
      map_fst_nodesOfAll d (i + 1) rest]

end

mutual

theorem nodes_eq_inspect : ∀ tree : Outline, tree.nodes = tree.inspect fun _ => true
  | .node label children => by
    rw [nodes_node, inspect, if_pos rfl, flatMap_nodes_eq_inspectAll children]

theorem flatMap_nodes_eq_inspectAll : ∀ trees : List Outline,
    trees.flatMap nodes = inspectAll (fun _ => true) trees
  | [] => rfl
  | tree :: rest => by
    rw [List.flatMap_cons, inspectAll, nodes_eq_inspect tree, flatMap_nodes_eq_inspectAll rest]

end

theorem map_visited_eq_nodesAt (tree : Outline) :
    (tree.visited fun _ => true).map (fun a => (a.length, tree.at? a)) =
      (nodesAt 0 tree).map fun v => (v.1, some v.2) := by
  have hdepths : (tree.visited fun _ => true).map List.length = (nodesAt 0 tree).map (·.1) := by
    rw [map_fst_nodesAt]
    simp only [Nat.zero_add]
  have hnodes : (tree.visited fun _ => true).map tree.at? =
      (nodesAt 0 tree).map (some ·.2) := by
    rw [map_at?_visited, ← nodes_eq_inspect, nodes, List.map_map]
    rfl
  rw [← List.zip_map', hdepths, hnodes, List.zip_map']

end MicroRust.Outline
