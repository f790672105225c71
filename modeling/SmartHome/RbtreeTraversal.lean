import SmartHome.RbtreeErasure

/-!
# From node to node

`rb_first` and `rb_next` meet the nodes from left to right, `rb_last` and `rb_prev` from
right to left. Both directions are one: the nodes are read towards a side.
-/

namespace SmartHome.Rbtree

open SmartHome.Library.RedBlackTrees
open SmartHome.Library.SearchTrees
open SmartHome.Library.Zippers

set_option autoImplicit false

variable {Node : Type*} [DecidableEq Node] {memory : Memory Node} {side : Side}
  {tree near far : BinaryTree (Color × Node)} {path : List (Frame (Color × Node))} {fuel : Nat}
  {item : Color × Node} {node : Node}

section Directions

/-- A list from left to right, read towards a side. -/
def reading (side : Side) (items : List Node) : List Node :=
  match side with
  | .left => items.reverse
  | .right => items

def toward (side : Side) (tree : BinaryTree (Color × Node)) : List Node :=
  reading side (nodes tree)

def later (side : Side) (path : List (Frame (Color × Node))) : List Node :=
  match side with
  | .left => ((before path).map Prod.snd).reverse
  | .right => (behind path).map Prod.snd

def earlier (side : Side) (path : List (Frame (Color × Node))) : List Node :=
  match side with
  | .left => ((behind path).map Prod.snd).reverse
  | .right => (before path).map Prod.snd

omit [DecidableEq Node] in
@[simp] theorem toward_nil (side : Side) : toward side (.nil : BinaryTree (Color × Node)) = [] := by
  cases side <;> rfl

omit [DecidableEq Node] in
theorem toward_branch (side : Side) (item : Color × Node) (near far : BinaryTree (Color × Node)) :
    toward side (branch side item near far) = toward side far ++ item.2 :: toward side near := by
  cases side <;> simp [toward, reading, branch, nodes_node]

omit [DecidableEq Node] in
theorem toward_plug (side : Side) (path : List (Frame (Color × Node)))
    (tree : BinaryTree (Color × Node)) :
    toward side (plug path tree) = earlier side path ++ (toward side tree ++ later side path) := by
  cases side <;> simp [toward, reading, nodes_plug, earlier, later]

omit [DecidableEq Node] in
theorem toward_other (side : Side) (tree : BinaryTree (Color × Node)) :
    toward side.other tree = (toward side tree).reverse := by
  cases side <;> simp [toward, reading, Side.other]

omit [DecidableEq Node] in
theorem later_here (item : Color × Node) (sibling : BinaryTree (Color × Node)) :
    later side (⟨side, item, sibling⟩ :: path) = later side path := by
  cases side <;> rfl

omit [DecidableEq Node] in
theorem later_other (item : Color × Node) (sibling : BinaryTree (Color × Node)) :
    later side (⟨side.other, item, sibling⟩ :: path) =
      item.2 :: (toward side sibling ++ later side path) := by
  cases side <;> simp [later, Side.other, before, behind, toward, reading, nodes]

omit [DecidableEq Node] in
/-- All the way on one side nothing comes behind. -/
theorem later_of_side (sides : ∀ frame ∈ path, frame.side = side) : later side path = [] := by
  induction path with
  | nil => cases side <;> rfl
  | cons frame path induction =>
      rcases frame with ⟨here, item, sibling⟩
      cases (sides _ List.mem_cons_self : here = side)
      rw [later_here]
      exact induction fun frame inside => sides frame (List.mem_cons_of_mem _ inside)

end Directions

section Steps

omit [DecidableEq Node] in
theorem descend_eq {parent : Option Node} (hangs : Hangs memory parent tree)
    (here : top tree = some node) (enough : tree.height ≤ fuel) (side : Side) :
    descend side fuel node memory = (toward side tree).getLast? := by
  rcases descend_spec side hangs here enough with ⟨inner, last, far, rfl, sides, found⟩
  rw [found, toward_plug, later_of_side sides, toward_branch]
  simp

theorem climb_eq (shows : Shows memory (plug path tree)) (here : top tree = some node)
    (enough : path.length < fuel) (side : Side) :
    climb side fuel node memory = some (later side path).head? := by
  induction fuel generalizing path tree node with
  | zero => exact absurd enough (Nat.not_lt_zero _)
  | succ fuel induction =>
      cases path with
      | nil =>
          rw [climb, shows.parent_eq here]
          cases side <;> rfl
      | cons frame path =>
          rcases frame with ⟨other, item, sibling⟩
          rw [List.length_cons] at enough
          have cell := shows.frame
          have differ := shows.children_differ here
          rw [climb, shows.parent_eq here]
          rcases Side.eq_or_eq_other other side with rfl | rfl
          · have link : memory.rbChild other item.2 = some node := cell.near.trans here
            have outer : Shows memory (plug path (branch other item tree sibling)) := shows
            simp only [above, link, if_true]
            rw [induction outer top_branch (by omega), later_here]
          · have link : memory.rbChild side item.2 = top sibling := by
              have far := cell.far
              rwa [Side.other_other] at far
            have notHere : memory.rbChild side item.2 ≠ some node := by
              rw [link]
              exact differ
            simp only [above, notHere, if_false]
            rw [later_other]
            rfl

theorem neighbor_eq (shows : Shows memory (plug path (branch side item near far)))
    (enough : (nodes (plug path (branch side item near far))).length ≤ fuel) :
    neighbor side fuel item.2 memory = some (toward side near ++ later side path).head? := by
  have cell := shows.cell
  have nearHangs := (hangs_branch.mp (shows_plug.mp shows).2.1).2.1
  have size := length_plug path (branch side item near far)
  rw [(nodes_branch_perm side item near far).length_eq, List.length_cons, List.length_append,
    nodes_length] at size
  have flat := near.height_le_numNodes
  rw [neighbor, cell.near]
  cases nearTop : top near with
  | none =>
      cases near with
      | node _ _ _ => cases nearTop
      | nil =>
          rw [toward_nil]
          exact climb_eq shows top_branch (by omega) side
  | some below =>
      have found := descend_eq nearHangs nearTop (by omega : near.height ≤ fuel) side.other
      rw [toward_other, List.getLast?_reverse] at found
      simp only [found]
      cases list : toward side near with
      | nil =>
          have inside : below ∈ toward side near := by
            have member := top_mem nearTop
            cases side <;> simpa [toward, reading] using member
          rw [list] at inside
          cases inside
      | cons first rest => rfl

omit [DecidableEq Node] in
theorem outermost_eq (shows : Shows memory tree) (enough : tree.height ≤ fuel) (side : Side) :
    outermost side fuel memory = some (toward side tree).getLast? := by
  rw [outermost, shows.root]
  cases tree with
  | nil => cases side <;> rfl
  | node item left right =>
      have found := descend_eq shows.hangs rfl enough side
      simp only [top, found]
      cases list : toward side (.node item left right) with
      | nil =>
          rw [toward, nodes_node] at list
          cases side <;> simp [reading] at list
      | cons first rest => rw [List.getLast?_eq_getLast_of_ne_nil (List.cons_ne_nil _ _)]; rfl

end Steps

section Order

omit [DecidableEq Node] in
theorem rb_ends_spec (shows : Shows memory tree) (enough : (nodes tree).length ≤ fuel) :
    rbFirst fuel memory = some (nodes tree).head? ∧
      rbLast fuel memory = some (nodes tree).getLast? := by
  rw [nodes_length] at enough
  have flat := tree.height_le_numNodes
  constructor
  · rw [rbFirst, outermost_eq shows (by omega), toward, reading, List.getLast?_reverse]
  · rw [rbLast, outermost_eq shows (by omega), toward, reading]

theorem rb_neighbors_spec {front back : List Node} (shows : Shows memory tree)
    (order : nodes tree = front ++ node :: back) (enough : (nodes tree).length ≤ fuel) :
    rbNext fuel node memory = some back.head? ∧ rbPrev fuel node memory = some front.getLast? := by
  have inside : node ∈ nodes tree := by
    rw [order]
    exact List.mem_append_right _ List.mem_cons_self
  rcases exists_plug inside with ⟨path, color, left, right, rfl⟩
  have distinct := shows.distinct
  have split := nodes_plug_node path (color, node) left right
  rw [order, List.nodup_middle, List.nodup_cons, List.mem_append, not_or] at distinct
  rw [order, List.append_cons_inj_of_notMem distinct.1.1 distinct.1.2] at split
  rcases split with ⟨rfl, -, rfl⟩
  have next := @neighbor_eq _ _ _ .right right left path fuel (color, node) shows enough
  have prev := @neighbor_eq _ _ _ .left left right path fuel (color, node) shows enough
  constructor
  · exact next
  · rw [rbPrev, prev, later, toward, reading, ← List.reverse_append, List.head?_reverse]

end Order

/-- `rb_erase` takes any node out of a red-black tree, which is red-black again with the other nodes
in their order. Its loops end, no null pointer is followed, and nothing but the nodes of the tree is
written to. -/
theorem rb_erase_keeps_red_black (redBlack : RedBlack tree) (shows : Shows memory tree)
    (inside : node ∈ nodes tree) (enough : (nodes tree).length < fuel) :
    ∃ after next, rbErase fuel node memory = some after ∧ Shows after next ∧ RedBlack next ∧
      nodes next = (nodes tree).erase node ∧
      ∀ other, other ∉ nodes tree → Agree memory after other := by
  have confined : Confined {other | other ∈ nodes tree} memory memory :=
    shows.confined fun _ _ => ⟨rfl, rfl, fun _ => rfl⟩
  have member : node ∈ {other | other ∈ nodes tree} := inside
  rcases exists_plug inside with ⟨path, color, left, right, rfl⟩
  have holds : Holds memory (plug path (.node (color, node) left right))
      (nodes (plug path (.node (color, node) left right))) := ⟨shows, rfl⟩
  rcases rb_erase_spec redBlack holds enough with ⟨after, next, erased, nextHolds, nextRedBlack⟩
  exact ⟨after, next, erased, nextHolds.shows, nextRedBlack, nextHolds.order,
    (confined.rb_erase member erased).outside⟩

def threeNodes : Memory Nat where
  rbParent node := if node = 1 then none else some 1
  rbColor _ := .black
  rbChild side node := if node = 1 then (if side = .left then some 0 else some 2) else none
  rbNode := some 1

theorem three_nodes_shows :
    Shows threeNodes
      (.node (.black, 1) (.node (.black, 0) .nil .nil) (.node (.black, 2) .nil .nil)) := by
  refine ⟨rfl, ⟨⟨rfl, rfl, rfl, rfl⟩, ⟨⟨rfl, rfl, rfl, rfl⟩, trivial, trivial⟩,
    ⟨rfl, rfl, rfl, rfl⟩, trivial, trivial⟩, ?_⟩
  decide

/-- Without its root the tree is one black node less high. -/
theorem rb_erase_keeps_red_black_root :
    ∃ after next, rbErase 4 1 threeNodes = some after ∧ Shows after next ∧ RedBlack next ∧
      nodes next = [0, 2] ∧ ∀ other, other ∉ [0, 1, 2] → Agree threeNodes after other := by
  have redBlack : RedBlack
      (.node (.black, 1) (.node (.black, 0) .nil .nil) (.node (.black, 2) .nil .nil)) :=
    ⟨rfl, 2, .black (.black .nil .nil) (.black .nil .nil)⟩
  exact rb_erase_keeps_red_black redBlack three_nodes_shows (by decide) (by decide)

/-- `rb_first`, `rb_last`, `rb_next` and `rb_prev` go through the nodes in their order, in both
directions and to both ends. -/
theorem rb_order (shows : Shows memory tree) (enough : (nodes tree).length ≤ fuel) :
    rbFirst fuel memory = some (nodes tree).head? ∧
      rbLast fuel memory = some (nodes tree).getLast? ∧
      ∀ front node back, nodes tree = front ++ node :: back →
        rbNext fuel node memory = some back.head? ∧
        rbPrev fuel node memory = some front.getLast? := by
  rcases rb_ends_spec shows enough with ⟨first, last⟩
  exact ⟨first, last, fun front node back order => rb_neighbors_spec shows order enough⟩

theorem rb_order_three :
    rbFirst 3 threeNodes = some (some 0) ∧ rbNext 3 0 threeNodes = some (some 1) ∧
      rbPrev 3 0 threeNodes = some none := by
  rcases rb_order three_nodes_shows (le_refl 3) with ⟨first, -, neighbors⟩
  have zero := neighbors [] 0 [1, 2] rfl
  exact ⟨first, zero.1, zero.2⟩

theorem map_replaced {front back : List Node} {newnode : Node}
    (distinct : (front ++ node :: back).Nodup) :
    ((front ++ node :: back).map fun other => if other = node then newnode else other) =
      front ++ newnode :: back := by
  rw [List.nodup_middle, List.nodup_cons, List.mem_append, not_or] at distinct
  have kept : ∀ items : List Node, node ∉ items →
      (items.map fun other => if other = node then newnode else other) = items := by
    intro items outside
    have same : ∀ other ∈ items, (if other = node then newnode else other) = id other :=
      fun other inside => if_neg (ne_of_mem_of_not_mem inside outside)
    rw [List.map_congr_left same, List.map_id]
  rw [List.map_append, List.map_cons, kept _ distinct.1.1, kept _ distinct.1.2, if_pos rfl]

/-- `rb_replace_node` puts a new node in the place of another: the tree keeps its shape and its
colours. -/
theorem rb_replace_keeps_red_black {newnode : Node} (redBlack : RedBlack tree)
    (shows : Shows memory tree) (inside : node ∈ nodes tree) (fresh : newnode ∉ nodes tree) :
    ∃ next, Shows (rbReplaceNode node newnode memory) next ∧ RedBlack next ∧
      nodes next = (nodes tree).map fun other => if other = node then newnode else other := by
  rcases exists_plug inside with ⟨path, color, left, right, rfl⟩
  have renamed : RedBlack (plug path (branch .left (color, newnode) left right)) :=
    RedBlack.rename redBlack
  refine ⟨_, rb_replace_node_spec shows fresh, renamed, ?_⟩
  have distinct := shows.distinct
  rw [nodes_plug_node] at distinct
  rw [nodes_plug_node, nodes_plug_node, map_replaced distinct]

theorem rb_replace_keeps_red_black_root :
    ∃ next, Shows (rbReplaceNode 1 5 threeNodes) next ∧ RedBlack next ∧ nodes next = [0, 5, 2] := by
  have redBlack : RedBlack
      (.node (.black, 1) (.node (.black, 0) .nil .nil) (.node (.black, 2) .nil .nil)) :=
    ⟨rfl, 2, .black (.black .nil .nil) (.black .nil .nil)⟩
  exact rb_replace_keeps_red_black redBlack three_nodes_shows (by decide) (by decide)

end SmartHome.Rbtree
