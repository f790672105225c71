import Mathlib.Data.List.Pairwise
import Mathlib.Data.List.Perm.Basic
import Mathlib.Data.Tree.Basic
import Mathlib.Order.Lattice
import Mathlib.Tactic.SplitIfs

/-!
# Search trees

Binary trees whose items have keys. `inorder` lists the items from left to right; a
tree is a search tree if the keys ascend in it, each once. What keeps this order,
such as a rotation, keeps every search.
-/

namespace SmartHome.Library.SearchTrees

set_option autoImplicit false

variable {Item Key : Type*} [LinearOrder Key]

def inorder : BinaryTree Item → List Item
  | .nil => []
  | .node item left right => inorder left ++ item :: inorder right

def Ascending (key : Item → Key) (items : List Item) : Prop :=
  items.Pairwise fun item other => key item < key other

def find (key : Item → Key) (wanted : Key) : BinaryTree Item → Option Item
  | .nil => none
  | .node item left right =>
      if key item < wanted then find key wanted right
      else if wanted < key item then find key wanted left
      else some item

/-- A new leaf where the search ends, or the item that has the key already. -/
def insertLeaf (key : Item → Key) (new : Item) : BinaryTree Item → Except Item (BinaryTree Item)
  | .nil => .ok (.node new .nil .nil)
  | .node item left right =>
      if key new < key item then (insertLeaf key new left).map fun left => .node item left right
      else if key item < key new then
        (insertLeaf key new right).map fun right => .node item left right
      else .error item

variable {key : Item → Key} {tree : BinaryTree Item} {item new : Item} {items front back : List Item}

theorem ascending_middle :
    Ascending key (front ++ item :: back) ↔
      Ascending key front ∧ Ascending key back ∧ (∀ other ∈ front, key other < key item) ∧
        (∀ other ∈ back, key item < key other) := by
  unfold Ascending
  rw [List.pairwise_append, List.pairwise_cons]
  constructor
  · rintro ⟨before, ⟨above, behind⟩, across⟩
    exact ⟨before, behind, fun other member => across other member item List.mem_cons_self, above⟩
  · rintro ⟨before, behind, below, above⟩
    refine ⟨before, ⟨above, behind⟩, ?_⟩
    intro other member later inside
    rcases List.mem_cons.mp inside with rfl | further
    · exact below other member
    · exact (below other member).trans (above later further)

/-- A search finds the one item with the key, if there is one. -/
theorem find_eq_some_iff (ascending : Ascending key (inorder tree)) (wanted : Key) :
    find key wanted tree = some item ↔ item ∈ inorder tree ∧ key item = wanted := by
  induction tree with
  | nil => simp [find, inorder]
  | node root left right inLeft inRight =>
      rcases ascending_middle.mp ascending with ⟨before, behind, below, above⟩
      rw [inorder, List.mem_append, List.mem_cons, find]
      split_ifs with larger smaller
      · rw [inRight behind]
        constructor
        · exact fun found => ⟨.inr (.inr found.1), found.2⟩
        · rintro ⟨member, rfl⟩
          rcases member with inside | rfl | inside
          · exact absurd (below item inside) larger.asymm
          · exact absurd larger (lt_irrefl _)
          · exact ⟨inside, rfl⟩
      · rw [inLeft before]
        constructor
        · exact fun found => ⟨.inl found.1, found.2⟩
        · rintro ⟨member, rfl⟩
          rcases member with inside | rfl | inside
          · exact ⟨inside, rfl⟩
          · exact absurd smaller (lt_irrefl _)
          · exact absurd (above item inside) larger
      · have here : key root = wanted := le_antisymm (not_lt.mp smaller) (not_lt.mp larger)
        rw [Option.some.injEq]
        constructor
        · rintro rfl
          exact ⟨.inr (.inl rfl), here⟩
        · rintro ⟨member, same⟩
          rcases member with inside | rfl | inside
          · exact absurd (same.trans here.symm) (below item inside).ne
          · rfl
          · exact absurd (same.trans here.symm) (above item inside).ne'

/-- An item with a key of its own is inserted into the order. -/
theorem insert_leaf_ok (ascending : Ascending key (inorder tree))
    (unused : ∀ item ∈ inorder tree, key item ≠ key new) :
    ∃ after, insertLeaf key new tree = .ok after ∧ (inorder after).Perm (new :: inorder tree) ∧
      Ascending key (inorder after) := by
  induction tree with
  | nil => exact ⟨.node new .nil .nil, rfl, List.Perm.refl _, List.pairwise_singleton _ _⟩
  | node root left right inLeft inRight =>
      rcases ascending_middle.mp ascending with ⟨before, behind, below, above⟩
      have notRoot : key root ≠ key new := unused root (by simp [inorder])
      rw [insertLeaf]
      rcases lt_or_gt_of_ne notRoot with larger | smaller
      · rcases inRight behind (fun item member => unused item (by simp [inorder, member])) with
          ⟨after, inserted, perm, sorted⟩
        refine ⟨.node root left after, ?_, ?_, ?_⟩
        · rw [if_neg larger.asymm, if_pos larger, inserted]
          rfl
        · have moved : (inorder left ++ [root] ++ new :: inorder right).Perm
              (new :: (inorder left ++ [root] ++ inorder right)) := List.perm_middle
          rw [List.append_assoc, List.append_assoc, List.singleton_append,
            List.singleton_append] at moved
          exact ((perm.cons root).append_left (inorder left)).trans moved
        · apply ascending_middle.mpr
          refine ⟨before, sorted, below, ?_⟩
          intro item member
          rcases List.mem_cons.mp (perm.subset member) with rfl | inside
          · exact larger
          · exact above item inside
      · rcases inLeft before (fun item member => unused item (by simp [inorder, member])) with
          ⟨after, inserted, perm, sorted⟩
        refine ⟨.node root after right, ?_, ?_, ?_⟩
        · rw [if_pos smaller, inserted]
          rfl
        · exact perm.append_right (root :: inorder right)
        · apply ascending_middle.mpr
          refine ⟨sorted, behind, ?_, above⟩
          intro item member
          rcases List.mem_cons.mp (perm.subset member) with rfl | inside
          · exact smaller
          · exact below item inside

theorem inorder_map {Other : Type*} (f : Item → Other) (tree : BinaryTree Item) :
    inorder (tree.map f) = (inorder tree).map f := by
  induction tree with
  | nil => rfl
  | node item left right inLeft inRight =>
      rw [BinaryTree.map, inorder, inLeft, inRight, inorder, List.map_append, List.map_cons]

/-- Two ascending lists of the same items are one list. -/
theorem Ascending.perm_eq {other : List Item} (one : Ascending key items)
    (two : Ascending key other) (perm : items.Perm other) : items = other := by
  apply perm.eq_of_pairwise _ one two
  intro first second _ _ below above
  exact absurd below above.asymm

section Unbalanced

def join : BinaryTree Item → BinaryTree Item → BinaryTree Item
  | .nil, other => other
  | .node item left right, other => .node item left (join right other)

def eraseItem [DecidableEq Item] (gone : Item) : BinaryTree Item → BinaryTree Item
  | .nil => .nil
  | .node item left right =>
      if gone ∈ inorder left then .node item (eraseItem gone left) right
      else if item = gone then join left right
      else .node item left (eraseItem gone right)

theorem inorder_join (left right : BinaryTree Item) :
    inorder (join left right) = inorder left ++ inorder right := by
  induction left with
  | nil => rfl
  | node item first second _ induction =>
      rw [join, inorder, induction, inorder, List.append_assoc, List.cons_append]

theorem inorder_erase_item [DecidableEq Item] (gone : Item) (tree : BinaryTree Item) :
    inorder (eraseItem gone tree) = (inorder tree).erase gone := by
  induction tree with
  | nil => rfl
  | node item left right inLeft inRight =>
      rw [eraseItem, inorder, List.erase_append]
      split_ifs with before here
      · rw [inorder, inLeft]
      · subst here
        rw [inorder_join, List.erase_cons_head]
      · rw [inorder, inRight, List.erase_cons_tail]
        simpa using here

end Unbalanced

end SmartHome.Library.SearchTrees
