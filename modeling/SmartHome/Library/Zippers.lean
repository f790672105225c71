import SmartHome.Library.SearchTrees

/-!
# Places in a binary tree

The path from a place up to the root has one frame for each node above, the nearest one
first, with the subtree on its other side. Trees that are mirror images of each other are
treated alike: a side says where the hole is.
-/

namespace SmartHome.Library.Zippers

open SmartHome.Library.SearchTrees

set_option autoImplicit false

variable {Item : Type*}

inductive Side
  | left
  | right
  deriving DecidableEq

def Side.other : Side → Side
  | .left => .right
  | .right => .left

@[simp] theorem Side.other_other (side : Side) : side.other.other = side := by
  cases side <;> rfl

@[simp] theorem Side.other_ne (side : Side) : side.other ≠ side := by
  cases side <;> decide

theorem Side.eq_or_eq_other (side other : Side) : side = other ∨ side = other.other := by
  cases side <;> cases other <;> decide

def branch (side : Side) (item : Item) (near far : BinaryTree Item) : BinaryTree Item :=
  match side with
  | .left => .node item near far
  | .right => .node item far near

theorem branch_other (side : Side) (item : Item) (near far : BinaryTree Item) :
    branch side.other item near far = branch side item far near := by
  cases side <;> rfl

theorem exists_branch (side : Side) (item : Item) (left right : BinaryTree Item) :
    ∃ near far, BinaryTree.node item left right = branch side item near far := by
  cases side with
  | left => exact ⟨left, right, rfl⟩
  | right => exact ⟨right, left, rfl⟩

structure Frame (Item : Type*) where
  side : Side
  item : Item
  sibling : BinaryTree Item

def Frame.attach (frame : Frame Item) (tree : BinaryTree Item) : BinaryTree Item :=
  branch frame.side frame.item tree frame.sibling

def plug : List (Frame Item) → BinaryTree Item → BinaryTree Item
  | [], tree => tree
  | frame :: path, tree => plug path (frame.attach tree)

theorem plug_sibling (side : Side) (item : Item) (near far : BinaryTree Item)
    (path : List (Frame Item)) :
    plug (⟨side.other, item, near⟩ :: path) far = plug (⟨side, item, far⟩ :: path) near := by
  rw [plug, plug, Frame.attach, Frame.attach, branch_other]

variable {path : List (Frame Item)} {tree : BinaryTree Item}

theorem plug_append (inner outer : List (Frame Item)) (tree : BinaryTree Item) :
    plug (inner ++ outer) tree = plug outer (plug inner tree) := by
  induction inner generalizing tree with
  | nil => rfl
  | cons frame inner induction => exact induction (frame.attach tree)

section Order

def before : List (Frame Item) → List Item
  | [] => []
  | frame :: path =>
      match frame.side with
      | .left => before path
      | .right => before path ++ (inorder frame.sibling ++ [frame.item])

def behind : List (Frame Item) → List Item
  | [] => []
  | frame :: path =>
      match frame.side with
      | .left => frame.item :: inorder frame.sibling ++ behind path
      | .right => behind path

theorem inorder_plug (path : List (Frame Item)) (tree : BinaryTree Item) :
    inorder (plug path tree) = before path ++ (inorder tree ++ behind path) := by
  induction path generalizing tree with
  | nil => simp [plug, before, behind]
  | cons frame path induction =>
      rcases frame with ⟨side, item, sibling⟩
      rw [plug, induction]
      cases side with
      | left => simp [Frame.attach, branch, inorder, before, behind]
      | right => simp [Frame.attach, branch, inorder, before, behind]

theorem inorder_plug_congr {tree other : BinaryTree Item} (same : inorder tree = inorder other)
    (path : List (Frame Item)) : inorder (plug path tree) = inorder (plug path other) := by
  rw [inorder_plug, inorder_plug, same]

/-- All the way down on the left there is nothing to the left. -/
theorem before_of_left (left : ∀ frame ∈ path, frame.side = .left) : before path = [] := by
  induction path with
  | nil => rfl
  | cons frame path induction =>
      rcases frame with ⟨side, item, sibling⟩
      cases (left _ List.mem_cons_self : side = .left)
      exact induction fun frame inside => left frame (List.mem_cons_of_mem _ inside)

/-- A rotation moves no item past another. -/
theorem inorder_rotated (side : Side) (lower upper : Item) (near inner far : BinaryTree Item) :
    inorder (branch side upper (branch side lower near inner) far) =
      inorder (branch side lower near (branch side upper inner far)) := by
  cases side <;> simp [branch, inorder]

end Order

section Items

def around : List (Frame Item) → List Item
  | [] => []
  | frame :: path => frame.item :: (inorder frame.sibling ++ around path)

theorem inorder_branch_perm (side : Side) (item : Item) (near far : BinaryTree Item) :
    (inorder (branch side item near far)).Perm (item :: (inorder near ++ inorder far)) := by
  cases side with
  | left => exact List.perm_middle
  | right => exact List.perm_middle.trans (List.perm_append_comm.cons item)

theorem inorder_plug_perm (path : List (Frame Item)) (tree : BinaryTree Item) :
    (inorder (plug path tree)).Perm (inorder tree ++ around path) := by
  induction path generalizing tree with
  | nil => rw [plug, around, List.append_nil]
  | cons frame path induction =>
      have first := (inorder_branch_perm frame.side frame.item tree frame.sibling).append_right
        (around path)
      have moved : (frame.item :: (inorder tree ++ (inorder frame.sibling ++ around path))).Perm
          (inorder tree ++ frame.item :: (inorder frame.sibling ++ around path)) :=
        List.perm_middle.symm
      rw [List.cons_append, List.append_assoc] at first
      exact (induction _).trans (first.trans moved)

end Items

end SmartHome.Library.Zippers
