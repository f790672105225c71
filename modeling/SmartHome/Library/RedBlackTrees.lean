import Mathlib.Algebra.Group.Nat.Defs
import Mathlib.Data.Nat.Log
import SmartHome.Library.Zippers

/-!
# Red-black trees

No red node has a red child, and the same number of black nodes is met on every way down.
A path fits a black height if every balanced tree of that height with a black root can
be put into its hole.
-/

namespace SmartHome.Library.RedBlackTrees

open SmartHome.Library.SearchTrees
open SmartHome.Library.Zippers

set_option autoImplicit false

inductive Color
  | red
  | black
  deriving DecidableEq

variable {Item : Type*}

def rootColor : BinaryTree (Color × Item) → Color
  | .nil => .black
  | .node item _ _ => item.1

inductive Balanced : BinaryTree (Color × Item) → Nat → Prop
  | nil : Balanced .nil 0
  | red {item : Item} {left right : BinaryTree (Color × Item)} {height : Nat}
      (left_balanced : Balanced left height) (right_balanced : Balanced right height)
      (left_black : rootColor left = .black) (right_black : rootColor right = .black) :
      Balanced (.node (.red, item) left right) height
  | black {item : Item} {left right : BinaryTree (Color × Item)} {height : Nat}
      (left_balanced : Balanced left height) (right_balanced : Balanced right height) :
      Balanced (.node (.black, item) left right) (height + 1)

def RedBlack (tree : BinaryTree (Color × Item)) : Prop :=
  rootColor tree = .black ∧ ∃ height, Balanced tree height

variable {tree near far : BinaryTree (Color × Item)} {item : Item} {color : Color} {side : Side}
  {path : List (Frame (Color × Item))} {height : Nat}

section Branches

@[simp] theorem root_color_branch (item : Color × Item) :
    rootColor (branch side item near far) = item.1 := by
  cases side <;> rfl

theorem balanced_branch_red :
    Balanced (branch side (.red, item) near far) height ↔
      Balanced near height ∧ Balanced far height ∧ rootColor near = .black ∧
        rootColor far = .black := by
  constructor
  · intro balanced
    cases side with
    | left => cases balanced with | red one two three four => exact ⟨one, two, three, four⟩
    | right => cases balanced with | red one two three four => exact ⟨two, one, four, three⟩
  · rintro ⟨one, two, three, four⟩
    cases side with
    | left => exact .red one two three four
    | right => exact .red two one four three

theorem balanced_branch_black :
    Balanced (branch side (.black, item) near far) height ↔
      ∃ below, height = below + 1 ∧ Balanced near below ∧ Balanced far below := by
  constructor
  · intro balanced
    cases side with
    | left => cases balanced with | black one two => exact ⟨_, rfl, one, two⟩
    | right => cases balanced with | black one two => exact ⟨_, rfl, two, one⟩
  · rintro ⟨below, rfl, one, two⟩
    cases side with
    | left => exact .black one two
    | right => exact .black two one

theorem Balanced.branch_black (one : Balanced near height) (two : Balanced far height)
    (side : Side) (item : Item) : Balanced (branch side (.black, item) near far) (height + 1) :=
  balanced_branch_black.mpr ⟨height, rfl, one, two⟩

theorem Balanced.branch_red (one : Balanced near height) (two : Balanced far height)
    (oneBlack : rootColor near = .black) (twoBlack : rootColor far = .black) (side : Side)
    (item : Item) : Balanced (branch side (.red, item) near far) height :=
  balanced_branch_red.mpr ⟨one, two, oneBlack, twoBlack⟩

theorem exists_red (side : Side) (isRed : rootColor tree = .red) :
    ∃ item near far, tree = branch side (.red, item) near far := by
  cases tree with
  | nil => cases isRed
  | node root left right =>
      rcases root with ⟨color, item⟩
      cases (isRed : color = .red)
      rcases exists_branch side (.red, item) left right with ⟨near, far, same⟩
      exact ⟨item, near, far, same⟩

theorem exists_black (side : Side) (balanced : Balanced tree (height + 1))
    (isBlack : rootColor tree = .black) :
    ∃ item near far, tree = branch side (.black, item) near far ∧ Balanced near height ∧
      Balanced far height := by
  cases balanced with
  | red _ _ _ _ => cases isBlack
  | @black item left right _ one two =>
      cases side with
      | left => exact ⟨item, left, right, rfl, one, two⟩
      | right => exact ⟨item, right, left, rfl, two, one⟩

end Branches

section Paths

inductive Fits : List (Frame (Color × Item)) → Nat → Prop
  | root (height : Nat) : Fits [] height
  | red {side other : Side} {item upper : Item} {sibling uncle : BinaryTree (Color × Item)}
      {path : List (Frame (Color × Item))} {height : Nat} (balanced : Balanced sibling height)
      (sibling_black : rootColor sibling = .black)
      (above : Fits (⟨other, (.black, upper), uncle⟩ :: path) height) :
      Fits (⟨side, (.red, item), sibling⟩ :: ⟨other, (.black, upper), uncle⟩ :: path) height
  | black {side : Side} {item : Item} {sibling : BinaryTree (Color × Item)}
      {path : List (Frame (Color × Item))} {height : Nat} (balanced : Balanced sibling height)
      (above : Fits path (height + 1)) : Fits (⟨side, (.black, item), sibling⟩ :: path) height

def UnderBlack : List (Frame (Color × Item)) → Prop
  | [] => False
  | frame :: _ => frame.item.1 = .black

theorem Fits.plug (fits : Fits path height) (balanced : Balanced tree height)
    (colors : rootColor tree = .black ∨ UnderBlack path) : RedBlack (plug path tree) := by
  induction fits generalizing tree with
  | root height => exact ⟨colors.resolve_right id, height, balanced⟩
  | red sibling siblingBlack _ induction =>
      rcases colors with isBlack | isRed
      · apply induction _ (.inr rfl)
        exact balanced_branch_red.mpr ⟨balanced, sibling, isBlack, siblingBlack⟩
      · cases isRed
  | black sibling _ induction =>
      apply induction _ (.inl (root_color_branch _))
      exact balanced_branch_black.mpr ⟨_, rfl, balanced, sibling⟩

theorem Fits.replace {other : Side} {upper : Item} {sibling : BinaryTree (Color × Item)}
    (fits : Fits (⟨side, (color, item), sibling⟩ :: path) height) (one : Balanced near height)
    (two : Balanced far height) (oneBlack : color = .red → rootColor near = .black)
    (twoBlack : color = .red → rootColor far = .black) :
    RedBlack (Zippers.plug path (branch other (color, upper) near far)) := by
  cases fits with
  | red _ _ above =>
      exact above.plug (one.branch_red two (oneBlack rfl) (twoBlack rfl) other upper) (.inr rfl)
  | black _ above =>
      exact above.plug (one.branch_black two other upper) (.inl (root_color_branch _))

theorem Fits.sibling {sibling : BinaryTree (Color × Item)}
    (fits : Fits (⟨side, (color, item), sibling⟩ :: path) height) : Balanced sibling height := by
  cases fits with
  | red balanced _ _ => exact balanced
  | black balanced _ => exact balanced

theorem UnderBlack.red_fits {path : List (Frame (Color × Item))} (under : UnderBlack path)
    (fits : Fits path height) {sibling : BinaryTree (Color × Item)}
    (balanced : Balanced sibling height) (black : rootColor sibling = .black) (side : Side)
    (item : Item) : Fits (⟨side, (.red, item), sibling⟩ :: path) height := by
  cases path with
  | nil => cases under
  | cons frame path =>
      rcases frame with ⟨other, ⟨color, upper⟩, uncle⟩
      cases (under : color = .black)
      exact .red balanced black fits

theorem RedBlack.unplug (redBlack : RedBlack (plug path tree)) :
    ∃ height, Fits path height ∧ Balanced tree height ∧
      (rootColor tree = .black ∨ UnderBlack path) := by
  induction path generalizing tree with
  | nil =>
      rcases redBlack with ⟨isBlack, height, balanced⟩
      exact ⟨height, .root height, balanced, .inl isBlack⟩
  | cons frame path induction =>
      rcases induction redBlack with ⟨height, fits, balanced, colors⟩
      rcases frame with ⟨side, ⟨color, item⟩, sibling⟩
      cases color with
      | red =>
          rcases balanced_branch_red.mp balanced with ⟨one, two, oneBlack, twoBlack⟩
          have under : UnderBlack path := by
            rcases colors with isBlack | under
            · rw [Frame.attach, root_color_branch] at isBlack
              cases isBlack
            · exact under
          exact ⟨height, under.red_fits fits two twoBlack side item, one, .inl oneBlack⟩
      | black =>
          rcases balanced_branch_black.mp balanced with ⟨below, rfl, one, two⟩
          exact ⟨below, .black two fits, one, .inr rfl⟩

/-- The colours and the shape matter, not the items. -/
theorem RedBlack.rename {upper : Item}
    (redBlack : RedBlack (Zippers.plug path (branch side (color, item) near far))) :
    RedBlack (Zippers.plug path (branch side (color, upper) near far)) := by
  rcases redBlack.unplug with ⟨height, fits, balanced, colors⟩
  rw [root_color_branch] at colors
  apply fits.plug _ (by rwa [root_color_branch])
  cases color with
  | red =>
      rcases balanced_branch_red.mp balanced with ⟨one, two, oneBlack, twoBlack⟩
      exact one.branch_red two oneBlack twoBlack side upper
  | black =>
      rcases balanced_branch_black.mp balanced with ⟨below, rfl, one, two⟩
      exact one.branch_black two side upper

end Paths

section Heights

/-- A red-black tree is at most twice as deep as its black height. -/
theorem Balanced.depth_le (balanced : Balanced tree height) :
    tree.height ≤ 2 * height + 1 ∧ (rootColor tree = .black → tree.height ≤ 2 * height) := by
  induction balanced with
  | nil => exact ⟨Nat.zero_le _, fun _ => Nat.zero_le _⟩
  | red _ _ leftBlack rightBlack inLeft inRight =>
      have first := inLeft.2 leftBlack
      have second := inRight.2 rightBlack
      constructor
      · rw [BinaryTree.height]
        omega
      · intro isBlack
        cases isBlack
  | black _ _ inLeft inRight =>
      have first := inLeft.1
      have second := inRight.1
      rw [BinaryTree.height]
      constructor
      · omega
      · intro _
        omega

theorem Balanced.size_ge (balanced : Balanced tree height) : 2 ^ height ≤ tree.numNodes + 1 := by
  induction balanced with
  | nil => exact le_refl _
  | red _ _ _ _ inLeft _ =>
      rw [BinaryTree.numNodes]
      omega
  | black _ _ inLeft inRight =>
      rw [BinaryTree.numNodes, pow_succ]
      omega

theorem RedBlack.depth_le (redBlack : RedBlack tree) :
    tree.height ≤ 2 * Nat.log 2 (tree.numNodes + 1) := by
  rcases redBlack with ⟨isBlack, height, balanced⟩
  have deep := balanced.depth_le.2 isBlack
  have large := Nat.le_log_of_pow_le Nat.one_lt_two balanced.size_ge
  omega

end Heights

end SmartHome.Library.RedBlackTrees
