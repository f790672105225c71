import SmartHome.RbtreeInsertion

/-!
# Erasure

While `__rb_erase_color` runs, the tree is red-black but for one hole: what is in it has a
black node less on every way down than the path around it wants. A round moves the hole
one level up, or it ends the loop with at most three rotations.
-/

namespace SmartHome.Rbtree

open SmartHome.Library.RedBlackTrees
open SmartHome.Library.SearchTrees
open SmartHome.Library.Zippers

set_option autoImplicit false

variable {Node : Type*} [DecidableEq Node] {memory : Memory Node} {order : List Node}
  {side : Side} {tree sibling near far : BinaryTree (Color × Node)}
  {path : List (Frame (Color × Node))} {height fuel : Nat} {node parent other : Node}
  {color : Color}

omit [DecidableEq Node] in
theorem Shows.is_black (shows : Shows memory (plug path tree)) :
    isBlack memory (top tree) = true ↔ rootColor tree = .black := by
  cases tree with
  | nil => exact ⟨fun _ => rfl, fun _ => rfl⟩
  | node item left right =>
      have whole : Shows memory (plug path (branch .left item left right)) := shows
      have read : memory.rbColor item.2 = item.1 := whole.cell.color
      rw [top, isBlack, decide_eq_true_iff, read]
      rfl

theorem Holds.paint (holds : Holds memory (plug path tree) order) :
    Holds (paint (top tree) .black memory) (plug path (blacken tree)) order := by
  cases tree with
  | nil => exact holds
  | node item left right =>
      have whole : Holds memory (plug path (branch .left (item.1, item.2) left right)) order :=
        holds
      exact whole.set_color .black

section Siblings

theorem black_sibling_spec
    (holds : Holds memory (plug (⟨side, (color, parent), sibling⟩ :: path) tree) order)
    (fits : Fits (⟨side, (color, parent), sibling⟩ :: path) (height + 1)) :
    ∃ other after next nephew outer,
      blackSibling side parent memory = some (other, after) ∧
      Holds after (plug (⟨side, (next, parent), nephew⟩ :: outer) tree) order ∧
      top nephew = some other ∧ rootColor nephew = .black ∧
      Fits (⟨side, (next, parent), nephew⟩ :: outer) (height + 1) ∧
      (next = .black → outer = path) := by
  have link : memory.rbChild side.other parent = top sibling := holds.shows.frame.far
  have atSibling := holds
  rw [← plug_sibling] at atSibling
  cases siblingColor : rootColor sibling with
  | black =>
      rcases exists_black side fits.sibling siblingColor with ⟨other, near, far, rfl, _, _⟩
      have read : memory.rbColor other = .black := atSibling.shows.cell.color
      rw [top_branch] at link
      refine ⟨other, memory, color, _, path, ?_, holds, top_branch, siblingColor, fits,
        fun _ => rfl⟩
      simp [blackSibling, link, read]
  | red =>
      rcases exists_red side siblingColor with ⟨other, near, far, rfl⟩
      have read : memory.rbColor other = .red := atSibling.shows.cell.color
      rw [top_branch] at link
      cases fits with
      | red _ siblingBlack _ => exact absurd (siblingBlack.symm.trans siblingColor) (by decide)
      | black siblingBalanced above =>
          rcases balanced_branch_red.mp siblingBalanced with
            ⟨nearBalanced, farBalanced, nearBlack, farBlack⟩
          have first := atSibling.set_color .black
          rw [plug_sibling] at first
          have second : Holds _ (plug path (branch side (.red, parent) tree
              (branch side (.black, other) near far))) order := Holds.set_color_above first .red
          rcases second.rotate with ⟨after, rotated, third⟩
          have moved : Shows after (plug (⟨side, (.red, parent), near⟩ ::
              ⟨side, (.black, other), far⟩ :: path) tree) := third.shows
          rcases exists_black side nearBalanced nearBlack with ⟨inner, _, _, rfl, _, _⟩
          refine ⟨inner, after, .red, _, ⟨side, (.black, other), far⟩ :: path, ?_, third,
            top_branch, nearBlack, .red nearBalanced nearBlack (.black farBalanced above),
            fun same => Color.noConfusion same⟩
          have next : after.rbChild side.other parent = some inner :=
            moved.frame.far.trans top_branch
          rw [blackSibling, link]
          simp only [Option.bind_eq_bind, Option.bind_some, read, if_true]
          rw [rotated, Option.bind_some, next]
          rfl

/-- Behind `redNephew` the outer child of the sibling is red. -/
theorem red_nephew_spec
    (holds : Holds memory
      (plug (⟨side, (color, parent), branch side (.black, other) near far⟩ :: path) tree) order)
    (nearBalanced : Balanced near height) (farBalanced : Balanced far height)
    (some_ : rootColor near = .red ∨ rootColor far = .red) :
    ∃ next after inner outer,
      redNephew side parent other memory = some (next, after) ∧
      Holds after (plug (⟨side, (color, parent), branch side (.black, next) inner outer⟩ :: path)
        tree) order ∧
      Balanced inner height ∧ Balanced outer height ∧ rootColor outer = .red := by
  have atSibling := holds
  rw [← plug_sibling] at atSibling
  have cell := atSibling.shows.cell
  have atFar : Shows memory (plug (⟨side.other, (.black, other), near⟩ ::
      ⟨side.other, (color, parent), tree⟩ :: path) far) := by
    rw [plug_sibling]
    exact atSibling.shows
  have test := atFar.is_black
  rw [redNephew, cell.far]
  cases farColor : rootColor far with
  | red =>
      have notBlack : isBlack memory (top far) = false := by
        rw [← Bool.not_eq_true, test, farColor]
        decide
      exact ⟨other, memory, near, far, by rw [notBlack]; rfl, holds, nearBalanced, farBalanced,
        farColor⟩
  | black =>
      rw [farColor] at some_ test
      have nearColor : rootColor near = .red := some_.resolve_right (by decide)
      rcases exists_red side.other nearColor with ⟨inner, one, two, rfl⟩
      rcases balanced_branch_red.mp nearBalanced with
        ⟨oneBalanced, twoBalanced, oneBlack, twoBlack⟩
      have atNear : Holds memory (plug (⟨side, (.black, other), far⟩ ::
          ⟨side.other, (color, parent), tree⟩ :: path) (branch side.other (.red, inner) one two))
          order := atSibling
      have first := atNear.set_color .black
      have second : Holds _ (plug (⟨side.other, (color, parent), tree⟩ :: path)
          (branch side (.red, other) (branch side.other (.black, inner) one two) far)) order :=
        first.set_color_above .red
      rw [← branch_other] at second
      rcases second.rotate with ⟨after, rotated, third⟩
      rw [plug_sibling, branch_other, branch_other] at third
      have above : Shows after (plug (⟨side, (color, parent), branch side (.black, inner) two
          (branch side (.red, other) one far)⟩ :: path) tree) := third.shows
      have next : after.rbChild side.other parent = some inner := above.frame.far.trans top_branch
      refine ⟨inner, after, two, branch side (.red, other) one far, ?_, third, twoBalanced,
        oneBalanced.branch_red farBalanced oneBlack farColor _ _, root_color_branch _⟩
      have link : memory.rbChild side other = some inner := cell.near.trans top_branch
      rw [if_pos (test.mpr rfl), link]
      simp only [paint, Option.bind_eq_bind]
      rw [rotated, Option.bind_some, next]
      rfl

end Siblings

section Rounds

/-- What is missing in a hole: the tree needs a black root, or one black node more. -/
inductive Missing (path : List (Frame (Color × Node))) (tree : BinaryTree (Color × Node)) : Prop
  | paint {height : Nat} (isRed : rootColor tree = .red) (fits : Fits path height)
      (balanced : Balanced (blacken tree) height)
  | climb {height : Nat} (isBlack : rootColor tree = .black) (fits : Fits path (height + 1))
      (balanced : Balanced tree height)

theorem erase_round_done {inner outer : BinaryTree (Color × Node)}
    (holds : Holds memory
      (plug (⟨side, (color, parent), branch side (.black, other) inner outer⟩ :: path) tree) order)
    (fits : ∀ {near far : BinaryTree (Color × Node)}, Balanced near (height + 1) →
      Balanced far (height + 1) → rootColor near = .black → rootColor far = .black →
      RedBlack (plug path (branch side (color, other) near far)))
    (balanced : Balanced tree height) (innerBalanced : Balanced inner height)
    (outerBalanced : Balanced outer height) (outerRed : rootColor outer = .red) :
    ∃ after next,
      (let memory := setColor other (memory.rbColor parent) memory
        let memory := setColor parent .black memory
        let memory := paint (memory.rbChild side.other other) .black memory
        rotate side parent memory) = some after ∧ Holds after next order ∧ RedBlack next := by
  have cell := holds.shows.frame
  have read : memory.rbColor parent = color := cell.color
  rcases exists_red .left outerRed with ⟨last, one, two, rfl⟩
  rcases balanced_branch_red.mp outerBalanced with ⟨oneBalanced, twoBalanced, _, _⟩
  have atSibling := holds
  rw [← plug_sibling] at atSibling
  have link : memory.rbChild side.other other = some last :=
    atSibling.shows.cell.far.trans top_branch
  have first := atSibling.set_color color
  rw [plug_sibling] at first
  have second := first.set_color_above .black
  rw [← plug_sibling] at second
  have third : Holds (setColor parent .black (setColor other color memory))
      (plug (⟨side.other, (color, other), inner⟩ :: ⟨side.other, (.black, parent), tree⟩ :: path)
        (branch .left (.red, last) one two)) order := by
    rw [plug_sibling]
    exact second
  have fourth := third.set_color .black
  rw [plug_sibling, plug, plug_sibling] at fourth
  rcases Holds.rotate fourth with ⟨after, rotated, fifth⟩
  have done : Holds after (plug path (branch side (color, other)
      (branch side (.black, parent) tree inner) (branch .left (.black, last) one two))) order :=
    fifth
  refine ⟨after, _, ?_, done, ?_⟩
  · have later : (setColor parent .black (setColor other color memory)).rbChild side.other other =
        some last := link
    simp only [read, later, Rbtree.paint]
    exact rotated
  · exact fits (balanced.branch_black innerBalanced side parent)
      (oneBalanced.branch_black twoBalanced .left last) (root_color_branch _) (root_color_branch _)

theorem erase_round_spec
    (holds : Holds memory (plug (⟨side, (color, parent), sibling⟩ :: path) tree) order)
    (fits : Fits (⟨side, (color, parent), sibling⟩ :: path) (height + 1))
    (balanced : Balanced tree height) :
    (∃ after outer subtree,
      eraseRound side parent memory = some (.up parent (above outer) after) ∧
      Holds after (plug outer subtree) order ∧ top subtree = some parent ∧
      Missing outer subtree ∧ (rootColor subtree = .black → outer = path)) ∨
    ∃ after next, eraseRound side parent memory = some (.done after) ∧ Holds after next order ∧
      RedBlack next := by
  rcases black_sibling_spec holds fits with
    ⟨other, after, next, nephew, outer, blackened, nextHolds, here, nephewBlack, nextFits, same⟩
  rcases exists_black side nextFits.sibling nephewBlack with
    ⟨item, near, far, rfl, nearBalanced, farBalanced⟩
  cases top_branch.symm.trans here
  have atNephew := nextHolds
  rw [← plug_sibling] at atNephew
  have atNear : Shows after (plug (⟨side, (.black, item), far⟩ ::
      ⟨side.other, (next, parent), tree⟩ :: outer) near) := atNephew.shows
  have atFar : Shows after (plug (⟨side.other, (.black, item), near⟩ ::
      ⟨side.other, (next, parent), tree⟩ :: outer) far) := by
    rw [plug_sibling]
    exact atNear
  have cell := atNephew.shows.cell
  rw [eraseRound, blackened]
  simp only [Option.bind_eq_bind, Option.bind_some, cell.near, cell.far, atNear.is_black,
    atFar.is_black]
  by_cases both : rootColor near = .black ∧ rootColor far = .black
  · left
    have recolored := atNephew.set_color .red
    rw [plug_sibling] at recolored
    have parentLink := recolored.shows.frame.parent
    have redBalanced := nearBalanced.branch_red farBalanced both.1 both.2 side item
    refine ⟨_, outer, branch side (next, parent) tree (branch side (.red, item) near far), ?_,
      recolored, top_branch, ?_, ?_⟩
    · rw [if_pos both, parentLink]
    · cases nextFits with
      | red _ _ outerFits =>
          apply Missing.paint (root_color_branch _) outerFits
          rw [blacken_branch]
          exact balanced.branch_black redBalanced side parent
      | black _ outerFits =>
          have raised := balanced.branch_black redBalanced side parent
          exact .climb (root_color_branch _) outerFits raised
    · intro black
      rw [root_color_branch] at black
      exact same black
  · right
    have someRed : rootColor near = .red ∨ rootColor far = .red := by
      cases nearColor : rootColor near with
      | red => exact .inl rfl
      | black =>
          cases farColor : rootColor far with
          | red => exact .inr rfl
          | black => exact absurd ⟨nearColor, farColor⟩ both
    rcases red_nephew_spec nextHolds nearBalanced farBalanced someRed with
      ⟨last, turned, inner, outermost, reddened, turnedHolds, innerBalanced, lastBalanced, lastRed⟩
    rcases erase_round_done turnedHolds (fun one two oneBlack twoBlack =>
      nextFits.replace one two (fun _ => oneBlack) (fun _ => twoBlack)) balanced innerBalanced
      lastBalanced lastRed with ⟨done, final, rotated, finalHolds, redBlack⟩
    refine ⟨done, final, ?_, finalHolds, redBlack⟩
    rw [if_neg both, reddened]
    simp only [Option.bind_some]
    rw [rotated]
    rfl

end Rounds

section Loop

omit [DecidableEq Node] in
theorem Missing.settled (missing : Missing path tree)
    (stop : rootColor tree = .red ∨ path = []) : RedBlack (plug path (blacken tree)) := by
  cases missing with
  | @paint height isRed fits balanced =>
      apply fits.plug balanced
      left
      cases tree <;> rfl
  | @climb height isBlack fits balanced =>
      rcases stop with isRed | rfl
      · exact absurd (isRed.symm.trans isBlack) (by decide)
      · have redBlack : RedBlack tree := ⟨isBlack, height, balanced⟩
        rw [plug, blacken_red_black redBlack]
        exact redBlack

theorem erase_loop_stop (shows : Shows memory (plug path tree))
    (stop : rootColor tree = .red ∨ path = []) (fuel : Nat) :
    eraseLoop (fuel + 1) (top tree) (above path) memory = some (top tree, memory) := by
  have halt : ¬(isBlack memory (top tree) = true ∧ top tree ≠ memory.rbNode) := by
    rintro ⟨black, notRoot⟩
    rcases stop with isRed | rfl
    · exact absurd (isRed.symm.trans (shows.is_black.mp black)) (by decide)
    · exact notRoot shows.root.symm
  rw [eraseLoop, if_neg halt]

theorem erase_loop_round
    (shows : Shows memory (plug (⟨side, (color, parent), sibling⟩ :: path) tree))
    (black : rootColor tree = .black) (siblingBalanced : Balanced sibling (height + 1))
    (fuel : Nat) :
    (∀ node next after, eraseRound side parent memory = some (.up node next after) →
      eraseLoop (fuel + 1) (top tree) (some parent) memory =
        eraseLoop fuel (some node) next after) ∧
    ∀ after, eraseRound side parent memory = some (.done after) →
      eraseLoop (fuel + 1) (top tree) (some parent) memory = some (after.rbNode, after) := by
  have differ : top sibling ≠ top tree := by
    cases sibling with
    | nil => cases siblingBalanced
    | node item left right =>
        intro same
        exact shows.children_differ same.symm rfl
  have which := shows.side_eq differ
  rw [eraseLoop, if_pos ⟨shows.is_black.mpr black, shows.not_root⟩]
  simp only [Option.bind_eq_bind, Option.bind_some, which]
  constructor
  · intro node next after round
    rw [round, Option.bind_some]
  · intro after round
    rw [round, Option.bind_some]

/-- The loop ends, and a black root of what is in the hole then makes the tree red-black. -/
theorem erase_loop_spec (missing : Missing path tree) (holds : Holds memory (plug path tree) order)
    (enough : path.length < fuel) :
    ∃ after outer subtree, eraseLoop fuel (top tree) (above path) memory =
        some (top subtree, after) ∧
      Holds after (plug outer subtree) order ∧ RedBlack (plug outer (blacken subtree)) := by
  induction fuel generalizing path tree memory with
  | zero => exact absurd enough (Nat.not_lt_zero _)
  | succ fuel induction =>
      by_cases stop : rootColor tree = .red ∨ path = []
      · exact ⟨memory, path, tree, erase_loop_stop holds.shows stop fuel, holds,
          missing.settled stop⟩
      · rw [not_or] at stop
        cases missing with
        | paint isRed _ _ => exact absurd isRed stop.1
        | @climb height black fits balanced =>
            cases path with
            | nil => exact absurd rfl stop.2
            | cons frame path =>
                rcases frame with ⟨side, ⟨color, parent⟩, sibling⟩
                rw [List.length_cons] at enough
                rcases erase_loop_round holds.shows black fits.sibling fuel with ⟨up, done⟩
                rcases erase_round_spec holds fits balanced with
                  ⟨after, outer, subtree, round, nextHolds, here, next, same⟩ |
                  ⟨after, next, round, nextHolds, redBlack⟩
                · rw [above, up _ _ _ round, ← here]
                  cases subtreeColor : rootColor subtree with
                  | black =>
                      apply induction next nextHolds
                      rw [same subtreeColor]
                      omega
                  | red =>
                      cases fuel with
                      | zero => omega
                      | succ fuel =>
                          exact ⟨after, outer, subtree,
                            erase_loop_stop nextHolds.shows (.inl subtreeColor) fuel, nextHolds,
                            next.settled (.inl subtreeColor)⟩
                · refine ⟨after, [], next, ?_, nextHolds, ?_⟩
                  · rw [above, done _ round, nextHolds.shows.root]
                  · rw [plug, blacken_red_black redBlack]
                    exact redBlack

theorem rb_erase_color_spec (missing : Missing path tree)
    (holds : Holds memory (plug path tree) order) (enough : path.length < fuel) :
    ∃ after next, rbEraseColor fuel (top tree) (above path) memory = some after ∧
      Holds after next order ∧ RedBlack next := by
  rcases erase_loop_spec missing holds enough with
    ⟨looped, outer, subtree, loop, nextHolds, redBlack⟩
  refine ⟨_, _, ?_, nextHolds.paint, redBlack⟩
  rw [rbEraseColor, loop]
  rfl

end Loop

section Replacing

variable {old : Node}

theorem agree_copy (different : other ≠ node) : Agree memory (copyNode old node memory) other :=
  (((agree_set_parent different _).trans (agree_set_color different _)).trans
    (agree_set_child different _ _)).trans (agree_set_child different _ _)

theorem Cell.copy {above left right : Option Node}
    (cell : Cell memory above (color, old) .left left right) :
    Cell (copyNode old node memory) above (color, node) .left left right := by
  rcases cell with ⟨isColor, isAbove, isLeft, isRight⟩
  constructor
  · simp [copyNode, setParent, setColor, setChild, isColor]
  · simp [copyNode, setParent, setColor, setChild, isAbove]
  · simp [copyNode, setParent, setColor, setChild, Memory.rbLeft, isLeft]
  · simp [copyNode, setParent, setColor, setChild, Memory.rbRight, Side.other] at isRight ⊢
    exact isRight

theorem relink_neighbors {left right : BinaryTree (Color × Node)}
    (surrounds : Surrounds memory (some old) path) (leftHangs : Hangs memory (some old) left)
    (rightHangs : Hangs memory (some old) right)
    (distinct : (old :: (nodes left ++ (nodes right ++ nodesAround path))).Nodup)
    (target : Node) :
    let after := adopt (top right) (some target) (adopt (top left) (some target)
      (relink .left (above path) old (some target) memory))
    Surrounds after (some target) path ∧ Hangs after (some target) left ∧
      Hangs after (some target) right ∧
      ∀ other ∉ nodes left ++ (nodes right ++ nodesAround path), Agree memory after other := by
  intro after
  simp only [List.nodup_cons, List.nodup_append, List.mem_append, not_or] at distinct
  have notAbove : ∀ node, above path = some node → node ∈ nodesAround path := fun node =>
    above_mem
  have notLeft : ∀ node, top left = some node → node ∈ nodes left := fun node => top_mem
  have notRight : ∀ node, top right = some node → node ∈ nodes right := fun node => top_mem
  have first : ∀ other, above path ≠ some other →
      Agree memory (relink .left (above path) old (some target) memory) other :=
    fun other differ => agree_relink differ _ _ _
  have second : ∀ other, top left ≠ some other → ∀ memory : Memory Node,
      Agree memory (adopt (top left) (some target) memory) other :=
    fun other differ memory => agree_adopt differ _
  refine ⟨?_, ?_, ?_, ?_⟩
  · have linked := surrounds.relink (by grind) (by grind) .left (some target)
    apply linked.congr
    · exact (adopt_root _ _ _).trans (adopt_root _ _ _)
    · intro node inside
      exact (agree_adopt (by grind) _).trans (agree_adopt (by grind) _)
  · have kept := leftHangs.congr fun node inside => first node (by grind)
    apply (kept.adopt (by grind) (some target)).congr
    intro node inside
    exact agree_adopt (by grind) _
  · have kept := rightHangs.congr fun node inside =>
      (first node (by grind)).trans (second node (by grind) _)
    exact kept.adopt (by grind) (some target)
  · intro other outside
    simp only [List.mem_append, not_or] at outside
    exact ((first other (by grind)).trans (agree_adopt (by grind) _)).trans
      (agree_adopt (by grind) _)

omit [DecidableEq Node] in
theorem Shows.parts {left right : BinaryTree (Color × Node)}
    (shows : Shows memory (plug path (.node (color, old) left right))) :
    Surrounds memory (some old) path ∧
      Cell memory (above path) (color, old) .left (top left) (top right) ∧
      Hangs memory (some old) left ∧ Hangs memory (some old) right ∧
      (old :: (nodes left ++ (nodes right ++ nodesAround path))).Nodup := by
  rcases shows_plug.mp shows with ⟨surrounds, ⟨cell, one, two⟩, distinct⟩
  refine ⟨surrounds, cell, one, two, ?_⟩
  have perm := (nodes_branch_perm .left (color, old) left right).append_right (nodesAround path)
  simpa only [List.cons_append, List.append_assoc] using perm.nodup_iff.mp distinct

omit [DecidableEq Node] in
theorem shows_of_parts {left right : BinaryTree (Color × Node)}
    (surrounds : Surrounds memory (some old) path)
    (cell : Cell memory (above path) (color, old) .left (top left) (top right))
    (one : Hangs memory (some old) left) (two : Hangs memory (some old) right)
    (distinct : (old :: (nodes left ++ (nodes right ++ nodesAround path))).Nodup) :
    Shows memory (plug path (.node (color, old) left right)) := by
  have perm := (nodes_branch_perm .left (color, old) left right).append_right (nodesAround path)
  refine shows_plug.mpr ⟨surrounds, ⟨cell, one, two⟩, perm.nodup_iff.mpr ?_⟩
  simpa only [List.cons_append, List.append_assoc] using distinct

omit [DecidableEq Node] in
theorem outside_parts {left right : BinaryTree (Color × Node)}
    (fresh : node ∉ nodes (plug path (.node (color, old) left right))) :
    node ≠ old ∧ node ∉ nodes left ++ (nodes right ++ nodesAround path) := by
  have perm := (nodes_plug_perm path (.node (color, old) left right)).trans
    ((nodes_branch_perm .left (color, old) left right).append_right (nodesAround path))
  simpa only [perm.mem_iff, List.cons_append, List.append_assoc, List.mem_cons, not_or] using fresh

/-- A node that is not in the tree takes the place of one that has a left child. -/
theorem replace_old_spec {left right : BinaryTree (Color × Node)}
    (shows : Shows memory (plug path (.node (color, old) left right)))
    (hasLeft : top left ≠ none)
    (fresh : node ∉ nodes (plug path (.node (color, old) left right))) :
    ∃ after, replaceOld old node memory = some after ∧
      Shows after (plug path (.node (color, node) left right)) := by
  rcases shows.parts with ⟨surrounds, cell, leftHangs, rightHangs, distinct⟩
  rcases outside_parts fresh with ⟨notOld, outside⟩
  rcases List.nodup_cons.mp distinct with ⟨once, rest⟩
  have copied : ∀ other ∈ nodes left ++ (nodes right ++ nodesAround path),
      Agree memory (copyNode old node memory) other :=
    fun other inside => agree_copy (ne_of_mem_of_not_mem inside outside)
  have surroundsCopy : Surrounds (copyNode old node memory) (some old) path :=
    surrounds.congr rfl fun other inside => copied other (by simp [inside])
  have leftCopy : Hangs (copyNode old node memory) (some old) left :=
    leftHangs.congr fun other inside => copied other (by simp [inside])
  have rightCopy : Hangs (copyNode old node memory) (some old) right :=
    rightHangs.congr fun other inside => copied other (by simp [inside])
  rcases relink_neighbors surroundsCopy leftCopy rightCopy distinct node with
    ⟨surroundsNext, leftNext, rightNext, kept⟩
  refine ⟨_, ?_, shows_of_parts surroundsNext (cell.copy.congr (kept node outside)) leftNext
    rightNext (List.nodup_cons.mpr ⟨outside, rest⟩)⟩
  have parentLink : (copyNode old node memory).rbParent old = above path :=
    (agree_copy notOld.symm).parent.trans cell.parent
  have notAbove : above path ≠ some old := fun same =>
    once (by simp [above_mem same])
  have relinked : Agree memory (relink .left (above path) old (some node)
      (copyNode old node memory)) old :=
    (agree_copy notOld.symm).trans (agree_relink notAbove _ _ _)
  have leftLink := (relinked.child .left).trans cell.near
  have rightLink := (relinked.child .right).trans cell.far
  cases leftTop : top left with
  | none => exact absurd leftTop hasLeft
  | some first =>
      have notLeft : first ≠ old := by
        rintro rfl
        exact once (by simp [top_mem leftTop])
      rw [leftTop] at leftLink
      rw [replaceOld, parentLink, Memory.rbLeft, leftLink]
      simp only [Option.bind_eq_bind, Option.bind_some, Memory.rbRight]
      rw [(agree_set_parent notLeft.symm _).child, rightLink]
      rfl

theorem rb_replace_node_spec {left right : BinaryTree (Color × Node)}
    (shows : Shows memory (plug path (.node (color, old) left right)))
    (fresh : node ∉ nodes (plug path (.node (color, old) left right))) :
    Shows (rbReplaceNode old node memory) (plug path (.node (color, node) left right)) := by
  rcases shows.parts with ⟨surrounds, cell, leftHangs, rightHangs, distinct⟩
  rcases outside_parts fresh with ⟨_, outside⟩
  rcases List.nodup_cons.mp distinct with ⟨once, rest⟩
  rcases relink_neighbors surrounds leftHangs rightHangs distinct node with
    ⟨surroundsNext, leftNext, rightNext, kept⟩
  have notAbove : above path ≠ some old := fun same => once (by simp [above_mem same])
  have leftLink : (relink .left (above path) old (some node) memory).rbLeft old = top left :=
    ((agree_relink notAbove _ _ _).child .left).trans cell.near
  have rightLink : (adopt (top left) (some node)
      (relink .left (above path) old (some node) memory)).rbRight old = top right := by
    rw [Memory.rbRight, adopt_child]
    exact ((agree_relink notAbove _ _ _).child .right).trans cell.far
  rw [rbReplaceNode, cell.parent]
  simp only [leftLink, rightLink]
  have copied : ∀ other ∈ nodes left ++ (nodes right ++ nodesAround path),
      ∀ memory : Memory Node, Agree memory (copyNode old node memory) other :=
    fun other inside _ => agree_copy (ne_of_mem_of_not_mem inside outside)
  apply shows_of_parts
  · exact surroundsNext.congr rfl fun other inside => copied other (by simp [inside]) _
  · exact (cell.congr (kept old once)).copy
  · exact leftNext.congr fun other inside => copied other (by simp [inside]) _
  · exact rightNext.congr fun other inside => copied other (by simp [inside]) _
  · exact List.nodup_cons.mpr ⟨outside, rest⟩

end Replacing

section Splicing

theorem unlink_spec {child : BinaryTree (Color × Node)}
    (shows : Shows memory (plug path (branch side (color, node) child .nil))) :
    Shows (unlink node (top child) memory) (plug path child) ∧
      node ∉ nodes (plug path child) ∧ Agree memory (unlink node (top child) memory) node := by
  rcases shows_plug.mp shows with ⟨surrounds, hangs, distinct⟩
  rw [top_branch] at surrounds
  rcases hangs_branch.mp hangs with ⟨cell, childHangs, _⟩
  have perm := (nodes_branch_perm side (color, node) child .nil).append_right (nodesAround path)
  rw [nodes_nil, List.append_nil, List.cons_append] at perm
  rcases List.nodup_cons.mp (perm.nodup_iff.mp distinct) with ⟨once, rest⟩
  have apart := List.disjoint_of_nodup_append rest
  have fresh : node ∉ nodes (plug path child) := by
    rwa [(nodes_plug_perm path child).mem_iff]
  rw [List.mem_append, not_or] at once
  have notTop : top child ≠ some node := fun same => once.1 (top_mem same)
  have notAbove : above path ≠ some node := fun same => once.2 (above_mem same)
  rw [unlink, cell.parent]
  refine ⟨?_, fresh, ?_⟩
  · rw [shows_plug]
    refine ⟨?_, ?_, rest⟩
    · apply Surrounds.relink _ once.2 (List.nodup_append.mp rest).2.1
      apply surrounds.congr (adopt_root _ _ _)
      exact fun other inside => agree_adopt (fun same => apart (top_mem same) inside) _
    · apply (childHangs.adopt (List.nodup_append.mp rest).1 (above path)).congr
      exact fun other inside => agree_relink (fun same => apart inside (above_mem same)) _ _ _
  · exact (agree_adopt notTop _).trans (agree_relink notAbove _ _ _)

omit [DecidableEq Node] in
theorem descend_spec {upper : Option Node} (side : Side) (hangs : Hangs memory upper tree)
    (here : top tree = some node) (enough : tree.height ≤ fuel) :
    ∃ inner last far, tree = plug inner (branch side last .nil far) ∧
      (∀ frame ∈ inner, frame.side = side) ∧ descend side fuel node memory = some last.2 := by
  induction fuel generalizing tree upper node with
  | zero =>
      cases tree with
      | nil => cases here
      | node item left right => simp at enough
  | succ fuel induction =>
      cases tree with
      | nil => cases here
      | node item left right =>
          cases here
          rw [BinaryTree.height] at enough
          rcases exists_branch side item left right with ⟨near, far, same⟩
          rw [same] at hangs ⊢
          rcases hangs_branch.mp hangs with ⟨cell, nearHangs, _⟩
          have lower : near.height ≤ fuel := by
            cases side with
            | left => cases same; omega
            | right => cases same; omega
          rw [descend, cell.near]
          cases nearTop : top near with
          | none =>
              cases near with
              | nil =>
                  exact ⟨[], item, far, rfl, fun _ member => absurd member List.not_mem_nil, rfl⟩
              | node _ _ _ => cases nearTop
          | some below =>
              rcases induction nearHangs nearTop lower with ⟨inner, last, rest, rfl, sides, found⟩
              refine ⟨inner ++ [⟨side, item, far⟩], last, rest, ?_, ?_, found⟩
              · rw [plug_append]
                rfl
              · intro frame inside
                rcases List.mem_append.mp inside with earlier | here
                · exact sides frame earlier
                · rw [List.mem_singleton.mp here]

omit [DecidableEq Node] in
theorem balanced_blacken (balanced : Balanced tree height) (isRed : rootColor tree = .red) :
    Balanced (blacken tree) (height + 1) := by
  rcases exists_red .left isRed with ⟨item, near, far, rfl⟩
  rcases balanced_branch_red.mp balanced with ⟨one, two, _, _⟩
  exact one.black two

omit [DecidableEq Node] in
theorem splice_balance {child : BinaryTree (Color × Node)}
    (redBlack : RedBlack (plug path (branch side (color, node) child .nil))) :
    (color = .black → Missing path child) ∧ (color = .red → RedBlack (plug path child)) := by
  rcases redBlack.unplug with ⟨height, fits, balanced, _⟩
  constructor
  · rintro rfl
    rcases balanced_branch_black.mp balanced with ⟨below, rfl, one, _⟩
    cases childColor : rootColor child with
    | red => exact .paint childColor fits (balanced_blacken one childColor)
    | black => exact .climb childColor fits one
  · rintro rfl
    rcases balanced_branch_red.mp balanced with ⟨one, _, childBlack, _⟩
    exact fits.plug one (.inl childBlack)

/-- What is left of the tree behind `spliceOut`. -/
structure Spliced (memory : Memory Node) (tree : BinaryTree (Color × Node)) (order : List Node)
    (path : List (Frame (Color × Node))) (subtree : BinaryTree (Color × Node)) (color : Color) :
    Prop where
  holds : Holds memory (plug path subtree) order
  missing : RedBlack tree → color = .black → Missing path subtree
  redBlack : RedBlack tree → color = .red → RedBlack (plug path subtree)

theorem erase_middle {front back : List Node} (distinct : (front ++ node :: back).Nodup) :
    (front ++ node :: back).erase node = front ++ back := by
  have outside : node ∉ front := fun inside =>
    List.disjoint_of_nodup_append distinct inside List.mem_cons_self
  rw [List.erase_append_right _ outside, List.erase_cons_head]

omit [DecidableEq Node] in
theorem nodes_leftmost {inner : List (Frame (Color × Node))}
    (sides : ∀ frame ∈ inner, frame.side = .left) (item : Color × Node)
    (child : BinaryTree (Color × Node)) :
    nodes (plug inner (branch .left item .nil child)) = item.2 :: nodes (plug inner child) := by
  rw [nodes_plug, nodes_plug, before_of_left sides]
  simp [nodes, branch, inorder]

theorem splice_one {child : BinaryTree (Color × Node)}
    (holds : Holds memory (plug path (branch side (color, node) child .nil)) order) :
    Spliced (unlink node (top child) memory) (plug path (branch side (color, node) child .nil))
      (order.erase node) path child color := by
  refine ⟨⟨(unlink_spec holds.shows).1, ?_⟩, fun whole => (splice_balance whole).1,
    fun whole => (splice_balance whole).2⟩
  have distinct := holds.shows.distinct
  rw [← holds.order]
  rw [nodes_plug] at distinct ⊢
  rw [nodes_plug]
  cases side with
  | left =>
      have split : nodes (branch .left (color, node) child .nil) = nodes child ++ [node] := by
        simp [nodes, branch, inorder]
      rw [split, List.append_assoc, List.singleton_append] at distinct ⊢
      rw [← List.append_assoc] at distinct
      rw [← List.append_assoc, ← List.append_assoc, erase_middle distinct]
  | right =>
      have split : nodes (branch .right (color, node) child .nil) = node :: nodes child := by
        simp [nodes, branch, inorder]
      rw [split, List.cons_append] at distinct ⊢
      rw [erase_middle distinct]

/-- The next node of the order, which has no left child, takes the place of the node. -/
theorem splice_two {left right : BinaryTree (Color × Node)}
    (holds : Holds memory (plug path (.node (color, node) left right)) order)
    (hasLeft : top left ≠ none) (hasRight : top right ≠ none) (enough : right.height ≤ fuel) :
    ∃ after outer subtree last,
      spliceOut fuel node memory = some ((top subtree, above outer, last), after) ∧
      Spliced after (plug path (.node (color, node) left right)) (order.erase node) outer subtree
        last := by
  rcases holds.shows.parts with ⟨_, cell, _, rightHangs, distinct⟩
  cases leftTop : top left with
  | none => exact absurd leftTop hasLeft
  | some first =>
  cases rightTop : top right with
  | none => exact absurd rightTop hasRight
  | some below =>
      rcases descend_spec .left rightHangs rightTop enough with
        ⟨inner, ⟨nextColor, next⟩, child, rfl, sides, found⟩
      have leftLink : memory.rbLeft node = some first := cell.near.trans leftTop
      have rightLink : memory.rbRight node = some below := cell.far.trans rightTop
      -- the tree around the next node, below the node and below itself
      let outer (item : Node) := inner ++ ⟨Side.right, (color, item), left⟩ :: path
      have outerPlug : ∀ item tree, plug (outer item) tree =
          plug path (branch .left (color, item) left (plug inner tree)) :=
        fun item tree => plug_append inner _ tree
      have atNext : Holds memory
          (plug (outer node) (branch .right (nextColor, next) child .nil)) order := by
        rw [outerPlug]
        exact holds
      rcases unlink_spec atNext.shows with ⟨unlinked, fresh, kept⟩
      rw [outerPlug] at unlinked fresh
      rcases replace_old_spec unlinked hasLeft fresh with ⟨after, replaced, shows⟩
      have childLink : memory.rbRight next = top child := atNext.shows.cell.near
      have isColor : memory.rbColor next = nextColor := atNext.shows.cell.color
      have parentLink : memory.rbParent next = above (outer node) := atNext.shows.cell.parent
      have parentNext : (if (unlink next (top child) memory).rbParent next = some node then
          some next else above (outer node)) = above (outer next) := by
        rw [kept.parent, parentLink]
        cases inner with
        | nil => exact if_pos rfl
        | cons frame inner =>
            apply if_neg
            intro same
            have inside : frame.item.2 ∈ nodes (plug (frame :: inner)
                (branch .left (nextColor, next) .nil child)) := by
              rw [(nodes_plug_perm _ _).mem_iff, nodes_around_cons]
              exact List.mem_append_right _ List.mem_cons_self
            rw [Option.some.inj same] at inside
            exact (List.nodup_cons.mp distinct).1 (by simp [inside])
      refine ⟨after, outer next, child, nextColor, ?_, ⟨⟨?_, ?_⟩, ?_, ?_⟩⟩
      · rw [spliceOut, leftLink, rightLink]
        simp only [found, Option.bind_eq_bind, Option.bind_some, childLink, parentLink, parentNext,
          isColor]
        rw [replaced]
        rfl
      · rw [outerPlug]
        exact shows
      · have whole := holds.shows.distinct
        rw [← holds.order, outerPlug]
        rw [nodes_plug_node, nodes_leftmost sides] at whole
        rw [nodes_plug_node, nodes_leftmost sides, erase_middle whole]
        exact nodes_plug_node path (color, next) left (plug inner child)
      · intro whole
        have renamed : RedBlack (plug path (branch .left (color, next) left
          (plug inner (branch .right (nextColor, next) child .nil)))) := RedBlack.rename whole
        rw [← outerPlug] at renamed
        exact (splice_balance renamed).1
      · intro whole
        have renamed : RedBlack (plug path (branch .left (color, next) left
          (plug inner (branch .right (nextColor, next) child .nil)))) := RedBlack.rename whole
        rw [← outerPlug] at renamed
        exact (splice_balance renamed).2

end Splicing

theorem splice_out_spec {left right : BinaryTree (Color × Node)}
    (holds : Holds memory (plug path (.node (color, node) left right)) order)
    (enough : order.length ≤ fuel) :
    ∃ after outer subtree last,
      spliceOut fuel node memory = some ((top subtree, above outer, last), after) ∧
      Spliced after (plug path (.node (color, node) left right)) (order.erase node) outer subtree
        last := by
  have cell : Cell memory (above path) (color, node) .left (top left) (top right) :=
    (show Shows memory (plug path (branch .left (color, node) left right)) from holds.shows).cell
  have leftLink : memory.rbLeft node = top left := cell.near
  have rightLink : memory.rbRight node = top right := cell.far
  cases leftTop : top left with
  | none =>
      cases left with
      | node _ _ _ => cases leftTop
      | nil =>
          have only : Holds memory (plug path (branch .right (color, node) right .nil)) order :=
            holds
          refine ⟨_, path, right, color, ?_, splice_one only⟩
          rw [spliceOut, leftLink, rightLink, cell.parent, cell.color]
          rfl
  | some first =>
      cases rightTop : top right with
      | none =>
          cases right with
          | node _ _ _ => cases rightTop
          | nil =>
              have only : Holds memory (plug path (branch .left (color, node) left .nil)) order :=
                holds
              refine ⟨_, path, left, color, ?_, splice_one only⟩
              rw [spliceOut, leftLink, rightLink, cell.parent, cell.color, leftTop]
              rfl
      | some below =>
          apply splice_two holds (by rw [leftTop]; exact Option.some_ne_none _)
            (by rw [rightTop]; exact Option.some_ne_none _)
          have size := length_plug path (.node (color, node) left right)
          rw [holds.order, nodes_length, BinaryTree.numNodes] at size
          have flat := right.height_le_numNodes
          omega

/-- `rb_erase` takes a node out of a red-black tree, and the tree stays red-black. -/
theorem rb_erase_spec {left right : BinaryTree (Color × Node)}
    (redBlack : RedBlack (plug path (.node (color, node) left right)))
    (holds : Holds memory (plug path (.node (color, node) left right)) order)
    (enough : order.length < fuel) :
    ∃ after next, rbErase fuel node memory = some after ∧ Holds after next (order.erase node) ∧
      RedBlack next := by
  rcases splice_out_spec holds (by omega : order.length ≤ fuel) with
    ⟨spliced, outer, subtree, last, out, left⟩
  rw [rbErase, out, Option.bind_eq_bind, Option.bind_some]
  cases last with
  | red => exact ⟨spliced, _, rfl, left.holds, left.redBlack redBlack rfl⟩
  | black =>
      apply rb_erase_color_spec (left.missing redBlack rfl) left.holds
      have short := length_plug outer subtree
      have fewer : (order.erase node).length ≤ order.length := List.length_erase_le
      rw [left.holds.order] at short
      omega

end SmartHome.Rbtree
