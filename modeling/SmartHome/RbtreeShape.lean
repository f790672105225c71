import Mathlib.Data.List.Nodup
import SmartHome.Rbtree

/-!
# Which tree lies in memory

`Shows` says that the nodes reachable from `rb_node` are those of a tree, each once, with
its colours, and that every parent pointer leads back. A tree with a hole lies in memory
as a path; writes to nodes elsewhere do not touch it. A rotation in memory is a rotation
of the tree.
-/

namespace SmartHome.Rbtree

open SmartHome.Library.RedBlackTrees
open SmartHome.Library.SearchTrees
open SmartHome.Library.Zippers

set_option autoImplicit false

variable {Node : Type*}

def nodes (tree : BinaryTree (Color × Node)) : List Node := (inorder tree).map Prod.snd

def nodesAround (path : List (Frame (Color × Node))) : List Node := (around path).map Prod.snd

def top : BinaryTree (Color × Node) → Option Node
  | .nil => none
  | .node item _ _ => some item.2

def above : List (Frame (Color × Node)) → Option Node
  | [] => none
  | frame :: _ => some frame.item.2

structure Cell (memory : Memory Node) (parent : Option Node) (item : Color × Node) (side : Side)
    (near far : Option Node) : Prop where
  color : memory.rbColor item.2 = item.1
  parent : memory.rbParent item.2 = parent
  near : memory.rbChild side item.2 = near
  far : memory.rbChild side.other item.2 = far

def Hangs (memory : Memory Node) (parent : Option Node) : BinaryTree (Color × Node) → Prop
  | .nil => True
  | .node item left right =>
      Cell memory parent item .left (top left) (top right) ∧ Hangs memory (some item.2) left ∧
        Hangs memory (some item.2) right

def Surrounds (memory : Memory Node) (hole : Option Node) : List (Frame (Color × Node)) → Prop
  | [] => memory.rbNode = hole
  | frame :: path =>
      Cell memory (above path) frame.item frame.side hole (top frame.sibling) ∧
        Hangs memory (some frame.item.2) frame.sibling ∧
        Surrounds memory (some frame.item.2) path

structure Shows (memory : Memory Node) (tree : BinaryTree (Color × Node)) : Prop where
  root : memory.rbNode = top tree
  hangs : Hangs memory none tree
  distinct : (nodes tree).Nodup

variable {memory : Memory Node} {parent hole : Option Node} {item : Color × Node} {side : Side}
  {tree near far : BinaryTree (Color × Node)} {path : List (Frame (Color × Node))}

section Folding

@[simp] theorem nodes_nil : nodes (.nil : BinaryTree (Color × Node)) = [] := rfl

@[simp] theorem nodes_around_nil : nodesAround ([] : List (Frame (Color × Node))) = [] := rfl

@[simp] theorem nodes_around_cons (frame : Frame (Color × Node)) :
    nodesAround (frame :: path) = frame.item.2 :: (nodes frame.sibling ++ nodesAround path) := by
  simp [nodesAround, around, nodes]

theorem nodes_branch_perm (side : Side) (item : Color × Node)
    (near far : BinaryTree (Color × Node)) :
    (nodes (branch side item near far)).Perm (item.2 :: (nodes near ++ nodes far)) := by
  have perm := (inorder_branch_perm side item near far).map Prod.snd
  rwa [List.map_cons, List.map_append] at perm

@[simp] theorem mem_nodes_branch {node : Node} :
    node ∈ nodes (branch side item near far) ↔
      node = item.2 ∨ node ∈ nodes near ∨ node ∈ nodes far := by
  rw [(nodes_branch_perm side item near far).mem_iff, List.mem_cons, List.mem_append]

theorem nodes_plug_perm (path : List (Frame (Color × Node))) (tree : BinaryTree (Color × Node)) :
    (nodes (plug path tree)).Perm (nodes tree ++ nodesAround path) := by
  have perm := (inorder_plug_perm path tree).map Prod.snd
  rwa [List.map_append] at perm

@[simp] theorem top_branch : top (branch side item near far) = some item.2 := by
  cases side <;> rfl

theorem top_mem {node : Node} (here : top tree = some node) : node ∈ nodes tree := by
  cases tree with
  | nil => cases here
  | node item left right =>
      cases here
      simp [nodes, inorder]

theorem above_mem {node : Node} (here : above path = some node) : node ∈ nodesAround path := by
  cases path with
  | nil => cases here
  | cons frame path =>
      cases here
      rw [nodes_around_cons]
      exact List.mem_cons_self

theorem cell_other {near far : Option Node} :
    Cell memory parent item side.other near far ↔ Cell memory parent item side far near := by
  constructor
  · rintro ⟨color, above, one, two⟩
    rw [Side.other_other] at two
    exact ⟨color, above, two, one⟩
  · rintro ⟨color, above, one, two⟩
    refine ⟨color, above, two, ?_⟩
    rwa [Side.other_other]

theorem hangs_branch :
    Hangs memory parent (branch side item near far) ↔
      Cell memory parent item side (top near) (top far) ∧ Hangs memory (some item.2) near ∧
        Hangs memory (some item.2) far := by
  cases side with
  | left => rfl
  | right =>
      have turned : Cell memory parent item .right (top near) (top far) ↔
          Cell memory parent item .left (top far) (top near) :=
        @cell_other _ memory parent item .left (top near) (top far)
      rw [branch, Hangs, turned, @and_comm (Hangs memory (some item.2) near)]

/-- A tree lies in memory if its part in the hole does, and the path around it. -/
theorem shows_plug :
    Shows memory (plug path tree) ↔
      Surrounds memory (top tree) path ∧ Hangs memory (above path) tree ∧
        (nodes tree ++ nodesAround path).Nodup := by
  induction path generalizing tree with
  | nil =>
      rw [nodes_around_nil, List.append_nil]
      exact ⟨fun shows => ⟨shows.root, shows.hangs, shows.distinct⟩,
        fun ⟨root, hangs, distinct⟩ => ⟨root, hangs, distinct⟩⟩
  | cons frame path induction =>
      have moved : (nodes (frame.attach tree) ++ nodesAround path).Perm
          (nodes tree ++ nodesAround (frame :: path)) := by
        have first := (nodes_branch_perm frame.side frame.item tree frame.sibling).append_right
          (nodesAround path)
        rw [List.cons_append, List.append_assoc] at first
        rw [nodes_around_cons]
        exact first.trans List.perm_middle.symm
      rw [plug, induction, moved.nodup_iff, Frame.attach, hangs_branch, top_branch, Surrounds]
      constructor
      · rintro ⟨surrounds, ⟨cell, one, two⟩, distinct⟩
        exact ⟨⟨cell, two, surrounds⟩, one, distinct⟩
      · rintro ⟨⟨cell, two, surrounds⟩, one, distinct⟩
        exact ⟨surrounds, ⟨cell, one, two⟩, distinct⟩

theorem Shows.cell (shows : Shows memory (plug path (branch side item near far))) :
    Cell memory (above path) item side (top near) (top far) :=
  (hangs_branch.mp (shows_plug.mp shows).2.1).1

theorem Shows.plug_distinct (shows : Shows memory (plug path tree)) :
    (nodes tree ++ nodesAround path).Nodup :=
  (shows_plug.mp shows).2.2

end Folding

section Writes

variable [DecidableEq Node] {node : Node}

structure Agree (memory other : Memory Node) (node : Node) : Prop where
  color : other.rbColor node = memory.rbColor node
  parent : other.rbParent node = memory.rbParent node
  child : ∀ side, other.rbChild side node = memory.rbChild side node

omit [DecidableEq Node] in
theorem Agree.trans {second third : Memory Node} (one : Agree memory second node)
    (two : Agree second third node) : Agree memory third node :=
  ⟨two.color.trans one.color, two.parent.trans one.parent,
    fun side => (two.child side).trans (one.child side)⟩

omit [DecidableEq Node] in
theorem Cell.congr {other : Memory Node} {near far : Option Node}
    (cell : Cell memory parent item side near far) (agree : Agree memory other item.2) :
    Cell other parent item side near far :=
  ⟨agree.color.trans cell.color, agree.parent.trans cell.parent,
    (agree.child _).trans cell.near, (agree.child _).trans cell.far⟩

omit [DecidableEq Node] in
theorem Hangs.congr {other : Memory Node} (hangs : Hangs memory parent tree)
    (agree : ∀ node ∈ nodes tree, Agree memory other node) : Hangs other parent tree := by
  induction tree generalizing parent with
  | nil => trivial
  | node item left right inLeft inRight =>
      have member := fun node => @mem_nodes_branch _ item .left left right node
      rw [branch] at member
      rcases hangs with ⟨cell, one, two⟩
      refine ⟨cell.congr (agree _ ((member _).mpr (.inl rfl))), inLeft one ?_, inRight two ?_⟩
      · exact fun node inside => agree node ((member node).mpr (.inr (.inl inside)))
      · exact fun node inside => agree node ((member node).mpr (.inr (.inr inside)))

omit [DecidableEq Node] in
theorem Surrounds.congr {other : Memory Node} (surrounds : Surrounds memory hole path)
    (root : other.rbNode = memory.rbNode)
    (agree : ∀ node ∈ nodesAround path, Agree memory other node) :
    Surrounds other hole path := by
  induction path generalizing hole with
  | nil => exact root.trans surrounds
  | cons frame path induction =>
      rw [nodes_around_cons] at agree
      rcases surrounds with ⟨cell, sibling, outer⟩
      refine ⟨cell.congr (agree _ List.mem_cons_self), sibling.congr ?_, induction outer ?_⟩
      · exact fun node inside =>
          agree node (List.mem_cons_of_mem _ (List.mem_append_left _ inside))
      · exact fun node inside =>
          agree node (List.mem_cons_of_mem _ (List.mem_append_right _ inside))

@[simp] theorem set_parent_self (node : Node) (target : Option Node) (memory : Memory Node) :
    (setParent node target memory).rbParent node = target :=
  Function.update_self _ _ _

@[simp] theorem set_child_parent (side : Side) (node : Node) (target : Option Node)
    (memory : Memory Node) : (setChild side node target memory).rbParent = memory.rbParent := rfl

omit [DecidableEq Node] in
theorem Shows.congr {other : Memory Node} (shows : Shows memory tree)
    (root : other.rbNode = memory.rbNode)
    (agree : ∀ node ∈ nodes tree, Agree memory other node) : Shows other tree :=
  ⟨root.trans shows.root, shows.hangs.congr agree, shows.distinct⟩

theorem agree_set_parent {other : Node} (different : other ≠ node) (target : Option Node) :
    Agree memory (setParent node target memory) other :=
  ⟨rfl, Function.update_of_ne different _ _, fun _ => rfl⟩

theorem agree_set_color {other : Node} (different : other ≠ node) (color : Color) :
    Agree memory (setColor node color memory) other :=
  ⟨Function.update_of_ne different _ _, rfl, fun _ => rfl⟩

@[simp] theorem set_child_self (side : Side) (node : Node) (target : Option Node)
    (memory : Memory Node) : (setChild side node target memory).rbChild side node = target := by
  simp [setChild]

@[simp] theorem set_child_other (side : Side) (node : Node) (target : Option Node)
    (memory : Memory Node) :
    (setChild side node target memory).rbChild side.other = memory.rbChild side.other :=
  Function.update_of_ne (Side.other_ne side) _ _

theorem agree_set_child {other : Node} (different : other ≠ node) (side : Side)
    (target : Option Node) : Agree memory (setChild side node target memory) other := by
  refine ⟨rfl, rfl, ?_⟩
  intro here
  by_cases same : here = side
  · subst same
    simp only [setChild, Function.update_self, Function.update_of_ne different]
  · simp only [setChild, Function.update_of_ne same]

theorem agree_adopt {other : Node} {child : Option Node} (different : child ≠ some other)
    (target : Option Node) : Agree memory (adopt child target memory) other := by
  cases child with
  | none => exact ⟨rfl, rfl, fun _ => rfl⟩
  | some child =>
      exact agree_set_parent (fun same => different (congrArg some same.symm)) target

theorem agree_relink {other : Node} {parent : Option Node} (different : parent ≠ some other)
    (side : Side) (node : Node) (target : Option Node) :
    Agree memory (relink side parent node target memory) other := by
  cases parent with
  | none => exact ⟨rfl, rfl, fun _ => rfl⟩
  | some parent =>
      have elsewhere : other ≠ parent := fun same => different (congrArg some same.symm)
      rw [relink]
      split_ifs
      · exact agree_set_child elsewhere _ _
      · exact agree_set_child elsewhere _ _

theorem relink_color (side : Side) (parent : Option Node) (node : Node) (target : Option Node)
    (memory : Memory Node) :
    (relink side parent node target memory).rbColor = memory.rbColor := by
  cases parent with
  | none => rfl
  | some parent =>
      rw [relink]
      split_ifs <;> rfl

theorem adopt_color (child target : Option Node) (memory : Memory Node) :
    (adopt child target memory).rbColor = memory.rbColor := by
  cases child <;> rfl

theorem adopt_child (child target : Option Node) (memory : Memory Node) :
    (adopt child target memory).rbChild = memory.rbChild := by
  cases child <;> rfl

theorem adopt_root (child target : Option Node) (memory : Memory Node) :
    (adopt child target memory).rbNode = memory.rbNode := by
  cases child <;> rfl

theorem Hangs.adopt (hangs : Hangs memory parent tree) (distinct : (nodes tree).Nodup)
    (target : Option Node) : Hangs (adopt (top tree) target memory) target tree := by
  cases tree with
  | nil => trivial
  | node item left right =>
      rcases hangs with ⟨cell, one, two⟩
      have unique := (nodes_branch_perm .left item left right).nodup_iff.mp distinct
      rcases List.nodup_cons.mp unique with ⟨outside, _⟩
      rw [List.mem_append, not_or] at outside
      refine ⟨⟨cell.color, Function.update_self _ _ _, cell.near, cell.far⟩, one.congr ?_,
        two.congr ?_⟩
      · exact fun node inside => agree_set_parent (ne_of_mem_of_not_mem inside outside.1) _
      · exact fun node inside => agree_set_parent (ne_of_mem_of_not_mem inside outside.2) _

def holeLink : List (Frame (Color × Node)) → Link Node
  | [] => .root
  | frame :: _ => .child frame.side frame.item.2

theorem agree_write {other : Node} (outside : other ∉ nodesAround path) (target : Option Node) :
    Agree memory ((holeLink path).write target memory) other := by
  cases path with
  | nil => exact ⟨rfl, rfl, fun _ => rfl⟩
  | cons frame path =>
      rw [nodes_around_cons, List.mem_cons, not_or] at outside
      exact agree_set_child outside.1 _ _

theorem Surrounds.write (surrounds : Surrounds memory hole path)
    (distinct : (nodesAround path).Nodup) (target : Option Node) :
    Surrounds ((holeLink path).write target memory) target path := by
  cases path with
  | nil => rfl
  | cons frame path =>
      rcases surrounds with ⟨cell, sibling, outer⟩
      rw [nodes_around_cons] at distinct
      rcases List.nodup_cons.mp distinct with ⟨once, _⟩
      rw [List.mem_append, not_or] at once
      refine ⟨⟨cell.color, cell.parent, set_child_self _ _ _ _, ?_⟩, sibling.congr ?_,
        outer.congr rfl ?_⟩
      · rw [holeLink, Link.write, set_child_other]
        exact cell.far
      · exact fun other inside => agree_set_child (ne_of_mem_of_not_mem inside once.1) _ _
      · exact fun other inside => agree_set_child (ne_of_mem_of_not_mem inside once.2) _ _

/-- The link to a hole is made one to another node, whichever side is tried first. -/
theorem Surrounds.relink_eq (surrounds : Surrounds memory (some node) path)
    (outside : node ∉ nodesAround path) (side : Side) (target : Option Node) :
    relink side (above path) node target memory = (holeLink path).write target memory := by
  cases path with
  | nil => rfl
  | cons frame path =>
      rcases surrounds with ⟨cell, _, _⟩
      rw [nodes_around_cons] at outside
      have notSibling : top frame.sibling ≠ some node := fun same =>
        outside (List.mem_cons_of_mem _ (List.mem_append_left _ (top_mem same)))
      rw [above, Rbtree.relink]
      rcases Side.eq_or_eq_other side frame.side with same | same
      · rw [same, if_pos cell.near]
        rfl
      · rw [same, if_neg (by rw [cell.far]; exact notSibling), Side.other_other]
        rfl

theorem Surrounds.relink (surrounds : Surrounds memory (some node) path)
    (outside : node ∉ nodesAround path) (distinct : (nodesAround path).Nodup) (side : Side)
    (target : Option Node) :
    Surrounds (relink side (above path) node target memory) target path := by
  rw [surrounds.relink_eq outside]
  exact surrounds.write distinct target

end Writes

section Recoloring

variable [DecidableEq Node]

theorem Shows.set_color {color : Color} {node : Node}
    (shows : Shows memory (plug path (branch side (color, node) near far))) (target : Color) :
    Shows (setColor node target memory) (plug path (branch side (target, node) near far)) := by
  rcases shows_plug.mp shows with ⟨surrounds, hangs, distinct⟩
  rw [top_branch] at surrounds
  rw [hangs_branch] at hangs
  rcases hangs with ⟨cell, one, two⟩
  have unique := distinct
  rw [((nodes_branch_perm side (color, node) near far).append_right _).nodup_iff, List.cons_append,
    List.nodup_cons, List.mem_append, List.mem_append, not_or, not_or] at unique
  rcases unique with ⟨⟨⟨notNear, notFar⟩, notAround⟩, _⟩
  rw [shows_plug, top_branch, hangs_branch]
  refine ⟨surrounds.congr rfl ?_, ⟨⟨Function.update_self _ _ _, cell.parent, cell.near, cell.far⟩,
    one.congr ?_, two.congr ?_⟩, ?_⟩
  · exact fun other inside => agree_set_color (ne_of_mem_of_not_mem inside notAround) _
  · exact fun other inside => agree_set_color (ne_of_mem_of_not_mem inside notNear) _
  · exact fun other inside => agree_set_color (ne_of_mem_of_not_mem inside notFar) _
  · rw [((nodes_branch_perm side (target, node) near far).append_right _).nodup_iff]
    rwa [((nodes_branch_perm side (color, node) near far).append_right _).nodup_iff] at distinct

end Recoloring

section Rotation

variable [DecidableEq Node]

omit [DecidableEq Node] in
theorem nodes_rotated_perm (side : Side) (upper lower : Color × Node)
    (near inner far : BinaryTree (Color × Node)) :
    (nodes (branch side lower (branch side upper near inner) far)).Perm
      (nodes (branch side upper near (branch side lower inner far))) := by
  rw [nodes, nodes, inorder_rotated]

theorem rotate_eq {upper lower : Node} {inner : Option Node}
    (child : memory.rbChild side.other upper = some lower)
    (inside : memory.rbChild side lower = inner) (notAdopted : inner ≠ some upper) :
    rotate side upper memory =
      some (setParent upper (some lower)
        (relink side (memory.rbParent upper) upper (some lower)
          (setParent lower (memory.rbParent upper)
            (setChild side lower (some upper)
              (adopt inner (some upper) (setChild side.other upper inner memory)))))) := by
  have parent : (adopt inner (some upper) (setChild side.other upper inner memory)).rbParent upper =
      memory.rbParent upper := (agree_adopt notAdopted _).parent
  rw [rotate, child, Option.bind_eq_bind, Option.bind_some, inside]
  simp only [set_parent_self, set_child_parent, parent]

theorem Shows.rotate {upper lower : Color × Node} {inner : BinaryTree (Color × Node)}
    (shows : Shows memory (plug path (branch side upper near (branch side lower inner far)))) :
    ∃ after, Rbtree.rotate side upper.2 memory = some after ∧
      Shows after (plug path (branch side lower (branch side upper near inner) far)) := by
  rcases shows_plug.mp shows with ⟨surrounds, hangs, distinct⟩
  rw [hangs_branch, hangs_branch, top_branch] at hangs
  rw [top_branch] at surrounds
  rcases hangs with ⟨upperCell, nearHangs, lowerCell, innerHangs, farHangs⟩
  have unique : (upper.2 :: lower.2 ::
      (nodes near ++ (nodes inner ++ (nodes far ++ nodesAround path)))).Nodup := by
    have first := nodes_branch_perm side upper near (branch side lower inner far)
    have second := (nodes_branch_perm side lower inner far).append_left (nodes near)
    have moved := first.trans ((second.trans List.perm_middle).cons upper.2)
    rw [(moved.append_right _).nodup_iff] at distinct
    simpa only [List.cons_append, List.append_assoc] using distinct
  simp only [List.nodup_cons, List.nodup_append, List.mem_cons, List.mem_append, not_or] at unique
  have notAdopted : top inner ≠ some upper.2 := by
    intro same
    have := top_mem same
    grind
  have notAround : ∀ node, above path = some node → node ∈ nodesAround path := fun node =>
    above_mem
  have notInner : ∀ node, top inner = some node → node ∈ nodes inner := fun node => top_mem
  refine ⟨_, rotate_eq upperCell.far lowerCell.near notAdopted, ?_⟩
  rw [upperCell.parent]
  -- the memory after each half of the writes
  let adopted := Rbtree.adopt (top inner) (some upper.2)
    (setChild side.other upper.2 (top inner) memory)
  let lowered := setParent lower.2 (above path) (setChild side lower.2 (some upper.2) adopted)
  let after := setParent upper.2 (some lower.2)
    (Rbtree.relink side (above path) upper.2 (some lower.2) lowered)
  have first : ∀ node, node ≠ upper.2 → top inner ≠ some node → Agree memory adopted node :=
    fun node notUpper notTop => (agree_set_child notUpper _ _).trans (agree_adopt notTop _)
  have second : ∀ node, node ≠ lower.2 → Agree adopted lowered node :=
    fun node notLower => (agree_set_child notLower _ _).trans (agree_set_parent notLower _)
  have third : ∀ node, node ≠ upper.2 → above path ≠ some node → Agree lowered after node :=
    fun node notUpper notAbove =>
      (agree_relink notAbove _ _ _).trans (agree_set_parent notUpper _)
  have kept : ∀ node, node ≠ upper.2 → node ≠ lower.2 → node ∉ nodes inner →
      node ∉ nodesAround path → Agree memory after node := by
    intro node notUpper notLower outside elsewhere
    have notTop : top inner ≠ some node := fun same => outside (notInner node same)
    have notAbove : above path ≠ some node := fun same => elsewhere (notAround node same)
    exact ((first node notUpper notTop).trans (second node notLower)).trans
      (third node notUpper notAbove)
  have colors : after.rbColor = memory.rbColor := by
    have same := relink_color side (above path) upper.2 (some lower.2) lowered
    exact same.trans (adopt_color _ _ _)
  have children : ∀ here, after.rbChild here upper.2 = adopted.rbChild here upper.2 :=
    fun here => ((agree_relink (by grind) _ _ _).child here).trans
      ((second upper.2 (by grind)).child here)
  change Shows after _
  rw [shows_plug, top_branch, hangs_branch, hangs_branch, top_branch]
  refine ⟨?_, ⟨⟨?_, ?_, ?_, ?_⟩, ⟨⟨?_, ?_, ?_, ?_⟩, ?_, ?_⟩, ?_⟩, ?_⟩
  · have root : lowered.rbNode = memory.rbNode := adopt_root _ _ _
    have held : Surrounds lowered (some upper.2) path := by
      apply surrounds.congr root
      intro node inside
      exact (first node (by grind) (by grind)).trans (second node (by grind))
    have linked := held.relink (by grind) (by grind) side (some lower.2)
    exact linked.congr rfl fun node inside => agree_set_parent (by grind) _
  · rw [colors]
    exact lowerCell.color
  · exact (third lower.2 (by grind) (by grind)).parent.trans (set_parent_self _ _ _)
  · exact ((third lower.2 (by grind) (by grind)).child side).trans (set_child_self _ _ _ _)
  · have unchanged := (third lower.2 (by grind) (by grind)).child side.other
    have written := congrFun (set_child_other side lower.2 (some upper.2) adopted) lower.2
    have earlier := (first lower.2 (by grind) (by grind)).child side.other
    exact unchanged.trans (written.trans (earlier.trans lowerCell.far))
  · rw [colors]
    exact upperCell.color
  · exact set_parent_self _ _ _
  · have written := congrFun (set_child_other side.other upper.2 (top inner) memory) upper.2
    rw [Side.other_other] at written
    exact (children side).trans ((congrFun (congrFun (adopt_child _ _ _) side) _).trans
      (written.trans upperCell.near))
  · exact (children side.other).trans ((congrFun (congrFun (adopt_child _ _ _) side.other) _).trans
      (set_child_self _ _ _ _))
  · exact nearHangs.congr fun node inside =>
      kept node (by grind) (by grind) (by grind) (by grind)
  · have linked : Hangs (setChild side.other upper.2 (top inner) memory) (some lower.2) inner :=
      innerHangs.congr fun node inside => agree_set_child (by grind) _ _
    exact (linked.adopt (by grind) (some upper.2)).congr fun node inside =>
      (second node (by grind)).trans (third node (by grind) (by grind))
  · exact farHangs.congr fun node inside =>
      kept node (by grind) (by grind) (by grind) (by grind)
  · rw [((nodes_rotated_perm side upper lower near inner far).append_right _).nodup_iff]
    exact distinct

end Rotation

section Sizes

theorem nodes_length (tree : BinaryTree (Color × Node)) :
    (nodes tree).length = tree.numNodes := by
  induction tree with
  | nil => rfl
  | node item left right inLeft inRight =>
      rw [nodes, inorder, List.map_append, List.length_append, List.map_cons, List.length_cons,
        BinaryTree.numNodes, ← inLeft, ← inRight, nodes, nodes]
      omega

theorem length_plug (path : List (Frame (Color × Node))) (tree : BinaryTree (Color × Node)) :
    path.length + (nodes tree).length ≤ (nodes (plug path tree)).length := by
  rw [(nodes_plug_perm path tree).length_eq, List.length_append]
  induction path with
  | nil => simp
  | cons frame path induction =>
      rw [nodes_around_cons, List.length_cons, List.length_cons, List.length_append]
      omega

end Sizes

section Holding

structure Holds (memory : Memory Node) (tree : BinaryTree (Color × Node)) (order : List Node) :
    Prop where
  shows : Shows memory tree
  order : nodes tree = order

theorem nodes_plug (path : List (Frame (Color × Node))) (tree : BinaryTree (Color × Node)) :
    nodes (plug path tree) =
      (before path).map Prod.snd ++ (nodes tree ++ (behind path).map Prod.snd) := by
  rw [nodes, inorder_plug, List.map_append, List.map_append, nodes]

theorem nodes_node (item : Color × Node) (left right : BinaryTree (Color × Node)) :
    nodes (.node item left right) = nodes left ++ item.2 :: nodes right := by
  simp [nodes, inorder]

theorem nodes_plug_node (path : List (Frame (Color × Node))) (item : Color × Node)
    (left right : BinaryTree (Color × Node)) :
    nodes (plug path (.node item left right)) =
      ((before path).map Prod.snd ++ nodes left) ++
        item.2 :: (nodes right ++ (behind path).map Prod.snd) := by
  rw [nodes_plug, nodes_node, List.append_assoc, List.append_assoc, List.cons_append]

theorem exists_plug {node : Node} (inside : node ∈ nodes tree) :
    ∃ path color left right, tree = plug path (.node (color, node) left right) := by
  induction tree with
  | nil => cases inside
  | node item left right inLeft inRight =>
      rw [nodes_node, List.mem_append, List.mem_cons] at inside
      rcases inside with before | rfl | behind
      · rcases inLeft before with ⟨path, color, one, two, rfl⟩
        refine ⟨path ++ [⟨.left, item, right⟩], color, one, two, ?_⟩
        rw [plug_append]
        rfl
      · exact ⟨[], item.1, left, right, rfl⟩
      · rcases inRight behind with ⟨path, color, one, two, rfl⟩
        refine ⟨path ++ [⟨.right, item, left⟩], color, one, two, ?_⟩
        rw [plug_append]
        rfl

variable {order : List Node} [DecidableEq Node]

theorem Holds.set_color {color : Color} {node : Node}
    (holds : Holds memory (plug path (branch side (color, node) near far)) order)
    (target : Color) :
    Holds (setColor node target memory) (plug path (branch side (target, node) near far)) order := by
  refine ⟨holds.shows.set_color target, ?_⟩
  have same : nodes (branch side (target, node) near far) =
      nodes (branch side (color, node) near far) := by
    cases side <;> simp [nodes, branch, inorder]
  rw [nodes_plug, same, ← nodes_plug]
  exact holds.order

theorem Holds.set_color_above {color : Color} {node : Node} {sibling : BinaryTree (Color × Node)}
    (holds : Holds memory (plug (⟨side, (color, node), sibling⟩ :: path) tree) order)
    (target : Color) :
    Holds (setColor node target memory) (plug (⟨side, (target, node), sibling⟩ :: path) tree)
      order := by
  have whole : Holds memory (plug path (branch side (color, node) tree sibling)) order := holds
  exact whole.set_color target

theorem Holds.rotate {upper lower : Color × Node} {inner : BinaryTree (Color × Node)}
    (holds : Holds memory (plug path (branch side upper near (branch side lower inner far))) order) :
    ∃ after, Rbtree.rotate side upper.2 memory = some after ∧
      Holds after (plug path (branch side lower (branch side upper near inner) far)) order := by
  rcases holds.shows.rotate with ⟨after, rotated, shows⟩
  refine ⟨after, rotated, shows, ?_⟩
  rw [nodes, inorder_plug_congr (inorder_rotated side upper lower near inner far)]
  exact holds.order

omit [DecidableEq Node] in
/-- The node above a hole knows what is in it. -/
theorem Shows.frame {frame : Frame (Color × Node)}
    (shows : Shows memory (plug (frame :: path) tree)) :
    Cell memory (above path) frame.item frame.side (top tree) (top frame.sibling) :=
  shows.cell

omit [DecidableEq Node] in
/-- What hangs in a hole knows the node above it. -/
theorem Shows.parent_eq {node : Node} (shows : Shows memory (plug path tree))
    (here : top tree = some node) : memory.rbParent node = above path := by
  have hangs := (shows_plug.mp shows).2.1
  cases tree with
  | nil => cases here
  | node item left right =>
      cases here
      exact hangs.1.parent

omit [DecidableEq Node] in
theorem top_plug_ne (frame : Frame (Color × Node)) (path : List (Frame (Color × Node)))
    (tree : BinaryTree (Color × Node)) : top (plug (frame :: path) tree) ≠ none := by
  induction path generalizing frame tree with
  | nil =>
      rw [plug, plug, Frame.attach, top_branch]
      exact Option.some_ne_none _
  | cons outer path induction => exact induction outer (frame.attach tree)

omit [DecidableEq Node] in
theorem Shows.not_root {frame : Frame (Color × Node)}
    (shows : Shows memory (plug (frame :: path) tree)) : top tree ≠ memory.rbNode := by
  rw [shows.root]
  intro same
  cases here : top tree with
  | none => exact top_plug_ne frame path tree (same.symm.trans here)
  | some node =>
      have below : memory.rbParent node = some frame.item.2 := shows.parent_eq here
      have whole : Shows memory (plug [] (plug (frame :: path) tree)) := shows
      have root : memory.rbParent node = none := whole.parent_eq (same.symm.trans here)
      rw [below] at root
      cases root

omit [DecidableEq Node] in
theorem Shows.children_differ {frame : Frame (Color × Node)} {node : Node}
    (shows : Shows memory (plug (frame :: path) tree)) (here : top tree = some node) :
    top frame.sibling ≠ some node := by
  intro same
  have distinct := shows.plug_distinct
  rw [nodes_around_cons] at distinct
  apply List.disjoint_of_nodup_append distinct (top_mem here)
  exact List.mem_cons_of_mem _ (List.mem_append_left _ (top_mem same))

theorem Shows.side_eq {frame : Frame (Color × Node)}
    (shows : Shows memory (plug (frame :: path) tree)) (differ : top frame.sibling ≠ top tree) :
    (if memory.rbLeft frame.item.2 = top tree then Side.left else Side.right) = frame.side := by
  have cell := shows.frame
  rcases frame with ⟨side, item, sibling⟩
  cases side with
  | left => exact if_pos cell.near
  | right => exact if_neg fun same => differ (cell.far.symm.trans same)

end Holding

end SmartHome.Rbtree
