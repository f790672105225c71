import SmartHome.RbtreeRegion

/-!
# Insertion

While `rb_insert_color` runs, the tree is red-black but for one red node, whose parent may
be red too. A round moves this node two levels up, or it ends the loop with two rotations.
-/

namespace SmartHome.Rbtree

open SmartHome.Library.RedBlackTrees
open SmartHome.Library.SearchTrees
open SmartHome.Library.Zippers

set_option autoImplicit false

variable {Node : Type*} [DecidableEq Node] {memory : Memory Node} {order : List Node}
  {side : Side} {tree sibling uncle : BinaryTree (Color × Node)}
  {path : List (Frame (Color × Node))} {height fuel : Nat} {node parent gparent other : Node}

def blacken : BinaryTree (Color × Node) → BinaryTree (Color × Node)
  | .nil => .nil
  | .node item left right => .node (.black, item.2) left right

omit [DecidableEq Node] in
@[simp] theorem blacken_branch (item : Color × Node) (near far : BinaryTree (Color × Node)) :
    blacken (branch side item near far) = branch side (.black, item.2) near far := by
  cases side <;> rfl

section Rounds

/-- Both the parent and the uncle are red: the grandparent becomes the red node. -/
theorem insert_round_red {side other : Side}
    (holds : Holds memory
      (plug (⟨side, (.red, parent), sibling⟩ :: ⟨other, (.black, gparent), uncle⟩ :: path) tree)
      order)
    (isRed : rootColor uncle = .red) (balanced : Balanced tree height)
    (siblingBalanced : Balanced sibling height)
    (uncleBalanced : Balanced uncle height) :
    ∃ after next, insertRound other node parent gparent memory = some (gparent, after) ∧
      Holds after (plug path next) order ∧ top next = some gparent ∧ rootColor next = .red ∧
      Balanced next (height + 1) := by
  rcases exists_red .left isRed with ⟨uncleNode, near, far, rfl⟩
  rcases balanced_branch_red.mp uncleBalanced with ⟨nearBalanced, farBalanced, _, _⟩
  have upper : Shows memory (plug (⟨other, (.black, gparent), branch .left (.red, uncleNode) near far⟩
      :: path) (branch side (.red, parent) tree sibling)) := holds.shows
  have link : memory.rbChild other.other gparent = some uncleNode :=
    upper.frame.far.trans (@top_branch _ (.red, uncleNode) .left near far)
  -- the hole is moved to the uncle, to the parent and to the grandparent
  have atUncle := holds
  rw [plug, ← plug_sibling] at atUncle
  have color : memory.rbColor uncleNode = .red := atUncle.shows.cell.color
  have first := atUncle.set_color .black
  rw [plug_sibling] at first
  have second : Holds _ (plug path (branch other (.black, gparent)
      (branch side (.black, parent) tree sibling) (branch .left (.black, uncleNode) near far)))
      order := Holds.set_color first .black
  refine ⟨_, _, ?_, second.set_color .red, top_branch, root_color_branch _, ?_⟩
  · rw [insertRound, link]
    exact if_pos color
  · have parentBalanced := balanced.branch_black siblingBalanced side parent
    have uncleNext := nearBalanced.branch_black farBalanced .left uncleNode
    exact parentBalanced.branch_red uncleNext (root_color_branch _) (root_color_branch _) _ _

theorem insert_round_black {side other : Side}
    (shows : Shows memory
      (plug (⟨side, (.red, parent), sibling⟩ :: ⟨other, (.black, gparent), uncle⟩ :: path) tree))
    (isBlack : rootColor uncle = .black) :
    insertRound other node parent gparent memory = rebalance other node parent gparent memory := by
  have upper : Shows memory (plug (⟨other, (.black, gparent), uncle⟩ :: path)
      (branch side (.red, parent) tree sibling)) := shows
  have link : memory.rbChild other.other gparent = top uncle := upper.frame.far
  rw [insertRound, link]
  cases uncle with
  | nil => rfl
  | node item left right =>
      have atUncle := upper
      rw [← plug_sibling] at atUncle
      have color : memory.rbColor item.2 = item.1 :=
        (show Shows memory (plug _ (branch .left item left right)) from atUncle).cell.color
      have notRed : memory.rbColor item.2 ≠ .red := by
        rw [color, show item.1 = .black from isBlack]
        decide
      exact if_neg notRed

/-- The uncle is black: after the rotations nothing is wrong any more. -/
theorem rebalance_spec {side other : Side}
    (holds : Holds memory
      (plug (⟨side, (.red, parent), sibling⟩ :: ⟨other, (.black, gparent), uncle⟩ :: path) tree)
      order)
    (here : top tree = some node) (isRed : rootColor tree = .red)
    (balanced : Balanced tree height) (siblingBalanced : Balanced sibling height)
    (siblingBlack : rootColor sibling = .black) (uncleBalanced : Balanced uncle height)
    (uncleBlack : rootColor uncle = .black) :
    ∃ child after frame subtree, rebalance other node parent gparent memory = some (child, after) ∧
      Holds after (plug (frame :: path) subtree) order ∧ top subtree = some child ∧
      frame.item.1 = .black ∧ Balanced (frame.attach subtree) (height + 1) := by
  have lower : Shows memory (plug (⟨side, (.red, parent), sibling⟩ ::
      ⟨other, (.black, gparent), uncle⟩ :: path) tree) := holds.shows
  rcases Side.eq_or_eq_other side other with rfl | rfl
  · have notInner : memory.rbChild side.other parent ≠ some node := by
      rw [lower.frame.far]
      exact lower.children_differ here
    have first : Holds _ (plug path (branch side (.black, gparent)
        (branch side (.black, parent) tree sibling) uncle)) order := holds.set_color_above .black
    have second := first.set_color .red
    rw [← branch_other, ← branch_other side (Color.black, parent)] at second
    rcases second.rotate with ⟨after, rotated, third⟩
    refine ⟨node, after, ⟨side, (.black, parent),
      branch side.other (.red, gparent) uncle sibling⟩, tree, ?_, ?_, here, rfl, ?_⟩
    · rw [rebalance, if_neg notInner]
      simp only [Option.bind_eq_bind, Option.bind_some]
      rw [rotated]
      rfl
    · rw [← plug_sibling]
      exact third
    · exact balanced.branch_black
        (uncleBalanced.branch_red siblingBalanced uncleBlack siblingBlack _ _) _ _
  · rcases exists_red other isRed with ⟨child, inner, far, rfl⟩
    cases top_branch.symm.trans here
    rcases balanced_branch_red.mp balanced with ⟨innerBalanced, farBalanced, innerBlack, farBlack⟩
    have inner_ : memory.rbChild other.other parent = some child := lower.frame.near.trans here
    have first : Holds memory (plug (⟨other, (.black, gparent), uncle⟩ :: path)
        (branch other.other (.red, parent) (branch other (.red, child) inner far) sibling)) order :=
      holds
    rw [branch_other] at first
    rcases first.rotate with ⟨turned, rotatedFirst, second⟩
    have third : Holds _ (plug path (branch other (.black, gparent) (branch other (.black, child)
        (branch other (.red, parent) sibling inner) far) uncle)) order :=
      Holds.set_color second .black
    have fourth := third.set_color .red
    rw [← branch_other, ← branch_other other (Color.black, child)] at fourth
    rcases fourth.rotate with ⟨after, rotatedSecond, fifth⟩
    refine ⟨parent, after, ⟨other, (.black, child), branch other.other (.red, gparent) uncle far⟩,
      branch other (.red, parent) sibling inner, ?_, ?_, top_branch, rfl, ?_⟩
    · rw [rebalance, if_pos inner_, rotatedFirst]
      simp only [Option.map_some, Option.bind_eq_bind, Option.bind_some]
      rw [rotatedSecond]
      rfl
    · rw [← plug_sibling]
      exact fifth
    · have one := siblingBalanced.branch_red innerBalanced siblingBlack innerBlack other parent
      have two := uncleBalanced.branch_red farBalanced uncleBlack farBlack other.other gparent
      exact one.branch_black two _ _

end Rounds

section Loop

omit [DecidableEq Node] in
theorem blacken_red_black (redBlack : RedBlack tree) : blacken tree = tree := by
  cases tree with
  | nil => rfl
  | node item left right =>
      rcases item with ⟨color, item⟩
      cases (redBlack.1 : color = .black)
      rfl

theorem insert_loop_settled {frame : Frame (Color × Node)}
    (shows : Shows memory (plug (frame :: path) tree)) (here : top tree = some node)
    (isBlack : frame.item.1 = .black) (fuel : Nat) :
    insertLoop (fuel + 1) node memory = some memory := by
  have notRed : memory.rbColor frame.item.2 ≠ .red := by
    rw [shows.frame.color, isBlack]
    decide
  rw [insertLoop, shows.parent_eq here]
  exact if_neg notRed

theorem insert_loop_red {side other : Side}
    (shows : Shows memory
      (plug (⟨side, (.red, parent), sibling⟩ :: ⟨other, (.black, gparent), uncle⟩ :: path) tree))
    (here : top tree = some node) (fuel : Nat) :
    insertLoop (fuel + 1) node memory =
      (insertRound other node parent gparent memory).bind fun next =>
        insertLoop fuel next.1 next.2 := by
  have upper : Shows memory (plug (⟨other, (.black, gparent), uncle⟩ :: path)
      (branch side (.red, parent) tree sibling)) := shows
  have isParent : memory.rbParent node = some parent := shows.parent_eq here
  have isGparent : memory.rbParent parent = some gparent := shows.frame.parent
  have isRed : memory.rbColor parent = .red := shows.frame.color
  have isSide := upper.side_eq
  rw [top_branch] at isSide
  have differ := isSide (upper.children_differ top_branch)
  rw [insertLoop, isParent]
  simp only [isRed, isGparent, if_true, Option.bind_eq_bind, Option.bind_some, differ]

theorem insert_loop_spec (fits : Fits path height)
    (holds : Holds memory (plug path tree) order) (here : top tree = some node)
    (isRed : rootColor tree = .red) (balanced : Balanced tree height)
    (enough : path.length < fuel) :
    ∃ after next, insertLoop fuel node memory = some after ∧ Holds after next order ∧
      RedBlack (blacken next) := by
  induction fuel generalizing path tree node memory height with
  | zero => exact absurd enough (Nat.not_lt_zero _)
  | succ fuel induction =>
      cases fits with
      | root height =>
          rcases exists_red .left isRed with ⟨item, left, right, rfl⟩
          rcases balanced_branch_red.mp balanced with ⟨one, two, _, _⟩
          refine ⟨memory, _, ?_, holds, rfl, height + 1, one.black two⟩
          rw [insertLoop, holds.shows.parent_eq here]
          rfl
      | @black side item sibling path height siblingBalanced above =>
          have fits : Fits (⟨side, (.black, item), sibling⟩ :: path) height :=
            .black siblingBalanced above
          have redBlack := fits.plug balanced (.inr rfl)
          refine ⟨memory, _, insert_loop_settled holds.shows here rfl fuel, holds, ?_⟩
          rw [blacken_red_black redBlack]
          exact redBlack
      | @red side other parent gparent sibling uncle path height siblingBalanced siblingBlack above =>
          rw [List.length_cons, List.length_cons] at enough
          rw [insert_loop_red holds.shows here]
          cases above with
          | black uncleBalanced outer =>
              cases uncleColor : rootColor uncle with
              | red =>
                  rcases insert_round_red holds uncleColor balanced siblingBalanced uncleBalanced with
                    ⟨after, next, round, nextHolds, nextHere, nextRed, nextBalanced⟩
                  rw [round, Option.bind_some]
                  exact induction outer nextHolds nextHere nextRed nextBalanced (by omega)
              | black =>
                  rcases rebalance_spec holds here isRed balanced siblingBalanced siblingBlack
                    uncleBalanced uncleColor with
                    ⟨child, after, frame, subtree, round, nextHolds, nextHere, frameBlack, whole⟩
                  have redBlack : RedBlack (plug path (frame.attach subtree)) :=
                    outer.plug whole (.inl ((root_color_branch _).trans frameBlack))
                  rw [insert_round_black holds.shows uncleColor, round, Option.bind_some]
                  cases fuel with
                  | zero => omega
                  | succ fuel =>
                      refine ⟨after, _, insert_loop_settled nextHolds.shows nextHere frameBlack fuel,
                        nextHolds, ?_⟩
                      rw [plug, blacken_red_black redBlack]
                      exact redBlack

end Loop

/-- `rb_insert_color` below a red leaf in a hole of a red-black tree. -/
theorem rb_insert_color_spec (redBlack : RedBlack (plug path .nil))
    (holds : Holds memory (plug path (branch side (.red, node) .nil .nil)) order)
    (enough : order.length < fuel) :
    ∃ after next, rbInsertColor fuel node memory = some after ∧ Holds after next order ∧
      RedBlack next := by
  rcases redBlack.unplug with ⟨height, fits, empty, _⟩
  cases empty
  have leaf : Balanced (branch side (.red, node) .nil .nil) 0 :=
    Balanced.nil.branch_red .nil rfl rfl _ _
  have short := length_plug path (branch side (.red, node) .nil .nil)
  rw [holds.order] at short
  have shallow : path.length < fuel := by omega
  rcases insert_loop_spec fits holds top_branch (root_color_branch _) leaf shallow with
    ⟨looped, next, loop, nextHolds, settled⟩
  rw [rbInsertColor, loop, Option.bind_eq_bind, Option.bind_some]
  cases next with
  | nil =>
      have member : node ∈ order := by
        rw [← holds.order, (nodes_plug_perm path _).mem_iff]
        exact List.mem_append_left _ (top_mem top_branch)
      rw [← nextHolds.order] at member
      cases member
  | node item left right =>
      have whole : Holds looped (plug [] (branch .left (item.1, item.2) left right)) order :=
        nextHolds
      rw [nextHolds.shows.root]
      exact ⟨_, _, rfl, whole.set_color .black, settled⟩

theorem agree_link_node (different : other ≠ node) (outside : other ∉ nodes (plug path .nil)) :
    Agree memory (rbLinkNode node (above path) (holeLink path) memory) other := by
  rw [(nodes_plug_perm path .nil).mem_iff, nodes_nil, List.nil_append] at outside
  exact ((((agree_set_parent different _).trans (agree_set_color different _)).trans
    (agree_set_child different _ _)).trans (agree_set_child different _ _)).trans
    (agree_write outside _)

theorem rb_link_node_spec (shows : Shows memory (plug path .nil))
    (fresh : node ∉ nodes (plug path .nil)) :
    Holds (rbLinkNode node (above path) (holeLink path) memory)
      (plug path (branch .left (.red, node) .nil .nil))
      ((before path).map Prod.snd ++ node :: (behind path).map Prod.snd) := by
  rcases shows_plug.mp shows with ⟨surrounds, _, distinct⟩
  rw [nodes_nil, List.nil_append] at distinct
  have outside : node ∉ nodesAround path := by
    rwa [(nodes_plug_perm path .nil).mem_iff, nodes_nil, List.nil_append] at fresh
  let leaf := setChild .left node none (setChild .right node none
    (setColor node .red (setParent node (above path) memory)))
  have elsewhere : ∀ other ∈ nodesAround path, Agree memory leaf other := by
    intro other inside
    have different := ne_of_mem_of_not_mem inside outside
    exact (((agree_set_parent different _).trans (agree_set_color different _)).trans
      (agree_set_child different _ _)).trans (agree_set_child different _ _)
  have cell : Cell leaf (above path) (.red, node) .left none none := by
    constructor <;> simp [leaf, setParent, setColor, setChild, Side.other]
  have surroundsLeaf : Surrounds leaf none path := surrounds.congr rfl elsewhere
  refine ⟨shows_plug.mpr ⟨surroundsLeaf.write distinct _, ?_, ?_⟩, ?_⟩
  · exact ⟨cell.congr (agree_write outside _), trivial, trivial⟩
  · have perm := (nodes_branch_perm .left ((.red : Color), node) .nil .nil).append_right
      (nodesAround path)
    exact perm.nodup_iff.mpr (List.nodup_cons.mpr ⟨outside, distinct⟩)
  · rw [nodes_plug]
    rfl

/-- A node that is new to a red-black tree is linked in at any hole, and the tree is red-black again
with the node between those to the left and to the right of the hole. The loop ends, no null pointer
is followed, and no other node is written to. -/
theorem rb_insert_keeps_red_black (redBlack : RedBlack (plug path .nil))
    (shows : Shows memory (plug path .nil)) (fresh : node ∉ nodes (plug path .nil))
    (enough : (nodes (plug path .nil)).length + 1 < fuel) :
    ∃ after next,
      rbInsertColor fuel node (rbLinkNode node (above path) (holeLink path) memory) = some after ∧
      Shows after next ∧ RedBlack next ∧
      nodes next = (before path).map Prod.snd ++ node :: (behind path).map Prod.snd ∧
      ∀ other, other ≠ node → other ∉ nodes (plug path .nil) → Agree memory after other := by
  have size : ((before path).map Prod.snd ++ node :: (behind path).map Prod.snd).length < fuel := by
    rw [nodes_plug, nodes_nil, List.nil_append, List.length_append] at enough
    rw [List.length_append, List.length_cons]
    omega
  have linked := rb_link_node_spec shows fresh
  rcases rb_insert_color_spec redBlack linked size with
    ⟨after, next, inserted, holds, nextRedBlack⟩
  refine ⟨after, next, inserted, holds.shows, nextRedBlack, holds.order, ?_⟩
  have grown : ∀ other, other ∈ nodes (plug path (branch .left (.red, node) .nil .nil)) ↔
      other = node ∨ other ∈ nodes (plug path .nil) := by
    intro other
    rw [(nodes_plug_perm _ _).mem_iff, (nodes_plug_perm _ _).mem_iff, List.mem_append,
      mem_nodes_branch, nodes_nil, List.nil_append]
    simp
  have confined := linked.shows.confined fun other outside => by
    rw [grown, not_or] at outside
    exact agree_link_node outside.1 outside.2
  have kept := confined.rb_insert_color ((grown node).mpr (.inl rfl)) inserted
  intro other different outside
  apply kept.outside
  rw [Set.mem_ofPred_eq, grown, not_or]
  exact ⟨different, outside⟩

def twoNodes : Memory Nat where
  rbParent node := if node = 1 then some 0 else none
  rbColor node := if node = 0 then .black else .red
  rbChild side node := if side = .right ∧ node = 0 then some 1 else none
  rbNode := some 0

/-- A third node on the right turns the tree to the left. -/
theorem rb_insert_keeps_red_black_third :
    ∃ after next, rbInsertColor 4 2 (rbLinkNode 2 (some 1) (.child .right 1) twoNodes) = some after ∧
      Shows after next ∧ RedBlack next ∧ nodes next = [0, 1, 2] ∧
      ∀ other, 2 < other → Agree twoNodes after other := by
  let path : List (Frame (Color × Nat)) := [⟨.right, (.red, 1), .nil⟩, ⟨.right, (.black, 0), .nil⟩]
  have shows : Shows twoNodes (plug path .nil) := by
    refine ⟨rfl, ⟨⟨rfl, rfl, rfl, rfl⟩, trivial, ⟨rfl, rfl, rfl, rfl⟩, trivial, trivial⟩, ?_⟩
    decide
  have redBlack : RedBlack (plug path .nil) :=
    ⟨rfl, 1, .black .nil (.red .nil .nil rfl rfl)⟩
  rcases rb_insert_keeps_red_black redBlack shows (by decide : 2 ∉ nodes (plug path .nil))
    (by decide : _ < 4) with ⟨after, next, inserted, nextShows, nextRedBlack, order, elsewhere⟩
  refine ⟨after, next, inserted, nextShows, nextRedBlack, order, ?_⟩
  intro other larger
  apply elsewhere other (ne_of_gt larger)
  have isPath : nodes (plug path .nil) = [0, 1] := rfl
  rw [isPath, List.mem_pair]
  omega

end SmartHome.Rbtree
