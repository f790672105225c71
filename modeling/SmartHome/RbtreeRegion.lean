import SmartHome.RbtreeShape

/-!
# The writes stay in the tree

A region is a set of nodes out of which no pointer leads, the pointer to the root included.
The functions of `rbtree.c` reach every node they write to over pointers, so when they are
given nodes of a region, they write nowhere else, and no pointer leads out afterwards. The
nodes of a tree that lies in memory are a region.
-/

namespace SmartHome.Rbtree

open SmartHome.Library.RedBlackTrees
open SmartHome.Library.Zippers

set_option autoImplicit false

variable {Node : Type*} {region : Set Node} {base memory after : Memory Node}
  {node parent gparent other : Node} {target child : Option Node} {side : Side} {fuel : Nat}

def Inside (region : Set Node) (target : Option Node) : Prop :=
  ∀ node, target = some node → node ∈ region

/-- The region holds together, and outside of it everything is as it was. -/
structure Confined (region : Set Node) (base memory : Memory Node) : Prop where
  root : Inside region memory.rbNode
  parent : ∀ node ∈ region, Inside region (memory.rbParent node)
  child : ∀ side, ∀ node ∈ region, Inside region (memory.rbChild side node)
  outside : ∀ node ∉ region, Agree base memory node

theorem inside_some (member : node ∈ region) : Inside region (some node) := by
  intro other same
  exact Option.some.inj same ▸ member

section Writes

theorem Confined.set_root (confined : Confined region base memory)
    (inside : Inside region target) : Confined region base (setRoot target memory) where
  root := inside
  parent := confined.parent
  child := confined.child
  outside node elsewhere :=
    (confined.outside node elsewhere).trans ⟨rfl, rfl, fun _ => rfl⟩

variable [DecidableEq Node]

theorem Confined.set_parent (confined : Confined region base memory) (member : node ∈ region)
    (inside : Inside region target) : Confined region base (setParent node target memory) where
  root := confined.root
  parent := by
    intro other here
    by_cases same : other = node
    · rw [same, set_parent_self]
      exact inside
    · rw [(agree_set_parent same target).parent]
      exact confined.parent other here
  child := confined.child
  outside other elsewhere :=
    (confined.outside other elsewhere).trans
      (agree_set_parent (ne_of_mem_of_not_mem member elsewhere).symm target)

theorem Confined.set_color (confined : Confined region base memory) (member : node ∈ region)
    (color : Color) : Confined region base (setColor node color memory) where
  root := confined.root
  parent := confined.parent
  child := confined.child
  outside other elsewhere :=
    (confined.outside other elsewhere).trans
      (agree_set_color (ne_of_mem_of_not_mem member elsewhere).symm color)

theorem Confined.set_child (confined : Confined region base memory) (member : node ∈ region)
    (inside : Inside region target) (side : Side) :
    Confined region base (setChild side node target memory) where
  root := confined.root
  parent := confined.parent
  child := by
    intro here other otherMember
    by_cases same : other = node
    · subst same
      rcases Side.eq_or_eq_other here side with rfl | rfl
      · rw [set_child_self]
        exact inside
      · rw [set_child_other]
        exact confined.child side.other other member
    · rw [(agree_set_child same side target).child]
      exact confined.child here other otherMember
  outside other elsewhere :=
    (confined.outside other elsewhere).trans
      (agree_set_child (ne_of_mem_of_not_mem member elsewhere).symm side target)

theorem Confined.adopt (confined : Confined region base memory) (member : Inside region child)
    (inside : Inside region target) : Confined region base (adopt child target memory) := by
  cases child with
  | none => exact confined
  | some child => exact confined.set_parent (member child rfl) inside

theorem Confined.paint (confined : Confined region base memory) (member : Inside region child)
    (color : Color) : Confined region base (paint child color memory) := by
  cases child with
  | none => exact confined
  | some child => exact confined.set_color (member child rfl) color

theorem Confined.relink (confined : Confined region base memory) {above : Option Node}
    (member : Inside region above) (inside : Inside region target) (side : Side) (node : Node) :
    Confined region base (relink side above node target memory) := by
  cases above with
  | none => exact confined.set_root inside
  | some above =>
      rw [Rbtree.relink]
      split_ifs
      · exact confined.set_child (member above rfl) inside side
      · exact confined.set_child (member above rfl) inside side.other

theorem Confined.rotate (confined : Confined region base memory) (member : node ∈ region)
    (rotated : rotate side node memory = some after) : Confined region base after := by
  rw [Rbtree.rotate, Option.bind_eq_bind, Option.bind_eq_some_iff] at rotated
  rcases rotated with ⟨child, link, written⟩
  have lower : child ∈ region := confined.child side.other node member child link
  have inner : Inside region (memory.rbChild side child) := confined.child side child lower
  have first := (confined.set_child member inner side.other).adopt inner (inside_some member)
  have second := first.set_child lower (inside_some member) side
  have third := second.set_parent lower (second.parent node member)
  have fourth := third.relink (third.parent child lower) (inside_some lower) side node
  have last := fourth.set_parent member (inside_some lower)
  exact Option.some.inj written ▸ last

end Writes

section Insertion

variable [DecidableEq Node]

theorem Confined.rebalance {next : Node} (confined : Confined region base memory)
    (member : node ∈ region) (parentMember : parent ∈ region) (gparentMember : gparent ∈ region)
    (rebalanced : rebalance side node parent gparent memory = some (next, after)) :
    next ∈ region ∧ Confined region base after := by
  have finish : ∀ low high turned twice, low ∈ region → high ∈ region →
      Confined region base turned →
      Rbtree.rotate side.other gparent (setColor gparent .red (setColor high .black turned)) =
        some twice → low ∈ region ∧ Confined region base twice := by
    intro low high turned twice lowMember highMember kept rotated
    have colored := (kept.set_color highMember .black).set_color gparentMember .red
    exact ⟨lowMember, colored.rotate gparentMember rotated⟩
  rw [Rbtree.rebalance] at rebalanced
  split_ifs at rebalanced
  · simp only [Option.bind_eq_bind, Option.bind_eq_some_iff, Option.map_eq_some_iff] at rebalanced
    rcases rebalanced with ⟨_, ⟨turned, first, rfl⟩, twice, second, same⟩
    cases same
    exact finish parent node turned after parentMember member
      (confined.rotate parentMember first) second
  · simp only [Option.bind_eq_bind, Option.bind_some, Option.bind_eq_some_iff] at rebalanced
    rcases rebalanced with ⟨twice, second, same⟩
    cases same
    exact finish node parent memory after member parentMember confined second

theorem Confined.insert_round {next : Node} (confined : Confined region base memory)
    (member : node ∈ region) (parentMember : parent ∈ region) (gparentMember : gparent ∈ region)
    (round : insertRound side node parent gparent memory = some (next, after)) :
    next ∈ region ∧ Confined region base after := by
  rw [insertRound] at round
  cases link : memory.rbChild side.other gparent with
  | none =>
      rw [link] at round
      exact confined.rebalance member parentMember gparentMember round
  | some uncle =>
      have uncleMember := confined.child side.other gparent gparentMember uncle link
      rw [link] at round
      simp only at round
      split_ifs at round
      · cases round
        exact ⟨gparentMember, ((confined.set_color uncleMember .black).set_color parentMember
          .black).set_color gparentMember .red⟩
      · exact confined.rebalance member parentMember gparentMember round

theorem Confined.insert_loop (confined : Confined region base memory) (member : node ∈ region)
    (looped : insertLoop fuel node memory = some after) : Confined region base after := by
  induction fuel generalizing node memory with
  | zero => cases looped
  | succ fuel induction =>
      rw [insertLoop] at looped
      cases link : memory.rbParent node with
      | none =>
          rw [link] at looped
          exact Option.some.inj looped ▸ confined
      | some parent =>
          have parentMember := confined.parent node member parent link
          rw [link] at looped
          simp only at looped
          split_ifs at looped
          · simp only [Option.bind_eq_bind, Option.bind_eq_some_iff] at looped
            rcases looped with ⟨gparent, gparentLink, ⟨next, turned⟩, round, later⟩
            have gparentMember := confined.parent parent parentMember gparent gparentLink
            rcases confined.insert_round member parentMember gparentMember round with
              ⟨nextMember, kept⟩
            exact induction kept nextMember later
          · exact Option.some.inj looped ▸ confined

theorem Confined.rb_insert_color (confined : Confined region base memory) (member : node ∈ region)
    (inserted : rbInsertColor fuel node memory = some after) : Confined region base after := by
  simp only [rbInsertColor, Option.bind_eq_bind, Option.bind_eq_some_iff] at inserted
  rcases inserted with ⟨looped, loop, root, isRoot, same⟩
  have kept := confined.insert_loop member loop
  exact Option.some.inj same ▸ kept.set_color (kept.root root isRoot) .black

end Insertion

section Erasure

variable [DecidableEq Node]

theorem Confined.black_sibling (confined : Confined region base memory)
    (member : parent ∈ region) (made : blackSibling side parent memory = some (other, after)) :
    other ∈ region ∧ Confined region base after := by
  simp only [blackSibling, Option.bind_eq_bind, Option.bind_eq_some_iff] at made
  rcases made with ⟨sibling, link, made⟩
  have siblingMember := confined.child side.other parent member sibling link
  split_ifs at made
  · simp only [Option.bind_eq_some_iff] at made
    rcases made with ⟨turned, rotated, next, nextLink, same⟩
    cases same
    have kept := ((confined.set_color siblingMember .black).set_color member .red).rotate member
      rotated
    exact ⟨kept.child side.other parent member other nextLink, kept⟩
  · cases made
    exact ⟨siblingMember, confined⟩

theorem Confined.red_nephew {sibling : Node} (confined : Confined region base memory)
    (member : parent ∈ region) (siblingMember : sibling ∈ region)
    (made : redNephew side parent sibling memory = some (other, after)) :
    other ∈ region ∧ Confined region base after := by
  rw [redNephew] at made
  split_ifs at made
  · simp only [Option.bind_eq_bind, Option.bind_eq_some_iff] at made
    rcases made with ⟨turned, rotated, next, nextLink, same⟩
    cases same
    have painted := confined.paint (confined.child side sibling siblingMember) .black
    have kept := (painted.set_color siblingMember .red).rotate siblingMember rotated
    exact ⟨kept.child side.other parent member other nextLink, kept⟩
  · cases made
    exact ⟨siblingMember, confined⟩

def Round.Kept (region : Set Node) (base : Memory Node) : Round Node → Prop
  | .up node parent memory => node ∈ region ∧ Inside region parent ∧ Confined region base memory
  | .done memory => Confined region base memory

theorem Confined.erase_round {round : Round Node} (confined : Confined region base memory)
    (member : parent ∈ region) (made : eraseRound side parent memory = some round) :
    round.Kept region base := by
  simp only [eraseRound, Option.bind_eq_bind, Option.bind_eq_some_iff] at made
  rcases made with ⟨⟨sibling, blackened⟩, siblingMade, made⟩
  rcases confined.black_sibling member siblingMade with ⟨siblingMember, first⟩
  simp only at made
  split_ifs at made
  · cases made
    have kept := first.set_color siblingMember .red
    exact ⟨member, kept.parent parent member, kept⟩
  · simp only [Option.bind_eq_some_iff] at made
    rcases made with ⟨⟨last, reddened⟩, nephewMade, made⟩
    rcases first.red_nephew member siblingMember nephewMade with ⟨lastMember, second⟩
    simp only [Option.map_eq_some_iff] at made
    rcases made with ⟨turned, rotated, rfl⟩
    have colored := (second.set_color lastMember (reddened.rbColor parent)).set_color member .black
    have painted := colored.paint (colored.child side.other last lastMember) .black
    exact painted.rotate member rotated

theorem Confined.erase_loop {last : Option Node} (confined : Confined region base memory)
    (inside : Inside region child) {above : Option Node} (aboveInside : Inside region above)
    (looped : eraseLoop fuel child above memory = some (last, after)) :
    Inside region last ∧ Confined region base after := by
  induction fuel generalizing child above memory with
  | zero => cases looped
  | succ fuel induction =>
      rw [eraseLoop] at looped
      split_ifs at looped
      · simp only [Option.bind_eq_bind, Option.bind_eq_some_iff] at looped
        rcases looped with ⟨parent, isParent, round, made, later⟩
        have kept := confined.erase_round (aboveInside parent isParent) made
        cases round with
        | up node next turned => exact induction kept.2.2 (inside_some kept.1) kept.2.1 later
        | done turned =>
            have done : Confined region base turned := kept
            cases later
            exact ⟨done.root, done⟩
      · cases looped
        exact ⟨inside, confined⟩

theorem Confined.rb_erase_color (confined : Confined region base memory)
    (inside : Inside region child) {above : Option Node} (aboveInside : Inside region above)
    (erased : rbEraseColor fuel child above memory = some after) : Confined region base after := by
  simp only [rbEraseColor, Option.bind_eq_bind, Option.bind_eq_some_iff] at erased
  rcases erased with ⟨⟨last, looped⟩, loop, same⟩
  rcases confined.erase_loop inside aboveInside loop with ⟨lastInside, kept⟩
  exact Option.some.inj same ▸ kept.paint lastInside .black

omit [DecidableEq Node] in
theorem Confined.descend (confined : Confined region base memory) (member : node ∈ region)
    (found : descend side fuel node memory = some other) : other ∈ region := by
  induction fuel generalizing node with
  | zero => cases found
  | succ fuel induction =>
      rw [Rbtree.descend] at found
      cases link : memory.rbChild side node with
      | none =>
          rw [link] at found
          exact Option.some.inj found ▸ member
      | some below =>
          rw [link] at found
          exact induction (confined.child side node member below link) found

theorem Confined.unlink (confined : Confined region base memory) (member : node ∈ region)
    (inside : Inside region child) : Confined region base (unlink node child memory) := by
  have above := confined.parent node member
  exact (confined.adopt inside above).relink above inside .left node

theorem Confined.copy_node {old : Node} (confined : Confined region base memory)
    (oldMember : old ∈ region) (member : node ∈ region) :
    Confined region base (copyNode old node memory) := by
  have first := confined.set_parent member (confined.parent old oldMember)
  have second := first.set_color member ((setParent node (memory.rbParent old) memory).rbColor old)
  have third := second.set_child member (second.child .right old oldMember) .right
  exact third.set_child member (third.child .left old oldMember) .left

theorem Confined.replace_old {old : Node} (confined : Confined region base memory)
    (oldMember : old ∈ region) (member : node ∈ region)
    (replaced : replaceOld old node memory = some after) : Confined region base after := by
  simp only [replaceOld, Option.bind_eq_bind, Option.bind_eq_some_iff] at replaced
  rcases replaced with ⟨left, link, same⟩
  have first := confined.copy_node oldMember member
  have second := first.relink (first.parent old oldMember) (inside_some member) .left old
  have third := second.set_parent (second.child .left old oldMember left link) (inside_some member)
  have last := third.adopt (third.child .right old oldMember) (inside_some member)
  exact Option.some.inj same ▸ last

theorem Confined.splice_out {above : Option Node} {color : Color}
    (confined : Confined region base memory) (member : node ∈ region)
    (spliced : spliceOut fuel node memory = some ((child, above, color), after)) :
    Inside region child ∧ Inside region above ∧ Confined region base after := by
  have left := confined.child .left node member
  have right := confined.child .right node member
  have parent := confined.parent node member
  cases leftLink : memory.rbLeft node with
  | none =>
      simp only [spliceOut, leftLink] at spliced
      cases spliced
      exact ⟨right, parent, confined.unlink member right⟩
  | some first =>
      cases rightLink : memory.rbRight node with
      | none =>
          simp only [spliceOut, leftLink, rightLink] at spliced
          cases spliced
          have only : Inside region (some first) := leftLink ▸ left
          exact ⟨only, parent, confined.unlink member only⟩
      | some second =>
          simp only [spliceOut, leftLink, rightLink, Option.bind_eq_bind,
            Option.bind_eq_some_iff] at spliced
          rcases spliced with ⟨next, found, replaced, made, same⟩
          cases same
          have nextMember := confined.descend (right second rightLink) found
          have inner := confined.child .right next nextMember
          have unlinked := confined.unlink nextMember inner
          refine ⟨inner, ?_, unlinked.replace_old member nextMember made⟩
          split_ifs
          · exact inside_some nextMember
          · exact confined.parent next nextMember

theorem Confined.rb_erase (confined : Confined region base memory) (member : node ∈ region)
    (erased : rbErase fuel node memory = some after) : Confined region base after := by
  simp only [rbErase, Option.bind_eq_bind, Option.bind_eq_some_iff] at erased
  rcases erased with ⟨⟨⟨child, above, color⟩, spliced⟩, out, later⟩
  rcases confined.splice_out member out with ⟨childInside, aboveInside, kept⟩
  simp only at later
  split_ifs at later
  · exact kept.rb_erase_color childInside aboveInside later
  · exact Option.some.inj later ▸ kept

end Erasure

theorem Shows.confined {tree : BinaryTree (Color × Node)} (shows : Shows memory tree)
    (outside : ∀ node ∉ nodes tree, Agree base memory node) :
    Confined {node | node ∈ nodes tree} base memory := by
  have cells : ∀ node ∈ nodes tree, Inside {node | node ∈ nodes tree} (memory.rbParent node) ∧
      ∀ side, Inside {node | node ∈ nodes tree} (memory.rbChild side node) := by
    intro node member
    rcases exists_plug member with ⟨path, color, left, right, rfl⟩
    have cell : Cell memory (above path) (color, node) .left (top left) (top right) :=
      (show Shows memory (plug path (branch .left (color, node) left right)) from shows).cell
    have within : ∀ other, other ∈ nodes left ∨ other ∈ nodes right ∨ other ∈ nodesAround path →
        other ∈ nodes (plug path (.node (color, node) left right)) := by
      intro other inside
      rw [(nodes_plug_perm path _).mem_iff, List.mem_append]
      simp only [nodes_node, List.mem_append, List.mem_cons]
      tauto
    constructor
    · intro other link
      have isAbove : memory.rbParent node = above path := cell.parent
      exact within other (.inr (.inr (above_mem (isAbove.symm.trans link))))
    · intro side other link
      cases side with
      | left =>
          have isLeft : memory.rbChild .left node = top left := cell.near
          exact within other (.inl (top_mem (isLeft.symm.trans link)))
      | right =>
          have isRight : memory.rbChild .right node = top right := cell.far
          exact within other (.inr (.inl (top_mem (isRight.symm.trans link))))
  refine ⟨?_, fun node member => (cells node member).1, fun side node member =>
    (cells node member).2 side, outside⟩
  intro node link
  exact top_mem (shows.root.symm.trans link)

end SmartHome.Rbtree
