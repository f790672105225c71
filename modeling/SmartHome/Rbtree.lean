import SmartHome.Library.RedBlackTrees

/-!
# rbtree.c

The nodes lie in memory, each with its parent, its colour and its two children. Where the
source has one branch for each side, there is one definition with the side as an argument.
A result of `none` means that a null pointer was followed, or that a loop ran out of fuel.
-/

namespace SmartHome.Rbtree

open SmartHome.Library.RedBlackTrees
open SmartHome.Library.Zippers

set_option autoImplicit false

variable {Node : Type*} [DecidableEq Node]

/-- The nodes `struct rb_node`, and `rb_node` of the `struct rb_root`. -/
structure Memory (Node : Type*) where
  rbParent : Node → Option Node
  rbColor : Node → Color
  rbChild : Side → Node → Option Node
  rbNode : Option Node

def Memory.rbLeft (memory : Memory Node) (node : Node) : Option Node := memory.rbChild .left node

def Memory.rbRight (memory : Memory Node) (node : Node) : Option Node :=
  memory.rbChild .right node

def setParent (node : Node) (target : Option Node) (memory : Memory Node) : Memory Node :=
  { memory with rbParent := Function.update memory.rbParent node target }

def setColor (node : Node) (color : Color) (memory : Memory Node) : Memory Node :=
  { memory with rbColor := Function.update memory.rbColor node color }

def setChild (side : Side) (node : Node) (target : Option Node) (memory : Memory Node) :
    Memory Node :=
  { memory with
    rbChild := Function.update memory.rbChild side
      (Function.update (memory.rbChild side) node target) }

def setRoot (target : Option Node) (memory : Memory Node) : Memory Node :=
  { memory with rbNode := target }

/-- `if (child) child->rb_parent = parent;` -/
def adopt (child : Option Node) (parent : Option Node) (memory : Memory Node) : Memory Node :=
  match child with
  | none => memory
  | some child => setParent child parent memory

/-- `if (child) child->rb_color = color;` -/
def paint (child : Option Node) (color : Color) (memory : Memory Node) : Memory Node :=
  match child with
  | none => memory
  | some child => setColor child color memory

/-- The link to `node` is made one to `target`. Which child `node` is, is tried on `side` first. -/
def relink (side : Side) (parent : Option Node) (node : Node) (target : Option Node)
    (memory : Memory Node) : Memory Node :=
  match parent with
  | none => setRoot target memory
  | some parent =>
      if memory.rbChild side parent = some node then setChild side parent target memory
      else setChild side.other parent target memory

def rotate (side : Side) (node : Node) (memory : Memory Node) : Option (Memory Node) := do
  let child ← memory.rbChild side.other node
  let inner := memory.rbChild side child
  let memory := setChild side.other node inner memory
  let memory := adopt inner (some node) memory
  let memory := setChild side child (some node) memory
  let memory := setParent child (memory.rbParent node) memory
  let memory := relink side (memory.rbParent child) node (some child) memory
  some (setParent node (some child) memory)

/-- `__rb_rotate_left` -/
def rbRotateLeft : Node → Memory Node → Option (Memory Node) := rotate .left

/-- `__rb_rotate_right` -/
def rbRotateRight : Node → Memory Node → Option (Memory Node) := rotate .right

section Insertion

/-- The two rotations of a round: a node that hangs on the inner side changes places with its
parent before. -/
def rebalance (side : Side) (node parent gparent : Node) (memory : Memory Node) :
    Option (Node × Memory Node) := do
  let (node, parent, memory) ←
    if memory.rbChild side.other parent = some node then
      (rotate side parent memory).map fun memory => (parent, node, memory)
    else some (node, parent, memory)
  let memory := setColor parent .black memory
  let memory := setColor gparent .red memory
  let memory ← rotate side.other gparent memory
  some (node, memory)

/-- The body of the loop of `rb_insert_color`, where the parent is the child of `gparent` on
`side`. -/
def insertRound (side : Side) (node parent gparent : Node) (memory : Memory Node) :
    Option (Node × Memory Node) :=
  match memory.rbChild side.other gparent with
  | none => rebalance side node parent gparent memory
  | some uncle =>
      if memory.rbColor uncle = .red then
        let memory := setColor uncle .black memory
        let memory := setColor parent .black memory
        some (gparent, setColor gparent .red memory)
      else rebalance side node parent gparent memory

def insertLoop : Nat → Node → Memory Node → Option (Memory Node)
  | 0, _, _ => none
  | fuel + 1, node, memory =>
      match memory.rbParent node with
      | none => some memory
      | some parent =>
          if memory.rbColor parent = .red then do
            let gparent ← memory.rbParent parent
            let side : Side := if memory.rbLeft gparent = some parent then .left else .right
            let (node, memory) ← insertRound side node parent gparent memory
            insertLoop fuel node memory
          else some memory

def rbInsertColor (fuel : Nat) (node : Node) (memory : Memory Node) : Option (Memory Node) := do
  let memory ← insertLoop fuel node memory
  let root ← memory.rbNode
  some (setColor root .black memory)

end Insertion

section Erasure

def isBlack (memory : Memory Node) : Option Node → Bool
  | none => true
  | some node => memory.rbColor node = .black

/-- How a round of `__rb_erase_color` ends: with `continue`, or with `break`. -/
inductive Round (Node : Type*)
  | up (node : Node) (parent : Option Node) (memory : Memory Node)
  | done (memory : Memory Node)

def blackSibling (side : Side) (parent : Node) (memory : Memory Node) :
    Option (Node × Memory Node) := do
  let other ← memory.rbChild side.other parent
  if memory.rbColor other = .red then
    let memory := setColor other .black memory
    let memory := setColor parent .red memory
    let memory ← rotate side parent memory
    let other ← memory.rbChild side.other parent
    some (other, memory)
  else some (other, memory)

def redNephew (side : Side) (parent other : Node) (memory : Memory Node) :
    Option (Node × Memory Node) := do
  if isBlack memory (memory.rbChild side.other other) then
    let memory := paint (memory.rbChild side other) .black memory
    let memory := setColor other .red memory
    let memory ← rotate side.other other memory
    let other ← memory.rbChild side.other parent
    some (other, memory)
  else some (other, memory)

/-- The body of the loop of `__rb_erase_color`, where the node is the child of its parent on
`side`. -/
def eraseRound (side : Side) (parent : Node) (memory : Memory Node) : Option (Round Node) := do
  let (other, memory) ← blackSibling side parent memory
  if isBlack memory (memory.rbChild side other) ∧
      isBlack memory (memory.rbChild side.other other) then
    let memory := setColor other .red memory
    some (.up parent (memory.rbParent parent) memory)
  else
    let (other, memory) ← redNephew side parent other memory
    let memory := setColor other (memory.rbColor parent) memory
    let memory := setColor parent .black memory
    let memory := paint (memory.rbChild side.other other) .black memory
    (rotate side parent memory).map .done

def eraseLoop : Nat → Option Node → Option Node → Memory Node → Option (Option Node × Memory Node)
  | 0, _, _, _ => none
  | fuel + 1, node, parent, memory =>
      if isBlack memory node ∧ node ≠ memory.rbNode then do
        let parent ← parent
        let side : Side := if memory.rbLeft parent = node then .left else .right
        match ← eraseRound side parent memory with
        | .up node parent memory => eraseLoop fuel (some node) parent memory
        | .done memory => some (memory.rbNode, memory)
      else some (node, memory)

/-- `__rb_erase_color` -/
def rbEraseColor (fuel : Nat) (node parent : Option Node) (memory : Memory Node) :
    Option (Memory Node) := do
  let (node, memory) ← eraseLoop fuel node parent memory
  some (paint node .black memory)

def descend (side : Side) : Nat → Node → Memory Node → Option Node
  | 0, _, _ => none
  | fuel + 1, node, memory =>
      match memory.rbChild side node with
      | none => some node
      | some below => descend side fuel below memory

/-- A node with at most one child goes, and the child takes its place. -/
def unlink (node : Node) (child : Option Node) (memory : Memory Node) : Memory Node :=
  let parent := memory.rbParent node
  relink .left parent node child (adopt child parent memory)

/-- `*node = *old;` -/
def copyNode (old node : Node) (memory : Memory Node) : Memory Node :=
  let memory := setParent node (memory.rbParent old) memory
  let memory := setColor node (memory.rbColor old) memory
  let memory := setChild .right node (memory.rbRight old) memory
  setChild .left node (memory.rbLeft old) memory

def replaceOld (old node : Node) (memory : Memory Node) : Option (Memory Node) := do
  let memory := copyNode old node memory
  let memory := relink .left (memory.rbParent old) old (some node) memory
  let left ← memory.rbLeft old
  let memory := setParent left (some node) memory
  some (adopt (memory.rbRight old) (some node) memory)

/-- `rb_erase` up to its label `color`: the child, its parent and the colour that is missing. -/
def spliceOut (fuel : Nat) (node : Node) (memory : Memory Node) :
    Option ((Option Node × Option Node × Color) × Memory Node) :=
  match memory.rbLeft node, memory.rbRight node with
  | none, child | child, none =>
      some ((child, memory.rbParent node, memory.rbColor node), unlink node child memory)
  | some _, some right => do
      let old := node
      let node ← descend .left fuel right memory
      let child := memory.rbRight node
      let parent := memory.rbParent node
      let color := memory.rbColor node
      let memory := unlink node child memory
      let parent := if memory.rbParent node = some old then some node else parent
      let memory ← replaceOld old node memory
      some ((child, parent, color), memory)

def rbErase (fuel : Nat) (node : Node) (memory : Memory Node) : Option (Memory Node) := do
  let ((child, parent, color), memory) ← spliceOut fuel node memory
  if color = .black then rbEraseColor fuel child parent memory else some memory

end Erasure

section Traversal

def outermost (side : Side) (fuel : Nat) (memory : Memory Node) : Option (Option Node) :=
  match memory.rbNode with
  | none => some none
  | some node => (descend side fuel node memory).map some

def rbFirst : Nat → Memory Node → Option (Option Node) := outermost .left

def rbLast : Nat → Memory Node → Option (Option Node) := outermost .right

/-- The parent of the first node on the way up that hangs on the other side. -/
def climb (side : Side) : Nat → Node → Memory Node → Option (Option Node)
  | 0, _, _ => none
  | fuel + 1, node, memory =>
      match memory.rbParent node with
      | none => some none
      | some parent =>
          if memory.rbChild side parent = some node then climb side fuel parent memory
          else some (some parent)

def neighbor (side : Side) (fuel : Nat) (node : Node) (memory : Memory Node) :
    Option (Option Node) :=
  match memory.rbChild side node with
  | some below => (descend side.other fuel below memory).map some
  | none => climb side fuel node memory

def rbNext : Nat → Node → Memory Node → Option (Option Node) := neighbor .right

def rbPrev : Nat → Node → Memory Node → Option (Option Node) := neighbor .left

end Traversal

def rbReplaceNode (victim newnode : Node) (memory : Memory Node) : Memory Node :=
  let memory := relink .left (memory.rbParent victim) victim (some newnode) memory
  let memory := adopt (memory.rbLeft victim) (some newnode) memory
  let memory := adopt (memory.rbRight victim) (some newnode) memory
  copyNode victim newnode memory

inductive Link (Node : Type*)
  | root
  | child (side : Side) (node : Node)

def Link.read (memory : Memory Node) : Link Node → Option Node
  | .root => memory.rbNode
  | .child side node => memory.rbChild side node

def Link.write (target : Option Node) (memory : Memory Node) : Link Node → Memory Node
  | .root => setRoot target memory
  | .child side node => setChild side node target memory

def rbLinkNode (node : Node) (parent : Option Node) (rbLink : Link Node) (memory : Memory Node) :
    Memory Node :=
  let memory := setParent node parent memory
  let memory := setColor node .red memory
  let memory := setChild .left node none (setChild .right node none memory)
  rbLink.write (some node) memory

end SmartHome.Rbtree
