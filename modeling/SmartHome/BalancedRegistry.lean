import SmartHome.RbtreeRegistry

/-!
# The registry stays balanced

The searches of the registry find what is in its tree, and what an insertion or a removal
does in memory is what the registry over search trees does for some rebalancing that keeps
the order. So everything that is known of that registry holds of this one too, and no way
down its tree is longer than twice the logarithm of the number of connections.
-/

namespace SmartHome.RbtreeRegistry

open SmartHome.Library.LinkedLists
open SmartHome.Library.RedBlackTrees
open SmartHome.Library.Runs
open SmartHome.Library.SearchTrees
open SmartHome.Library.Zippers
open SmartHome.Connections (Connection ConnType WellFormed pending)
open SmartHome.ConnectionPool
open SmartHome.PooledConnections
open SmartHome.Rbtree

set_option autoImplicit false

variable {registry : Registry} {tree : BinaryTree (Color × Nat)} {live free : List Nat}
  {c : Nat} {fuel : Nat} {memory : Memory Nat} {fd : Nat → Int}
  {path : List (Frame (Color × Nat))}

theorem inorder_nodes (tree : BinaryTree (Color × Nat)) :
    inorder (tree.map Prod.snd) = nodes tree := inorder_map _ _

section Searching

theorem search_eq {parent : Option Nat} (hangs : Hangs memory parent tree)
    (enough : tree.height < fuel) (wanted : Int) :
    search fd wanted fuel (top tree) memory = some (find fd wanted (tree.map Prod.snd)) := by
  induction tree generalizing parent fuel with
  | nil =>
      cases fuel with
      | zero => exact absurd enough (Nat.not_lt_zero _)
      | succ fuel => rfl
  | node item left right inLeft inRight =>
      cases fuel with
      | zero => exact absurd enough (Nat.not_lt_zero _)
      | succ fuel =>
          rw [BinaryTree.height] at enough
          rcases hangs with ⟨cell, leftHangs, rightHangs⟩
          have leftLink : memory.rbLeft item.2 = top left := cell.near
          have rightLink : memory.rbRight item.2 = top right := cell.far
          rw [top, search, BinaryTree.map, find, leftLink, rightLink,
            inLeft leftHangs (by omega), inRight rightHangs (by omega)]
          split_ifs <;> rfl

theorem hole_link_read {hole : Option Nat} (surrounds : Surrounds memory hole path) :
    (holeLink path).read memory = hole := by
  cases path with
  | nil => exact surrounds
  | cons frame path => exact surrounds.1.near

theorem place_spec (shows : Shows memory (plug path tree))
    (ascending : Ascending fd (nodes (plug path tree))) (enough : tree.height < fuel)
    (unused : ∀ other ∈ nodes tree, fd other ≠ fd c)
    (below : ∀ item ∈ before path, fd item.2 < fd c)
    (beyond : ∀ item ∈ behind path, fd c < fd item.2) :
    ∃ outer, plug outer .nil = plug path tree ∧
      place fd c fuel (above path) (holeLink path) memory =
        some (.hole (above outer) (holeLink outer)) ∧
      (∀ item ∈ before outer, fd item.2 < fd c) ∧ ∀ item ∈ behind outer, fd c < fd item.2 := by
  induction tree generalizing path fuel with
  | nil =>
      cases fuel with
      | zero => exact absurd enough (Nat.not_lt_zero _)
      | succ fuel =>
          refine ⟨path, rfl, ?_, below, beyond⟩
          rw [place, hole_link_read (shows_plug.mp shows).1]
          rfl
  | node item left right inLeft inRight =>
      cases fuel with
      | zero => exact absurd enough (Nat.not_lt_zero _)
      | succ fuel =>
          rw [BinaryTree.height] at enough
          have sorted := ascending
          rw [nodes_plug_node] at sorted
          rcases ascending_middle.mp sorted with ⟨_, _, lower, upper⟩
          have here : fd item.2 ≠ fd c := unused _ (by simp [nodes_node])
          rw [place, hole_link_read (shows_plug.mp shows).1]
          simp only [top]
          split_ifs with smaller larger
          · apply @inLeft fuel (⟨.left, item, right⟩ :: path) shows ascending (by omega)
            · exact fun other inside => unused other (by simp [nodes_node, inside])
            · exact below
            · intro next inside
              rw [behind, List.cons_append, List.mem_cons, List.mem_append] at inside
              rcases inside with rfl | inside | outside
              · exact smaller
              · have later : next.2 ∈ nodes right := List.mem_map_of_mem inside
                exact smaller.trans (upper next.2 (List.mem_append_left _ later))
              · exact beyond next outside
          · apply @inRight fuel (⟨.right, item, left⟩ :: path) shows ascending (by omega)
            · exact fun other inside => unused other (by simp [nodes_node, inside])
            · intro next inside
              rw [before, List.mem_append, List.mem_append, List.mem_singleton] at inside
              rcases inside with outside | inside | rfl
              · exact below next outside
              · have earlier : next.2 ∈ nodes left := List.mem_map_of_mem inside
                exact (lower next.2 (List.mem_append_right _ earlier)).trans larger
              · exact larger
            · exact beyond
          · exact absurd (le_antisymm (not_lt.mp smaller) (not_lt.mp larger)) here

end Searching

/-- A rebalancing that keeps the order and makes a certain tree wherever it may. -/
def making (next : BinaryTree Nat) : ConnectionPool.Rbtree where
  insertColor _ tree := if inorder tree = inorder next then next else tree
  erase c tree := if inorder next = (inorder tree).erase c then next else eraseItem c tree

theorem making_keeps_order (next : BinaryTree Nat) : KeepsOrder (making next) := by
  constructor
  · intro c tree
    simp only [making]
    split_ifs with same
    · exact same.symm
    · rfl
  · intro c tree _
    simp only [making]
    split_ifs with same
    · exact same
    · exact inorder_erase_item c tree

/-- The tree that lies in memory is red-black, and with it the registry is one over search
trees. -/
structure Balances (registry : Registry) (tree : BinaryTree (Color × Nat)) (live free : List Nat) :
    Prop where
  shows : Shows registry.memory tree
  redBlack : RedBlack tree
  keeps : Keeps (registry.pool (tree.map Prod.snd)) live free

section Simulation

theorem Balances.size_le (balances : Balances registry tree live free) :
    (nodes tree).length ≤ registry.created := by
  have perm := balances.keeps.tree
  rw [show (registry.pool (tree.map Prod.snd)).connrbtreeroot = tree.map Prod.snd from rfl,
    inorder_nodes] at perm
  rw [perm.length_eq]
  exact balances.keeps.length_le

theorem Balances.ascending (balances : Balances registry tree live free) :
    Ascending registry.fd (nodes tree) := by
  rw [← inorder_nodes]
  exact balances.keeps.ascending

theorem Balances.mem_iff (balances : Balances registry tree live free) :
    c ∈ nodes tree ↔ c ∈ live := by
  rw [← inorder_nodes]
  exact balances.keeps.tree.mem_iff

theorem Balances.height_lt (balances : Balances registry tree live free) :
    tree.height < registry.fuel := by
  have size := balances.size_le
  rw [nodes_length] at size
  exact Nat.lt_succ_of_le (tree.height_le_numNodes.trans size)

theorem getconn_eq (balances : Balances registry tree live free) (fd : Int) :
    connrbtreeGetconn fd registry =
      some (ConnectionPool.connrbtreeGetconn fd (registry.pool (tree.map Prod.snd))) := by
  rw [connrbtreeGetconn, balances.shows.root,
    search_eq balances.shows.hangs balances.height_lt fd]
  rfl

/-- `connrbtree_insert` in memory is one over search trees. -/
theorem insert_simulated (balances : Balances registry tree live free)
    (inHand : InHand (registry.pool (tree.map Prod.snd)) live free c)
    (unused : ∀ other ∈ live, registry.fd other ≠ registry.fd c) :
    ∃ rb after next, KeepsOrder rb ∧ connrbtreeInsert c registry = some after ∧
      ConnectionPool.connrbtreeInsert rb c (registry.pool (tree.map Prod.snd)) =
        some (after.pool (next.map Prod.snd)) ∧
      Shows after.memory next ∧ RedBlack next := by
  have unusedNodes : ∀ other ∈ nodes tree, registry.fd other ≠ registry.fd c :=
    fun other inside => unused other (balances.mem_iff.mp inside)
  have whole : Shows registry.memory (plug [] tree) := balances.shows
  rcases place_spec whole balances.ascending balances.height_lt unusedNodes nofun nofun with
    ⟨outer, same, placed, below, beyond⟩
  have atHole : Shows registry.memory (plug outer .nil) := same ▸ balances.shows
  have redBlack : RedBlack (plug outer .nil) := same ▸ balances.redBlack
  have outside : c ∉ nodes tree :=
    fun inside => inHand.outside (List.mem_append_left _ (balances.mem_iff.mp inside))
  have linked := rb_link_node_spec atHole (by rwa [same] : c ∉ nodes (plug outer .nil))
  have split : nodes tree = (before outer).map Prod.snd ++ (behind outer).map Prod.snd := by
    rw [show tree = plug [] tree from rfl, ← same, nodes_plug, nodes_nil, List.nil_append]
  have moved : ((before outer).map Prod.snd ++ c :: (behind outer).map Prod.snd).Perm
      (c :: nodes tree) := by
    rw [split]
    exact List.perm_middle
  have enough : ((before outer).map Prod.snd ++ c :: (behind outer).map Prod.snd).length <
      registry.fuel := by
    have inside : c :: nodes tree ⊆ List.range registry.created := by
      intro other member
      rw [List.mem_range]
      rcases List.mem_cons.mp member with rfl | inside
      · exact inHand.created
      · exact balances.keeps.created other (List.mem_append_left _ (balances.mem_iff.mp inside))
    have bound := (List.subperm_of_subset (List.nodup_cons.mpr ⟨outside, balances.shows.distinct⟩)
      inside).length_le
    rw [List.length_range, ← moved.length_eq] at bound
    exact Nat.lt_succ_of_le bound
  rcases rb_insert_color_spec redBlack linked enough with
    ⟨memory, next, inserted, holds, nextRedBlack⟩
  -- both insertions make the one ascending list with the new connection
  have sorted : Ascending registry.fd (nodes next) := by
    have ascending := balances.ascending
    rw [split, Ascending, List.pairwise_append] at ascending
    rw [holds.order, ascending_middle]
    refine ⟨ascending.1, ascending.2.1, ?_, ?_⟩
    · intro other member
      rcases List.mem_map.mp member with ⟨item, inside, rfl⟩
      exact below item inside
    · intro other member
      rcases List.mem_map.mp member with ⟨item, inside, rfl⟩
      exact beyond item inside
  have unusedTree : ∀ other ∈ inorder (tree.map Prod.snd), registry.fd other ≠ registry.fd c := by
    rwa [inorder_nodes]
  rcases insert_leaf_ok (show Ascending registry.fd (inorder (tree.map Prod.snd)) from
    balances.keeps.ascending) unusedTree with ⟨leafTree, leaf, perm, ascending⟩
  have list : inorder leafTree = inorder (next.map Prod.snd) := by
    apply ascending.perm_eq
    · rwa [inorder_nodes]
    · rw [inorder_nodes, holds.order]
      rw [inorder_nodes] at perm
      exact perm.trans moved.symm
  refine ⟨making (next.map Prod.snd), { registry with
    memory := memory
    links := addTail (.connection c) .connlisthead registry.links }, next, making_keeps_order _, ?_,
    ?_, holds.shows, nextRedBlack⟩
  · have reached : place registry.fd c registry.fuel none .root registry.memory =
        some (.hole (above outer) (holeLink outer)) := placed
    rw [connrbtreeInsert, reached]
    simp only [Option.bind_eq_bind, Option.bind_some]
    rw [inserted]
    rfl
  · have made : (making (next.map Prod.snd)).insertColor c leafTree = next.map Prod.snd :=
      if_pos list
    have placedLeaf : insertLeaf (registry.pool (tree.map Prod.snd)).fd c (tree.map Prod.snd) =
        .ok leafTree := leaf
    have root : (registry.pool (tree.map Prod.snd)).connrbtreeroot = tree.map Prod.snd := rfl
    rw [ConnectionPool.connrbtreeInsert, root, placedLeaf]
    simp only [made]
    rfl

theorem del_simulated (balances : Balances registry tree live free) (member : c ∈ live) :
    ∃ rb after next, KeepsOrder rb ∧ connrbtreeDel c registry = some after ∧
      ConnectionPool.connrbtreeDel rb c (registry.pool (tree.map Prod.snd)) =
        after.pool (next.map Prod.snd) ∧
      Shows after.memory next ∧ RedBlack next := by
  rcases exists_plug (balances.mem_iff.mpr member) with ⟨path, color, left, right, rfl⟩
  have holds : Holds registry.memory (plug path (.node (color, c) left right))
      (nodes (plug path (.node (color, c) left right))) := ⟨balances.shows, rfl⟩
  rcases rb_erase_spec balances.redBlack holds (Nat.lt_succ_of_le balances.size_le) with
    ⟨memory, next, erased, nextHolds, redBlack⟩
  refine ⟨making (next.map Prod.snd), { registry with
    memory := memory
    links := addTail (.connection c) .freeconnlisthead (delInit (.connection c) registry.links) },
    next, making_keeps_order _, ?_, ?_, nextHolds.shows, redBlack⟩
  · have removed : rbErase registry.fuel c registry.memory = some memory := erased
    rw [connrbtreeDel, removed]
    rfl
  · have made : (making (next.map Prod.snd)).erase c
        ((plug path (.node (color, c) left right)).map Prod.snd) = next.map Prod.snd := by
      apply if_pos
      rw [inorder_nodes, inorder_nodes, nextHolds.order]
    rw [ConnectionPool.connrbtreeDel]
    have root : (registry.pool ((plug path (.node (color, c) left right)).map
      Prod.snd)).connrbtreeroot = (plug path (.node (color, c) left right)).map Prod.snd := rfl
    rw [root, made]
    rfl

theorem del_balances (balances : Balances registry tree live free) (member : c ∈ live) :
    ∃ after next, connrbtreeDel c registry = some after ∧
      after.connection = registry.connection ∧
      Balances after next (live.erase c) (free ++ [c]) := by
  rcases del_simulated balances member with
    ⟨rb, after, next, order, deleted, same, shows, redBlack⟩
  have keeps := del_step order balances.keeps member
  rw [same] at keeps
  exact ⟨after, next, deleted, congrArg Pool.connection same.symm, shows, redBlack, keeps⟩

/-- Which connection is handed out does not depend on the tree. -/
theorem getconn_any_tree (storage : Option (Vector UInt8 1024)) (now : Int) (registry : Registry)
    (root : BinaryTree Nat) :
    ConnectionPool.freeconnlistGetconn storage now (registry.pool root) =
      ((ConnectionPool.freeconnlistGetconn storage now (registry.pool .nil)).1,
        { (ConnectionPool.freeconnlistGetconn storage now (registry.pool .nil)).2 with
          connrbtreeroot := root }) := by
  by_cases empty : isEmpty .freeconnlisthead registry.links = true
  · simp only [ConnectionPool.freeconnlistGetconn, Registry.pool, empty, if_true]
    cases storage <;> rfl
  · simp only [ConnectionPool.freeconnlistGetconn, Registry.pool, empty]
    cases registry.links.next .freeconnlisthead <;> rfl

theorem memset_node_shows (shows : Shows memory tree) (outside : c ∉ nodes tree) :
    Shows (memsetNode c memory) tree := by
  apply @Shows.congr _ _ tree (memsetNode c memory) shows rfl
  intro other inside
  have different : other ≠ c := ne_of_mem_of_not_mem inside outside
  exact (((agree_set_parent different _).trans (agree_set_color different _)).trans
    (agree_set_child different _ _)).trans (agree_set_child different _ _)

theorem register_simulated (balances : Balances registry tree live free) {wanted : Int}
    (unused : ∀ other ∈ live, registry.fd other ≠ wanted) (storage : Option (Vector UInt8 1024))
    (now : Int) (conntype : ConnType) :
    ∃ rb after next, KeepsOrder rb ∧
      registerConnection storage now wanted conntype registry = some after ∧
      ConnectionPool.registerConnection rb storage now wanted conntype
        (registry.pool (tree.map Prod.snd)) = some (after.pool (next.map Prod.snd)) ∧
      Shows after.memory next ∧ RedBlack next := by
  have anyTree := getconn_any_tree storage now registry (tree.map Prod.snd)
  rcases getconn_cases balances.keeps storage now with
    ⟨c, taken, rest, got, handedOut⟩ | ⟨_, _, nobody⟩
  · rw [got] at anyTree
    have gotHere : (ConnectionPool.freeconnlistGetconn storage now (registry.pool .nil)).1 =
        some c := (congrArg Prod.fst anyTree).symm
    have takenHere : taken =
        { (ConnectionPool.freeconnlistGetconn storage now (registry.pool .nil)).2 with
          connrbtreeroot := tree.map Prod.snd } := congrArg Prod.snd anyTree
    let named : Registry :=
      { registry.update (connectionInit c wanted conntype taken) with
        memory := memsetNode c registry.memory }
    have outside := handedOut.inHand.outside
    have notLive : c ∉ live := fun member => outside (List.mem_append_left rest member)
    have itself : named.connection c =
        Connections.connectionInit (taken.connection c) wanted conntype := store_self _ _ _
    have root : taken.connrbtreeroot = tree.map Prod.snd := by rw [takenHere]
    have namedPool : named.pool (tree.map Prod.snd) = connectionInit c wanted conntype taken := by
      rw [← root]
      rfl
    have namedBalances : Balances named tree live rest := by
      refine ⟨?_, balances.redBlack, ?_⟩
      · exact memset_node_shows balances.shows fun inside => notLive (balances.mem_iff.mp inside)
      · rw [namedPool]
        apply handedOut.keeps.store
        · exact fun member => absurd member outside
        · exact fun member => absurd member notLive
    have unusedNamed : ∀ other ∈ live, named.fd other ≠ named.fd c := by
      intro other member
      have different : other ≠ c := ne_of_mem_of_not_mem member notLive
      have kept : named.connection other = taken.connection other := store_of_ne different _ _
      rw [Registry.fd, Registry.fd, itself, kept, handedOut.others other member]
      exact unused other member
    rcases insert_simulated namedBalances ⟨outside, handedOut.inHand.created⟩ unusedNamed with
      ⟨rb, after, next, order, inserted, simulated, shows, redBlack⟩
    refine ⟨rb, after, next, order, ?_, ?_, shows, redBlack⟩
    · rw [registerConnection, freeconnlistGetconn]
      simp only [gotHere]
      subst takenHere
      exact inserted
    · rw [ConnectionPool.registerConnection, got]
      simp only
      rw [← namedPool]
      exact simulated
  · refine ⟨unbalanced, registry, tree, unbalanced_keeps_order, ?_, ?_, balances.shows,
      balances.redBlack⟩
    · rw [nobody] at anyTree
      have nobodyHere : (ConnectionPool.freeconnlistGetconn storage now (registry.pool .nil)).1 =
          none := (congrArg Prod.fst anyTree).symm
      rw [registerConnection, freeconnlistGetconn]
      simp only [nobodyHere]
    · rw [ConnectionPool.registerConnection, nobody]

theorem register_balances (balances : Balances registry tree live free) {wanted : Int}
    (unused : ∀ other ∈ live, registry.fd other ≠ wanted) (storage : Option (Vector UInt8 1024))
    (now : Int) (conntype : ConnType) :
    ∃ after next, registerConnection storage now wanted conntype registry = some after ∧
      ((∃ c rest, Balances after next (live ++ [c]) rest ∧
          PooledConnections.Registered (registry.pool (tree.map Prod.snd))
            (after.pool (next.map Prod.snd)) live free wanted conntype c rest) ∨
        free = [] ∧ storage = none ∧ Balances after next live free) := by
  rcases register_simulated balances unused storage now conntype with
    ⟨rb, after, next, order, stepped, simulated, shows, redBlack⟩
  refine ⟨after, next, stepped, ?_⟩
  rcases register_connection_spec order balances.keeps unused storage now conntype with
    ⟨c, pool, rest, same, registered⟩ | ⟨noFree, noMemory, same⟩
  · cases same.symm.trans simulated
    exact .inl ⟨c, rest, ⟨shows, redBlack, registered.keeps⟩, registered⟩
  · have unchanged := Option.some.inj (same.symm.trans simulated)
    exact .inr ⟨noFree, noMemory, shows, redBlack, unchanged ▸ balances.keeps⟩

end Simulation

section Checkstatus

variable {timeout timestamp : Int} {pool : Pool} {visited remaining : List Nat}
  {state : Registry × List KernelCall}

theorem check_connection_balances (shows : Shows state.1.memory tree) (redBlack : RedBlack tree)
    (checking : Checking pool live free timeout timestamp visited (c :: remaining)
      (state.1.pool (tree.map Prod.snd), state.2)) :
    ∃ after next, checkConnection timeout timestamp (.connection c) state = some after ∧
      Shows after.1.memory next ∧ RedBlack next ∧
      Checking pool live free timeout timestamp (visited ++ [c]) remaining
        (after.1.pool (next.map Prod.snd), after.2) := by
  have balances : Balances state.1 tree
      (staying timeout timestamp pool visited ++ c :: remaining)
      (free ++ expired timeout timestamp pool visited) := ⟨shows, redBlack, checking.keeps⟩
  rw [checkConnection]
  by_cases late : timedOut timeout timestamp (state.1.connection c)
  · rcases del_simulated balances (List.mem_append_right _ List.mem_cons_self) with
      ⟨rb, after, next, order, deleted, simulated, nextShows, nextRedBlack⟩
    have stepped := check_connection_step order checking
    have lateHere : timedOut timeout timestamp
        ((state.1.pool (tree.map Prod.snd)).connection c) := late
    rw [ConnectionPool.checkConnection, if_pos lateHere, ConnectionPool.connectionClose,
      simulated] at stepped
    rw [if_pos late, connectionClose, deleted]
    exact ⟨_, next, rfl, nextShows, nextRedBlack, stepped⟩
  · have stepped := check_connection_step unbalanced_keeps_order checking
    have notHere : ¬timedOut timeout timestamp
        ((state.1.pool (tree.map Prod.snd)).connection c) := late
    rw [ConnectionPool.checkConnection, if_neg notHere] at stepped
    rw [if_neg late]
    exact ⟨state, tree, rfl, shows, redBlack, stepped⟩

/-- Exactly the connections that have timed out are closed, and the tree stays balanced. -/
theorem checkstatus_balances (balances : Balances registry tree live free)
    (timeout timestamp : Int) :
    ∃ after next, connlistCheckstatus timeout timestamp registry =
        some (after, closingCalls (registry.pool (tree.map Prod.snd))
          (expired timeout timestamp (registry.pool (tree.map Prod.snd)) live)) ∧
      after.connection = registry.connection ∧
      Balances after next (staying timeout timestamp (registry.pool (tree.map Prod.snd)) live)
        (free ++ expired timeout timestamp (registry.pool (tree.map Prod.snd)) live) := by
  let pool := registry.pool (tree.map Prod.snd)
  let holds (nodes : List ListNode) (state : Registry × List KernelCall) : Prop :=
    ∃ visited remaining next, nodes = remaining.map .connection ∧ Shows state.1.memory next ∧
      RedBlack next ∧ Checking pool live free timeout timestamp visited remaining
        (state.1.pool (next.map Prod.snd), state.2)
  have initial : holds (live.map .connection) (registry, []) := by
    refine ⟨[], live, tree, rfl, balances.shows, balances.redBlack, rfl, ?_, rfl, rfl⟩
    rw [expired, List.filter_nil, List.append_nil]
    exact balances.keeps
  have ring : ∀ nodes state, holds nodes state →
      ∃ visited, Ring state.1.links .connlisthead (visited ++ nodes) := by
    rintro nodes state ⟨visited, remaining, next, rfl, -, -, checking⟩
    refine ⟨(staying timeout timestamp pool visited).map .connection, ?_⟩
    rw [← List.map_append]
    exact checking.keeps.connlist
  have kept : ∀ node nodes state, holds (node :: nodes) state →
      ∃ next, checkConnection timeout timestamp node state = some next ∧ holds nodes next := by
    rintro node nodes state ⟨visited, remaining, here, same, shows, redBlack, checking⟩
    cases remaining with
    | nil => cases same
    | cons c remaining =>
        cases same
        rcases check_connection_balances shows redBlack checking with
          ⟨after, next, done, nextShows, nextRedBlack, later⟩
        exact ⟨after, done, visited ++ [c], remaining, next, rfl, nextShows, nextRedBlack, later⟩
  have enough : (live.map ListNode.connection).length < registry.fuel := by
    rw [List.length_map]
    exact Nat.lt_succ_of_le balances.keeps.length_le
  rcases try_iterate_rule ring kept balances.keeps.connlist initial enough with
    ⟨⟨after, calls⟩, finished, visited, remaining, next, none, shows, redBlack, checking⟩
  have nothing : remaining = [] := List.map_eq_nil_iff.mp none.symm
  have whole : visited = live := by
    rw [checking.split, nothing, List.append_nil]
  have keepsAfter := checking.keeps
  have sameCalls := checking.calls
  rw [nothing, List.append_nil, whole] at keepsAfter
  rw [whole] at sameCalls
  exact ⟨after, next, sameCalls ▸ finished, checking.connections, shows, redBlack, keepsAfter⟩

end Checkstatus

section Runs

variable {timeout : Int}

theorem start_balances (start : Start registry) : Balances registry .nil [] [] :=
  ⟨⟨start.connrbtreeroot, trivial, List.nodup_nil⟩, ⟨rfl, 0, .nil⟩,
    start_keeps ⟨start.connlist, start.freeconnlist, rfl⟩⟩

theorem registered_iff (balances : Balances registry tree live free) (c : Nat) :
    Registered registry c ↔ c ∈ live := by
  rw [Registered, getconn_eq balances, Option.some.injEq, getconn_eq_some_iff balances.keeps]
  exact and_iff_left rfl

theorem unregistered_iff (balances : Balances registry tree live free) (fd : Int) :
    connrbtreeGetconn fd registry = some none ↔ ∀ c ∈ live, registry.fd c ≠ fd := by
  rw [getconn_eq balances, Option.some.injEq, getconn_eq_none_iff balances.keeps]
  rfl

theorem Balances.store (balances : Balances registry tree live free) {connection : Connection}
    (formed : WellFormed connection) (same : connection.fd = registry.fd c) :
    Balances (registry.update ((registry.pool .nil).store c connection)) tree live free := by
  have kept : Keeps ((registry.pool (tree.map Prod.snd)).store c connection) live free :=
    balances.keeps.store (fun _ => formed) (fun _ => same)
  exact ⟨balances.shows, balances.redBlack, kept⟩

theorem closing_step (balances : Balances registry tree live free) (member : c ∈ live)
    {event : Event} (isClosing : event ∈ [Event.del c, .close c]) :
    ∃ after next, step timeout registry event = some after ∧
      after.connection = registry.connection ∧
      Balances after next (live.erase c) (free ++ [c]) := by
  rcases del_balances balances member with ⟨after, next, deleted, same, later⟩
  refine ⟨after, next, ?_, same, later⟩
  rcases List.mem_pair.mp isClosing with rfl | rfl
  · exact deleted
  · rw [step, connectionClose, deleted]
    rfl

theorem balances_step (balances : Balances registry tree live free) {event : Event}
    (proper : Proper registry event) :
    ∃ after next live free, step timeout registry event = some after ∧
      Balances after next live free := by
  cases event with
  | register storage now fd conntype =>
      have unused := (unregistered_iff balances fd).mp proper
      rcases register_balances balances unused storage now conntype with
        ⟨after, next, stepped, ⟨c, rest, later, _⟩ | ⟨_, _, later⟩⟩
      · exact ⟨after, next, _, rest, stepped, later⟩
      · exact ⟨after, next, live, free, stepped, later⟩
  | del c =>
      rcases closing_step balances ((registered_iff balances c).mp proper)
        (List.mem_cons_self : Event.del c ∈ _) with ⟨after, next, stepped, _, later⟩
      exact ⟨after, next, _, _, stepped, later⟩
  | close c =>
      rcases closing_step balances ((registered_iff balances c).mp proper)
        (List.mem_cons_of_mem _ List.mem_cons_self : Event.close c ∈ _) with
        ⟨after, next, stepped, _, later⟩
      exact ⟨after, next, _, _, stepped, later⟩
  | checkstatus timestamp =>
      rcases checkstatus_balances balances timeout timestamp with
        ⟨after, next, checked, _, later⟩
      refine ⟨after, next, _, _, ?_, later⟩
      rw [step, checked]
      rfl
  | put c buf now =>
      have formed := balances.keeps.formed c
        (List.mem_append_left _ ((registered_iff balances c).mp proper.1))
      rcases Connections.connection_put_spec formed buf proper.2 with ⟨-, filled, -⟩
      exact ⟨_, tree, live, free, rfl, balances.store ⟨filled.valid, filled.size⟩ rfl⟩
  | get c msglen =>
      have formed := balances.keeps.formed c
        (List.mem_append_left _ ((registered_iff balances c).mp proper))
      obtain ⟨-, -, -, valid, size, -⟩ := RingFifo.kfifo_get_spec formed.valid msglen
      exact ⟨_, tree, live, free, rfl, balances.store ⟨valid, size.trans formed.size⟩ rfl⟩

theorem reachable_balances (reachable : Reachable (step timeout) Proper Start registry) :
    ∃ tree live free, Balances registry tree live free := by
  apply reachable.invariant
  · intro start started
    exact ⟨.nil, [], [], start_balances started⟩
  · rintro before event after ⟨tree, live, free, balances⟩ proper stepped
    rcases balances_step balances proper with ⟨next, treeNext, liveNext, freeNext, same, later⟩
    cases same.symm.trans stepped
    exact ⟨treeNext, liveNext, freeNext, later⟩

/-- From a node on, `_connrbtree_dump` prints what comes behind it. -/
theorem dump_from_eq {front back : List Nat} (shows : Shows memory tree)
    (order : nodes tree = front ++ c :: back) (enough : (nodes tree).length ≤ fuel) {rounds : Nat}
    (further : back.length + 1 < rounds) :
    dumpFrom fuel memory rounds (some c) = some (c :: back) := by
  induction back generalizing front c rounds with
  | nil =>
      rcases rounds with _ | _ | rounds
      · omega
      · simp at further
      · rw [dumpFrom, (rb_neighbors_spec shows order enough).1]
        rfl
  | cons other back induction =>
      cases rounds with
      | zero => omega
      | succ rounds =>
          have later : nodes tree = (front ++ [c]) ++ other :: back := by
            rw [order, List.append_assoc]
            rfl
          rw [List.length_cons] at further
          rw [dumpFrom, (rb_neighbors_spec shows order enough).1]
          simp only [List.head?_cons, Option.bind_eq_bind, Option.bind_some]
          rw [induction later (by omega)]
          rfl

end Runs

/-- After every sequence of proper operations the nodes in memory make up a red-black tree with the
connections of the live list in ascending order of their descriptors. A search follows as many
pointers at most as twice the logarithm of their number says, and finds what is registered and
nothing else; no proper operation follows a null pointer, loops for ever or fails. What is
registered is found, what is closed or has timed out is found no more, and the searches for all
others find what they found before. -/
theorem registry_balanced {timeout : Int} {registry : Registry}
    (reachable : Reachable (step timeout) Proper Start registry) :
    ∃ tree live free,
      Shows registry.memory tree ∧ RedBlack tree ∧
      (nodes tree).Perm live ∧ Ascending registry.fd (nodes tree) ∧
      Ring registry.links .connlisthead (live.map .connection) ∧
      Ring registry.links .freeconnlisthead (free.map .connection) ∧
      (live ++ free).Nodup ∧
      (∀ fd, ∃ found,
        (∀ fuel, 2 * Nat.log 2 (live.length + 1) < fuel →
          search registry.fd fd fuel registry.memory.rbNode registry.memory = some found) ∧
        connrbtreeGetconn fd registry = some found ∧
        ∀ c, found = some c ↔ c ∈ live ∧ registry.fd c = fd) ∧
      (∀ event, Proper registry event → ∃ next, step timeout registry event = some next) ∧
      (∀ storage now fd conntype, Proper registry (.register storage now fd conntype) →
        (storage.isSome = true ∨ free ≠ []) →
        ∃ next c, step timeout registry (.register storage now fd conntype) = some next ∧
          c ∉ live ∧ connrbtreeGetconn fd next = some (some c) ∧
          (next.connection c).conntype = conntype ∧ pending (next.connection c) = [] ∧
          Ring next.links .connlisthead ((live ++ [c]).map .connection) ∧
          ∀ other, other ≠ fd → connrbtreeGetconn other next = connrbtreeGetconn other registry) ∧
      (∀ c ∈ live, ∀ event ∈ [Event.del c, .close c],
        ∃ next, step timeout registry event = some next ∧
          connrbtreeGetconn (registry.fd c) next = some none ∧
          Ring next.links .connlisthead ((live.erase c).map .connection) ∧
          Ring next.links .freeconnlisthead ((free ++ [c]).map .connection) ∧
          ∀ other, other ≠ registry.fd c →
            connrbtreeGetconn other next = connrbtreeGetconn other registry) ∧
      ∀ timestamp, ∃ next, step timeout registry (.checkstatus timestamp) = some next ∧
        ∀ fd c, connrbtreeGetconn fd next = some (some c) ↔
          connrbtreeGetconn fd registry = some (some c) ∧
            ¬timedOut timeout timestamp (registry.connection c) := by
  rcases reachable_balances reachable with ⟨tree, live, free, balances⟩
  have perm : (nodes tree).Perm live := by
    rw [← inorder_nodes]
    exact balances.keeps.tree
  refine ⟨tree, live, free, balances.shows, balances.redBlack, perm, balances.ascending,
    balances.keeps.connlist, balances.keeps.freeconnlist, balances.keeps.distinct, ?_, ?_, ?_, ?_,
    ?_⟩
  · intro fd
    refine ⟨_, ?_, getconn_eq balances fd, getconn_eq_some_iff balances.keeps fd⟩
    intro fuel enough
    rw [← perm.length_eq, nodes_length] at enough
    rw [balances.shows.root]
    exact search_eq balances.shows.hangs (lt_of_le_of_lt balances.redBlack.depth_le enough) fd
  · intro event proper
    rcases balances_step balances proper with ⟨after, _, _, _, stepped, _⟩
    exact ⟨after, stepped⟩
  · intro storage now fd conntype proper memory
    have unused := (unregistered_iff balances fd).mp proper
    rcases register_balances balances unused storage now conntype with
      ⟨after, next, stepped, ⟨c, rest, later, registered⟩ | ⟨noFree, noMemory, _⟩⟩
    · rcases getconn_registered balances.keeps later.keeps registered.others with ⟨found, others⟩
      rw [registered.fd] at found others
      refine ⟨after, c, stepped, ?_, ?_, registered.conntype, registered.fresh.pending_nil,
        later.keeps.connlist, ?_⟩
      · intro member
        have distinct := (List.nodup_append.mp later.keeps.distinct).1
        exact List.disjoint_of_nodup_append distinct member List.mem_cons_self
      · rw [getconn_eq later, found]
      · intro other different
        rw [getconn_eq later, getconn_eq balances, others other different]
    · rcases memory with isSome | some_
      · rw [noMemory] at isSome
        cases isSome
      · exact absurd noFree some_
  · intro c member event isClosing
    rcases closing_step balances member isClosing with ⟨after, next, stepped, same, later⟩
    rcases getconn_deleted balances.keeps later.keeps same member with ⟨gone, others⟩
    refine ⟨after, stepped, ?_, later.keeps.connlist, later.keeps.freeconnlist, ?_⟩
    · rw [getconn_eq later]
      exact congrArg some gone
    · intro other different
      rw [getconn_eq later, getconn_eq balances, others other different]
  · intro timestamp
    rcases checkstatus_balances balances timeout timestamp with
      ⟨after, next, checked, same, later⟩
    refine ⟨after, ?_, ?_⟩
    · rw [step, checked]
      rfl
    · intro fd c
      rw [getconn_eq later, getconn_eq balances, Option.some.injEq, Option.some.injEq]
      exact getconn_checked balances.keeps later.keeps same fd c

def emptyRegistry : Registry where
  connection _ := Connections.connectionCreate [] 0
  links := ⟨id, id⟩
  memory := ⟨fun _ => none, fun _ => .red, fun _ _ => none, none⟩
  created := 0

/-- An app at descriptor 7, and then the server at descriptor 5. -/
theorem two_registered :
    ∃ registry, Reachable (step 60) Proper Start registry ∧
      registry.fd 0 = 7 ∧ registry.fd 1 = 5 ∧ registry.links.next .connlisthead = .connection 0 ∧
      registry.links.next (.connection 0) = .connection 1 ∧
      registry.links.next (.connection 1) = .connlisthead ∧
      connrbtreeGetconn 7 registry = some (some 0) ∧
      connrbtreeGetconn 5 registry = some (some 1) := by
  let storage : Option (Vector UInt8 1024) := some (Vector.replicate 1024 0)
  have start : Start emptyRegistry := ⟨⟨⟨rfl, rfl⟩, by decide⟩, ⟨⟨rfl, rfl⟩, by decide⟩, rfl⟩
  obtain ⟨first, second, accepted, unused, connected, facts⟩ : ∃ first second,
      step 60 emptyRegistry (.register storage 0 7 .connsocketclient) = some first ∧
      Proper first (.register storage 0 5 .connsocketserver) ∧
      step 60 first (.register storage 0 5 .connsocketserver) = some second ∧
      second.fd 0 = 7 ∧ second.fd 1 = 5 ∧ second.links.next .connlisthead = .connection 0 ∧
      second.links.next (.connection 0) = .connection 1 ∧
      second.links.next (.connection 1) = .connlisthead ∧
      connrbtreeGetconn 7 second = some (some 0) ∧ connrbtreeGetconn 5 second = some (some 1) :=
    ⟨_, _, rfl, rfl, rfl, rfl, rfl, rfl, rfl, rfl, rfl, rfl⟩
  have empty : Proper emptyRegistry (.register storage 0 7 .connsocketclient) := rfl
  exact ⟨second, ((Reachable.start start).step empty accepted).step unused connected, facts⟩

/-- When the app goes, its descriptor is free again and the server's is found as before. -/
theorem registry_balanced_two :
    ∃ (registry next : Registry) (tree : BinaryTree (Color × Nat)), registry.fd 0 = 7 ∧
      registry.fd 1 = 5 ∧ Shows registry.memory tree ∧ RedBlack tree ∧
      step 60 registry (.close 0) = some next ∧ connrbtreeGetconn 7 next = some none ∧
      connrbtreeGetconn 5 next = some (some 1) := by
  rcases two_registered with ⟨registry, reachable, zero, one, -, -, -, foundZero, foundOne⟩
  rcases registry_balanced reachable with
    ⟨tree, live, free, shows, redBlack, -, -, -, -, -, searches, -, -, closing, -⟩
  have member : 0 ∈ live := by
    rcases searches 7 with ⟨found, -, same, exact_⟩
    exact ((exact_ 0).mp (Option.some.inj (same.symm.trans foundZero))).1
  rcases closing 0 member (.close 0) (List.mem_cons_of_mem _ List.mem_cons_self) with
    ⟨next, closed, gone, -, -, others⟩
  rw [zero] at gone others
  exact ⟨registry, next, tree, zero, one, shows, redBlack, closed, gone,
    (others 5 (by decide)).trans foundOne⟩

/-- `_connrbtree_dump` prints the connections of the live list in ascending order of their
descriptors; without one it follows a null pointer. -/
theorem dump_ascending {timeout : Int} {registry : Registry}
    (reachable : Reachable (step timeout) Proper Start registry) :
    ∃ live order, Ring registry.links .connlisthead (live.map .connection) ∧ order.Perm live ∧
      Ascending registry.fd order ∧
      (live = [] → connrbtreeDump registry = none) ∧
      (live ≠ [] → connrbtreeDump registry =
        some (order.map fun c => (registry.fd c, (registry.connection c).conntype))) := by
  rcases reachable_balances reachable with ⟨tree, live, free, balances⟩
  have perm : (nodes tree).Perm live := by
    rw [← inorder_nodes]
    exact balances.keeps.tree
  have enough : (nodes tree).length ≤ registry.fuel :=
    balances.size_le.trans (Nat.le_succ _)
  have first := (rb_ends_spec balances.shows enough).1
  refine ⟨live, nodes tree, balances.keeps.connlist, perm, balances.ascending, ?_, ?_⟩
  · rintro rfl
    rw [connrbtreeDump, first, perm.eq_nil]
    rfl
  · intro some_
    cases order : nodes tree with
    | nil =>
        rw [order] at perm
        exact absurd perm.symm.eq_nil some_
    | cons c back =>
        have size := balances.size_le
        rw [order, List.length_cons] at size
        have further : back.length + 1 < registry.fuel := Nat.lt_succ_of_le size
        have printed := @dump_from_eq tree c registry.fuel registry.memory [] back balances.shows
          order enough registry.fuel further
        rw [order] at first
        rw [connrbtreeDump, first]
        simp only [List.head?_cons, Option.bind_eq_bind, Option.bind_some]
        rw [printed]
        rfl

theorem dump_ascending_two :
    ∃ (registry : Registry) (order : List Nat), registry.fd 0 = 7 ∧ registry.fd 1 = 5 ∧
      Ascending registry.fd order ∧ connrbtreeDump registry =
        some (order.map fun c => (registry.fd c, (registry.connection c).conntype)) := by
  rcases two_registered with ⟨registry, reachable, zero, one, next, -⟩
  rcases dump_ascending reachable with ⟨live, order, ring, -, ascending, -, printed⟩
  refine ⟨registry, order, zero, one, ascending, printed ?_⟩
  rintro rfl
  rw [ring.next_eq] at next
  cases next

end SmartHome.RbtreeRegistry
