import SmartHome.ConnectionPool

/-!
# Where the connections are

Every connection that has been handed out is in the tree and in the live list, or it is
in the free list. Each operation is described by what it does to these two lists; the
loop over the live list closes exactly those that have timed out, each once.
-/

namespace SmartHome.PooledConnections

open SmartHome.Library.LinkedLists
open SmartHome.Library.Runs
open SmartHome.Library.SearchTrees
open SmartHome.RingFifo
open SmartHome.Connections (Connection ConnType WellFormed Fresh pending)
open SmartHome.ConnectionPool

set_option autoImplicit false

/-- The live connections in the order of their list, and the free ones in theirs. -/
structure Keeps (pool : Pool) (live free : List Nat) : Prop where
  connlist : Ring pool.links .connlisthead (live.map .connection)
  freeconnlist : Ring pool.links .freeconnlisthead (free.map .connection)
  distinct : (live ++ free).Nodup
  tree : (inorder pool.connrbtreeroot).Perm live
  ascending : Ascending pool.fd (inorder pool.connrbtreeroot)
  created : ∀ c ∈ live ++ free, c < pool.created
  formed : ∀ c ∈ live ++ free, WellFormed (pool.connection c)

/-- A connection that is in neither list. -/
structure InHand (pool : Pool) (live free : List Nat) (c : Nat) : Prop where
  outside : c ∉ live ++ free
  created : c < pool.created

section Nodes

variable {c : Nat} {live free : List Nat}

theorem node_mem_map {nodes : List Nat} :
    ListNode.connection c ∈ nodes.map ListNode.connection ↔ c ∈ nodes :=
  List.mem_map_of_injective fun _ _ same => ListNode.connection.inj same

theorem node_outside (outside : c ∉ live) {head : ListNode} (notHead : .connection c ≠ head) :
    ListNode.connection c ∉ head :: live.map ListNode.connection := by
  intro member
  rcases List.mem_cons.mp member with same | inside
  · exact notHead same
  · exact outside (node_mem_map.mp inside)

theorem nodes_apart (distinct : (live ++ free).Nodup) :
    List.Disjoint (ListNode.freeconnlisthead :: free.map ListNode.connection)
      (ListNode.connlisthead :: live.map ListNode.connection) := by
  intro node inFree inLive
  rcases List.mem_cons.mp inFree with rfl | freeNode
  · rcases List.mem_cons.mp inLive with same | liveNode
    · cases same
    · simp at liveNode
  · rcases List.mem_map.mp freeNode with ⟨c, isFree, rfl⟩
    rcases List.mem_cons.mp inLive with same | liveNode
    · cases same
    · exact List.disjoint_of_nodup_append distinct (node_mem_map.mp liveNode) isFree

end Nodes

section Spec

variable {rb : Rbtree} {pool : Pool} {live free front back : List Nat} {c : Nat}

theorem ascending_congr {key other : Nat → Int} {items : List Nat}
    (same : ∀ item ∈ items, key item = other item) (ascending : Ascending key items) :
    Ascending other items := by
  apply List.Pairwise.imp_of_mem _ ascending
  intro item later first second before
  rwa [← same item first, ← same later second]

theorem Keeps.store (keeps : Keeps pool live free) {connection : Connection}
    (formed : c ∈ live ++ free → WellFormed connection)
    (same : c ∈ live → connection.fd = pool.fd c) : Keeps (pool.store c connection) live free := by
  have fd : ∀ other ∈ live, pool.fd other = (pool.store c connection).fd other := by
    intro other member
    rw [Pool.fd, Pool.fd]
    by_cases here : other = c
    · subst here
      rw [store_self, same member, Pool.fd]
    · rw [store_of_ne here]
  refine ⟨keeps.connlist, keeps.freeconnlist, keeps.distinct, keeps.tree, ?_, keeps.created, ?_⟩
  · apply ascending_congr _ keeps.ascending
    intro other member
    exact fd other (keeps.tree.subset member)
  · intro other member
    by_cases here : other = c
    · subst here
      rw [store_self]
      exact formed member
    · rw [store_of_ne here]
      exact keeps.formed other member

theorem connection_create_keeps (keeps : Keeps pool live free) (storage : Vector UInt8 1024)
    (now : Int) :
    let after := connectionCreate storage now pool
    Keeps after.2 live free ∧ InHand after.2 live free after.1 ∧
      after.2.connection after.1 = Connections.connectionCreate storage.toList now := by
  intro after
  have outside : pool.created ∉ live ++ free := fun member =>
    lt_irrefl _ (keeps.created _ member)
  have stored : Keeps (pool.store pool.created (Connections.connectionCreate storage.toList now))
      live free := by
    apply keeps.store
    · exact fun member => absurd member outside
    · exact fun member => absurd (List.mem_append_left free member) outside
  have notLive := node_outside (fun member => outside (List.mem_append_left free member))
    (ListNode.noConfusion : ListNode.connection pool.created ≠ .connlisthead)
  have notFree := node_outside (fun member => outside (List.mem_append_right live member))
    (ListNode.noConfusion : ListNode.connection pool.created ≠ .freeconnlisthead)
  refine ⟨?_, ⟨outside, Nat.lt_succ_self _⟩, store_self _ _ _⟩
  exact {
    connlist := stored.connlist.init_frame notLive
    freeconnlist := stored.freeconnlist.init_frame notFree
    distinct := stored.distinct
    tree := stored.tree
    ascending := stored.ascending
    created := fun c member => Nat.lt_succ_of_lt (stored.created c member)
    formed := stored.formed }

theorem recycle_keeps (keeps : Keeps pool live (c :: free)) (connection : Connection) :
    let after := { pool.store c connection with links := delInit (.connection c) pool.links }
    Keeps after live free ∧ InHand after live free c := by
  intro after
  rcases List.nodup_cons.mp (List.nodup_middle.mp keeps.distinct) with ⟨outside, distinct⟩
  have weaker : ∀ other ∈ live ++ free, other ∈ live ++ c :: free := by
    intro other member
    rcases List.mem_append.mp member with isLive | isFree
    · exact List.mem_append_left _ isLive
    · exact List.mem_append_right _ (List.mem_cons_of_mem c isFree)
  have ring : Ring pool.links .freeconnlisthead ([] ++ .connection c :: free.map .connection) :=
    keeps.freeconnlist
  have unlinked : Keeps { pool with links := delInit (.connection c) pool.links } live free := {
    connlist := ring.del_init_frame keeps.connlist (List.disjoint_symm (nodes_apart keeps.distinct))
    freeconnlist := ring.del_init
    distinct
    tree := keeps.tree
    ascending := keeps.ascending
    created := fun other member => keeps.created other (weaker other member)
    formed := fun other member => keeps.formed other (weaker other member) }
  constructor
  · apply unlinked.store
    · exact fun member => absurd member outside
    · exact fun member => absurd (List.mem_append_left free member) outside
  · exact ⟨outside, keeps.created c (List.mem_append_right live List.mem_cons_self)⟩

theorem connrbtree_insert_keeps (order : KeepsOrder rb) (keeps : Keeps pool live free)
    (inHand : InHand pool live free c) (formed : WellFormed (pool.connection c))
    (unused : ∀ other ∈ live, pool.fd other ≠ pool.fd c) :
    ∃ after, connrbtreeInsert rb c pool = some after ∧ Keeps after (live ++ [c]) free ∧
      after.connection = pool.connection := by
  have notLive : c ∉ live := fun member => inHand.outside (List.mem_append_left free member)
  have notFree : c ∉ free := fun member => inHand.outside (List.mem_append_right live member)
  have liveNode := node_outside notLive
    (ListNode.noConfusion : ListNode.connection c ≠ .connlisthead)
  have freeNode := node_outside notFree
    (ListNode.noConfusion : ListNode.connection c ≠ .freeconnlisthead)
  have distinct : (live ++ [c] ++ free).Nodup := by
    rw [List.append_assoc, List.singleton_append, List.nodup_middle]
    exact List.nodup_cons.mpr ⟨inHand.outside, keeps.distinct⟩
  have member : ∀ other ∈ live ++ [c] ++ free, other = c ∨ other ∈ live ++ free := by
    intro other inside
    rw [List.append_assoc, List.singleton_append] at inside
    exact List.mem_cons.mp (List.perm_middle.subset inside)
  have unusedTree : ∀ other ∈ inorder pool.connrbtreeroot, pool.fd other ≠ pool.fd c := by
    intro other inside
    exact unused other (keeps.tree.subset inside)
  rcases insert_leaf_ok keeps.ascending unusedTree with ⟨tree, inserted, perm, ascending⟩
  have added := keeps.connlist.add_tail liveNode
  have framed := keeps.connlist.add_tail_frame keeps.freeconnlist freeNode
    (nodes_apart keeps.distinct)
  refine ⟨{ pool with
    connrbtreeroot := rb.insertColor c tree
    links := addTail (.connection c) .connlisthead pool.links }, ?_, ?_, rfl⟩
  · rw [connrbtreeInsert, inserted]
  · refine ⟨?_, framed, distinct, ?_, ?_, ?_, ?_⟩
    · rw [List.map_append]
      exact added
    · rw [order.insertColor]
      exact perm.trans ((keeps.tree.cons c).trans (List.perm_append_singleton c live).symm)
    · rw [order.insertColor]
      exact ascending
    · intro other inside
      rcases member other inside with rfl | before
      · exact inHand.created
      · exact keeps.created other before
    · intro other inside
      rcases member other inside with rfl | before
      · exact formed
      · exact keeps.formed other before

theorem connrbtree_del_keeps (order : KeepsOrder rb)
    (keeps : Keeps pool (front ++ c :: back) free) :
    Keeps (connrbtreeDel rb c pool) (front ++ back) (free ++ [c]) := by
  have once : c ∉ front ++ (back ++ free) ∧ (front ++ (back ++ free)).Nodup := by
    have distinct := keeps.distinct
    rw [List.append_assoc, List.cons_append, List.nodup_middle, List.nodup_cons] at distinct
    exact distinct
  have moved : (front ++ back ++ (free ++ [c])).Perm (front ++ c :: back ++ free) := by
    have first := List.perm_append_singleton c (front ++ (back ++ free))
    have second : (front ++ c :: (back ++ free)).Perm (c :: (front ++ (back ++ free))) :=
      List.perm_middle
    simpa only [List.append_assoc, List.cons_append] using first.trans second.symm
  have notFree : c ∉ free := fun member =>
    once.1 (List.mem_append_right front (List.mem_append_right back member))
  have notLive : c ∉ front ++ back := by
    intro member
    rw [← List.append_assoc] at once
    exact once.1 (List.mem_append_left free member)
  have registered : c ∈ inorder pool.connrbtreeroot :=
    keeps.tree.symm.subset (List.mem_append_right front List.mem_cons_self)
  have ring := keeps.connlist
  rw [List.map_append, List.map_cons] at ring
  have apart := nodes_apart keeps.distinct
  rw [List.map_append, List.map_cons] at apart
  have unlinked := ring.del_init
  have framed := ring.del_init_frame keeps.freeconnlist apart
  rw [← List.map_append] at unlinked
  have freeNode := node_outside notFree
    (ListNode.noConfusion : ListNode.connection c ≠ .freeconnlisthead)
  have liveNode := node_outside notLive
    (ListNode.noConfusion : ListNode.connection c ≠ .connlisthead)
  have apartAfter : (front ++ back ++ free).Nodup := by
    rw [List.append_assoc]
    exact once.2
  have erased := order.erase c pool.connrbtreeroot registered
  refine ⟨?_, ?_, moved.nodup_iff.mpr keeps.distinct, ?_, ?_, ?_, ?_⟩
  · exact framed.add_tail_frame unlinked liveNode (List.disjoint_symm (nodes_apart apartAfter))
  · have added := framed.add_tail freeNode
    rw [connrbtreeDel, freeconnlistAdd, List.map_append]
    exact added
  · have rest := (keeps.tree.trans List.perm_middle).erase c
    rw [List.erase_cons_head, ← erased] at rest
    exact rest
  · have rest : Ascending pool.fd ((inorder pool.connrbtreeroot).erase c) :=
      keeps.ascending.sublist List.erase_sublist
    rw [← erased] at rest
    exact rest
  · intro other inside
    exact keeps.created other (moved.subset inside)
  · intro other inside
    exact keeps.formed other (moved.subset inside)

/-- A connection that `freeconnlist_getconn` hands out, the first of the free list if there is one:
as good as new, while the live ones are as they were. -/
structure HandedOut (pool taken : Pool) (live free : List Nat) (c : Nat) (rest : List Nat) :
    Prop where
  keeps : Keeps taken live rest
  inHand : InHand taken live rest c
  fresh : ∀ fd conntype, Fresh (Connections.connectionInit (taken.connection c) fd conntype)
  others : ∀ other ∈ live, taken.connection other = pool.connection other
  source : free = c :: rest ∨ free = [] ∧ rest = [] ∧ c = pool.created

theorem getconn_recycled (keeps : Keeps pool live (c :: free))
    (storage : Option (Vector UInt8 1024)) (now : Int) :
    freeconnlistGetconn storage now pool =
      (some c, { pool.store c (recycled (pool.connection c) now) with
        links := delInit (.connection c) pool.links }) := by
  have some_ : ¬isEmpty .freeconnlisthead pool.links = true := by
    rw [keeps.freeconnlist.is_empty_iff]
    exact List.cons_ne_nil _ _
  have first : pool.links.next .freeconnlisthead = .connection c := keeps.freeconnlist.next_eq
  unfold freeconnlistGetconn
  rw [if_neg some_, first]
  rfl

theorem getconn_created (keeps : Keeps pool live []) (storage : Option (Vector UInt8 1024))
    (now : Int) :
    freeconnlistGetconn storage now pool =
      match storage with
      | none => (none, pool)
      | some storage =>
          (some (connectionCreate storage now pool).1, (connectionCreate storage now pool).2) := by
  have empty : isEmpty .freeconnlisthead pool.links = true :=
    keeps.freeconnlist.is_empty_iff.mpr rfl
  cases storage with
  | none => exact if_pos empty
  | some storage => exact if_pos empty

theorem recycled_handed_out (keeps : Keeps pool live (c :: free)) (now : Int) :
    HandedOut pool { pool.store c (recycled (pool.connection c) now) with
      links := delInit (.connection c) pool.links } live (c :: free) c free := by
  have formed := keeps.formed c (List.mem_append_right live List.mem_cons_self)
  rcases recycle_keeps keeps (recycled (pool.connection c) now) with ⟨taken, inHand⟩
  have notLive : c ∉ live := fun member => inHand.outside (List.mem_append_left free member)
  refine ⟨taken, inHand, ?_, ?_, .inl rfl⟩
  · intro fd conntype
    have itself := store_self pool c (recycled (pool.connection c) now)
    change Fresh (Connections.connectionInit
      ((pool.store c (recycled (pool.connection c) now)).connection c) fd conntype)
    rw [itself]
    exact ⟨⟨kfifo_reset_valid formed.valid, formed.size⟩, rfl, rfl⟩
  · intro other member
    exact store_of_ne (ne_of_mem_of_not_mem member notLive) _ _

theorem created_handed_out (keeps : Keeps pool live []) (storage : Vector UInt8 1024) (now : Int) :
    HandedOut pool (connectionCreate storage now pool).2 live [] pool.created [] := by
  rcases connection_create_keeps keeps storage now with ⟨taken, inHand, connection⟩
  have notLive : pool.created ∉ live := fun member => inHand.outside (List.mem_append_left [] member)
  have made : (connectionCreate storage now pool).2.connection pool.created =
      Connections.connectionCreate storage.toList now := connection
  refine ⟨taken, inHand, ?_, ?_, .inr ⟨rfl, rfl, rfl⟩⟩
  · intro fd conntype
    have formed := Connections.connection_create_formed storage.toList now storage.length_toList
    rw [made]
    exact ⟨⟨formed.valid, rfl⟩, rfl, rfl⟩
  · intro other member
    exact store_of_ne (ne_of_mem_of_not_mem member notLive) _ _

theorem getconn_cases (keeps : Keeps pool live free) (storage : Option (Vector UInt8 1024))
    (now : Int) :
    (∃ c taken rest, freeconnlistGetconn storage now pool = (some c, taken) ∧
      HandedOut pool taken live free c rest) ∨
    (free = [] ∧ storage = none ∧ freeconnlistGetconn storage now pool = (none, pool)) := by
  cases free with
  | cons c rest =>
      exact .inl ⟨c, _, rest, getconn_recycled keeps storage now, recycled_handed_out keeps now⟩
  | nil =>
      cases storage with
      | none => exact .inr ⟨rfl, rfl, getconn_created keeps none now⟩
      | some storage =>
          exact .inl ⟨_, _, [], getconn_created keeps (some storage) now,
            created_handed_out keeps storage now⟩

structure Registered (pool after : Pool) (live free : List Nat) (fd : Int) (conntype : ConnType)
    (c : Nat) (rest : List Nat) : Prop where
  keeps : Keeps after (live ++ [c]) rest
  fresh : Fresh (after.connection c)
  fd : after.fd c = fd
  conntype : (after.connection c).conntype = conntype
  others : ∀ other ∈ live, after.connection other = pool.connection other
  source : free = c :: rest ∨ free = [] ∧ rest = [] ∧ c = pool.created

theorem register_handed_out (order : KeepsOrder rb) {taken : Pool} {rest : List Nat} {fd now : Int}
    (handedOut : HandedOut pool taken live free c rest)
    (unused : ∀ other ∈ live, pool.fd other ≠ fd) {storage : Option (Vector UInt8 1024)}
    (got : freeconnlistGetconn storage now pool = (some c, taken)) (conntype : ConnType) :
    ∃ after, registerConnection rb storage now fd conntype pool = some after ∧
      Registered pool after live free fd conntype c rest := by
  have outside := handedOut.inHand.outside
  have notLive : c ∉ live := fun member => outside (List.mem_append_left rest member)
  have fresh := handedOut.fresh fd conntype
  have named : Keeps (connectionInit c fd conntype taken) live rest := by
    apply handedOut.keeps.store
    · exact fun member => absurd member outside
    · exact fun member => absurd member notLive
  have itself : (connectionInit c fd conntype taken).connection c =
      Connections.connectionInit (taken.connection c) fd conntype := store_self _ _ _
  have others : ∀ other ∈ live,
      (connectionInit c fd conntype taken).connection other = pool.connection other := by
    intro other member
    rw [connectionInit, store_of_ne (ne_of_mem_of_not_mem member notLive)]
    exact handedOut.others other member
  have unusedAfter : ∀ other ∈ live, (connectionInit c fd conntype taken).fd other ≠
      (connectionInit c fd conntype taken).fd c := by
    intro other member
    have own : (connectionInit c fd conntype taken).fd c = fd := congrArg Connection.fd itself
    rw [own, Pool.fd, others other member]
    exact unused other member
  rcases connrbtree_insert_keeps order named ⟨outside, handedOut.inHand.created⟩
    (itself ▸ fresh.formed) unusedAfter with ⟨after, inserted, keepsAfter, same⟩
  have connection := (congrFun same c).trans itself
  refine ⟨after, ?_, keepsAfter, connection ▸ fresh, congrArg Connection.fd connection,
    congrArg Connection.conntype connection, ?_, handedOut.source⟩
  · rw [registerConnection, got]
    exact inserted
  · intro other member
    rw [same]
    exact others other member

/-- Registering an unused descriptor always works out, unless there is neither a free connection nor
memory for a new one. -/
theorem register_connection_spec (order : KeepsOrder rb) (keeps : Keeps pool live free) {fd : Int}
    (unused : ∀ other ∈ live, pool.fd other ≠ fd) (storage : Option (Vector UInt8 1024)) (now : Int)
    (conntype : ConnType) :
    (∃ c after rest, registerConnection rb storage now fd conntype pool = some after ∧
      Registered pool after live free fd conntype c rest) ∨
    (free = [] ∧ storage = none ∧
      registerConnection rb storage now fd conntype pool = some pool) := by
  rcases getconn_cases keeps storage now with
    ⟨c, taken, rest, got, handedOut⟩ | ⟨noFree, noMemory, got⟩
  · rcases register_handed_out order handedOut unused got conntype with
      ⟨after, stepped, registered⟩
    exact .inl ⟨c, after, rest, stepped, registered⟩
  · refine .inr ⟨noFree, noMemory, ?_⟩
    rw [registerConnection, got]

end Spec

section Searches

variable {pool next : Pool} {live free freeNext liveNext : List Nat} {fd : Int} {c : Nat}

theorem getconn_eq_some_iff (keeps : Keeps pool live free) (fd : Int) (c : Nat) :
    connrbtreeGetconn fd pool = some c ↔ c ∈ live ∧ pool.fd c = fd := by
  rw [connrbtreeGetconn, find_eq_some_iff keeps.ascending, keeps.tree.mem_iff]

theorem getconn_eq_none_iff (keeps : Keeps pool live free) (fd : Int) :
    connrbtreeGetconn fd pool = none ↔ ∀ c ∈ live, pool.fd c ≠ fd := by
  rw [Option.eq_none_iff_forall_ne_some]
  constructor
  · intro none c member same
    exact none c ((getconn_eq_some_iff keeps fd c).mpr ⟨member, same⟩)
  · intro unused c found
    rcases (getconn_eq_some_iff keeps fd c).mp found with ⟨member, same⟩
    exact unused c member same

theorem Keeps.fd_injective (keeps : Keeps pool live free) {other : Nat} (member : c ∈ live)
    (otherMember : other ∈ live) (same : pool.fd other = pool.fd c) : other = c := by
  have found := (getconn_eq_some_iff keeps (pool.fd c) c).mpr ⟨member, rfl⟩
  have foundOther := (getconn_eq_some_iff keeps (pool.fd c) other).mpr ⟨otherMember, same⟩
  exact Option.some.inj (foundOther.symm.trans found)

theorem getconn_congr (keeps : Keeps pool live free) (keepsNext : Keeps next liveNext freeNext)
    (same : ∀ c, c ∈ liveNext ∧ next.fd c = fd ↔ c ∈ live ∧ pool.fd c = fd) :
    connrbtreeGetconn fd next = connrbtreeGetconn fd pool := by
  apply Option.ext
  intro c
  rw [getconn_eq_some_iff keepsNext, getconn_eq_some_iff keeps]
  exact same c

/-- What has been taken out is found no more, and the others are found as before. -/
theorem getconn_deleted (keeps : Keeps pool live free)
    (keepsNext : Keeps next (live.erase c) freeNext) (same : next.connection = pool.connection)
    (member : c ∈ live) :
    connrbtreeGetconn (pool.fd c) next = none ∧
      ∀ fd, fd ≠ pool.fd c → connrbtreeGetconn fd next = connrbtreeGetconn fd pool := by
  have distinct : live.Nodup := (List.nodup_append.mp keeps.distinct).1
  have sameFd : ∀ other, next.fd other = pool.fd other := by
    intro other
    rw [Pool.fd, same, Pool.fd]
  constructor
  · rw [getconn_eq_none_iff keepsNext]
    intro other inside equal
    rcases (List.Nodup.mem_erase_iff distinct).mp inside with ⟨different, otherMember⟩
    exact different (keeps.fd_injective member otherMember ((sameFd other).symm.trans equal))
  · intro fd otherFd
    apply getconn_congr keeps keepsNext
    intro other
    rw [List.Nodup.mem_erase_iff distinct, sameFd]
    constructor
    · rintro ⟨⟨_, inside⟩, equal⟩
      exact ⟨inside, equal⟩
    · rintro ⟨inside, equal⟩
      refine ⟨⟨?_, inside⟩, equal⟩
      rintro rfl
      exact otherFd equal.symm

theorem getconn_registered (keeps : Keeps pool live free)
    (keepsNext : Keeps next (live ++ [c]) freeNext)
    (same : ∀ other ∈ live, next.connection other = pool.connection other) :
    connrbtreeGetconn (next.fd c) next = some c ∧
      ∀ fd, fd ≠ next.fd c → connrbtreeGetconn fd next = connrbtreeGetconn fd pool := by
  constructor
  · exact (getconn_eq_some_iff keepsNext (next.fd c) c).mpr
      ⟨List.mem_append_right live List.mem_cons_self, rfl⟩
  · intro fd otherFd
    apply getconn_congr keeps keepsNext
    intro other
    constructor
    · rintro ⟨inside, equal⟩
      rcases List.mem_append.mp inside with before | new
      · rw [Pool.fd, same other before] at equal
        exact ⟨before, equal⟩
      · rw [List.mem_singleton.mp new] at equal
        exact absurd equal.symm otherFd
    · rintro ⟨inside, equal⟩
      rw [Pool.fd, ← same other inside] at equal
      exact ⟨List.mem_append_left [c] inside, equal⟩

end Searches

section Checkstatus

variable {rb : Rbtree} {pool : Pool} {live free : List Nat} {timeout timestamp : Int}

def expired (timeout timestamp : Int) (pool : Pool) (items : List Nat) : List Nat :=
  items.filter fun c => timedOut timeout timestamp (pool.connection c)

def staying (timeout timestamp : Int) (pool : Pool) (items : List Nat) : List Nat :=
  items.filter fun c => ¬timedOut timeout timestamp (pool.connection c)

/-- A descriptor is taken out of the event hub before it is closed. -/
def closingCalls (pool : Pool) (items : List Nat) : List KernelCall :=
  items.flatMap fun c => [.deregister (pool.fd c), .close (pool.fd c)]

structure Checking (pool : Pool) (live free : List Nat) (timeout timestamp : Int)
    (visited remaining : List Nat) (state : Pool × List KernelCall) : Prop where
  split : live = visited ++ remaining
  keeps : Keeps state.1 (staying timeout timestamp pool visited ++ remaining)
    (free ++ expired timeout timestamp pool visited)
  connections : state.1.connection = pool.connection
  calls : state.2 = closingCalls pool (expired timeout timestamp pool visited)

theorem check_connection_step (order : KeepsOrder rb) {visited remaining : List Nat} {c : Nat}
    {state : Pool × List KernelCall}
    (checking : Checking pool live free timeout timestamp visited (c :: remaining) state) :
    Checking pool live free timeout timestamp (visited ++ [c]) remaining
      (checkConnection rb timeout timestamp (.connection c) state) := by
  have fd : state.1.fd c = pool.fd c := congrArg (fun connection => (connection c).fd)
    checking.connections
  have split : live = visited ++ [c] ++ remaining := by
    rw [checking.split, List.append_assoc, List.singleton_append]
  rw [checkConnection, checking.connections]
  by_cases late : timedOut timeout timestamp (pool.connection c)
  · rw [if_pos late]
    have gone : expired timeout timestamp pool (visited ++ [c]) =
        expired timeout timestamp pool visited ++ [c] := by
      simp [expired, late]
    have rest : staying timeout timestamp pool (visited ++ [c]) =
        staying timeout timestamp pool visited := by
      simp [staying, late]
    have closed := connrbtree_del_keeps order checking.keeps
    rw [List.append_assoc, ← gone, ← rest] at closed
    refine ⟨split, closed, checking.connections, ?_⟩
    rw [gone, closingCalls, List.flatMap_append, ← closingCalls, ← checking.calls]
    simp [connectionClose, fd]
  · rw [if_neg late]
    have gone : expired timeout timestamp pool (visited ++ [c]) =
        expired timeout timestamp pool visited := by
      simp [expired, late]
    have rest : staying timeout timestamp pool (visited ++ [c]) =
        staying timeout timestamp pool visited ++ [c] := by
      simp [staying, late]
    refine ⟨split, ?_, checking.connections, ?_⟩
    · rw [gone, rest, List.append_assoc, List.singleton_append]
      exact checking.keeps
    · rw [gone]
      exact checking.calls

theorem Keeps.length_le (keeps : Keeps pool live free) : live.length ≤ pool.created := by
  have distinct : live.Nodup := (List.nodup_append.mp keeps.distinct).1
  have inside : live ⊆ List.range pool.created := by
    intro c member
    exact List.mem_range.mpr (keeps.created c (List.mem_append_left free member))
  have bound := (List.subperm_of_subset distinct inside).length_le
  rwa [List.length_range] at bound

/-- Exactly the connections that have timed out are closed, each once and in the order of the list,
and go to the free list in this order. -/
theorem checkstatus_spec (order : KeepsOrder rb) (keeps : Keeps pool live free)
    (timeout timestamp : Int) :
    ∃ after, connlistCheckstatus rb timeout timestamp pool =
        some (after, closingCalls pool (expired timeout timestamp pool live)) ∧
      Keeps after (staying timeout timestamp pool live)
        (free ++ expired timeout timestamp pool live) ∧
      after.connection = pool.connection := by
  let holds (nodes : List ListNode) (state : Pool × List KernelCall) : Prop :=
    ∃ visited remaining, nodes = remaining.map .connection ∧
      Checking pool live free timeout timestamp visited remaining state
  have initial : holds (live.map .connection) (pool, []) := by
    refine ⟨[], live, rfl, rfl, ?_, rfl, rfl⟩
    rw [expired, List.filter_nil, List.append_nil]
    exact keeps
  have ring : ∀ nodes state, holds nodes state →
      ∃ visited, Ring state.1.links .connlisthead (visited ++ nodes) := by
    rintro nodes state ⟨visited, remaining, rfl, checking⟩
    refine ⟨(staying timeout timestamp pool visited).map .connection, ?_⟩
    rw [← List.map_append]
    exact checking.keeps.connlist
  have kept : ∀ node nodes state, holds (node :: nodes) state →
      holds nodes (checkConnection rb timeout timestamp node state) := by
    rintro node nodes state ⟨visited, remaining, same, checking⟩
    cases remaining with
    | nil => cases same
    | cons c remaining =>
        cases same
        exact ⟨visited ++ [c], remaining, rfl, check_connection_step order checking⟩
  have enough : (live.map ListNode.connection).length < pool.created + 1 := by
    rw [List.length_map]
    exact Nat.lt_succ_of_le keeps.length_le
  rcases iterate_rule ring kept keeps.connlist initial enough with
    ⟨⟨after, calls⟩, finished, visited, remaining, none, checking⟩
  have nothing : remaining = [] := List.map_eq_nil_iff.mp none.symm
  have whole : visited = live := by
    rw [checking.split, nothing, List.append_nil]
  have keepsAfter := checking.keeps
  have calls_ := checking.calls
  rw [nothing, List.append_nil, whole] at keepsAfter
  rw [whole] at calls_
  exact ⟨after, calls_ ▸ finished, keepsAfter, checking.connections⟩

theorem getconn_checked {next : Pool} {freeNext : List Nat} (keeps : Keeps pool live free)
    (keepsNext : Keeps next (staying timeout timestamp pool live) freeNext)
    (same : next.connection = pool.connection) (fd : Int) (c : Nat) :
    connrbtreeGetconn fd next = some c ↔
      connrbtreeGetconn fd pool = some c ∧ ¬timedOut timeout timestamp (pool.connection c) := by
  rw [getconn_eq_some_iff keepsNext, getconn_eq_some_iff keeps, staying, List.mem_filter,
    decide_eq_true_iff, Pool.fd, same, ← Pool.fd, and_assoc, and_assoc]
  exact and_congr_right fun _ => and_comm

end Checkstatus

section Runs

variable {rb : Rbtree} {pool : Pool} {live free : List Nat} {timeout : Int}

theorem start_keeps (start : Start pool) : Keeps pool [] [] := by
  refine ⟨start.connlist, start.freeconnlist, List.nodup_nil, ?_, ?_, ?_, ?_⟩
  · rw [start.connrbtreeroot]
    exact List.Perm.refl _
  · rw [start.connrbtreeroot]
    exact List.Pairwise.nil
  · intro c member
    exact absurd member List.not_mem_nil
  · intro c member
    exact absurd member List.not_mem_nil

theorem del_step (order : KeepsOrder rb) (keeps : Keeps pool live free) {c : Nat}
    (registered : c ∈ live) : Keeps (connrbtreeDel rb c pool) (live.erase c) (free ++ [c]) := by
  rcases List.append_of_mem registered with ⟨front, back, rfl⟩
  have distinct := (List.nodup_append.mp keeps.distinct).1
  rw [List.nodup_middle, List.nodup_cons] at distinct
  have notFront : c ∉ front := fun member => distinct.1 (List.mem_append_left back member)
  rw [List.erase_append_right _ notFront, List.erase_cons_head]
  exact connrbtree_del_keeps order keeps

/-- No proper operation fails, and each keeps tree and lists in order. -/
theorem keeps_step (order : KeepsOrder rb) (keeps : Keeps pool live free) {event : Event}
    (proper : Proper pool event) :
    ∃ next live free, step rb timeout pool event = some next ∧ Keeps next live free := by
  cases event with
  | register storage now fd conntype =>
      have unused : ∀ other ∈ live, pool.fd other ≠ fd := by
        intro other member
        exact proper other (keeps.tree.symm.subset member)
      rcases register_connection_spec order keeps unused storage now conntype with
        ⟨c, after, rest, stepped, registered⟩ | ⟨_, _, stepped⟩
      · exact ⟨after, _, rest, stepped, registered.keeps⟩
      · exact ⟨pool, live, free, stepped, keeps⟩
  | del c =>
      exact ⟨_, _, _, rfl, del_step order keeps (keeps.tree.subset proper)⟩
  | close c =>
      exact ⟨_, _, _, rfl, del_step order keeps (keeps.tree.subset proper)⟩
  | checkstatus timestamp =>
      rcases checkstatus_spec order keeps timeout timestamp with ⟨after, checked, keepsAfter, _⟩
      refine ⟨after, _, _, ?_, keepsAfter⟩
      rw [step, checked]
      rfl
  | put c buf now =>
      refine ⟨_, live, free, rfl, ?_⟩
      apply keeps.store
      · intro member
        rcases Connections.connection_put_spec (keeps.formed c member) buf proper.2 with
          ⟨-, formed, -⟩
        exact ⟨formed.valid, formed.size⟩
      · intro _
        rfl
  | get c msglen =>
      refine ⟨_, live, free, rfl, ?_⟩
      apply keeps.store
      · intro member
        have formed := keeps.formed c member
        obtain ⟨-, -, -, valid, size, -⟩ := kfifo_get_spec formed.valid msglen
        exact ⟨valid, size.trans formed.size⟩
      · intro _
        rfl

theorem reachable_keeps (order : KeepsOrder rb)
    (reachable : Reachable (step rb timeout) Proper Start pool) :
    ∃ live free, Keeps pool live free := by
  apply reachable.invariant
  · intro start started
    exact ⟨[], [], start_keeps started⟩
  · rintro before event after ⟨live, free, keeps⟩ proper stepped
    rcases keeps_step order keeps proper with ⟨next, liveNext, freeNext, same, keepsNext⟩
    cases same.symm.trans stepped
    exact ⟨liveNext, freeNext, keepsNext⟩

end Runs

/-- After every sequence of proper operations the tree and the live list have the same connections,
each descriptor once; the free list has others, each once; a search finds what is registered and
nothing else; no proper operation fails. What is registered is as good as new and is found, what is
closed goes to the free list and is found no more, what has timed out is closed, and the searches
for all others find what they found before. -/
theorem registry_keeps {rb : Rbtree} (order : KeepsOrder rb) {timeout : Int} {pool : Pool}
    (reachable : Reachable (step rb timeout) Proper Start pool) :
    ∃ live free,
      Ring pool.links .connlisthead (live.map .connection) ∧
      Ring pool.links .freeconnlisthead (free.map .connection) ∧
      (live ++ free).Nodup ∧
      (inorder pool.connrbtreeroot).Perm live ∧
      Ascending pool.fd (inorder pool.connrbtreeroot) ∧
      (∀ fd c, connrbtreeGetconn fd pool = some c ↔ c ∈ live ∧ pool.fd c = fd) ∧
      (∀ fd, connrbtreeGetconn fd pool = none ↔ ∀ c ∈ live, pool.fd c ≠ fd) ∧
      (∀ event, Proper pool event → ∃ next, step rb timeout pool event = some next) ∧
      (∀ storage now fd conntype, Proper pool (.register storage now fd conntype) →
        (storage.isSome = true ∨ free ≠ []) →
        ∃ next c, step rb timeout pool (.register storage now fd conntype) = some next ∧
          c ∉ live ∧ (∀ first ∈ free.head?, c = first) ∧ connrbtreeGetconn fd next = some c ∧
          next.fd c = fd ∧ (next.connection c).conntype = conntype ∧
          pending (next.connection c) = [] ∧
          Ring next.links .connlisthead ((live ++ [c]).map .connection) ∧
          Ring next.links .freeconnlisthead (free.tail.map .connection) ∧
          ∀ other, other ≠ fd → connrbtreeGetconn other next = connrbtreeGetconn other pool) ∧
      (∀ storage now fd, eventAccept rb storage now fd pool =
        step rb timeout pool (.register storage now fd .connsocketclient)) ∧
      (∀ c ∈ live, ∀ event ∈ [Event.del c, .close c],
        ∃ next, step rb timeout pool event = some next ∧
          connrbtreeGetconn (pool.fd c) next = none ∧
          Ring next.links .connlisthead ((live.erase c).map .connection) ∧
          Ring next.links .freeconnlisthead ((free ++ [c]).map .connection) ∧
          ∀ other, other ≠ pool.fd c →
            connrbtreeGetconn other next = connrbtreeGetconn other pool) ∧
      ∀ timestamp, ∃ next, connlistCheckstatus rb timeout timestamp pool =
          some (next, closingCalls pool (expired timeout timestamp pool live)) ∧
        Ring next.links .connlisthead ((staying timeout timestamp pool live).map .connection) ∧
        Ring next.links .freeconnlisthead
          ((free ++ expired timeout timestamp pool live).map .connection) ∧
        ∀ fd c, connrbtreeGetconn fd next = some c ↔
          connrbtreeGetconn fd pool = some c ∧ ¬timedOut timeout timestamp (pool.connection c) := by
  rcases reachable_keeps order reachable with ⟨live, free, keeps⟩
  refine ⟨live, free, keeps.connlist, keeps.freeconnlist, keeps.distinct, keeps.tree,
    keeps.ascending, getconn_eq_some_iff keeps, getconn_eq_none_iff keeps, ?_, ?_, ?_, ?_, ?_⟩
  · intro event proper
    rcases keeps_step order keeps proper with ⟨next, _, _, stepped, _⟩
    exact ⟨next, stepped⟩
  · intro storage now fd conntype proper memory
    have unused : ∀ other ∈ live, pool.fd other ≠ fd := by
      intro other member
      exact proper other (keeps.tree.symm.subset member)
    rcases register_connection_spec order keeps unused storage now conntype with
      ⟨c, next, rest, stepped, registered⟩ | ⟨noFree, noMemory, _⟩
    · rcases getconn_registered keeps registered.keeps registered.others with ⟨found, others⟩
      rw [registered.fd] at found others
      have tail : free.tail = rest := by
        rcases registered.source with taken | ⟨none, nothing, _⟩
        · rw [taken, List.tail_cons]
        · rw [none, nothing, List.tail_nil]
      refine ⟨next, c, stepped, ?_, ?_, found, registered.fd, registered.conntype,
        registered.fresh.pending_nil, registered.keeps.connlist,
        tail ▸ registered.keeps.freeconnlist, others⟩
      · have distinct := (List.nodup_append.mp registered.keeps.distinct).1
        intro member
        exact List.disjoint_of_nodup_append distinct member List.mem_cons_self
      · intro first isFirst
        rcases registered.source with taken | ⟨none, _, _⟩
        · rw [taken] at isFirst
          exact Option.some.inj isFirst
        · rw [none] at isFirst
          cases isFirst
    · rcases memory with isSome | some_
      · rw [noMemory] at isSome
        cases isSome
      · exact absurd noFree some_
  · exact fun _ _ _ => rfl
  · intro c member event isClosing
    have after := del_step order keeps member
    rcases getconn_deleted keeps after rfl member with ⟨gone, others⟩
    have stepped : step rb timeout pool event = some (connrbtreeDel rb c pool) := by
      rcases List.mem_pair.mp isClosing with rfl | rfl
      · rfl
      · rfl
    exact ⟨_, stepped, gone, after.connlist, after.freeconnlist, others⟩
  · intro timestamp
    rcases checkstatus_spec order keeps timeout timestamp with ⟨next, checked, after, same⟩
    refine ⟨next, checked, after.connlist, after.freeconnlist, ?_⟩
    exact getconn_checked keeps after same

/-- A tree that is never rebalanced keeps the order too. -/
def unbalanced : Rbtree := ⟨fun _ tree => tree, eraseItem⟩

theorem unbalanced_keeps_order : KeepsOrder unbalanced :=
  ⟨fun _ _ => rfl, fun c tree _ => inorder_erase_item c tree⟩

def emptyPool : Pool where
  connection _ := Connections.connectionCreate [] 0
  links := ⟨id, id⟩
  connrbtreeroot := .nil
  created := 0

/-- A connection that was closed with bytes left in its FIFO is used again for the server. -/
theorem registry_keeps_recycled :
    ∃ pool next c,
      run (step unbalanced 60) emptyPool
        [.register (some (Vector.replicate 1024 0)) 0 5 .connsocketclient, .put 0 [0xCE, 0x00] 1,
          .close 0] = some pool ∧
      step unbalanced 60 pool (.register none 2 5 .connsocketserver) = some next ∧
      connrbtreeGetconn 5 next = some c ∧ (next.connection c).conntype = .connsocketserver ∧
      pending (next.connection c) = [] := by
  have start : Start emptyPool := ⟨⟨⟨rfl, rfl⟩, by decide⟩, ⟨⟨rfl, rfl⟩, by decide⟩, rfl⟩
  obtain ⟨opened, accepted⟩ : ∃ opened, step unbalanced 60 emptyPool
      (.register (some (Vector.replicate 1024 0)) 0 5 .connsocketclient) = some opened := ⟨_, rfl⟩
  have unused : Proper emptyPool
      (.register (some (Vector.replicate 1024 0)) 0 5 .connsocketclient) := by
    intro c member
    cases member
  have registered : 0 ∈ inorder opened.connrbtreeroot := by
    rw [← Option.some.inj accepted]
    decide
  obtain ⟨filled, put⟩ : ∃ filled,
      step unbalanced 60 opened (.put 0 [0xCE, 0x00] 1) = some filled := ⟨_, rfl⟩
  have closing : Proper filled (.close 0) := by
    rw [← Option.some.inj put]
    exact registered
  obtain ⟨pool, closed⟩ : ∃ pool, step unbalanced 60 filled (.close 0) = some pool := ⟨_, rfl⟩
  have filling : Proper opened (.put 0 [0xCE, 0x00] 1) := ⟨registered, by decide⟩
  have reachable : Reachable (step unbalanced 60) Proper Start pool :=
    (((Reachable.start start).step unused accepted).step filling put).step closing closed
  have shape : inorder pool.connrbtreeroot = [] ∧ isEmpty .freeconnlisthead pool.links = false := by
    rw [← Option.some.inj closed, ← Option.some.inj put, ← Option.some.inj accepted]
    decide
  rcases registry_keeps unbalanced_keeps_order reachable with
    ⟨live, free, _, freeRing, _, _, _, _, _, _, registering, _⟩
  have some_ : free ≠ [] := by
    intro none
    rw [none] at freeRing
    have empty := freeRing.is_empty_iff.mpr rfl
    rw [shape.2] at empty
    cases empty
  have proper : Proper pool (.register none 2 5 .connsocketserver) := by
    intro c member
    rw [shape.1] at member
    cases member
  rcases registering none 2 5 .connsocketserver proper (.inr some_) with
    ⟨next, c, stepped, _, _, found, _, conntype, empty, _⟩
  refine ⟨pool, next, c, ?_, stepped, found, conntype, empty⟩
  rw [run, accepted, Option.bind_some, run, put, Option.bind_some, run, closed]
  rfl

end SmartHome.PooledConnections
