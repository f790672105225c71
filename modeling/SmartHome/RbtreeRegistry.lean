import SmartHome.PooledConnections
import SmartHome.RbtreeTraversal

/-!
# The registry with its red-black tree

The registry of connections again, with the tree as it lies in memory: each connection
has a node, and the searches follow the pointers. What the tree does to keep its balance
is no parameter here but the code of `rbtree.c`. Every operation is one of the registry
over search trees, with some rebalancing that keeps the order.
-/

namespace SmartHome.RbtreeRegistry

open SmartHome.Library.LinkedLists
open SmartHome.Library.RedBlackTrees
open SmartHome.Library.Runs
open SmartHome.Library.SearchTrees
open SmartHome.Library.Zippers
open SmartHome.Connections (Connection ConnType)
open SmartHome.ConnectionPool
open SmartHome.Rbtree

set_option autoImplicit false

structure Registry where
  connection : Nat → Connection
  links : Links ListNode
  memory : Memory Nat
  created : Nat

def Registry.fd (registry : Registry) (c : Nat) : Int := (registry.connection c).fd

def Registry.pool (registry : Registry) (connrbtreeroot : BinaryTree Nat) : Pool where
  connection := registry.connection
  links := registry.links
  connrbtreeroot := connrbtreeroot
  created := registry.created

def Registry.update (registry : Registry) (pool : Pool) : Registry where
  connection := pool.connection
  links := pool.links
  memory := registry.memory
  created := pool.created

/-- No tree has more nodes than there are connections. -/
def Registry.fuel (registry : Registry) : Nat := registry.created + 1

section Searches

/-- The loop of `connrbtree_getconn`. -/
def search (fd : Nat → Int) (wanted : Int) : Nat → Option Nat → Memory Nat → Option (Option Nat)
  | 0, _, _ => none
  | _ + 1, none, _ => some none
  | fuel + 1, some node, memory =>
      if wanted > fd node then search fd wanted fuel (memory.rbRight node) memory
      else if wanted < fd node then search fd wanted fuel (memory.rbLeft node) memory
      else some (some node)

def connrbtreeGetconn (fd : Int) (registry : Registry) : Option (Option Nat) :=
  search registry.fd fd registry.fuel registry.memory.rbNode registry.memory

/-- How `_connrbtree_insert` comes out of its loop. -/
inductive Place
  | taken (conn : Nat)
  | hole (parent : Option Nat) (newnode : Link Nat)

def place (fd : Nat → Int) (c : Nat) : Nat → Option Nat → Link Nat → Memory Nat → Option Place
  | 0, _, _, _ => none
  | fuel + 1, parent, newnode, memory =>
      match newnode.read memory with
      | none => some (.hole parent newnode)
      | some conn =>
          if fd c < fd conn then place fd c fuel (some conn) (.child .left conn) memory
          else if fd c > fd conn then place fd c fuel (some conn) (.child .right conn) memory
          else some (.taken conn)

end Searches

/-- There is no result when the assertion fails that nobody has the descriptor. -/
def connrbtreeInsert (c : Nat) (registry : Registry) : Option Registry := do
  match ← place registry.fd c registry.fuel none .root registry.memory with
  | .taken _ => none
  | .hole parent newnode =>
      let memory := rbLinkNode c parent newnode registry.memory
      let memory ← rbInsertColor registry.fuel c memory
      some { registry with
        memory := memory
        links := addTail (.connection c) .connlisthead registry.links }

def connrbtreeDel (c : Nat) (registry : Registry) : Option Registry := do
  let memory ← rbErase registry.fuel c registry.memory
  let links := delInit (.connection c) registry.links
  some { registry with memory := memory, links := addTail (.connection c) .freeconnlisthead links }

def memsetNode (c : Nat) (memory : Memory Nat) : Memory Nat :=
  setChild .left c none (setChild .right c none (setColor c .red (setParent c none memory)))

/-- `freeconnlist_getconn`, which touches no node but that of the connection it hands out. -/
def freeconnlistGetconn (storage : Option (Vector UInt8 1024)) (now : Int) (registry : Registry) :
    Option Nat × Registry :=
  let (taken, pool) := ConnectionPool.freeconnlistGetconn storage now (registry.pool .nil)
  match taken with
  | none => (none, registry)
  | some c => (some c, { registry.update pool with memory := memsetNode c registry.memory })

def registerConnection (storage : Option (Vector UInt8 1024)) (now fd : Int)
    (conntype : ConnType) (registry : Registry) : Option Registry :=
  match freeconnlistGetconn storage now registry with
  | (none, registry) => some registry
  | (some c, registry) =>
      connrbtreeInsert c (registry.update (connectionInit c fd conntype (registry.pool .nil)))

def connectionClose (c : Nat) (registry : Registry) : Option (List KernelCall × Registry) :=
  (connrbtreeDel c registry).map fun after => ([.close (registry.fd c)], after)

def checkConnection (timeout timestamp : Int) (pos : ListNode)
    (state : Registry × List KernelCall) : Option (Registry × List KernelCall) :=
  match pos with
  | .connection c =>
      if timedOut timeout timestamp (state.1.connection c) then
        (connectionClose c state.1).map fun (calls, after) =>
          (after, state.2 ++ .deregister (state.1.fd c) :: calls)
      else some state
  | _ => some state

def connlistCheckstatus (timeout timestamp : Int) (registry : Registry) :
    Option (Registry × List KernelCall) :=
  tryIterate (fun state : Registry × List KernelCall => state.1.links) .connlisthead
    (checkConnection timeout timestamp) registry.fuel (registry, [])

/-- The loop of `_connrbtree_dump`. -/
def dumpFrom (fuel : Nat) (memory : Memory Nat) : Nat → Option Nat → Option (List Nat)
  | 0, _ => none
  | _ + 1, none => some []
  | rounds + 1, some node => do
      let next ← rbNext fuel node memory
      let rest ← dumpFrom fuel memory rounds next
      some (node :: rest)

/-- `_connrbtree_dump` prints the first node before it asks whether there is one. -/
def connrbtreeDump (registry : Registry) : Option (List (Int × ConnType)) := do
  let first ← rbFirst registry.fuel registry.memory
  let node ← first
  let nodes ← dumpFrom registry.fuel registry.memory registry.fuel (some node)
  some (nodes.map fun c => (registry.fd c, (registry.connection c).conntype))

def step (timeout : Int) (registry : Registry) : Event → Option Registry
  | .register storage now fd conntype => registerConnection storage now fd conntype registry
  | .del c => connrbtreeDel c registry
  | .close c => (connectionClose c registry).map (·.2)
  | .checkstatus timestamp => (connlistCheckstatus timeout timestamp registry).map (·.1)
  | .put c buf now =>
      let filled := Connections.connectionPut (registry.connection c) buf (UInt32.ofNat buf.length)
      some (registry.update ((registry.pool .nil).store c { filled with timestamp := now }))
  | .get c msglen =>
      let drained := (Connections.connectionGet (registry.connection c) msglen).2.2
      some (registry.update ((registry.pool .nil).store c drained))

/-- A search finds the connection by its descriptor. -/
def Registered (registry : Registry) (c : Nat) : Prop :=
  connrbtreeGetconn (registry.fd c) registry = some (some c)

/-- A descriptor is registered only if a search for it finds nothing, and the rest is done to
registered connections. -/
def Proper (registry : Registry) : Event → Prop
  | .register _ _ fd _ => connrbtreeGetconn fd registry = some none
  | .del c => Registered registry c
  | .close c => Registered registry c
  | .checkstatus _ => True
  | .put c buf _ => Registered registry c ∧ buf.length < 2 ^ 32
  | .get c _ => Registered registry c

/-- `LIST_HEAD` of both lists, and `connrbtreeroot` with a null pointer. -/
structure Start (registry : Registry) : Prop where
  connlist : Ring registry.links .connlisthead []
  freeconnlist : Ring registry.links .freeconnlisthead []
  connrbtreeroot : registry.memory.rbNode = none

end SmartHome.RbtreeRegistry
