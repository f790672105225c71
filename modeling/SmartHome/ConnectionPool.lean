import SmartHome.Connections
import SmartHome.Library.LinkedLists
import SmartHome.Library.Runs
import SmartHome.Library.SearchTrees

/-!
# The registry of connections

A connection is known by its address. The registered ones hang in a tree by their file
descriptors and in the list at `connlisthead`; the others wait in the list at
`freeconnlisthead`, which uses the same links. Nothing is ever freed. What the red-black
tree does to keep its balance is a parameter, and so is what `malloc` returns.
-/

namespace SmartHome.ConnectionPool

open SmartHome.Library.LinkedLists
open SmartHome.Library.SearchTrees
open SmartHome.RingFifo
open SmartHome.Connections

set_option autoImplicit false

inductive ListNode
  | connlisthead
  | freeconnlisthead
  | connection (c : Nat)
  deriving DecidableEq

/-- `created` counts the connections that `malloc` has returned. -/
structure Pool where
  connection : Nat → Connection
  links : Links ListNode
  connrbtreeroot : BinaryTree Nat
  created : Nat

def Pool.fd (pool : Pool) (c : Nat) : Int := (pool.connection c).fd

def Pool.store (pool : Pool) (c : Nat) (connection : Connection) : Pool :=
  { pool with connection := Function.update pool.connection c connection }

@[simp] theorem store_self (pool : Pool) (c : Nat) (connection : Connection) :
    (pool.store c connection).connection c = connection := Function.update_self _ _ _

theorem store_of_ne {c other : Nat} (different : other ≠ c) (pool : Pool)
    (connection : Connection) :
    (pool.store c connection).connection other = pool.connection other :=
  Function.update_of_ne different _ _

/-- `rb_insert_color` and `rb_erase`. -/
structure Rbtree where
  insertColor : Nat → BinaryTree Nat → BinaryTree Nat
  erase : Nat → BinaryTree Nat → BinaryTree Nat

structure KeepsOrder (rb : Rbtree) : Prop where
  insertColor : ∀ c tree, inorder (rb.insertColor c tree) = inorder tree
  erase : ∀ c tree, c ∈ inorder tree → inorder (rb.erase c tree) = (inorder tree).erase c

def connectionCreate (storage : Vector UInt8 1024) (now : Int) (pool : Pool) : Nat × Pool :=
  let c := pool.created
  let created := pool.store c (Connections.connectionCreate storage.toList now)
  (c, { created with links := initListHead (.connection c) pool.links, created := c + 1 })

def recycled (c : Connection) (now : Int) : Connection where
  fd := 0
  conntype := .connfree
  rawfifo := kfifoReset c.rawfifo
  timestamp := now

/-- Without memory there is a connection only on the free list. -/
def freeconnlistGetconn (storage : Option (Vector UInt8 1024)) (now : Int) (pool : Pool) :
    Option Nat × Pool :=
  if isEmpty .freeconnlisthead pool.links then
    match storage with
    | none => (none, pool)
    | some storage =>
        let created := connectionCreate storage now pool
        (some created.1, created.2)
  else
    match pool.links.next .freeconnlisthead with
    | .connection c =>
        let pool := pool.store c (recycled (pool.connection c) now)
        (some c, { pool with links := delInit (.connection c) pool.links })
    -- a head is no entry of a list
    | _ => (none, pool)

def freeconnlistAdd (c : Nat) (pool : Pool) : Pool :=
  { pool with links := addTail (.connection c) .freeconnlisthead pool.links }

def connectionInit (c : Nat) (fd : Int) (conntype : ConnType) (pool : Pool) : Pool :=
  pool.store c (Connections.connectionInit (pool.connection c) fd conntype)

def connrbtreeGetconn (fd : Int) (pool : Pool) : Option Nat := find pool.fd fd pool.connrbtreeroot

/-- There is no result when the assertion fails that nobody has the descriptor. -/
def connrbtreeInsert (rb : Rbtree) (c : Nat) (pool : Pool) : Option Pool :=
  match insertLeaf pool.fd c pool.connrbtreeroot with
  | .error _ => none
  | .ok tree =>
      some { pool with
        connrbtreeroot := rb.insertColor c tree
        links := addTail (.connection c) .connlisthead pool.links }

def connrbtreeDel (rb : Rbtree) (c : Nat) (pool : Pool) : Pool :=
  freeconnlistAdd c { pool with
    connrbtreeroot := rb.erase c pool.connrbtreeroot
    links := delInit (.connection c) pool.links }

inductive KernelCall
  | deregister (fd : Int)
  | close (fd : Int)
  deriving DecidableEq

def connectionClose (rb : Rbtree) (c : Nat) (pool : Pool) : List KernelCall × Pool :=
  ([.close (pool.fd c)], connrbtreeDel rb c pool)

def eventClose (rb : Rbtree) (fd : Int) (pool : Pool) : Pool :=
  match connrbtreeGetconn fd pool with
  | some c => connrbtreeDel rb c pool
  | none => pool

/-- Only connections to the apps and to the server time out. -/
def timedOut (timeout timestamp : Int) (c : Connection) : Prop :=
  (c.conntype = .connsocketserver ∨ c.conntype = .connsocketclient) ∧
    timestamp - c.timestamp > timeout

instance (timeout timestamp : Int) (c : Connection) : Decidable (timedOut timeout timestamp c) :=
  inferInstanceAs (Decidable (_ ∧ _))

/-- The body of the loop of `connlist_checkstatus`. -/
def checkConnection (rb : Rbtree) (timeout timestamp : Int) (pos : ListNode)
    (state : Pool × List KernelCall) : Pool × List KernelCall :=
  match pos with
  | .connection c =>
      if timedOut timeout timestamp (state.1.connection c) then
        let closed := connectionClose rb c state.1
        (closed.2, state.2 ++ .deregister (state.1.fd c) :: closed.1)
      else state
  | _ => state

/-- The list is never longer than the number of connections. -/
def connlistCheckstatus (rb : Rbtree) (timeout timestamp : Int) (pool : Pool) :
    Option (Pool × List KernelCall) :=
  iterate (fun state : Pool × List KernelCall => state.1.links) .connlisthead
    (checkConnection rb timeout timestamp) (pool.created + 1) (pool, [])

/-- A new descriptor gets a connection, as in `event_accept`, `connectserver` and `createpipe`. -/
def registerConnection (rb : Rbtree) (storage : Option (Vector UInt8 1024)) (now fd : Int)
    (conntype : ConnType) (pool : Pool) : Option Pool :=
  match freeconnlistGetconn storage now pool with
  | (none, pool) => some pool
  | (some c, pool) => connrbtreeInsert rb c (connectionInit c fd conntype pool)

def available (storage : Option (Vector UInt8 1024)) (pool : Pool) : Bool :=
  storage.isSome || !isEmpty .freeconnlisthead pool.links

def eventAccept (rb : Rbtree) (storage : Option (Vector UInt8 1024)) (now fd : Int) (pool : Pool) :
    Option Pool :=
  registerConnection rb storage now fd .connsocketclient pool

/-- The operations on the registry, and what a registered connection does with its own FIFO. -/
inductive Event
  | register (storage : Option (Vector UInt8 1024)) (now fd : Int) (conntype : ConnType)
  | del (c : Nat)
  | close (c : Nat)
  | checkstatus (timestamp : Int)
  | put (c : Nat) (buf : List UInt8) (now : Int)
  | get (c : Nat) (msglen : UInt32)

def step (rb : Rbtree) (timeout : Int) (pool : Pool) : Event → Option Pool
  | .register storage now fd conntype => registerConnection rb storage now fd conntype pool
  | .del c => some (connrbtreeDel rb c pool)
  | .close c => some (connectionClose rb c pool).2
  | .checkstatus timestamp => (connlistCheckstatus rb timeout timestamp pool).map (·.1)
  | .put c buf now =>
      let filled := connectionPut (pool.connection c) buf (UInt32.ofNat buf.length)
      some (pool.store c { filled with timestamp := now })
  | .get c msglen => some (pool.store c (connectionGet (pool.connection c) msglen).2.2)

/-- A descriptor is registered only if no connection has it, and the rest is done to registered
connections. -/
def Proper (pool : Pool) : Event → Prop
  | .register _ _ fd _ => ∀ c ∈ inorder pool.connrbtreeroot, pool.fd c ≠ fd
  | .del c => c ∈ inorder pool.connrbtreeroot
  | .close c => c ∈ inorder pool.connrbtreeroot
  | .checkstatus _ => True
  | .put c buf _ => c ∈ inorder pool.connrbtreeroot ∧ buf.length < 2 ^ 32
  | .get c _ => c ∈ inorder pool.connrbtreeroot

/-- `LIST_HEAD` of both lists, and no tree. -/
structure Start (pool : Pool) : Prop where
  connlist : Ring pool.links .connlisthead []
  freeconnlist : Ring pool.links .freeconnlisthead []
  connrbtreeroot : pool.connrbtreeroot = .nil

end SmartHome.ConnectionPool
