import SmartHome.Library.CriticalSections
import SmartHome.Library.Runs

/-!
# The message queue between the threads

`queue.c`, which `rpctask` fills and the other threads empty. A list of nodes on the heap with
pointers to both ends, a semaphore for access to them, and one that counts messages. The
code under the first semaphore is kept statement by statement.
-/

namespace SmartHome.Queue

open Function
open SmartHome.Library.CriticalSections
open SmartHome.Library.Runs

set_option autoImplicit false

abbrev Address := Nat

/-- `node_t`; the block that `data` points to is part of the node. -/
structure Node where
  data : List UInt8
  ptr : Option Address
  deriving DecidableEq

/-- `llq_t` without its semaphores, and the nodes on the heap. -/
structure Llq where
  head : Option Address
  tail : Option Address
  temp : Option Address
  nodes : Address → Option Node

/-- `buffer` and `rLength` of `llq_timedreceive`. -/
structure Registers where
  buffer : List UInt8
  rLength : Int
  deriving DecidableEq

namespace Llq

def read (pointer : Option Address) (hndl : Llq) : Option Node := pointer.bind hndl.nodes

/-- Nothing is written through a pointer that points to no node. -/
def write (pointer : Option Address) (change : Node → Node) (hndl : Llq) : Option Llq :=
  pointer.bind fun address =>
    (hndl.nodes address).map fun node =>
      { hndl with nodes := update hndl.nodes address (some (change node)) }

def malloc (fresh : Address) (stale : Node) (hndl : Llq) : Llq :=
  { hndl with nodes := update hndl.nodes fresh (some stale) }

def free (pointer : Option Address) (hndl : Llq) : Option Llq :=
  pointer.bind fun address =>
    (hndl.nodes address).map fun _ => { hndl with nodes := update hndl.nodes address none }

end Llq

abbrev Statement := Llq → Registers → Option (Llq × Registers)

def onQueue (change : Llq → Option Llq) : Statement := fun hndl registers =>
  (change hndl).map fun hndl => (hndl, registers)

def onRegisters (load : Llq → Registers → Option Registers) : Statement := fun hndl registers =>
  (load hndl registers).map fun registers => (hndl, registers)

def setData (data : List UInt8) (node : Node) : Node := { node with data }
def setPtr (ptr : Option Address) (node : Node) : Node := { node with ptr }

/-- `addToHead`, with the node that `malloc` finds and what it holds. -/
def addToHead (data : List UInt8) (fresh : Address) (stale : Node) : Code Llq Registers :=
  .test (fun hndl => hndl.head = none)
    (.act (onQueue fun hndl => some { hndl.malloc fresh stale with head := some fresh })
      (.act (onQueue fun hndl => hndl.write hndl.head (setPtr none))
        (.act (onQueue fun hndl => hndl.write hndl.head (setData data))
          (.act (onQueue fun hndl => some { hndl with tail := hndl.head }) .done))))
    (.act (onQueue fun hndl => some { hndl.malloc fresh stale with temp := some fresh })
      (.act (onQueue fun hndl => hndl.write hndl.temp (setPtr hndl.head))
        (.act (onQueue fun hndl => hndl.write hndl.temp (setData data))
          (.act (onQueue fun hndl => some { hndl with head := hndl.temp }) .done))))

def addToTail (data : List UInt8) (fresh : Address) (stale : Node) : Code Llq Registers :=
  .test (fun hndl => hndl.tail = none)
    (.act (onQueue fun hndl => some { hndl.malloc fresh stale with tail := some fresh })
      (.act (onQueue fun hndl => hndl.write hndl.tail (setPtr none))
        (.act (onQueue fun hndl => hndl.write hndl.tail (setData data))
          (.act (onQueue fun hndl => some { hndl with head := hndl.tail }) .done))))
    (.act (onQueue fun hndl => some { hndl.malloc fresh stale with temp := some fresh })
      (.act (onQueue fun hndl => hndl.write hndl.tail (setPtr hndl.temp))
        (.act (onQueue fun hndl => hndl.write hndl.temp (setData data))
          (.act (onQueue fun hndl => hndl.write hndl.temp (setPtr none))
            (.act (onQueue fun hndl => some { hndl with tail := hndl.temp }) .done)))))

/-- What `llq_add` does between its semaphores. -/
def addSection (data : List UInt8) (prio : Int) (fresh : Address) (stale : Node) :
    Code Llq Registers :=
  if prio = 1 then addToHead data fresh stale else addToTail data fresh stale

/-- What `llq_timedreceive` does between its semaphores. -/
def receiveSection : Code Llq Registers :=
  .act (onQueue fun hndl => (hndl.read hndl.head).map fun node => { hndl with temp := node.ptr })
    (.act (onRegisters fun hndl registers =>
        (hndl.read hndl.head).map fun node => { registers with buffer := node.data })
      (.act (onRegisters fun hndl registers =>
          (hndl.read hndl.head).map fun node => { registers with rLength := node.data.length })
        (.test (fun hndl => hndl.temp ≠ none)
          (.act (onQueue fun hndl => hndl.free hndl.head)
            (.act (onQueue fun hndl => some { hndl with head := hndl.temp }) .done))
          (.act (onQueue fun hndl => hndl.free hndl.head)
            (.act (onQueue fun hndl => some { hndl with head := none })
              (.act (onQueue fun hndl => some { hndl with tail := none }) .done))))))

inductive Phase
  | idle
  /-- Before `sem_wait` for access in `llq_add`. -/
  | adding (data : List UInt8) (prio : Int)
  | storing
  /-- Before `sem_post` of the count. -/
  | added
  /-- Before the wait for the count in `llq_timedreceive`. -/
  | receiving
  /-- Before the test of `head`, which is made without access. -/
  | counted
  /-- Before `sem_wait` for access. -/
  | tested
  | taking
  | returning (registers : Registers)
  deriving DecidableEq

structure State (Thread : Type*) where
  monitor : Monitor Thread Llq Registers
  llqCountSem : Nat
  phase : Thread → Phase

def llqOpen {Thread : Type*} (temp : Option Address) : State Thread where
  monitor := ⟨⟨none, none, temp, fun _ => none⟩, 1, fun _ => none⟩
  llqCountSem := 0
  phase _ := .idle

inductive Event (Thread : Type*)
  | callAdd (thread : Thread) (data : List UInt8) (prio : Int)
  | callReceive (thread : Thread)
  | enterAdd (thread : Thread) (fresh : Address) (stale : Node)
  | enterReceive (thread : Thread)
  | statement (thread : Thread)
  | leave (thread : Thread)
  | postCount (thread : Thread)
  | takeCount (thread : Thread)
  | timeout (thread : Thread)
  | testHead (thread : Thread)
  | finish (thread : Thread)

section Steps

variable {Thread : Type*} [DecidableEq Thread]

def State.moveTo (thread : Thread) (phase : Phase) (state : State Thread) : State Thread :=
  { state with phase := update state.phase thread phase }

@[simp] theorem State.move_to_monitor (state : State Thread) (thread : Thread) (phase : Phase) :
    (state.moveTo thread phase).monitor = state.monitor := rfl

@[simp] theorem State.move_to_count (state : State Thread) (thread : Thread) (phase : Phase) :
    (state.moveTo thread phase).llqCountSem = state.llqCountSem := rfl

@[simp] theorem State.move_to_phase (state : State Thread) (thread : Thread) (phase : Phase) :
    (state.moveTo thread phase).phase = update state.phase thread phase := rfl

/-- No result stands for a step that the thread cannot make now: it is elsewhere, it has to wait,
or its statement is not allowed. -/
def step (state : State Thread) : Event Thread → Option (State Thread)
  | .callAdd thread data prio =>
      if state.phase thread = .idle then some (state.moveTo thread (.adding data prio)) else none
  | .callReceive thread =>
      if state.phase thread = .idle then some (state.moveTo thread .receiving) else none
  | .enterAdd thread fresh stale =>
      match state.phase thread with
      | .adding data prio =>
          if state.monitor.shared.nodes fresh = none then
            (state.monitor.enter thread (addSection data prio fresh stale) ⟨[], 0⟩).map
              fun monitor => { state with monitor }.moveTo thread .storing
          else none
      | _ => none
  | .enterReceive thread =>
      if state.phase thread = .tested then
        (state.monitor.enter thread receiveSection ⟨[], 0⟩).map fun monitor =>
          { state with monitor }.moveTo thread .taking
      else none
  | .statement thread =>
      (state.monitor.advance thread).map fun monitor => { state with monitor }
  | .leave thread =>
      match state.monitor.leave thread with
      | none => none
      | some (registers, monitor) =>
          if state.phase thread = .storing then
            some ({ state with monitor }.moveTo thread .added)
          else some ({ state with monitor }.moveTo thread (.returning registers))
  | .postCount thread =>
      if state.phase thread = .added then
        some ({ state with llqCountSem := state.llqCountSem + 1 }.moveTo thread .idle)
      else none
  | .takeCount thread =>
      if state.phase thread = .receiving ∧ 0 < state.llqCountSem then
        some ({ state with llqCountSem := state.llqCountSem - 1 }.moveTo thread .counted)
      else none
  | .timeout thread =>
      if state.phase thread = .receiving then
        some (state.moveTo thread (.returning ⟨[], -1⟩))
      else none
  | .testHead thread =>
      if state.phase thread = .counted then
        if state.monitor.shared.head ≠ none then some (state.moveTo thread .tested)
        else some (state.moveTo thread (.returning ⟨[], 0⟩))
      else none
  | .finish thread =>
      match state.phase thread with
      | .returning _ => some (state.moveTo thread .idle)
      | _ => none

end Steps

end SmartHome.Queue
