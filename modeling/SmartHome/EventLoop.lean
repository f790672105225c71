import Mathlib.Logic.Function.Basic
import SmartHome.Connections
import SmartHome.Library.Runs

/-!
# The event loop and the reconnect thread

`eventhub_start` and `ceconnect` side by side. Every `close`, every descriptor that the
kernel hands out and every operation on the registry of connections is one step, and the
steps of the two threads come in any order. A socket is what a descriptor stands for at a
time; its number is known to nobody but the kernel and is kept here to say whose event
an event was. A batch of `epoll_wait` is fixed when it is fetched.
-/

namespace SmartHome.EventLoop

open SmartHome.Connections (ConnType)

set_option autoImplicit false

structure Hub where
  listenfd : Int
  listening : Nat

def maxevents : Nat := 64

/-- A registered connection, with the socket it was made for. -/
structure Conn where
  fd : Int
  sock : Nat
  conntype : ConnType
  deriving DecidableEq

/-- `hangup` stands for an error, a hang-up, or nothing to read. -/
inductive Kind
  | readable
  | hangup
  deriving DecidableEq

/-- An entry of `events`, with the socket it was recorded for. -/
structure Recorded where
  fd : Int
  sock : Nat
  kind : Kind
  deriving DecidableEq

inductive Main
  | polling
  /-- `close` is done, `event_close` is not. -/
  | hungUp (event : Recorded)
  | accepting (event : Recorded)
  /-- The new descriptor is in the event hub, `event_accept` is to come. -/
  | accepted (event : Recorded) (fd : Int) (sock : Nat)
  /-- `reader` is what `connrbtree_getconn` has found. -/
  | reading (event : Recorded) (reader : Conn)
  /-- `connlist_checkstatus` has closed the descriptor, `connrbtree_del` is to come. -/
  | closedLate (event : Recorded) (reader conn : Conn)
  /-- The end of the file was read; `event_close` and then `close` are to come. -/
  | ended (event : Recorded)
  | removed (event : Recorded)
  deriving DecidableEq

inductive Reconn
  | waiting
  /-- `connlist_check` has found no connection to the server. -/
  | missing
  | connecting (fd : Int) (sock : Nat)
  /-- The connection is registered, but not yet in the event hub. -/
  | inserted (conn : Conn)
  deriving DecidableEq

/-- A socket closed or a connection removed, and the socket on whose account. -/
structure Closing where
  victim : Nat
  cause : Nat
  deriving DecidableEq

structure State where
  owner : Int → Option Nat
  sockets : Nat
  watched : List Nat
  conns : List Conn
  main : Main
  batch : List Recorded
  reconn : Reconn
  closings : List Closing
  aborted : Bool

def Main.current : Main → List Recorded
  | .polling => []
  | .hungUp event => [event]
  | .accepting event => [event]
  | .accepted event _ _ => [event]
  | .reading event _ => [event]
  | .closedLate event _ _ => [event]
  | .ended event => [event]
  | .removed event => [event]

namespace State

def recorded (s : State) : List Recorded := s.main.current ++ s.batch

/-- `close`; on a descriptor that is not open it fails. -/
def closeFd (s : State) (fd : Int) (cause : Nat) : State :=
  { s with
    owner := Function.update s.owner fd none
    closings := s.closings ++ (s.owner fd).toList.map fun sock => ⟨sock, cause⟩ }

/-- `accept` or `socket` returns this descriptor. -/
def openFd (s : State) (fd : Int) : State :=
  { s with owner := Function.update s.owner fd (some s.sockets), sockets := s.sockets + 1 }

def watch (s : State) (fd : Int) : State :=
  { s with watched := (s.owner fd).toList ++ s.watched }

def unwatch (s : State) (fd : Int) : State :=
  { s with watched := s.watched.filter fun sock => s.owner fd ≠ some sock }

/-- `connrbtree_insert`, with its assertion. -/
def insert (s : State) (conn : Conn) : State :=
  if ∃ other ∈ s.conns, other.fd = conn.fd then { s with aborted := true }
  else { s with conns := s.conns ++ [conn] }

def eventClose (s : State) (fd : Int) (cause : Nat) : State :=
  { s with
    conns := s.conns.eraseP (·.fd = fd)
    closings := s.closings ++
      (s.conns.find? (·.fd = fd)).toList.map fun conn => ⟨conn.sock, cause⟩ }

/-- `connrbtree_del` of a connection that has timed out. -/
def del (s : State) (conn : Conn) : State :=
  { s with conns := s.conns.erase conn, closings := s.closings ++ [⟨conn.sock, conn.sock⟩] }

end State

inductive Action
  | wait (events : List Recorded)
  | hangUp
  | hangUpRemove
  | listen
  | accept (fd : Int)
  /-- `event_accept`, with a connection or without the memory for one. -/
  | register (memory : Bool)
  | acceptDone
  | read
  | closeLate (conn : Conn)
  | removeLate
  | readDone
  | endOfFile
  | endRemove
  | endClose
  | check
  | socket (fd : Int)
  | connectFail
  /-- No address for the server's name, or no memory: the descriptor stays open. -/
  | giveUp
  | insertServer
  | watchServer (fd : Int)

/-- Only connections to the apps and to the server time out. -/
def Conn.timesOut (conn : Conn) : Prop :=
  conn.conntype = .connsocketserver ∨ conn.conntype = .connsocketclient

instance (conn : Conn) : Decidable conn.timesOut := inferInstanceAs (Decidable (_ ∨ _))

def mainStep (hub : Hub) (s : State) : Action → Option State
  | .wait events =>
      match s.main, s.batch with
      | .polling, [] =>
          if events.length ≤ maxevents ∧ (events.map (·.fd)).Nodup ∧
              ∀ event ∈ events, s.owner event.fd = some event.sock ∧ event.sock ∈ s.watched then
            some { s with batch := events }
          else none
      | _, _ => none
  | .hangUp =>
      match s.main, s.batch with
      | .polling, event :: rest =>
          if event.kind = .hangup then
            some { s.closeFd event.fd event.sock with main := .hungUp event, batch := rest }
          else none
      | _, _ => none
  | .hangUpRemove =>
      match s.main with
      | .hungUp event => some { s.eventClose event.fd event.sock with main := .polling }
      | _ => none
  | .listen =>
      match s.main, s.batch with
      | .polling, event :: rest =>
          if event.kind = .readable ∧ event.fd = hub.listenfd then
            some { s with main := .accepting event, batch := rest }
          else none
      | _, _ => none
  | .accept fd =>
      match s.main, s.owner fd with
      | .accepting event, none =>
          if s.owner hub.listenfd = some hub.listening then
            some { (s.openFd fd).watch fd with main := .accepted event fd s.sockets }
          else none
      | _, _ => none
  | .register memory =>
      match s.main with
      | .accepted event fd sock =>
          let s := if memory then s.insert ⟨fd, sock, .connsocketclient⟩ else s
          some { s with main := .accepting event }
      | _ => none
  | .acceptDone =>
      match s.main with
      | .accepting _ => some { s with main := .polling }
      | _ => none
  | .read =>
      match s.main, s.batch with
      | .polling, event :: rest =>
          if event.kind = .readable ∧ event.fd ≠ hub.listenfd then
            match s.conns.find? (·.fd = event.fd) with
            | some reader => some { s with main := .reading event reader, batch := rest }
            | none => some { s with batch := rest }
          else none
      | _, _ => none
  | .closeLate conn =>
      match s.main with
      | .reading event reader =>
          if reader.conntype = .connsocketcmd ∧ conn ∈ s.conns ∧ conn.timesOut then
            some { (s.unwatch conn.fd).closeFd conn.fd conn.sock with
              main := .closedLate event reader conn }
          else none
      | _ => none
  | .removeLate =>
      match s.main with
      | .closedLate event reader conn => some { s.del conn with main := .reading event reader }
      | _ => none
  | .readDone =>
      match s.main with
      | .reading _ _ => some { s with main := .polling }
      | _ => none
  | .endOfFile =>
      match s.main with
      | .reading event reader =>
          if reader.conntype ≠ .connznp then
            some { s.unwatch event.fd with main := .ended event }
          else none
      | _ => none
  | .endRemove =>
      match s.main with
      | .ended event => some { s.eventClose event.fd event.sock with main := .removed event }
      | _ => none
  | .endClose =>
      match s.main with
      | .removed event => some { s.closeFd event.fd event.sock with main := .polling }
      | _ => none
  | _ => none

def reconnStep (s : State) : Action → Option State
  | .check =>
      match s.reconn with
      | .waiting =>
          if ∃ conn ∈ s.conns, conn.conntype = .connsocketserver then some s
          else some { s with reconn := .missing }
      | _ => none
  | .socket fd =>
      match s.reconn, s.owner fd with
      | .missing, none => some { s.openFd fd with reconn := .connecting fd s.sockets }
      | _, _ => none
  | .connectFail =>
      match s.reconn with
      | .connecting fd sock => some { s.closeFd fd sock with reconn := .waiting }
      | _ => none
  | .giveUp =>
      match s.reconn with
      | .connecting _ _ => some { s with reconn := .waiting }
      | _ => none
  | .insertServer =>
      match s.reconn with
      | .connecting fd sock =>
          let conn : Conn := ⟨fd, sock, .connsocketserver⟩
          some { s.insert conn with reconn := .inserted conn }
      | _ => none
  | .watchServer fd =>
      match s.reconn with
      -- A connection that was removed meanwhile may have been given another descriptor.
      | .inserted conn =>
          if fd = conn.fd ∨ conn ∉ s.conns then some { s.watch fd with reconn := .waiting }
          else none
      | _ => none
  | _ => none

def Action.ofReconn : Action → Bool
  | .check | .socket _ | .connectFail | .giveUp | .insertServer | .watchServer _ => true
  | _ => false

/-- After a failed assertion there is no program any more. -/
def step (hub : Hub) (s : State) (action : Action) : Option State :=
  if s.aborted then none
  else if action.ofReconn then reconnStep s action
  else mainStep hub s action

/-- The loop is about to begin and nobody has asked for the server: the pipes are registered, each
descriptor once, and open. -/
structure Start (hub : Hub) (s : State) : Prop where
  listening : s.owner hub.listenfd = some hub.listening
  owned : ∀ conn ∈ s.conns, s.owner conn.fd = some conn.sock
  distinct : (s.conns.map (·.fd)).Nodup
  pipes : ∀ conn ∈ s.conns, conn.conntype = .connsocketcmd ∨ conn.conntype = .connznp
  numbered : ∀ fd sock, s.owner fd = some sock → sock < s.sockets
  watched : ∀ sock ∈ s.watched, sock < s.sockets
  main : s.main = .polling
  batch : s.batch = []
  reconn : s.reconn = .waiting
  closings : s.closings = []
  aborted : s.aborted = false

end SmartHome.EventLoop
