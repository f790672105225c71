import SmartHome.DescriptorReuse
import SmartHome.PooledConnections

/-!
# The registry under the event loop

The event loop and the reconnect thread once more, with the registry that their steps work
on: each search, each insertion with its assertion and each removal is done in the tree and
the lists. The list of connections that the loop keeps shows the registry in every run.
-/

namespace SmartHome.RegistryView

open SmartHome.Connections (ConnType WellFormed)
open SmartHome.ConnectionPool (Pool Rbtree KeepsOrder connrbtreeGetconn connrbtreeInsert
  connrbtreeDel registerConnection eventAccept eventClose available)
open SmartHome.DescriptorReuse
open SmartHome.EventLoop
open SmartHome.HeldDescriptors
open SmartHome.Library.LinkedLists
open SmartHome.Library.Runs
open SmartHome.Library.SearchTrees
open SmartHome.LoopSteps
open SmartHome.PooledConnections

set_option autoImplicit false

def entry (pool : Pool) (c : Nat) : Int × ConnType := (pool.fd c, (pool.connection c).conntype)

def listed (conn : Conn) : Int × ConnType := (conn.fd, conn.conntype)

def Shows (conns : List Conn) (pool : Pool) (live : List Nat) : Prop :=
  conns.map listed = live.map (entry pool)

variable {rb : Rbtree} {pool : Pool} {live free : List Nat} {s : State} {c : Nat} {fd : Int}

theorem Shows.split (shows : Shows s.conns pool live) (keeps : Keeps pool live free)
    (found : connrbtreeGetconn fd pool = some c) :
    ∃ front back before conn behind, live = front ++ c :: back ∧
      s.conns = before ++ conn :: behind ∧ listed conn = entry pool c ∧
      before.map listed = front.map (entry pool) ∧ behind.map listed = back.map (entry pool) ∧
      ∀ other ∈ before ++ behind, other.fd ≠ fd := by
  rcases (getconn_eq_some_iff keeps fd c).mp found with ⟨member, isFd⟩
  rcases List.append_of_mem member with ⟨front, back, rfl⟩
  have cut := shows
  rw [Shows, List.map_append, List.map_cons, List.map_eq_append_iff] at cut
  rcases cut with ⟨before, rest, split, sameFront, sameRest⟩
  rcases List.map_eq_cons_iff.mp sameRest with ⟨conn, behind, rfl, same, sameBehind⟩
  refine ⟨front, back, before, conn, behind, rfl, split, same, sameFront, sameBehind, ?_⟩
  intro other inside taken
  have shown : listed other ∈ (front ++ back).map (entry pool) := by
    rw [List.map_append, ← sameFront, ← sameBehind, ← List.map_append]
    exact List.mem_map_of_mem inside
  rcases List.mem_map.mp shown with ⟨twin, elsewhere, sameEntry⟩
  have twinFd : pool.fd twin = fd := (congrArg Prod.fst sameEntry).trans taken
  have twinLive : twin ∈ front ++ c :: back :=
    List.perm_middle.symm.subset (List.mem_cons_of_mem c elsewhere)
  have foundTwin := (getconn_eq_some_iff keeps fd twin).mpr ⟨twinLive, twinFd⟩
  have isTwin : twin = c := Option.some.inj (foundTwin.symm.trans found)
  have distinct := (List.nodup_append.mp keeps.distinct).1
  exact (List.nodup_cons.mp (List.nodup_middle.mp distinct)).1 (isTwin ▸ elsewhere)

/-- The threads, and the registry while no assertion has failed. -/
structure Serving where
  loop : State
  registry : Option Pool

/-- A step, with what `malloc` and `time` return in it. -/
structure Moment where
  action : Action
  storage : Option (Vector UInt8 1024)
  now : Int

/-- A connection is missing if and only if there is none to be had. -/
def Moment.fits (moment : Moment) (pool : Pool) : Bool :=
  match moment.action with
  | .register memory => memory == available moment.storage pool
  | .insertServer => available moment.storage pool
  | _ => true

structure Follows (loop : State) (pool : Pool) : Prop where
  shows : ∃ live free, Keeps pool live free ∧ Shows loop.conns pool live
  alive : loop.aborted = false
  late : ∀ event reader conn, loop.main = .closedLate event reader conn → conn ∈ loop.conns

def Matched (s : Serving) : Prop :=
  (∃ pool, s.registry = some pool ∧ Follows s.loop pool) ∨
    s.registry = none ∧ s.loop.aborted = true

section Steps

variable {hub : Hub} {next : State} {moment : Moment}

theorem Follows.same (follows : Follows s pool) (conns : next.conns = s.conns)
    (aborted : next.aborted = s.aborted)
    (late : ∀ event reader conn, next.main = .closedLate event reader conn → conn ∈ s.conns) :
    Follows next pool := by
  refine ⟨?_, aborted.trans follows.alive, ?_⟩
  · rw [conns]
    exact follows.shows
  · rw [conns]
    exact late

theorem mem_insert {conn other : Conn} (member : other ∈ s.conns) :
    other ∈ (s.insert conn).conns := by
  rw [State.insert]
  split_ifs
  · exact member
  · exact List.mem_append_left _ member

end Steps

section Runs

variable {hub : Hub} {serving : Serving}

end Runs

def piped : Pool :=
  (registerConnection unbalanced (some (Vector.replicate 1024 0)) 0 5 .connsocketcmd
    emptyPool).getD emptyPool

end SmartHome.RegistryView
