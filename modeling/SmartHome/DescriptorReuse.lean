import SmartHome.HeldDescriptors
import SmartHome.LoopSteps

/-!
# A descriptor that is used again

The two threads are safe as long as the kernel hands out no descriptor that the registry or
the current batch still names. Without that, the assertion of `connrbtree_insert` fails, or
an event closes the next owner of its descriptor. At most one connection to the server is
registered in any case.
-/

namespace SmartHome.DescriptorReuse

open SmartHome.Library.Runs
open SmartHome.EventLoop
open SmartHome.HeldDescriptors
open SmartHome.LoopSteps

set_option autoImplicit false

/-- The assertion has not failed, there is at most one connection to the server, and whatever was
closed or removed was so for a reason of its own. -/
structure Safe (s : State) : Prop where
  alive : s.aborted = false
  atMostOne : (servers s.conns).length ≤ 1
  ownReason : ∀ closing ∈ s.closings, closing.victim = closing.cause

section Steps

variable {hub : Hub} {s next : State} {action : Action}

theorem held_hang_up (held : Held s) {event : Recorded} {rest : List Recorded}
    (main : s.main = .polling) (batch : s.batch = event :: rest) :
    Held { s.closeFd event.fd event.sock with main := .hungUp event, batch := rest } := by
  have recorded : event ∈ s.recorded := by
    rw [State.recorded, main, batch]
    exact List.mem_cons_self
  have taken := held.take main batch (.hungUp event) rfl rfl
    fun _ same => by cases same
  apply taken.close (held.recorded event recorded) (fun _ _ => id)
  intro socket member
  exact ((taken.nascent socket member).2.2 event List.mem_cons_self).symm

theorem held_hang_up_remove (held : Held s) {event : Recorded} (main : s.main = .hungUp event) :
    Held { s.eventClose event.fd event.sock with main := .polling } := by
  have recorded : event ∈ s.recorded := mem_recorded (by rw [main]; rfl)
  have removed := held.event_close (held.namesake event recorded)
  apply removed.done
  intro conn member leaves
  have still : Leaving s.main conn := leaves
  rw [main] at still
  exact held.gone_of_event_close event.sock conn member still

theorem held_accept (held : Held s) {event : Recorded} {fd : Int}
    (main : s.main = .accepting event) (unused : s.owner fd = none) (unclaimed : Unclaimed s fd) :
    Held { (s.openFd fd).watch fd with main := .accepted event fd s.sockets } := by
  have owns : (s.openFd fd).owner fd = some s.sockets :=
    (owner_open_iff s fd fd s.sockets).mpr (.inl ⟨rfl, rfl⟩)
  have connecting_ : ∀ socket ∈ connecting s.reconn, s.owner socket.fd = some socket.sock :=
    fun socket member => (held.nascent socket (List.mem_append_right _ member)).1
  have watched : Held ((s.openFd fd).watch fd) := by
    apply (held.open unused unclaimed).watch
    intro socket member same
    have older := held.numbered socket.fd socket.sock (connecting_ socket member)
    rw [owns, Option.some.injEq] at same
    exact lt_irrefl _ (same ▸ older)
  apply watched.goto_accepted main owns unclaimed
  intro socket member same
  have taken := connecting_ socket member
  rw [same, unused] at taken
  cases taken

theorem held_no_memory (held : Held s) {event : Recorded} {fd : Int} {sock : Nat}
    (main : s.main = .accepted event fd sock) : Held { s with main := .accepting event } := by
  apply held.stay (by rw [main]; rfl) _ rfl rfl
  · intro conn _ leaves
    rw [main] at leaves
    exact leaves
  · intro _ same
    cases same

theorem held_register (held : Held s) {event : Recorded} {fd : Int} {sock : Nat}
    (main : s.main = .accepted event fd sock) (conntype : Connections.ConnType) :
    Held { s.insert ⟨fd, sock, conntype⟩ with main := .accepting event } := by
  rcases held.accepted_spec main with ⟨owns, unclaimed, apart⟩
  have recorded : State.recorded { s with main := .accepting event } = s.recorded := by
    rw [State.recorded, State.recorded, main]
    rfl
  have back := held_no_memory held main
  rw [insert_eq unclaimed]
  apply back.insert owns
  · exact ⟨unclaimed.1, fun other member => unclaimed.2 other (recorded ▸ member)⟩
  · exact apart

theorem held_close_late (held : Held s) {event : Recorded} {reader conn : Conn}
    (main : s.main = .reading event reader) (member : conn ∈ s.conns) :
    Held { (s.unwatch conn.fd).closeFd conn.fd conn.sock with
      main := .closedLate event reader conn } := by
  have staying : ∀ other, ¬Leaving s.main other := by
    intro other
    rw [main]
    exact id
  have left : Held { s with main := .closedLate event reader conn } :=
    held.stay (by rw [main]; rfl) _ rfl rfl (fun other _ leaves => absurd leaves (staying other))
      fun _ same => by cases same
  apply (left.unwatch conn.fd).close
  · intro sock owns
    have own : s.owner conn.fd = some conn.sock := held.owned conn member (staying conn)
    exact Option.some.inj (owns.symm.trans own)
  · exact fun other inside same => held.same_conn inside member same
  · exact fun socket inside => ((left.nascent socket inside).2.1 conn member).symm

theorem held_remove_late (held : Held s) {event : Recorded} {reader conn : Conn}
    (main : s.main = .closedLate event reader conn) :
    Held { s.del conn with main := .reading event reader } := by
  have current : s.main.current = [event] := by
    rw [main]
    rfl
  apply (held.del conn).stay current _ rfl rfl
  · intro other member leaves
    have late : Leaving s.main other := leaves
    rw [main] at late
    have distinct : s.conns.Nodup := held.distinct.of_map
    rw [show other = conn from late] at member
    exact absurd member distinct.not_mem_erase
  · intro _ same
    cases same

theorem held_skip (held : Held s) {event : Recorded} {rest : List Recorded}
    (main : s.main = .polling) (batch : s.batch = event :: rest) :
    Held { s with batch := rest } := by
  apply held.goto s.main rest
  · intro other member
    rw [State.recorded, batch]
    exact (List.sublist_cons_self event rest).append_left s.main.current |>.subset member
  · rw [main]
    rfl
  · exact fun _ _ => id
  · exact held.removed

theorem held_end_of_file (held : Held s) {event : Recorded} {reader : Conn}
    (main : s.main = .reading event reader) :
    Held { s.unwatch event.fd with main := .ended event } := by
  have current : s.main.current = [event] := by
    rw [main]
    rfl
  apply (held.unwatch event.fd).stay current _ rfl rfl
  · intro conn _ leaves
    have still : Leaving s.main conn := leaves
    rwa [main] at still
  · intro _ same
    cases same

theorem held_end_remove (held : Held s) {event : Recorded} (main : s.main = .ended event) :
    Held { s.eventClose event.fd event.sock with main := .removed event } := by
  have current : s.main.current = [event] := by
    rw [main]
    rfl
  have gone := held.event_close (held.namesake event (mem_recorded current))
  apply gone.stay current _ rfl rfl
  · intro conn _ leaves
    have still : Leaving s.main conn := leaves
    rw [main] at still
    exact still
  · intro other same
    cases same
    exact held.gone_of_event_close event.sock

theorem held_end_close (held : Held s) {event : Recorded} (main : s.main = .removed event) :
    Held { s.closeFd event.fd event.sock with main := .polling } := by
  have recorded : event ∈ s.recorded := mem_recorded (by rw [main]; rfl)
  have closed : Held (s.closeFd event.fd event.sock) := by
    apply held.close (held.recorded event recorded)
    · exact fun conn member same => absurd same (held.removed event main conn member)
    · exact fun socket member => ((held.nascent socket member).2.2 event recorded).symm
  apply closed.done
  intro conn _ leaves
  have still : Leaving s.main conn := leaves
  rwa [main] at still

theorem held_socket (held : Held s) {fd : Int} (reconn : s.reconn = .missing)
    (unused : s.owner fd = none) (unclaimed : Unclaimed s fd) :
    Held { s.openFd fd with reconn := .connecting fd s.sockets } := by
  have owns : (s.openFd fd).owner fd = some s.sockets :=
    (owner_open_iff s fd fd s.sockets).mpr (.inl ⟨rfl, rfl⟩)
  apply (held.open unused unclaimed).goto_connecting reconn owns unclaimed
  · intro socket member same
    have taken := (held.nascent socket (List.mem_append_left _ member)).1
    rw [same, unused] at taken
    cases taken
  · exact fun watched => lt_irrefl _ (held.watched s.sockets watched)

theorem held_connect_fail (held : Held s) {fd : Int} {sock : Nat}
    (reconn : s.reconn = .connecting fd sock) :
    Held { s.closeFd fd sock with reconn := .waiting } := by
  rcases held.connecting_spec reconn with ⟨owns, unclaimed, apart⟩
  apply (held.goto_reconn .waiting rfl).close
  · exact fun other same => Option.some.inj (same.symm.trans owns)
  · exact fun conn member same => absurd same (unclaimed.1 conn member)
  · intro socket member
    exact apart socket (List.append_nil (accepted s.main) ▸ member)

theorem held_insert_server (held : Held s) {fd : Int} {sock : Nat}
    (reconn : s.reconn = .connecting fd sock) (conn : Conn) (sameFd : conn.fd = fd)
    (sameSock : conn.sock = sock) :
    Held { s.insert conn with reconn := .inserted conn } := by
  subst sameFd sameSock
  rcases held.connecting_spec reconn with ⟨owns, unclaimed, apart⟩
  rw [insert_eq unclaimed]
  apply (held.goto_reconn (.inserted conn) rfl).insert owns unclaimed
  intro socket member
  exact apart socket (List.append_nil (accepted s.main) ▸ member)

theorem held_step (held : Held s) (fresh : FreshDescriptors s action)
    (transition : Transition hub s action next) : Held next := by
  cases transition with
  | wait main batch current => exact held.wait main current
  | hangUp main batch => exact held_hang_up held main batch
  | hangUpRemove main => exact held_hang_up_remove held main
  | listen main batch =>
      exact held.take main batch (.accepting _) rfl rfl fun _ same => by cases same
  | accept main unused => exact held_accept held main unused fresh
  | register main => exact held_register held main .connsocketclient
  | noMemory main => exact held_no_memory held main
  | acceptDone main =>
      apply held.done
      rw [main]
      exact fun _ _ => id
  | read main batch =>
      exact held.take main batch (.reading _ _) rfl rfl fun _ same => by cases same
  | skip main batch => exact held_skip held main batch
  | closeLate main member => exact held_close_late held main member
  | removeLate main => exact held_remove_late held main
  | readDone main =>
      apply held.done
      rw [main]
      exact fun _ _ => id
  | endOfFile main => exact held_end_of_file held main
  | endRemove main => exact held_end_remove held main
  | endClose main => exact held_end_close held main
  | checked => exact held
  | missed => exact held.goto_reconn .missing rfl
  | socket reconn unused => exact held_socket held reconn unused fresh
  | connectFail reconn => exact held_connect_fail held reconn
  | giveUp => exact held.goto_reconn .waiting rfl
  | insertServer reconn => exact held_insert_server held reconn _ rfl rfl
  | watchServer => exact (held.goto_reconn .waiting rfl).watch fun _ member => by cases member

theorem start_held (start : Start hub s) : Held s := by
  have none : nascents s = [] := by
    rw [nascents, start.main, start.reconn]
    rfl
  have nothing : s.recorded = [] := by
    rw [State.recorded, start.main, start.batch]
    rfl
  have noReconn : connecting s.reconn = [] := by
    rw [start.reconn]
    rfl
  exact {
    alive := start.aborted
    ownReason := by simp [start.closings]
    distinct := start.distinct
    owned := fun conn member _ => start.owned conn member
    recorded := by simp [nothing]
    namesake := by simp [nothing]
    removed := by simp [start.main]
    nascent := by simp [none]
    apart := by simp [none]
    unwatched := by simp [noReconn]
    numbered := start.numbered
    watched := start.watched }

theorem reachable_held (reachable : Reachable (step hub) FreshDescriptors (Start hub) s) :
    Held s := by
  apply reachable.invariant
  · exact fun state start => start_held start
  · intro state action next held fresh stepped
    exact held_step held fresh (transition_of_step stepped)

end Steps

/-! Both parts of the condition are needed. -/

section Named

variable {hub : Hub} {s : State} {fd : Int}

end Named

/-- In every run there is at most one connection to the server; in every run in which the kernel
hands out fresh descriptors only, the assertion never fails and nothing is closed or removed on
another's account. -/
theorem descriptor_reuse_safe (hub : Hub) :
    (∀ s, Reachable (step hub) (fun _ _ => True) (Start hub) s → (servers s.conns).length ≤ 1) ∧
      ∀ s, Reachable (step hub) FreshDescriptors (Start hub) s → Safe s := by
  constructor
  · exact fun s reachable => (reachable_one_server reachable).atMostOne
  · intro s reachable
    have held := reachable_held reachable
    exact ⟨held.alive, (reachable_one_server reachable).atMostOne, held.ownReason⟩

section Examples

def listeningHub : Hub := ⟨3, 0⟩

def idle : State where
  owner fd := if fd = 3 then some 0 else if fd = 5 then some 1 else none
  sockets := 2
  watched := [0, 1]
  conns := [⟨5, 1, .connsocketcmd⟩]
  main := .polling
  batch := []
  reconn := .waiting
  closings := []
  aborted := false

theorem idle_start : Start listeningHub idle where
  listening := rfl
  owned := by decide
  distinct := by decide
  pipes := by decide
  numbered := by
    intro fd sock owns
    simp only [idle] at owns
    split_ifs at owns
    · exact Option.some.inj owns ▸ Nat.zero_lt_two
    · exact Option.some.inj owns ▸ Nat.one_lt_two
  watched := by decide
  main := rfl
  batch := rfl
  reconn := rfl
  closings := rfl
  aborted := rfl

def acceptApp : List Action :=
  [.wait [⟨3, 0, .readable⟩], .listen, .accept 7, .register true, .acceptDone]

/-- The app hangs up, is removed, and its descriptor goes to the server. -/
theorem descriptor_reuse_safe_reconnected :
    ∃ s, run (step listeningHub) idle
        (acceptApp ++ [.wait [⟨7, 2, .hangup⟩], .hangUp, .hangUpRemove, .check, .socket 7,
          .insertServer, .watchServer 7]) = some s ∧
      (servers s.conns).length ≤ 1 ∧ Safe s := by
  obtain ⟨s, found⟩ := Option.isSome_iff_exists.mp
    (show (run (guarded (step listeningHub) FreshDescriptors) idle
      (acceptApp ++ [.wait [⟨7, 2, .hangup⟩], .hangUp, .hangUpRemove, .check, .socket 7,
          .insertServer, .watchServer 7])).isSome by decide +kernel)
  rcases run_of_run_guarded found with ⟨meets, ran⟩
  have reachable := reachable_run (.start idle_start) meets ran
  refine ⟨s, ran, ?_, ?_⟩
  · exact (descriptor_reuse_safe listeningHub).1 s (reachable.weaken fun _ _ _ => trivial)
  · exact (descriptor_reuse_safe listeningHub).2 s reachable

theorem reachable_of_run {s : State} {actions : List Action}
    (ran : run (step listeningHub) idle actions = some s) :
    Reachable (step listeningHub) (fun _ _ => True) (Start listeningHub) s :=
  reachable_run (.start idle_start) (meets_of_forall (fun _ _ _ => trivial) idle) ran

/-- The descriptor of a hang-up is closed before its connection is removed: the server's connection
meets it in the registry. In one batch an app is closed for its time, another accepted at its
descriptor, and the hang-up of the first closes the second. -/
theorem descriptor_reused :
    (∃ s, Reachable (step listeningHub) (fun _ _ => True) (Start listeningHub) s ∧
      s.aborted = true) ∧
    ∃ s, Reachable (step listeningHub) (fun _ _ => True) (Start listeningHub) s ∧
      ∃ closing ∈ s.closings, closing.victim ≠ closing.cause := by
  constructor
  · obtain ⟨s, ran, aborted⟩ := Option.map_eq_some_iff.mp
      (show (run (step listeningHub) idle
        (acceptApp ++ [.wait [⟨7, 2, .hangup⟩], .hangUp, .check, .socket 7,
          .insertServer])).map (·.aborted) = some true by decide +kernel)
    exact ⟨s, reachable_of_run ran, aborted⟩
  · obtain ⟨s, ran, closings⟩ := Option.map_eq_some_iff.mp
      (show (run (step listeningHub) idle
        (acceptApp ++ [.wait [⟨5, 1, .readable⟩, ⟨3, 0, .readable⟩, ⟨7, 2, .hangup⟩], .read,
          .closeLate ⟨7, 2, .connsocketclient⟩, .removeLate, .readDone, .listen, .accept 7,
          .register true, .acceptDone, .hangUp])).map (·.closings) =
            some [⟨2, 2⟩, ⟨2, 2⟩, ⟨3, 2⟩] by decide +kernel)
    refine ⟨s, reachable_of_run ran, ⟨3, 2⟩, ?_, by decide⟩
    rw [closings]
    decide

end Examples

end SmartHome.DescriptorReuse
