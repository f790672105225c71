import SmartHome.EventLoop

/-!
# What the two threads do

One constructor for each way a step of the event loop or of the reconnect thread can go,
with the place it is taken from. The first use: at most one connection to the server is
registered, since one thread alone asks for it and registers it.
-/

namespace SmartHome.LoopSteps

open SmartHome.Library.Runs
open SmartHome.EventLoop

set_option autoImplicit false

inductive Transition (hub : Hub) (s : State) : Action → State → Prop
  | wait {events : List Recorded} (main : s.main = .polling) (batch : s.batch = [])
      (current : ∀ event ∈ events, s.owner event.fd = some event.sock ∧ event.sock ∈ s.watched) :
      Transition hub s (.wait events) { s with batch := events }
  | hangUp {event : Recorded} {rest : List Recorded} (main : s.main = .polling)
      (batch : s.batch = event :: rest) :
      Transition hub s .hangUp
        { s.closeFd event.fd event.sock with main := .hungUp event, batch := rest }
  | hangUpRemove {event : Recorded} (main : s.main = .hungUp event) :
      Transition hub s .hangUpRemove { s.eventClose event.fd event.sock with main := .polling }
  | listen {event : Recorded} {rest : List Recorded} (main : s.main = .polling)
      (batch : s.batch = event :: rest) :
      Transition hub s .listen { s with main := .accepting event, batch := rest }
  | accept {event : Recorded} {fd : Int} (main : s.main = .accepting event)
      (unused : s.owner fd = none) :
      Transition hub s (.accept fd)
        { (s.openFd fd).watch fd with main := .accepted event fd s.sockets }
  | register {event : Recorded} {fd : Int} {sock : Nat} (main : s.main = .accepted event fd sock) :
      Transition hub s (.register true)
        { s.insert ⟨fd, sock, .connsocketclient⟩ with main := .accepting event }
  | noMemory {event : Recorded} {fd : Int} {sock : Nat} (main : s.main = .accepted event fd sock) :
      Transition hub s (.register false) { s with main := .accepting event }
  | acceptDone {event : Recorded} (main : s.main = .accepting event) :
      Transition hub s .acceptDone { s with main := .polling }
  | read {event : Recorded} {rest : List Recorded} {reader : Conn} (main : s.main = .polling)
      (batch : s.batch = event :: rest) :
      Transition hub s .read { s with main := .reading event reader, batch := rest }
  | skip {event : Recorded} {rest : List Recorded} (main : s.main = .polling)
      (batch : s.batch = event :: rest) : Transition hub s .read { s with batch := rest }
  | closeLate {event : Recorded} {reader conn : Conn} (main : s.main = .reading event reader)
      (member : conn ∈ s.conns) :
      Transition hub s (.closeLate conn)
        { (s.unwatch conn.fd).closeFd conn.fd conn.sock with
          main := .closedLate event reader conn }
  | removeLate {event : Recorded} {reader conn : Conn}
      (main : s.main = .closedLate event reader conn) :
      Transition hub s .removeLate { s.del conn with main := .reading event reader }
  | readDone {event : Recorded} {reader : Conn} (main : s.main = .reading event reader) :
      Transition hub s .readDone { s with main := .polling }
  | endOfFile {event : Recorded} {reader : Conn} (main : s.main = .reading event reader) :
      Transition hub s .endOfFile { s.unwatch event.fd with main := .ended event }
  | endRemove {event : Recorded} (main : s.main = .ended event) :
      Transition hub s .endRemove
        { s.eventClose event.fd event.sock with main := .removed event }
  | endClose {event : Recorded} (main : s.main = .removed event) :
      Transition hub s .endClose { s.closeFd event.fd event.sock with main := .polling }
  | checked (reconn : s.reconn = .waiting) : Transition hub s .check s
  | missed (reconn : s.reconn = .waiting)
      (missing : ∀ conn ∈ s.conns, conn.conntype ≠ .connsocketserver) :
      Transition hub s .check { s with reconn := .missing }
  | socket {fd : Int} (reconn : s.reconn = .missing) (unused : s.owner fd = none) :
      Transition hub s (.socket fd) { s.openFd fd with reconn := .connecting fd s.sockets }
  | connectFail {fd : Int} {sock : Nat} (reconn : s.reconn = .connecting fd sock) :
      Transition hub s .connectFail { s.closeFd fd sock with reconn := .waiting }
  | giveUp {fd : Int} {sock : Nat} (reconn : s.reconn = .connecting fd sock) :
      Transition hub s .giveUp { s with reconn := .waiting }
  | insertServer {fd : Int} {sock : Nat} (reconn : s.reconn = .connecting fd sock) :
      Transition hub s .insertServer
        { s.insert ⟨fd, sock, .connsocketserver⟩ with
          reconn := .inserted ⟨fd, sock, .connsocketserver⟩ }
  | watchServer {fd : Int} {conn : Conn} (reconn : s.reconn = .inserted conn) :
      Transition hub s (.watchServer fd) { s.watch fd with reconn := .waiting }

theorem transition_of_main_step {hub : Hub} {s next : State} {action : Action}
    (stepped : mainStep hub s action = some next) : Transition hub s action next := by
  cases action with
  | wait events =>
      simp only [mainStep] at stepped
      split at stepped
      case h_1 main batch =>
        split_ifs at stepped with current
        cases stepped
        exact .wait main batch current.2.2
      case h_2 => cases stepped
  | hangUp =>
      simp only [mainStep] at stepped
      split at stepped
      case h_1 main batch =>
        split_ifs at stepped
        cases stepped
        exact .hangUp main batch
      case h_2 => cases stepped
  | hangUpRemove =>
      simp only [mainStep] at stepped
      split at stepped <;> cases stepped
      exact .hangUpRemove ‹_›
  | listen =>
      simp only [mainStep] at stepped
      split at stepped
      case h_1 main batch =>
        split_ifs at stepped
        cases stepped
        exact .listen main batch
      case h_2 => cases stepped
  | accept fd =>
      simp only [mainStep] at stepped
      split at stepped
      case h_1 main unused =>
        split_ifs at stepped
        cases stepped
        exact .accept main unused
      case h_2 => cases stepped
  | register memory =>
      simp only [mainStep] at stepped
      split at stepped <;> cases stepped
      cases memory with
      | true => exact .register ‹_›
      | false => exact .noMemory ‹_›
  | acceptDone =>
      simp only [mainStep] at stepped
      split at stepped <;> cases stepped
      exact .acceptDone ‹_›
  | read =>
      simp only [mainStep] at stepped
      split at stepped
      case h_1 main batch =>
        split_ifs at stepped
        split at stepped <;> cases stepped
        · exact .read main batch
        · exact .skip main batch
      case h_2 => cases stepped
  | closeLate conn =>
      simp only [mainStep] at stepped
      split at stepped
      case h_1 main =>
        split_ifs at stepped with late
        cases stepped
        exact .closeLate main late.2.1
      case h_2 => cases stepped
  | removeLate =>
      simp only [mainStep] at stepped
      split at stepped <;> cases stepped
      exact .removeLate ‹_›
  | readDone =>
      simp only [mainStep] at stepped
      split at stepped <;> cases stepped
      exact .readDone ‹_›
  | endOfFile =>
      simp only [mainStep] at stepped
      split at stepped
      case h_1 main =>
        split_ifs at stepped
        cases stepped
        exact .endOfFile main
      case h_2 => cases stepped
  | endRemove =>
      simp only [mainStep] at stepped
      split at stepped <;> cases stepped
      exact .endRemove ‹_›
  | endClose =>
      simp only [mainStep] at stepped
      split at stepped <;> cases stepped
      exact .endClose ‹_›
  | check | socket | connectFail | giveUp | insertServer | watchServer => cases stepped

theorem transition_of_reconn_step {hub : Hub} {s next : State} {action : Action}
    (stepped : reconnStep s action = some next) : Transition hub s action next := by
  cases action with
  | check =>
      simp only [reconnStep] at stepped
      split at stepped
      case h_1 reconn =>
        split_ifs at stepped with found <;> cases stepped
        · exact .checked reconn
        · exact .missed reconn fun conn member server => found ⟨conn, member, server⟩
      case h_2 => cases stepped
  | socket fd =>
      simp only [reconnStep] at stepped
      split at stepped <;> cases stepped
      exact .socket ‹_› ‹_›
  | connectFail =>
      simp only [reconnStep] at stepped
      split at stepped <;> cases stepped
      exact .connectFail ‹_›
  | giveUp =>
      simp only [reconnStep] at stepped
      split at stepped <;> cases stepped
      exact .giveUp ‹_›
  | insertServer =>
      simp only [reconnStep] at stepped
      split at stepped <;> cases stepped
      exact .insertServer ‹_›
  | watchServer fd =>
      simp only [reconnStep] at stepped
      split at stepped
      case h_1 reconn =>
        split_ifs at stepped
        cases stepped
        exact .watchServer reconn
      case h_2 => cases stepped
  | _ => cases stepped

theorem transition_of_step {hub : Hub} {s next : State} {action : Action}
    (stepped : step hub s action = some next) : Transition hub s action next := by
  rw [step] at stepped
  split_ifs at stepped
  · exact transition_of_reconn_step stepped
  · exact transition_of_main_step stepped

section Servers

variable {hub : Hub} {s next : State} {action : Action}

def servers (conns : List Conn) : List Conn :=
  conns.filter fun conn => conn.conntype = .connsocketserver

/-- Between `connlist_check` and the registration of the new connection. -/
def Asking : Reconn → Prop
  | .missing | .connecting _ _ => True
  | .waiting | .inserted _ => False

structure OneServer (s : State) : Prop where
  atMostOne : (servers s.conns).length ≤ 1
  asking : Asking s.reconn → servers s.conns = []

theorem OneServer.of_sublist (one : OneServer s)
    (fewer : (servers next.conns).Sublist (servers s.conns))
    (asking : Asking next.reconn → Asking s.reconn) : OneServer next := by
  constructor
  · exact fewer.length_le.trans one.atMostOne
  · intro asks
    rw [one.asking (asking asks)] at fewer
    exact List.sublist_nil.mp fewer

theorem insert_reconn (s : State) (conn : Conn) : (s.insert conn).reconn = s.reconn := by
  rw [State.insert]
  split_ifs <;> rfl

theorem servers_insert_client (s : State) (fd : Int) (sock : Nat) :
    servers (s.insert ⟨fd, sock, .connsocketclient⟩).conns = servers s.conns := by
  rw [State.insert]
  split_ifs
  · rfl
  · rw [servers, List.filter_append]
    exact List.append_nil _

theorem servers_insert_length (s : State) (conn : Conn) :
    (servers (s.insert conn).conns).length ≤ (servers s.conns).length + 1 := by
  rw [State.insert]
  split_ifs
  · exact Nat.le_succ _
  · rw [servers, List.filter_append, List.length_append]
    exact Nat.add_le_add_left (List.length_filter_le _ [conn]) _

/-- Only the reconnect thread registers the server, and only where it has seen none. -/
theorem one_server_step (one : OneServer s) (transition : Transition hub s action next) :
    OneServer next := by
  cases transition with
  | hangUpRemove | endRemove => exact one.of_sublist (List.eraseP_sublist.filter _) id
  | removeLate => exact one.of_sublist (List.erase_sublist.filter _) id
  | register main =>
      apply one.of_sublist
      · exact (servers_insert_client s _ _).symm ▸ List.Sublist.refl _
      · exact fun asks => insert_reconn s _ ▸ asks
  | missed reconn missing =>
      have none : servers s.conns = [] := by
        rw [servers, List.filter_eq_nil_iff]
        intro conn member
        rw [decide_eq_true_eq]
        exact missing conn member
      exact ⟨one.atMostOne, fun _ => none⟩
  | socket reconn =>
      refine one.of_sublist (.refl _) fun _ => ?_
      rw [reconn]
      exact trivial
  | @insertServer fd sock reconn =>
      have asks : Asking s.reconn := by
        rw [reconn]
        exact trivial
      constructor
      · have longer := servers_insert_length s ⟨fd, sock, .connsocketserver⟩
        rwa [one.asking asks] at longer
      · exact False.elim
  | connectFail | giveUp | watchServer => exact one.of_sublist (.refl _) False.elim
  | _ => exact one.of_sublist (.refl _) id

theorem start_one_server (start : Start hub s) : OneServer s := by
  have none : servers s.conns = [] := by
    rw [servers, List.filter_eq_nil_iff]
    intro conn member server
    rw [decide_eq_true_eq] at server
    rcases start.pipes conn member with cmd | znp
    · cases cmd.symm.trans server
    · cases znp.symm.trans server
  exact ⟨none ▸ Nat.zero_le 1, fun _ => none⟩

theorem reachable_one_server {allowed : State → Action → Prop}
    (reachable : Reachable (step hub) allowed (Start hub) s) : OneServer s := by
  apply reachable.invariant
  · exact fun state start => start_one_server start
  · intro state action next one _ stepped
    exact one_server_step one (transition_of_step stepped)

end Servers

end SmartHome.LoopSteps
