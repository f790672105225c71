import SmartHome.EventLoop

/-!
# Whose a descriptor is

Connections, events and new sockets name descriptors. The invariant says of every
descriptor that is named which socket it stands for. It is kept by each operation of the
kernel and of the registry, and by each move of a thread to its next place.
-/

namespace SmartHome.HeldDescriptors

open SmartHome.EventLoop

set_option autoImplicit false

def Unclaimed (s : State) (fd : Int) : Prop :=
  (∀ conn ∈ s.conns, conn.fd ≠ fd) ∧ ∀ event ∈ s.recorded, event.fd ≠ fd

/-- The kernel hands out no descriptor that is still named. -/
def FreshDescriptors (s : State) : Action → Prop
  | .accept fd | .socket fd => Unclaimed s fd
  | _ => True

instance (s : State) (fd : Int) : Decidable (Unclaimed s fd) := inferInstanceAs (Decidable (_ ∧ _))

instance (s : State) (action : Action) : Decidable (FreshDescriptors s action) :=
  match action with
  | .accept fd | .socket fd => inferInstanceAs (Decidable (Unclaimed s fd))
  | .wait _ | .hangUp | .hangUpRemove | .listen | .register _ | .acceptDone | .read | .closeLate _
  | .removeLate | .readDone | .endOfFile | .endRemove | .endClose | .check | .connectFail
  | .giveUp | .insertServer | .watchServer _ => isTrue trivial

/-- The connection is still registered although its descriptor is closed. -/
def Leaving : Main → Conn → Prop
  | .hungUp event, conn => conn.fd = event.fd
  | .closedLate _ _ late, conn => conn = late
  | _, _ => False

structure Nascent where
  fd : Int
  sock : Nat

def accepted : Main → List Nascent
  | .accepted _ fd sock => [⟨fd, sock⟩]
  | _ => []

def connecting : Reconn → List Nascent
  | .connecting fd sock => [⟨fd, sock⟩]
  | _ => []

def nascents (s : State) : List Nascent := accepted s.main ++ connecting s.reconn

/-- Which socket every named descriptor stands for. -/
structure Held (s : State) : Prop where
  alive : s.aborted = false
  ownReason : ∀ closing ∈ s.closings, closing.victim = closing.cause
  distinct : (s.conns.map (·.fd)).Nodup
  owned : ∀ conn ∈ s.conns, ¬Leaving s.main conn → s.owner conn.fd = some conn.sock
  /-- The socket of an event may be closed by now, but nobody else has its descriptor. -/
  recorded : ∀ event ∈ s.recorded, ∀ sock, s.owner event.fd = some sock → sock = event.sock
  namesake : ∀ event ∈ s.recorded, ∀ conn ∈ s.conns, conn.fd = event.fd → conn.sock = event.sock
  removed : ∀ event, s.main = .removed event → ∀ conn ∈ s.conns, conn.fd ≠ event.fd
  nascent : ∀ socket ∈ nascents s, s.owner socket.fd = some socket.sock ∧ Unclaimed s socket.fd
  apart : ((nascents s).map (·.fd)).Nodup
  /-- No event can be recorded for the socket of the reconnect thread. -/
  unwatched : ∀ socket ∈ connecting s.reconn, socket.sock ∉ s.watched
  numbered : ∀ fd sock, s.owner fd = some sock → sock < s.sockets
  watched : ∀ sock ∈ s.watched, sock < s.sockets

section Operations

variable {s : State} {fd : Int} {cause : Nat}

theorem owner_close_iff (s : State) (fd other : Int) (cause sock : Nat) :
    (s.closeFd fd cause).owner other = some sock ↔ other ≠ fd ∧ s.owner other = some sock := by
  by_cases same : other = fd
  · rw [same]
    simp [State.closeFd]
  · simp [State.closeFd, same]

theorem owner_open_iff (s : State) (fd other : Int) (sock : Nat) :
    (s.openFd fd).owner other = some sock ↔
      other = fd ∧ s.sockets = sock ∨ other ≠ fd ∧ s.owner other = some sock := by
  by_cases same : other = fd
  · rw [same]
    simp [State.openFd]
  · simp [State.openFd, same]

theorem Held.same_conn (held : Held s) {conn other : Conn} (first : conn ∈ s.conns)
    (second : other ∈ s.conns) (same : conn.fd = other.fd) : conn = other :=
  List.inj_on_of_nodup_map held.distinct first second same

/-- A descriptor of which no connection is in use and that was closed for its own socket's sake. -/
theorem Held.close (held : Held s) (own : ∀ sock, s.owner fd = some sock → sock = cause)
    (left : ∀ conn ∈ s.conns, conn.fd = fd → Leaving s.main conn)
    (apart : ∀ socket ∈ nascents s, socket.fd ≠ fd) : Held (s.closeFd fd cause) := {
  held with
  ownReason := by
    intro closing member
    rcases List.mem_append.mp member with before | now
    · exact held.ownReason closing before
    · rcases List.mem_map.mp now with ⟨sock, owner, rfl⟩
      exact own sock (Option.mem_toList.mp owner)
  owned := by
    intro conn member staying
    apply (owner_close_iff s fd conn.fd cause conn.sock).mpr
    exact ⟨fun same => staying (left conn member same), held.owned conn member staying⟩
  recorded := by
    intro event member sock owns
    exact held.recorded event member sock ((owner_close_iff s fd event.fd cause sock).mp owns).2
  nascent := by
    intro socket member
    rcases held.nascent socket member with ⟨owns, unclaimed⟩
    have still := (owner_close_iff s fd socket.fd cause socket.sock).mpr
      ⟨apart socket member, owns⟩
    exact ⟨still, unclaimed⟩
  numbered := by
    intro other sock owns
    exact held.numbered other sock ((owner_close_iff s fd other cause sock).mp owns).2 }

theorem Held.open (held : Held s) (unused : s.owner fd = none) (unclaimed : Unclaimed s fd) :
    Held (s.openFd fd) := {
  held with
  owned := by
    intro conn member staying
    apply (owner_open_iff s fd conn.fd conn.sock).mpr
    exact .inr ⟨unclaimed.1 conn member, held.owned conn member staying⟩
  recorded := by
    intro event member sock owns
    rcases (owner_open_iff s fd event.fd sock).mp owns with ⟨same, -⟩ | ⟨-, before⟩
    · exact absurd same (unclaimed.2 event member)
    · exact held.recorded event member sock before
  nascent := by
    intro socket member
    rcases held.nascent socket member with ⟨owns, stillUnclaimed⟩
    have other : socket.fd ≠ fd := by
      intro same
      rw [same, unused] at owns
      cases owns
    have still := (owner_open_iff s fd socket.fd socket.sock).mpr (.inr ⟨other, owns⟩)
    exact ⟨still, stillUnclaimed⟩
  numbered := by
    intro other sock owns
    rcases (owner_open_iff s fd other sock).mp owns with ⟨-, new⟩ | ⟨-, before⟩
    · exact new ▸ Nat.lt_succ_self _
    · exact Nat.lt_succ_of_lt (held.numbered other sock before)
  watched := fun sock member => Nat.lt_succ_of_lt (held.watched sock member) }

theorem Held.watch (held : Held s)
    (other : ∀ socket ∈ connecting s.reconn, s.owner fd ≠ some socket.sock) :
    Held (s.watch fd) := {
  held with
  unwatched := by
    intro socket member watched
    rcases List.mem_append.mp watched with now | before
    · exact other socket member (Option.mem_toList.mp now)
    · exact held.unwatched socket member before
  watched := by
    intro sock member
    rcases List.mem_append.mp member with now | before
    · exact held.numbered fd sock (Option.mem_toList.mp now)
    · exact held.watched sock before }

theorem Held.unwatch (held : Held s) (fd : Int) : Held (s.unwatch fd) := {
  held with
  unwatched := fun socket member watched =>
    held.unwatched socket member (List.mem_of_mem_filter watched)
  watched := fun sock member => held.watched sock (List.mem_of_mem_filter member) }

theorem Held.shrink (held : Held s) {conns : List Conn} (fewer : conns.Sublist s.conns) :
    Held { s with conns } := {
  held with
  distinct := held.distinct.sublist (fewer.map _)
  owned := fun conn member => held.owned conn (fewer.subset member)
  namesake := fun event recorded conn member =>
    held.namesake event recorded conn (fewer.subset member)
  removed := fun event main conn member => held.removed event main conn (fewer.subset member)
  nascent := by
    intro socket member
    rcases held.nascent socket member with ⟨owns, unnamed, unrecorded⟩
    exact ⟨owns, fun conn inside => unnamed conn (fewer.subset inside), unrecorded⟩ }

theorem Held.event_close (held : Held s)
    (own : ∀ conn ∈ s.conns, conn.fd = fd → conn.sock = cause) : Held (s.eventClose fd cause) := {
  held.shrink (List.eraseP_sublist) with
  ownReason := by
    intro closing member
    rcases List.mem_append.mp member with before | now
    · exact held.ownReason closing before
    · rcases List.mem_map.mp now with ⟨conn, found, rfl⟩
      have isFound := Option.mem_toList.mp found
      have same := List.find?_some isFound
      exact own conn (List.mem_of_find?_eq_some isFound) (of_decide_eq_true same) }

/-- After `event_close` no connection has the descriptor. -/
theorem Held.gone_of_event_close (held : Held s) (cause : Nat) :
    ∀ conn ∈ (s.eventClose fd cause).conns, conn.fd ≠ fd := by
  intro conn member same
  have before : conn ∈ s.conns := List.mem_of_mem_eraseP member
  rcases @List.exists_of_eraseP _ (fun other => decide (other.fd = fd)) _ _ before
      (decide_eq_true same) with
    ⟨first, front, back, -, sameFirst, split, erased⟩
  have distinct := held.distinct
  have others : conn ∈ front ++ back := erased ▸ member
  rw [split, List.map_append, List.map_cons, List.nodup_middle, ← List.map_append] at distinct
  apply (List.nodup_cons.mp distinct).1
  rw [of_decide_eq_true sameFirst, ← same]
  exact List.mem_map_of_mem others

theorem Held.del (held : Held s) (conn : Conn) : Held (s.del conn) := {
  held.shrink (List.erase_sublist) with
  ownReason := by
    intro closing member
    rcases List.mem_append.mp member with before | now
    · exact held.ownReason closing before
    · rw [List.mem_singleton.mp now] }

theorem insert_eq {conn : Conn} (unclaimed : Unclaimed s conn.fd) :
    s.insert conn = { s with conns := s.conns ++ [conn] } := by
  apply if_neg
  rintro ⟨other, member, same⟩
  exact unclaimed.1 other member same

theorem Held.insert (held : Held s) {conn : Conn} (owns : s.owner conn.fd = some conn.sock)
    (unclaimed : Unclaimed s conn.fd) (apart : ∀ socket ∈ nascents s, socket.fd ≠ conn.fd) :
    Held { s with conns := s.conns ++ [conn] } := by
  have mem_insert : ∀ other ∈ s.conns ++ [conn], other ∈ s.conns ∨ other = conn := by
    intro other member
    exact (List.mem_append.mp member).imp id List.mem_singleton.mp
  exact {
    held with
    distinct := by
      rw [List.map_append, List.nodup_append]
      refine ⟨held.distinct, List.nodup_singleton _, ?_⟩
      intro other before new isNew
      rcases List.mem_map.mp before with ⟨old, member, rfl⟩
      rw [List.map_singleton, List.mem_singleton] at isNew
      exact isNew ▸ unclaimed.1 old member
    owned := by
      intro other member staying
      rcases mem_insert other member with before | rfl
      · exact held.owned other before staying
      · exact owns
    namesake := by
      intro event recorded other member same
      rcases mem_insert other member with before | rfl
      · exact held.namesake event recorded other before same
      · exact absurd same.symm (unclaimed.2 event recorded)
    removed := by
      intro event main other member
      rcases mem_insert other member with before | rfl
      · exact held.removed event main other before
      · have current : event ∈ s.recorded := by
          rw [State.recorded, main]
          exact List.mem_cons_self
        exact fun same => unclaimed.2 event current same.symm
    nascent := by
      intro socket member
      rcases held.nascent socket member with ⟨owns, unnamed, unrecorded⟩
      refine ⟨owns, ?_, unrecorded⟩
      intro other inside
      rcases mem_insert other inside with before | rfl
      · exact unnamed other before
      · exact (apart socket member).symm }

end Operations

section Places

variable {s : State}

theorem Held.goto (held : Held s) (main : Main) (batch : List Recorded)
    (recorded : ∀ event ∈ main.current ++ batch, event ∈ s.recorded)
    (none : accepted main = [])
    (leaving : ∀ conn ∈ s.conns, Leaving s.main conn → Leaving main conn)
    (removed : ∀ event, main = .removed event → ∀ conn ∈ s.conns, conn.fd ≠ event.fd) :
    Held { s with main, batch } := by
  have fewer : (nascents { s with main, batch }).Sublist (nascents s) := by
    rw [nascents, nascents, none, List.nil_append]
    exact List.sublist_append_right _ _
  exact {
    held with
    owned := fun conn member staying =>
      held.owned conn member fun before => staying (leaving conn member before)
    recorded := fun event member => held.recorded event (recorded event member)
    namesake := fun event member => held.namesake event (recorded event member)
    removed
    nascent := by
      intro socket member
      rcases held.nascent socket (fewer.subset member) with ⟨owns, unnamed, unrecorded⟩
      exact ⟨owns, unnamed, fun event inside => unrecorded event (recorded event inside)⟩
    apart := held.apart.sublist (fewer.map _) }

theorem Held.take (held : Held s) {event : Recorded} {rest : List Recorded}
    (main : s.main = .polling) (batch : s.batch = event :: rest) (place : Main)
    (current : place.current = [event]) (none : accepted place = [])
    (notRemoved : ∀ other, place ≠ .removed other) :
    Held { s with main := place, batch := rest } := by
  have recorded : s.recorded = event :: rest := by
    rw [State.recorded, main, batch]
    rfl
  apply held.goto place rest _ none
  · intro conn _ leaves
    rw [main] at leaves
    exact leaves.elim
  · exact fun other isRemoved => absurd isRemoved (notRemoved other)
  · intro other member
    rw [current] at member
    exact recorded ▸ member

theorem Held.done (held : Held s) (settled : ∀ conn ∈ s.conns, ¬Leaving s.main conn) :
    Held { s with main := .polling } := by
  apply held.goto .polling s.batch _ rfl
  · exact fun conn member leaves => settled conn member leaves
  · intro _ absurd
    cases absurd
  · exact fun _ => List.mem_append_right _

theorem mem_recorded {event : Recorded} (current : s.main.current = [event]) :
    event ∈ s.recorded := by
  rw [State.recorded, current]
  exact List.mem_cons_self

theorem Held.stay (held : Held s) {event : Recorded} (before : s.main.current = [event])
    (place : Main) (current : place.current = [event]) (none : accepted place = [])
    (leaving : ∀ conn ∈ s.conns, Leaving s.main conn → Leaving place conn)
    (removed : ∀ other, place = .removed other → ∀ conn ∈ s.conns, conn.fd ≠ other.fd) :
    Held { s with main := place } := by
  apply held.goto place s.batch _ none leaving removed
  intro other member
  rw [current] at member
  rwa [State.recorded, before]

theorem Held.goto_reconn (held : Held s) (reconn : Reconn) (none : connecting reconn = []) :
    Held { s with reconn } := by
  have fewer : (nascents { s with reconn }).Sublist (nascents s) := by
    rw [nascents, nascents, none, List.append_nil]
    exact List.sublist_append_left _ _
  exact {
    held with
    nascent := fun socket member => held.nascent socket (fewer.subset member)
    apart := held.apart.sublist (fewer.map _)
    unwatched := by
      intro socket member
      rw [none] at member
      cases member }

theorem Held.goto_accepted (held : Held s) {event : Recorded} {fd : Int} {sock : Nat}
    (main : s.main = .accepting event) (owns : s.owner fd = some sock)
    (unclaimed : Unclaimed s fd) (apart : ∀ socket ∈ connecting s.reconn, socket.fd ≠ fd) :
    Held { s with main := .accepted event fd sock } := by
  have same : nascents s = connecting s.reconn := by
    rw [nascents, main]
    rfl
  have recorded : State.recorded { s with main := .accepted event fd sock } = s.recorded := by
    rw [State.recorded, State.recorded, main]
    rfl
  have still : ∀ other, Unclaimed s other →
      Unclaimed { s with main := .accepted event fd sock } other := by
    rintro other ⟨unnamed, unrecorded⟩
    exact ⟨unnamed, fun event member => unrecorded event (recorded ▸ member)⟩
  exact {
    held with
    owned := by
      intro conn member _
      apply held.owned conn member
      rw [main]
      exact id
    recorded := fun event member => held.recorded event (recorded ▸ member)
    namesake := fun event member => held.namesake event (recorded ▸ member)
    removed := by
      intro event absurd
      cases absurd
    nascent := by
      intro socket member
      rcases List.mem_cons.mp member with rfl | before
      · exact ⟨owns, still fd unclaimed⟩
      · rcases held.nascent socket (same ▸ before) with ⟨ownsToo, unclaimedToo⟩
        exact ⟨ownsToo, still socket.fd unclaimedToo⟩
    apart := by
      apply List.nodup_cons.mpr
      constructor
      · intro member
        rcases List.mem_map.mp member with ⟨socket, before, sameFd⟩
        exact apart socket before sameFd
      · exact same ▸ held.apart }

theorem Held.goto_connecting (held : Held s) {fd : Int} {sock : Nat}
    (reconn : s.reconn = .missing) (owns : s.owner fd = some sock) (unclaimed : Unclaimed s fd)
    (apart : ∀ socket ∈ accepted s.main, socket.fd ≠ fd) (unwatched : sock ∉ s.watched) :
    Held { s with reconn := .connecting fd sock } := by
  have same : nascents s = accepted s.main := by
    rw [nascents, reconn]
    exact List.append_nil _
  exact {
    held with
    nascent := by
      intro socket member
      rcases List.mem_append.mp member with before | new
      · exact held.nascent socket (same ▸ before)
      · rw [List.mem_singleton.mp new]
        exact ⟨owns, unclaimed⟩
    apart := by
      rw [nascents, List.map_append, List.nodup_append]
      refine ⟨same ▸ held.apart, List.nodup_singleton _, ?_⟩
      intro other before new isNew
      rcases List.mem_map.mp before with ⟨socket, member, rfl⟩
      rw [List.mem_singleton.mp isNew]
      exact apart socket member
    unwatched := by
      intro socket member
      rw [List.mem_singleton.mp member]
      exact unwatched }

/-- Every event of a new batch is for the socket that has its descriptor. -/
theorem Held.wait (held : Held s) {events : List Recorded} (main : s.main = .polling)
    (current : ∀ event ∈ events, s.owner event.fd = some event.sock ∧ event.sock ∈ s.watched) :
    Held { s with batch := events } := by
  have recorded : State.recorded { s with batch := events } = events := by
    rw [State.recorded, main]
    rfl
  exact {
    held with
    recorded := by
      intro event member sock owns
      have now := (current event (recorded ▸ member)).1
      exact Option.some.inj (owns.symm.trans now)
    namesake := by
      intro event member conn inside same
      have now := (current event (recorded ▸ member)).1
      have owns : s.owner conn.fd = some conn.sock := by
        apply held.owned conn inside
        rw [main]
        exact id
      rw [same] at owns
      exact Option.some.inj (owns.symm.trans now)
    nascent := by
      intro socket member
      rcases held.nascent socket member with ⟨owns, unnamed, -⟩
      refine ⟨owns, unnamed, ?_⟩
      intro event inside same
      rcases current event (recorded ▸ inside) with ⟨now, watched⟩
      have inReconn : socket ∈ connecting s.reconn := by
        rw [nascents, main] at member
        exact member
      rw [same, owns] at now
      exact held.unwatched socket inReconn (Option.some.inj now ▸ watched) }

/-- What holds of the socket that `event_accept` is called for. -/
theorem Held.accepted_spec (held : Held s) {event : Recorded} {fd : Int} {sock : Nat}
    (main : s.main = .accepted event fd sock) :
    s.owner fd = some sock ∧ Unclaimed s fd ∧ ∀ socket ∈ connecting s.reconn, socket.fd ≠ fd := by
  have split : nascents s = ⟨fd, sock⟩ :: connecting s.reconn := by
    rw [nascents, main]
    rfl
  have apart := held.apart
  rw [split, List.map_cons, List.nodup_cons] at apart
  rcases held.nascent ⟨fd, sock⟩ (split ▸ List.mem_cons_self) with ⟨owns, unclaimed⟩
  refine ⟨owns, unclaimed, ?_⟩
  intro socket member same
  exact apart.1 (List.mem_map.mpr ⟨socket, member, same⟩)

theorem Held.connecting_spec (held : Held s) {fd : Int} {sock : Nat}
    (reconn : s.reconn = .connecting fd sock) :
    s.owner fd = some sock ∧ Unclaimed s fd ∧ ∀ socket ∈ accepted s.main, socket.fd ≠ fd := by
  have split : nascents s = accepted s.main ++ [⟨fd, sock⟩] := by
    rw [nascents, reconn]
    rfl
  have apart := held.apart
  rw [split, List.map_append, List.nodup_append] at apart
  rcases held.nascent ⟨fd, sock⟩ (split ▸ List.mem_append_right _ List.mem_cons_self) with
    ⟨owns, unclaimed⟩
  refine ⟨owns, unclaimed, ?_⟩
  intro socket member
  exact apart.2.2 socket.fd (List.mem_map_of_mem member) fd List.mem_cons_self

end Places

end SmartHome.HeldDescriptors
