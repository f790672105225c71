import SmartHome.EventRecvmsg
import SmartHome.ReceivePath

/-!
# Progress of the receive path

The states in which the loop of `event_recvmsg` calls `protocol_check`, and whether
the FIFO gets on from there. A message id that doubles as a status code stops the
loop in front of its frame for good, and so does a length that the FIFO cannot hold.
-/

namespace SmartHome.ReceiveProgress

open SmartHome.Library.StreamScanner
open SmartHome.RingFifo
open SmartHome.Bytebuffer
open SmartHome.Connections
open SmartHome.Protocol
open SmartHome.WireScan
open SmartHome.Registry
open SmartHome.Receive
open SmartHome.ReceivePath
open SmartHome.EventRecvmsg

set_option autoImplicit false

variable {World : Type*}

def Breaks (c : Connection) : Prop :=
  (protocolCheck c illegal).messageid = illegal ∨ (protocolCheck c illegal).messageid = halfpack

/-- The states in which `protocol_check` is called in some run: behind a read, and behind every
frame that has been dispatched. -/
inductive AtCheck (dispatch : Dispatch World) : Connection → World → Prop
  | stored {c : Connection} {world : World} (reachable : Reachable dispatch c world) (read : Read)
      (sized : ReadSized read) : AtCheck dispatch (storeRead c read) world
  | dispatched {c : Connection} {world : World} (before : AtCheck dispatch c world)
      (goesOn : ¬Breaks c) :
      AtCheck dispatch (extraction c).2.2
        (dispatch (protocolCheck c illegal).messageid (protocolCheck c illegal).messagelen
          (localBuffer (extraction c).2.1) world)

theorem reachable_formed {dispatch : Dispatch World} {c : Connection} {world : World}
    (reachable : Reachable dispatch c world) : WellFormed c := by
  rcases reachable with ⟨start, begin, reads, received, fresh, sized, run, rfl, -⟩
  obtain ⟨total, runTotal, formed, -⟩ := receive_reads_total dispatch fresh.formed reads
    (fun read member => (sized read member).2) begin
  rw [run, Option.some.injEq] at runTotal
  exact runTotal ▸ formed

theorem at_check_formed {dispatch : Dispatch World} {c : Connection} {world : World}
    (reached : AtCheck dispatch c world) : WellFormed c := by
  induction reached with
  | stored reachable read sized =>
      have bound := sized.2
      exact (store_read_spec (reachable_formed reachable) read (by omega)).2.1
  | dispatched before goesOn formed =>
      obtain ⟨legal, full⟩ := not_or.mp goesOn
      exact (recv_pass_spec formed legal full).2.1

theorem recv_loop_more (dispatch : Dispatch World) {fuel more : Nat} {c : Connection}
    {world : World} {received : Received World}
    (run : recvLoop dispatch fuel c world = some received) (enough : fuel ≤ more) :
    recvLoop dispatch more c world = some received := by
  induction fuel generalizing more c world received with
  | zero => contradiction
  | succ fuel induction =>
      obtain ⟨more, rfl⟩ := Nat.exists_eq_add_of_le' (Nat.one_le_of_lt enough)
      by_cases stop : Breaks c
      · rw [recv_loop_stop dispatch fuel world stop] at run
        rw [recv_loop_stop dispatch more world stop, run]
      · rw [recv_loop_pass dispatch fuel world stop, Option.map_eq_some_iff] at run
        rcases run with ⟨later, runLater, rfl⟩
        rw [recv_loop_pass dispatch more world stop,
          induction runLater (Nat.le_of_succ_le_succ enough), Option.map_some]

/-- The loop takes the frame off the FIFO, hands it to the `switch` and goes on behind it. -/
def GoesOnBehind (dispatch : Dispatch World) (c : Connection) (world : World) (id : UInt16)
    (frame later : List UInt8) : Prop :=
  ∃ next received, pending next = later ∧ WellFormed next ∧
    recvFrames dispatch next (dispatch id (UInt32.ofNat frame.length) (localBuffer frame) world) =
      some received ∧
    recvFrames dispatch c world = some (received.after [.record id frame])

theorem frame_goes_on_iff (dispatch : Dispatch World) {c : Connection} (world : World)
    (formed : WellFormed c) {id : UInt16} {frame later : List UInt8}
    (complete : CompleteFrame id frame) (stored : pending c = frame ++ later) :
    GoesOnBehind dispatch c world id frame later ↔ ¬(id = illegal ∨ id = halfpack) := by
  have checked := protocol_check_frame formed complete stored
  obtain ⟨bytes, rest, formedRest⟩ := extraction_frame formed complete stored
  constructor
  · rintro ⟨next, received, -, -, -, run⟩ reserved
    have stops : Breaks c := by
      rw [Breaks, checked]
      exact reserved
    rw [recvFrames, recv_loop_stop dispatch _ world stops, checked, Option.some.injEq] at run
    exact absurd (congrArg Received.log run) (List.cons_ne_nil _ _).symm
  · intro free
    have goesOn : ¬Breaks c := by
      rw [Breaks, checked]
      exact free
    obtain ⟨received, run, -, -⟩ := recv_loop_spec dispatch _
      (dispatch id (UInt32.ofNat frame.length) (localBuffer frame) world) formedRest
      (enough_fuel formedRest)
    refine ⟨(extraction c).2.2, received, rest, formedRest, run, ?_⟩
    have fewer : (kfifoLen (extraction c).2.2.rawfifo).toNat + 1 ≤ (kfifoLen c.rawfifo).toNat := by
      have lower := complete.lower
      have before := formed.valid.contents_length
      have after := formedRest.valid.contents_length
      have storedRaw : contents c.rawfifo = frame ++ later := stored
      have restRaw : contents (extraction c).2.2.rawfifo = later := rest
      rw [storedRaw, List.length_append] at before
      rw [restRaw] at after
      omega
    rw [recvFrames, recv_loop_pass dispatch _ world goesOn, checked, bytes,
      recv_loop_more dispatch run fewer]
    rfl

/-- `protocol_check` returns a frame for the loop or gives up a byte. -/
def MakesRoom (c : Connection) : Prop := ¬Breaks c ∨ (protocolCheck c illegal).discarded ≠ []

theorem makes_room_shorter (dispatch : Dispatch World) {c : Connection} (world : World)
    (formed : WellFormed c) (makes : MakesRoom c) :
    ∃ received, recvFrames dispatch c world = some received ∧
      (pending received.connection).length < (pending c).length := by
  by_cases stop : Breaks c
  · have given := makes.resolve_left (not_not_intro stop)
    have conserved := congrArg List.length (protocol_check_spec formed).1
    have positive := List.length_pos_of_ne_nil given
    refine ⟨_, recv_loop_stop dispatch _ world stop, ?_⟩
    rw [List.length_append] at conserved
    simp only
    omega
  · obtain ⟨legal, full⟩ := not_or.mp stop
    obtain ⟨-, formedAfter, -, shorter⟩ := recv_pass_spec formed legal full
    obtain ⟨received, run, conserved, -⟩ := recv_loop_spec dispatch
      (kfifoLen c.rawfifo).toNat (dispatch (protocolCheck c illegal).messageid
        (protocolCheck c illegal).messagelen (localBuffer (extraction c).2.1) world) formedAfter
      (shorter.trans_le (Nat.le_of_lt_succ (enough_fuel formed)))
    have lengths := congrArg List.length conserved
    rw [List.length_append] at lengths
    have result := recv_loop_pass dispatch (kfifoLen c.rawfifo).toNat world stop
    rw [run, Option.map_some] at result
    refine ⟨_, result, ?_⟩
    rw [Received.after]
    simp only
    omega

/-- The bytes begin with a start flag and a length that no full FIFO completes. -/
def Oversized (stream : List UInt8) : Prop :=
  stream.headD 0 = 0xCE ∧ 1024 < lengthField stream ∧ lengthField stream ≤ 2048

instance (stream : List UInt8) : Decidable (Oversized stream) :=
  inferInstanceAs (Decidable (_ ∧ _))

/-- The bytes begin with a frame whose id is a status code. -/
def ReservedHead (stream : List UInt8) : Prop :=
  ∃ id frame later, CompleteFrame id frame ∧ stream = frame ++ later ∧
    (id = illegal ∨ id = halfpack)

theorem check_head_half_iff {stream : List UInt8} (full : stream.length = 1024) :
    checkHead stream = .half ↔ Oversized stream := by
  have field := length_field_eq stream
  simp only [checkHead, Oversized]
  constructor
  · intro half
    split_ifs at half with start long range short sums
    · rw [not_or, UInt16.not_lt, UInt16.not_lt] at range
      rw [field]
      exact ⟨not_not.mp start, full ▸ short, range.2⟩
    · omega
  · rintro ⟨start, exceeds, upper⟩
    rw [field] at exceeds upper
    have range : ¬(bytebufferGetword (stream.drop 1) < 8 ∨
        bytebufferGetword (stream.drop 1) > 2048) := by
      rw [not_or, UInt16.not_lt, UInt16.not_lt, UInt16.le_iff_toNat_le, UInt16.le_iff_toNat_le]
      exact ⟨le_trans (by decide) exceeds.le, upper⟩
    have flag : ¬stream.headD 0 ≠ protocolStartFlag := not_not_intro start
    rw [if_neg flag, if_pos (by omega), if_neg range, if_pos (by omega)]

theorem protocol_check_walk {c : Connection} (formed : WellFormed c) :
    (protocolCheck c illegal).messageid =
        (outcome illegal ((pending c).drop (skipCount (pending c)))).2 ∧
      (c.rawfifo.outCount ≤ c.rawfifo.inCount →
        (protocolCheck c illegal).discarded = (pending c).take (skipCount (pending c))) ∧
      (c.rawfifo.inCount < c.rawfifo.outCount → (protocolCheck c illegal).discarded = []) := by
  rw [protocol_check_eq_loop formed]
  refine ⟨(Prod.ext_iff.mp (protocol_check_loop_outcome illegal c (pending c))).2, ?_, ?_⟩
  · intro order
    exact (protocol_check_loop_in_order illegal formed order).2.1
  · intro wrapped
    exact (protocol_check_loop_wrapped illegal wrapped (pending c)).2

theorem makes_room_in_order {c : Connection} (formed : WellFormed c)
    (order : c.rawfifo.outCount ≤ c.rawfifo.inCount) (full : (pending c).length = 1024)
    (free : ¬ReservedHead (pending c)) : MakesRoom c ↔ ¬Oversized (pending c) := by
  obtain ⟨messageid, discarded, -⟩ := protocol_check_walk formed
  have nonempty : pending c ≠ [] := List.ne_nil_of_length_pos (by omega)
  constructor
  · intro makes oversized
    have half := (check_head_half_iff full).mpr oversized
    have stays : skipCount (pending c) = 0 := skip_count_zero (by rw [half]; simp)
    rw [stays, List.drop_zero, outcome, if_neg nonempty, half] at messageid
    rw [MakesRoom, Breaks, discarded order, stays, messageid] at makes
    exact makes.elim (fun goesOn => goesOn (Or.inr rfl)) fun given => given rfl
  · intro fits
    by_cases stays : skipCount (pending c) = 0
    · have settled := check_head_at_skip_count (pending c)
      rw [stays, List.drop_zero] at settled messageid
      rw [outcome, if_neg nonempty] at messageid
      cases decision : checkHead (pending c) with
      | drop => exact absurd decision (settled nonempty)
      | half => exact absurd ((check_head_half_iff full).mp decision) fits
      | frame id messagelen =>
          rw [decision] at messageid
          left
          rw [Breaks, messageid]
          intro reserved
          exact free ⟨id, _, _, check_head_complete decision, (List.take_append_drop _ _).symm,
            reserved⟩
    · right
      rw [discarded order]
      intro none
      rw [List.take_eq_nil_iff] at none
      exact none.elim stays nonempty

theorem makes_room_wrapped {c : Connection} (formed : WellFormed c)
    (wrapped : c.rawfifo.inCount < c.rawfifo.outCount) :
    MakesRoom c ↔ frames (wireScanner.scan (pending c)).1 ≠ [] := by
  obtain ⟨messageid, -, discarded⟩ := protocol_check_walk formed
  have verdict := verdict_of_outcome _ (check_head_at_skip_count (pending c))
  rw [← messageid] at verdict
  rw [MakesRoom, discarded wrapped, Breaks, scan_skip_count, frames_append, frames_skips,
    List.nil_append]
  by_cases stop : (protocolCheck c illegal).messageid = illegal ∨
      (protocolCheck c illegal).messageid = halfpack
  · rw [if_pos stop] at verdict
    rw [wireScanner.scan_hold _ verdict]
    exact ⟨fun makes => absurd makes (by simp [stop]), fun found => absurd rfl found⟩
  · rw [if_neg stop] at verdict
    rw [wireScanner.scan_cut _ _ _ verdict]
    exact ⟨fun _ => List.cons_ne_nil _ _, fun _ => Or.inl stop⟩

/-- What the receive path owes to a state: a complete frame at the head is consumed, dispatched or
ignored, and a full FIFO makes room for a later read. -/
structure Progresses (host : Host) (fd : Int) (c : Connection) (state : MainState) : Prop where
  consumes : ∀ id frame later, CompleteFrame id frame → pending c = frame ++ later →
    GoesOnBehind (eventSwitch host fd) c state id frame later ∧
      (id ∉ commandIds →
        eventSwitch host fd id (UInt32.ofNat frame.length) (localBuffer frame) state = state)
  makesRoom : (pending c).length = 1024 →
    MakesRoom c ∧ ∃ received, recvFrames (eventSwitch host fd) c state = some received ∧
      (pending received.connection).length < 1024

/-- What it takes: no frame with a reserved id at the head, and in a full FIFO no length that it
cannot hold, or, once `in` has wrapped around, a frame further on. -/
structure GetsOn (c : Connection) : Prop where
  free : ¬ReservedHead (pending c)
  fits : (pending c).length = 1024 → c.rawfifo.outCount ≤ c.rawfifo.inCount →
    ¬Oversized (pending c)
  found : (pending c).length = 1024 → c.rawfifo.inCount < c.rawfifo.outCount →
    frames (wireScanner.scan (pending c)).1 ≠ []

/-- In every state in which a run calls `protocol_check`, the receive path makes progress exactly
under these conditions. -/
theorem receive_progress_iff (host : Host) (fd : Int) {c : Connection} {state : MainState}
    (reached : AtCheck (eventSwitch host fd) c state) : Progresses host fd c state ↔ GetsOn c := by
  have formed := at_check_formed reached
  constructor
  · intro progresses
    have free : ¬ReservedHead (pending c) := by
      rintro ⟨id, frame, later, complete, stored, reserved⟩
      have goesOn := (progresses.consumes id frame later complete stored).1
      exact (frame_goes_on_iff _ state formed complete stored).mp goesOn reserved
    refine ⟨free, ?_, ?_⟩
    · intro full order
      apply (makes_room_in_order formed order full free).mp
      exact (progresses.makesRoom full).1
    · intro full wrapped
      apply (makes_room_wrapped formed wrapped).mp
      exact (progresses.makesRoom full).1
  · intro getsOn
    constructor
    · intro id frame later complete stored
      refine ⟨(frame_goes_on_iff _ state formed complete stored).mpr fun reserved => ?_,
        event_switch_unknown host fd _ _ state⟩
      exact getsOn.free ⟨id, frame, later, complete, stored, reserved⟩
    · intro full
      have makes : MakesRoom c := by
        by_cases order : c.rawfifo.outCount ≤ c.rawfifo.inCount
        · apply (makes_room_in_order formed order full getsOn.free).mpr
          exact (getsOn.fits full order)
        · have wrapped := UInt32.not_le.mp order
          apply (makes_room_wrapped formed wrapped).mpr
          exact (getsOn.found full wrapped)
      obtain ⟨received, run, shorter⟩ :=
        makes_room_shorter (eventSwitch host fd) state formed makes
      exact ⟨makes, received, run, full ▸ shorter⟩

/-- A state that no later read gets the receive path out of. -/
structure Wedged (c : Connection) : Prop where
  formed : WellFormed c
  stuck : ReservedHead (pending c) ∨ (pending c).length = 1024 ∧ Oversized (pending c)

theorem wedged_check {c : Connection} (wedged : Wedged c) :
    Breaks c ∧ (protocolCheck c illegal).connection = c ∧
      (protocolCheck c illegal).discarded = [] := by
  rcases wedged.stuck with ⟨id, frame, later, complete, stored, reserved⟩ | ⟨full, oversized⟩
  · rw [Breaks, protocol_check_frame wedged.formed complete stored]
    exact ⟨reserved, rfl, rfl⟩
  · have half := (check_head_half_iff full).mpr oversized
    rw [Breaks, protocol_check_eq_loop wedged.formed]
    cases stored : pending c with
    | nil =>
        rw [stored] at full
        contradiction
    | cons byte rest =>
        rw [stored] at half
        rw [protocolCheckLoop, half]
        exact ⟨Or.inr rfl, rfl, rfl⟩

theorem wedged_not_progresses (host : Host) (fd : Int) {c : Connection} (state : MainState)
    (wedged : Wedged c) : ¬Progresses host fd c state := by
  intro progresses
  rcases wedged.stuck with ⟨id, frame, later, complete, stored, reserved⟩ | ⟨full, -⟩
  · have goesOn := (progresses.consumes id frame later complete stored).1
    exact (frame_goes_on_iff _ state wedged.formed complete stored).mp goesOn reserved
  · obtain ⟨stop, -, nothing⟩ := wedged_check wedged
    exact (progresses.makesRoom full).1.elim (fun goesOn => goesOn stop) fun given =>
      given nothing

theorem after_read_at_check (dispatch : Dispatch World) (world : World) {bytes : List UInt8}
    (sized : ReadSized ⟨0, bytes⟩) : AtCheck dispatch (afterRead bytes) world :=
  .stored ⟨newConnection, world, [], ⟨newConnection, world, []⟩, new_connection_fresh,
    List.forall_mem_nil _, rfl, rfl, rfl⟩ ⟨0, bytes⟩ sized

def heartFeedbackFrame : List UInt8 := [0xCE, 0x00, 0x08, 0x80, 0x02, 0x00, 0x44, 0xCE]

def halfpackFrame : List UInt8 := [0xCE, 0x00, 0x08, 0x00, 0xFF, 0x00, 0x39, 0xCE]

theorem receive_progress_iff_heartbeat :
    Progresses quietHost 5 (afterRead heartFeedbackFrame) (stateOf twoContacts) ↔
      GetsOn (afterRead heartFeedbackFrame) :=
  receive_progress_iff quietHost 5
    (after_read_at_check _ (stateOf twoContacts) ⟨by decide, by decide⟩)

def oversizedBytes : List UInt8 := [0xCE, 0x04, 0x01] ++ List.replicate 1021 0

theorem oversized_bytes_length : oversizedBytes.length = 1024 := by
  rw [oversizedBytes, List.length_append, List.length_replicate]
  rfl

theorem halfpack_frame_wedged : Wedged (afterRead halfpackFrame) := by
  have complete : CompleteFrame halfpack halfpackFrame :=
    ⟨by decide, by decide, by decide, by decide, by decide, by decide⟩
  obtain ⟨stored, formed⟩ := after_read_spec halfpackFrame (by decide)
  refine ⟨formed, Or.inl ⟨halfpack, halfpackFrame, [], complete, ?_, Or.inr rfl⟩⟩
  rw [stored, List.append_nil]

theorem oversized_bytes_wedged : Wedged (afterRead oversizedBytes) := by
  obtain ⟨stored, formed⟩ := after_read_spec oversizedBytes oversized_bytes_length.le
  refine ⟨formed, Or.inr ?_⟩
  rw [stored]
  exact ⟨oversized_bytes_length, rfl, by decide, by decide⟩

/-- One read of either kind wedges a new connection. -/
theorem receive_path_wedged :
    (AtCheck (eventSwitch quietHost 5) (afterRead halfpackFrame) (stateOf twoContacts) ∧
        ¬Progresses quietHost 5 (afterRead halfpackFrame) (stateOf twoContacts)) ∧
      AtCheck (eventSwitch quietHost 5) (afterRead oversizedBytes) (stateOf twoContacts) ∧
        ¬Progresses quietHost 5 (afterRead oversizedBytes) (stateOf twoContacts) := by
  refine ⟨⟨?_, wedged_not_progresses _ _ _ halfpack_frame_wedged⟩, ?_,
    wedged_not_progresses _ _ _ oversized_bytes_wedged⟩
  · exact after_read_at_check _ _ ⟨by decide, by decide⟩
  · apply after_read_at_check
    rw [ReadSized, oversized_bytes_length]
    decide

end SmartHome.ReceiveProgress
