import SmartHome.WireScan

/-!
# The receive path of `event_recvmsg`

What `event_recvmsg` does with the bytes of one read on a client or server
connection: it stores them, then checks and dispatches frames until
`protocol_check` reports `ILLEGAL` or `HALFPACK`. The `switch` over the message id
is a parameter here; no case of it touches the FIFO of a connection.
-/

namespace SmartHome.Receive

open SmartHome.Library.Circular
open SmartHome.Library.StreamScanner
open SmartHome.RingFifo
open SmartHome.Connections
open SmartHome.Protocol
open SmartHome.WireScan

set_option autoImplicit false

variable {World : Type*}

/-- The `switch`: message id, `messagelen`, the local `buffer[1024]`, and the state it changes. -/
abbrev Dispatch (World : Type*) := UInt16 → UInt32 → List UInt8 → World → World

/-- `unsigned char buffer[1024] = {0}` after `connection_get` copied the bytes into it. -/
def localBuffer (bytes : List UInt8) : List UInt8 := overwrite (List.replicate 1024 0) 0 bytes

/-- `log` records what left the FIFO, in order: popped bytes and extracted frames. -/
structure Received (World : Type*) where
  connection : Connection
  world : World
  log : List (Event UInt8 UInt16)

def Received.after (received : Received World) (earlier : List (Event UInt8 UInt16)) :
    Received World :=
  { received with log := earlier ++ received.log }

/-- The `for(;;)` loop; `none` when `fuel` passes did not reach its `break`. -/
def recvLoop (dispatch : Dispatch World) : Nat → Connection → World → Option (Received World)
  | 0, _, _ => none
  | fuel + 1, c, world =>
      let checked := protocolCheck c illegal
      let skips := checked.discarded.map .skipped
      if checked.messageid = illegal ∨ checked.messageid = halfpack then
        some ⟨checked.connection, world, skips⟩
      else
        let (_, bytes, c) := connectionGet checked.connection checked.messagelen
        let world := dispatch checked.messageid checked.messagelen (localBuffer bytes) world
        (recvLoop dispatch fuel c world).map
          (Received.after · (skips ++ [.record checked.messageid bytes]))

def recvFrames (dispatch : Dispatch World) (c : Connection) (world : World) :
    Option (Received World) :=
  recvLoop dispatch ((kfifoLen c.rawfifo).toNat + 1) c world

/-- The bytes one `read` returned, and the time of the read. -/
structure Read where
  now : Int
  bytes : List UInt8

def storeRead (c : Connection) (read : Read) : Connection :=
  connectionPut { c with timestamp := read.now } read.bytes (UInt32.ofNat read.bytes.length)

/-- The branch of `event_recvmsg` for client and server connections. -/
def recvmsg (dispatch : Dispatch World) (c : Connection) (read : Read) (world : World) :
    Option (Received World) :=
  recvFrames dispatch (storeRead c read) world

def logBytes (log : List (Event UInt8 UInt16)) : List UInt8 := (log.map Event.items).flatten

def frames (log : List (Event UInt8 UInt16)) : List (UInt16 × List UInt8) :=
  log.filterMap Event.record?

@[simp] theorem log_bytes_append (front back : List (Event UInt8 UInt16)) :
    logBytes (front ++ back) = logBytes front ++ logBytes back := by
  simp [logBytes]

@[simp] theorem log_bytes_skips (bytes : List UInt8) :
    logBytes (bytes.map .skipped) = bytes := by
  induction bytes with
  | nil => rfl
  | cons byte rest induction =>
      have unfolded : logBytes ((byte :: rest).map .skipped) =
          byte :: logBytes (rest.map .skipped) := rfl
      rw [unfolded, induction]

@[simp] theorem log_bytes_record (id : UInt16) (bytes : List UInt8) :
    logBytes [.record id bytes] = bytes := by
  simp [logBytes, Event.items]

@[simp] theorem frames_append (front back : List (Event UInt8 UInt16)) :
    frames (front ++ back) = frames front ++ frames back := by
  simp [frames]

@[simp] theorem frames_skips (bytes : List UInt8) :
    frames (bytes.map .skipped) = [] := by
  simp [frames, Event.record?]

@[simp] theorem frames_record (id : UInt16) (bytes : List UInt8) :
    frames [.record id bytes] = [(id, bytes)] := rfl

/-- What `connection_get` takes when `protocol_check` returned a frame. -/
def extraction (c : Connection) : UInt32 × List UInt8 × Connection :=
  connectionGet (protocolCheck c illegal).connection (protocolCheck c illegal).messagelen

theorem recv_loop_stop (dispatch : Dispatch World) (fuel : Nat) {c : Connection} (world : World)
    (stop : (protocolCheck c illegal).messageid = illegal ∨
      (protocolCheck c illegal).messageid = halfpack) :
    recvLoop dispatch (fuel + 1) c world =
      some ⟨(protocolCheck c illegal).connection, world,
        (protocolCheck c illegal).discarded.map .skipped⟩ := by
  unfold recvLoop
  exact if_pos stop

theorem recv_loop_pass (dispatch : Dispatch World) (fuel : Nat) {c : Connection} (world : World)
    (pass : ¬((protocolCheck c illegal).messageid = illegal ∨
      (protocolCheck c illegal).messageid = halfpack)) :
    recvLoop dispatch (fuel + 1) c world =
      (recvLoop dispatch fuel (extraction c).2.2 (dispatch (protocolCheck c illegal).messageid
        (protocolCheck c illegal).messagelen (localBuffer (extraction c).2.1) world)).map
        (Received.after · ((protocolCheck c illegal).discarded.map .skipped ++
          [.record (protocolCheck c illegal).messageid (extraction c).2.1])) := by
  rw [recvLoop]
  exact if_neg pass

/-- What one pass of the loop does when `protocol_check` returned a frame to dispatch. -/
theorem recv_pass_spec {c : Connection} (formed : WellFormed c)
    (legal : (protocolCheck c illegal).messageid ≠ illegal)
    (full : (protocolCheck c illegal).messageid ≠ halfpack) :
    (protocolCheck c illegal).discarded ++ ((extraction c).2.1 ++ pending (extraction c).2.2) =
        pending c ∧
      WellFormed (extraction c).2.2 ∧
      (extraction c).2.1.length = (protocolCheck c illegal).messagelen.toNat ∧
      (pending (extraction c).2.2).length < (pending c).length := by
  obtain ⟨conserved, formedChecked, within, long⟩ := protocol_check_spec formed
  obtain ⟨bytes, left, formedAfter, -, -⟩ := connection_get_spec formedChecked _ within
  have whole : (extraction c).2.1 ++ pending (extraction c).2.2 =
      pending (protocolCheck c illegal).connection := by
    rw [extraction, bytes, left, List.take_append_drop]
  have length : (extraction c).2.1.length = (protocolCheck c illegal).messagelen.toNat := by
    rw [extraction, bytes, List.length_take]
    exact Nat.min_eq_left within
  have conservedWhole : (protocolCheck c illegal).discarded ++
      ((extraction c).2.1 ++ pending (extraction c).2.2) = pending c := by
    rw [whole]
    exact conserved
  refine ⟨conservedWhole, formedAfter, length, ?_⟩
  have total := congrArg List.length conservedWhole
  have positive := long legal full
  simp only [List.length_append, length] at total
  omega

/-- A complete frame at the head of the FIFO is returned at once, wherever the counters stand. -/
theorem protocol_check_frame {c : Connection} (formed : WellFormed c) {id : UInt16}
    {frame later : List UInt8} (complete : CompleteFrame id frame)
    (stored : pending c = frame ++ later) :
    protocolCheck c illegal = ⟨UInt32.ofNat frame.length, id, c, []⟩ := by
  have lower := complete.lower
  have upper := complete.upper
  have wide : (UInt16.ofNat frame.length).toUInt32 = UInt32.ofNat frame.length := by
    apply UInt32.toNat_inj.mp
    rw [UInt16.toNat_toUInt32, UInt16.toNat_ofNat', UInt32.toNat_ofNat',
      Nat.mod_eq_of_lt (by omega), Nat.mod_eq_of_lt (by omega)]
  have decision := check_head_frame complete later
  rw [protocol_check_eq_loop formed, stored]
  cases frame with
  | nil => contradiction
  | cons byte rest =>
      rw [List.cons_append] at decision ⊢
      rw [protocolCheckLoop, decision, ← wide]

theorem extraction_frame {c : Connection} (formed : WellFormed c) {id : UInt16}
    {frame later : List UInt8} (complete : CompleteFrame id frame)
    (stored : pending c = frame ++ later) :
    (extraction c).2.1 = frame ∧ pending (extraction c).2.2 = later ∧
      WellFormed (extraction c).2.2 := by
  have upper := complete.upper
  have representable : frame.length < 2 ^ 32 := by omega
  have lenValue : (UInt32.ofNat frame.length).toNat = frame.length :=
    UInt32.toNat_ofNat_of_lt' representable
  have present : (UInt32.ofNat frame.length).toNat ≤ (pending c).length := by
    rw [lenValue, stored, List.length_append]
    omega
  obtain ⟨bytes, left, formedAfter, -, -⟩ := connection_get_spec formed _ present
  rw [lenValue, stored] at bytes left
  rw [extraction, protocol_check_frame formed complete stored]
  exact ⟨bytes.trans List.take_left, left.trans List.drop_left, formedAfter⟩

/-- The loop reaches its `break`, and every byte of the FIFO is in the log or still pending. -/
theorem recv_loop_spec (dispatch : Dispatch World) (fuel : Nat) {c : Connection} (world : World)
    (formed : WellFormed c) (enough : (pending c).length < fuel) :
    ∃ received, recvLoop dispatch fuel c world = some received ∧
      logBytes received.log ++ pending received.connection = pending c ∧
      WellFormed received.connection := by
  induction fuel generalizing c world with
  | zero => exact absurd enough (Nat.not_lt_zero _)
  | succ fuel induction =>
      by_cases stop : (protocolCheck c illegal).messageid = illegal ∨
          (protocolCheck c illegal).messageid = halfpack
      · obtain ⟨conserved, formedAfter, -, -⟩ := protocol_check_spec formed
        exact ⟨_, recv_loop_stop dispatch fuel world stop,
          by rw [log_bytes_skips]; exact conserved, formedAfter⟩
      · obtain ⟨legal, full⟩ := not_or.mp stop
        obtain ⟨conserved, formedAfter, -, shorter⟩ := recv_pass_spec formed legal full
        obtain ⟨later, run, conservedLater, formedLater⟩ :=
          induction (dispatch (protocolCheck c illegal).messageid
            (protocolCheck c illegal).messagelen (localBuffer (extraction c).2.1) world)
            formedAfter (by omega)
        have result := recv_loop_pass dispatch fuel world stop
        rw [run, Option.map_some] at result
        refine ⟨_, result, ?_, formedLater⟩
        simp only [Received.after, log_bytes_append, log_bytes_skips, log_bytes_record,
          List.append_assoc, conservedLater, conserved]

def dispatchFrames (dispatch : Dispatch World) (log : List (Event UInt8 UInt16)) (world : World) :
    World :=
  (frames log).foldl (fun world frame =>
    dispatch frame.1 (UInt32.ofNat frame.2.length) (localBuffer frame.2) world) world

theorem recv_loop_world (dispatch : Dispatch World) (fuel : Nat) {c : Connection} {world : World}
    {received : Received World} (formed : WellFormed c)
    (run : recvLoop dispatch fuel c world = some received) :
    received.world = dispatchFrames dispatch received.log world := by
  induction fuel generalizing c world received with
  | zero => contradiction
  | succ fuel induction =>
      by_cases stop : (protocolCheck c illegal).messageid = illegal ∨
          (protocolCheck c illegal).messageid = halfpack
      · rw [recv_loop_stop dispatch fuel world stop, Option.some.injEq] at run
        rw [← run, dispatchFrames, frames_skips]
        rfl
      · obtain ⟨legal, full⟩ := not_or.mp stop
        obtain ⟨-, formedAfter, length, -⟩ := recv_pass_spec formed legal full
        rw [recv_loop_pass dispatch fuel world stop, Option.map_eq_some_iff] at run
        rcases run with ⟨later, rest, rfl⟩
        have worldLater := induction formedAfter rest
        rw [Received.after, worldLater]
        rw [dispatchFrames, dispatchFrames, frames_append, frames_append, frames_skips,
          frames_record, List.nil_append, List.foldl_append, List.foldl_cons, List.foldl_nil,
          length, UInt32.ofNat_toNat]

/-- With the counters in order, the loop is the reference scan of what is pending. -/
theorem recv_loop_scan (dispatch : Dispatch World) (fuel : Nat) {c : Connection} (world : World)
    (formed : WellFormed c) (order : c.rawfifo.outCount ≤ c.rawfifo.inCount)
    (enough : (pending c).length < fuel) :
    ∃ received, recvLoop dispatch fuel c world = some received ∧
      received.log = (wireScanner.scan (pending c)).1 ∧
      pending received.connection = (wireScanner.scan (pending c)).2 ∧
      WellFormed received.connection ∧
      received.connection.rawfifo.outCount ≤ received.connection.rawfifo.inCount ∧
      received.connection.rawfifo.inCount = c.rawfifo.inCount := by
  induction fuel generalizing c world with
  | zero => exact absurd enough (Nat.not_lt_zero _)
  | succ fuel induction =>
      have walk := protocol_check_loop_in_order illegal formed order
      have results := protocol_check_loop_outcome illegal c (pending c)
      simp only [← protocol_check_eq_loop formed, Prod.ext_iff] at walk results
      rcases walk with ⟨left, gone, formedChecked, orderChecked, inChecked⟩
      have verdict := verdict_of_outcome _ (check_head_at_skip_count (pending c))
      rw [← results.1, ← results.2] at verdict
      rw [scan_skip_count (pending c)]
      by_cases stop : (protocolCheck c illegal).messageid = illegal ∨
          (protocolCheck c illegal).messageid = halfpack
      · rw [if_pos stop] at verdict
        rw [wireScanner.scan_hold _ verdict, List.append_nil]
        exact ⟨_, recv_loop_stop dispatch fuel world stop, by rw [gone], left, formedChecked,
          orderChecked, inChecked⟩
      · rw [if_neg stop] at verdict
        obtain ⟨legal, full⟩ := not_or.mp stop
        obtain ⟨conserved, formedAfter, -, shorter⟩ := recv_pass_spec formed legal full
        have within := (protocol_check_spec formed).2.2.1
        obtain ⟨bytes, rest, -, inAfter, -⟩ := connection_get_spec formedChecked _ within
        change (extraction c).2.1 = _ at bytes
        change pending (extraction c).2.2 = _ at rest
        have orderAfter : (extraction c).2.2.rawfifo.outCount ≤
            (extraction c).2.2.rawfifo.inCount :=
          connection_get_in_order formedChecked orderChecked _ within
        obtain ⟨later, run, logLater, pendingLater, formedLater, orderLater, inLater⟩ :=
          induction (dispatch (protocolCheck c illegal).messageid
            (protocolCheck c illegal).messagelen (localBuffer (extraction c).2.1) world)
            formedAfter orderAfter (by omega)
        have result := recv_loop_pass dispatch fuel world stop
        rw [run, Option.map_some] at result
        rw [wireScanner.scan_cut _ _ _ verdict, ← left, ← bytes, ← rest]
        refine ⟨_, result, ?_, pendingLater, formedLater, orderLater,
          inLater.trans (inAfter.trans inChecked)⟩
        rw [Received.after, logLater, gone]
        simp

theorem enough_fuel {c : Connection} (formed : WellFormed c) :
    (pending c).length < (kfifoLen c.rawfifo).toNat + 1 := by
  rw [pending, formed.valid.contents_length]
  exact Nat.lt_succ_self _

theorem store_read_spec {c : Connection} (formed : WellFormed c) (read : Read)
    (bound : read.bytes.length < 2 ^ 32) :
    pending (storeRead c read) = pending c ++ read.bytes.take (1024 - (pending c).length) ∧
      WellFormed (storeRead c read) ∧
      (storeRead c read).rawfifo.inCount = c.rawfifo.inCount +
        UInt32.ofNat (min read.bytes.length (1024 - (pending c).length)) ∧
      (storeRead c read).rawfifo.outCount = c.rawfifo.outCount := by
  have stamped : WellFormed { c with timestamp := read.now } := ⟨formed.valid, formed.size⟩
  exact connection_put_spec stamped read.bytes bound

theorem recvmsg_spec (dispatch : Dispatch World) {c : Connection} (world : World)
    (formed : WellFormed c) (read : Read) (bound : read.bytes.length < 2 ^ 32) :
    ∃ received, recvmsg dispatch c read world = some received ∧
      logBytes received.log ++ pending received.connection =
        pending c ++ read.bytes.take (1024 - (pending c).length) ∧
      WellFormed received.connection ∧
      received.world = dispatchFrames dispatch received.log world := by
  obtain ⟨stored, formedStored, -⟩ := store_read_spec formed read bound
  obtain ⟨received, run, conserved, formedAfter⟩ :=
    recv_loop_spec dispatch _ world formedStored (enough_fuel formedStored)
  exact ⟨received, run, conserved.trans stored, formedAfter,
    recv_loop_world dispatch _ formedStored run⟩

/-- While the counters have not wrapped, a read that fits continues the reference scan. -/
theorem recvmsg_scan (dispatch : Dispatch World) {c : Connection} (world : World)
    (formed : WellFormed c) (order : c.rawfifo.outCount ≤ c.rawfifo.inCount) (read : Read)
    (fits : (pending c).length + read.bytes.length ≤ 1024)
    (counted : c.rawfifo.inCount.toNat + read.bytes.length < 2 ^ 32) :
    ∃ received, recvmsg dispatch c read world = some received ∧
      received.log = (wireScanner.scan (pending c ++ read.bytes)).1 ∧
      pending received.connection = (wireScanner.scan (pending c ++ read.bytes)).2 ∧
      WellFormed received.connection ∧
      received.connection.rawfifo.outCount ≤ received.connection.rawfifo.inCount ∧
      received.connection.rawfifo.inCount.toNat =
        c.rawfifo.inCount.toNat + read.bytes.length := by
  obtain ⟨stored, formedStored, inStored, outStored⟩ := store_read_spec formed read (by omega)
  rw [List.take_of_length_le (by omega)] at stored
  rw [Nat.min_eq_left (by omega)] at inStored
  have inValue : (storeRead c read).rawfifo.inCount.toNat =
      c.rawfifo.inCount.toNat + read.bytes.length := by
    rw [inStored, UInt32.toNat_add, UInt32.toNat_ofNat', Nat.add_mod_mod]
    exact Nat.mod_eq_of_lt counted
  have orderStored : (storeRead c read).rawfifo.outCount ≤ (storeRead c read).rawfifo.inCount := by
    rw [UInt32.le_iff_toNat_le, inValue]
    exact (UInt32.le_iff_toNat_le.mp (outStored ▸ order)).trans (Nat.le_add_right _ _)
  obtain ⟨received, run, log, left, formedAfter, orderAfter, inAfter⟩ :=
    recv_loop_scan dispatch _ world formedStored orderStored (enough_fuel formedStored)
  rw [stored] at log left
  exact ⟨received, run, log, left, formedAfter, orderAfter, by rw [inAfter]; exact inValue⟩

end SmartHome.Receive
