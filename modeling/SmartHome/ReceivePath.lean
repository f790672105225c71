import SmartHome.Receive

/-!
# Runs of reads

What a whole run of reads on one connection does to the bytes received: which
frames the dispatcher sees, and whether every byte is accounted for.
-/

namespace SmartHome.ReceivePath

open SmartHome.Library.StreamScanner
open SmartHome.Connections
open SmartHome.Protocol
open SmartHome.WireScan
open SmartHome.Receive

set_option autoImplicit false

variable {World : Type*}

/-- One read after another, as `eventhub_start` issues them. -/
def receiveReads (dispatch : Dispatch World) :
    Connection → List Read → World → Option (Received World)
  | c, [], world => some ⟨c, world, []⟩
  | c, read :: reads, world =>
      match recvmsg dispatch c read world with
      | none => none
      | some received =>
          (receiveReads dispatch received.connection reads received.world).map
            (Received.after · received.log)

def streamOf (reads : List Read) : List UInt8 := (reads.map Read.bytes).flatten

/-- At every read of the run the FIFO has room for all of it. -/
def ReadsFit (dispatch : Dispatch World) : Connection → List Read → World → Prop
  | _, [], _ => True
  | c, read :: reads, world =>
      (pending c).length + read.bytes.length ≤ 1024 ∧
        ∀ received, recvmsg dispatch c read world = some received →
          ReadsFit dispatch received.connection reads received.world

/-- A read fills at most the 1024 bytes that `eventhub_start` offers. -/
def ReadSized (read : Read) : Prop := 1 ≤ read.bytes.length ∧ read.bytes.length ≤ 1024

def Reachable (dispatch : Dispatch World) (c : Connection) (world : World) : Prop :=
  ∃ start begin reads received, Fresh start ∧ (∀ read ∈ reads, ReadSized read) ∧
    receiveReads dispatch start reads begin = some received ∧
    received.connection = c ∧ received.world = world

theorem receive_reads_cons (dispatch : Dispatch World) {c : Connection} {read : Read}
    (reads : List Read) {world : World} {received : Received World}
    (run : recvmsg dispatch c read world = some received) :
    receiveReads dispatch c (read :: reads) world =
      (receiveReads dispatch received.connection reads received.world).map
        (Received.after · received.log) := by
  have pass : receiveReads dispatch c (read :: reads) world =
      match recvmsg dispatch c read world with
      | none => none
      | some received =>
          (receiveReads dispatch received.connection reads received.world).map
            (Received.after · received.log) := rfl
  rw [pass, run]

@[simp] theorem stream_of_cons (read : Read) (reads : List Read) :
    streamOf (read :: reads) = read.bytes ++ streamOf reads := rfl

theorem reads_fit_cons (dispatch : Dispatch World) {c : Connection} {read : Read}
    (reads : List Read) {world : World} {received : Received World}
    (run : recvmsg dispatch c read world = some received) :
    ReadsFit dispatch c (read :: reads) world ↔
      (pending c).length + read.bytes.length ≤ 1024 ∧
        ReadsFit dispatch received.connection reads received.world := by
  rw [ReadsFit, run]
  simp

/-- Every run of reads ends; what it dispatched is the frames of its log. -/
theorem receive_reads_total (dispatch : Dispatch World) {c : Connection} (formed : WellFormed c)
    (reads : List Read) (sized : ∀ read ∈ reads, read.bytes.length ≤ 1024) (world : World) :
    ∃ received, receiveReads dispatch c reads world = some received ∧
      WellFormed received.connection ∧
      received.world = dispatchFrames dispatch received.log world := by
  induction reads generalizing c world with
  | nil => exact ⟨_, rfl, formed, rfl⟩
  | cons read reads induction =>
      have bound := sized read (by simp)
      obtain ⟨first, run, -, formedFirst, worldFirst⟩ :=
        recvmsg_spec dispatch world formed read (by omega)
      obtain ⟨later, runLater, formedLater, worldLater⟩ :=
        induction formedFirst (fun read member => sized read (by simp [member])) first.world
      rw [receive_reads_cons dispatch reads run, runLater, Option.map_some]
      refine ⟨_, rfl, formedLater, ?_⟩
      simp only [Received.after, dispatchFrames, frames_append, List.foldl_append] at *
      rw [worldLater, worldFirst]

/-- A run whose reads all fit keeps every byte; a run with a read that does not fit has lost
some. -/
theorem receive_reads_bytes (dispatch : Dispatch World) {c : Connection} (formed : WellFormed c)
    (reads : List Read) (sized : ∀ read ∈ reads, read.bytes.length ≤ 1024) (world : World)
    {received : Received World} (run : receiveReads dispatch c reads world = some received) :
    (ReadsFit dispatch c reads world →
        logBytes received.log ++ pending received.connection = pending c ++ streamOf reads) ∧
      (¬ReadsFit dispatch c reads world →
        (logBytes received.log ++ pending received.connection).length <
          (pending c ++ streamOf reads).length) ∧
      (logBytes received.log ++ pending received.connection).length ≤
        (pending c ++ streamOf reads).length := by
  induction reads generalizing c world received with
  | nil =>
      change some _ = some received at run
      rw [Option.some.injEq] at run
      subst run
      simp [ReadsFit, streamOf, logBytes]
  | cons read reads induction =>
      have bound := sized read (by simp)
      obtain ⟨first, runFirst, conserved, formedFirst, -⟩ :=
        recvmsg_spec dispatch world formed read (by omega)
      rw [receive_reads_cons dispatch reads runFirst, Option.map_eq_some_iff] at run
      rcases run with ⟨later, runLater, rfl⟩
      obtain ⟨kept, lost, atMost⟩ := induction formedFirst
        (fun read member => sized read (by simp [member])) first.world runLater
      have lengths := congrArg List.length conserved
      simp only [Received.after, stream_of_cons, log_bytes_append, List.length_append,
        List.length_take, reads_fit_cons dispatch reads runFirst] at *
      refine ⟨?_, ?_, by omega⟩
      · rintro ⟨room, fits⟩
        rw [List.append_assoc, kept fits, ← List.append_assoc, conserved,
          List.take_of_length_le (by omega), List.append_assoc]
      · intro misfit
        by_cases room : (pending c).length + read.bytes.length ≤ 1024
        · have later := lost fun fits => misfit ⟨room, fits⟩
          omega
        · have full := formed.pending_le
          omega

theorem receive_reads_feed (dispatch : Dispatch World) {c : Connection} (formed : WellFormed c)
    (order : c.rawfifo.outCount ≤ c.rawfifo.inCount) (reads : List Read) (world : World)
    (fits : ReadsFit dispatch c reads world)
    (counted : c.rawfifo.inCount.toNat + (streamOf reads).length < 2 ^ 32) :
    ∃ received, receiveReads dispatch c reads world = some received ∧
      received.log = (wireScanner.feed (pending c) (reads.map Read.bytes)).1 ∧
      pending received.connection = (wireScanner.feed (pending c) (reads.map Read.bytes)).2 := by
  induction reads generalizing c world with
  | nil => exact ⟨_, rfl, rfl, rfl⟩
  | cons read reads induction =>
      rw [stream_of_cons, List.length_append] at counted
      obtain ⟨first, run, log, left, formedFirst, orderFirst, inFirst⟩ :=
        recvmsg_scan dispatch world formed order read fits.1 (by omega)
      obtain ⟨later, runLater, logLater, leftLater⟩ := induction formedFirst orderFirst
        first.world (fits.2 first run) (by omega)
      rw [receive_reads_cons dispatch reads run, runLater, Option.map_some, List.map_cons,
        Scanner.feed, ← left, ← log]
      exact ⟨_, rfl, by rw [Received.after, logLater], leftLater⟩

/-- From a fresh connection, a run whose reads fit is the reference scan of the whole stream. -/
theorem receive_reads_scan (dispatch : Dispatch World) {c : Connection} (fresh : Fresh c)
    (reads : List Read) (world : World) (fits : ReadsFit dispatch c reads world)
    (counted : (streamOf reads).length < 2 ^ 32) :
    ∃ received, receiveReads dispatch c reads world = some received ∧
      received.log = (wireScanner.scan (streamOf reads)).1 ∧
      pending received.connection = (wireScanner.scan (streamOf reads)).2 := by
  have order : c.rawfifo.outCount ≤ c.rawfifo.inCount := by
    rw [fresh.inCount, fresh.outCount, UInt32.le_iff_toNat_le]
  obtain ⟨received, run, log, left⟩ := receive_reads_feed dispatch fresh.formed order reads world
    fits (by rw [fresh.inCount]; simpa using counted)
  rw [fresh.pending_nil, wireScanner.feed_pieces] at log left
  exact ⟨received, run, log, left⟩

theorem reads_fit_sized (dispatch : Dispatch World) {c : Connection} (formed : WellFormed c)
    (reads : List Read) (world : World) (fits : ReadsFit dispatch c reads world) :
    ∀ read ∈ reads, read.bytes.length ≤ 1024 := by
  induction reads generalizing c world with
  | nil => simp
  | cons read reads induction =>
      have room := fits.1
      obtain ⟨first, run, -, formedFirst, -⟩ :=
        recvmsg_spec dispatch world formed read (by omega)
      have later := induction formedFirst first.world (fits.2 first run)
      intro other member
      rcases List.mem_cons.mp member with rfl | member
      · omega
      · exact later other member

theorem reads_fit_of_short (dispatch : Dispatch World) {c : Connection} (formed : WellFormed c)
    (reads : List Read) (world : World)
    (short : (pending c).length + (streamOf reads).length ≤ 1024) :
    ReadsFit dispatch c reads world := by
  induction reads generalizing c world with
  | nil => trivial
  | cons read reads induction =>
      rw [stream_of_cons, List.length_append] at short
      obtain ⟨first, run, conserved, formedFirst, -⟩ :=
        recvmsg_spec dispatch world formed read (by omega)
      rw [reads_fit_cons dispatch reads run]
      refine ⟨by omega, induction formedFirst first.world ?_⟩
      have lengths := congrArg List.length conserved
      rw [List.take_of_length_le (by omega)] at lengths
      simp only [List.length_append] at lengths
      omega

/-- However the stream is cut into reads that fit, the dispatcher gets the frames of the reference
scan and the same bytes stay pending. -/
theorem receive_chunking_independent (dispatch : Dispatch World) (world : World)
    {c₁ c₂ : Connection} (fresh₁ : Fresh c₁) (fresh₂ : Fresh c₂) (reads₁ reads₂ : List Read)
    (same : streamOf reads₁ = streamOf reads₂)
    (fits₁ : ReadsFit dispatch c₁ reads₁ world) (fits₂ : ReadsFit dispatch c₂ reads₂ world)
    (counted : (streamOf reads₁).length < 2 ^ 32) :
    ∃ received₁ received₂,
      receiveReads dispatch c₁ reads₁ world = some received₁ ∧
      receiveReads dispatch c₂ reads₂ world = some received₂ ∧
      frames received₁.log = frames received₂.log ∧
      pending received₁.connection = pending received₂.connection ∧
      frames received₁.log = frames (wireScanner.scan (streamOf reads₁)).1 ∧
      pending received₁.connection = (wireScanner.scan (streamOf reads₁)).2 ∧
      received₁.world = dispatchFrames dispatch received₁.log world ∧
      received₂.world = dispatchFrames dispatch received₂.log world := by
  obtain ⟨received₁, run₁, log₁, left₁⟩ :=
    receive_reads_scan dispatch fresh₁ reads₁ world fits₁ counted
  obtain ⟨received₂, run₂, log₂, left₂⟩ :=
    receive_reads_scan dispatch fresh₂ reads₂ world fits₂ (same ▸ counted)
  obtain ⟨_, total₁, -, world₁⟩ := receive_reads_total dispatch fresh₁.formed reads₁
    (reads_fit_sized dispatch fresh₁.formed reads₁ world fits₁) world
  obtain ⟨_, total₂, -, world₂⟩ := receive_reads_total dispatch fresh₂.formed reads₂
    (reads_fit_sized dispatch fresh₂.formed reads₂ world fits₂) world
  cases run₁.symm.trans total₁
  cases run₂.symm.trans total₂
  refine ⟨received₁, received₂, run₁, run₂, ?_, ?_, ?_, left₁, world₁, world₂⟩
  · rw [log₁, log₂, same]
  · rw [left₁, left₂, same]
  · rw [log₁]

def newConnection : Connection :=
  connectionInit (connectionCreate (List.replicate 1024 0) 0) 5 .connsocketclient

def ignoreFrame : Dispatch Unit := fun _ _ _ world => world

theorem new_connection_fresh : Fresh newConnection :=
  freeconnlist_getconn_fresh [] (List.replicate 1024 0) 0 List.length_replicate
    (by simp) 5 .connsocketclient

def afterRead (bytes : List UInt8) : Connection := storeRead newConnection ⟨0, bytes⟩

theorem after_read_spec (bytes : List UInt8) (sized : bytes.length ≤ 1024) :
    pending (afterRead bytes) = bytes ∧ WellFormed (afterRead bytes) := by
  have representable : bytes.length < 2 ^ 32 := by omega
  obtain ⟨stored, formed, -⟩ :=
    store_read_spec new_connection_fresh.formed ⟨0, bytes⟩ representable
  rw [new_connection_fresh.pending_nil, List.nil_append, List.length_nil, Nat.sub_zero,
    List.take_of_length_le sized] at stored
  exact ⟨stored, formed⟩

theorem after_read_frame {id : UInt16} {frame : List UInt8} (complete : CompleteFrame id frame)
    (sized : frame.length ≤ 1024) :
    WellFormed (afterRead frame) ∧ (extraction (afterRead frame)).2.1 = frame ∧
      (protocolCheck (afterRead frame) illegal).messageid = id ∧
      (protocolCheck (afterRead frame) illegal).messagelen = UInt32.ofNat frame.length := by
  obtain ⟨stored, formed⟩ := after_read_spec frame sized
  have whole : pending (afterRead frame) = frame ++ [] := stored.trans (List.append_nil _).symm
  refine ⟨formed, (extraction_frame formed complete whole).1, ?_, ?_⟩
  · rw [protocol_check_frame formed complete whole]
  · rw [protocol_check_frame formed complete whole]

/-- One heartbeat feedback, once cut inside its length field and once in one piece. -/
theorem receive_chunking_independent_heartbeat :
    ∃ received₁ received₂,
      receiveReads ignoreFrame newConnection
        [⟨0, [0xCE, 0x00]⟩, ⟨1, [0x08, 0x80, 0x02, 0x00, 0x44, 0xCE]⟩] () = some received₁ ∧
      receiveReads ignoreFrame newConnection
        [⟨0, [0xCE, 0x00, 0x08, 0x80, 0x02, 0x00, 0x44, 0xCE]⟩] () = some received₂ ∧
      frames received₁.log = frames received₂.log ∧
      pending received₁.connection = pending received₂.connection := by
  obtain ⟨received₁, received₂, run₁, run₂, sameFrames, samePending, -⟩ :=
    receive_chunking_independent ignoreFrame () new_connection_fresh new_connection_fresh
      [⟨0, [0xCE, 0x00]⟩, ⟨1, [0x08, 0x80, 0x02, 0x00, 0x44, 0xCE]⟩]
      [⟨0, [0xCE, 0x00, 0x08, 0x80, 0x02, 0x00, 0x44, 0xCE]⟩] rfl
      (reads_fit_of_short ignoreFrame new_connection_fresh.formed _ ()
        (by rw [new_connection_fresh.pending_nil]; decide))
      (reads_fit_of_short ignoreFrame new_connection_fresh.formed _ ()
        (by rw [new_connection_fresh.pending_nil]; decide))
      (by decide)
  exact ⟨received₁, received₂, run₁, run₂, sameFrames, samePending⟩

/-- No byte of a run is lost exactly when every read fits into the FIFO behind what is pending. -/
theorem received_bytes_kept_iff (dispatch : Dispatch World) (world : World) {c : Connection}
    (fresh : Fresh c) (reads : List Read) (sized : ∀ read ∈ reads, ReadSized read) :
    ∃ received, receiveReads dispatch c reads world = some received ∧
      (streamOf reads = logBytes received.log ++ pending received.connection ↔
        ReadsFit dispatch c reads world) := by
  have short : ∀ read ∈ reads, read.bytes.length ≤ 1024 := fun read member => (sized read member).2
  obtain ⟨received, run, -, -⟩ := receive_reads_total dispatch fresh.formed reads short world
  obtain ⟨kept, lost, -⟩ := receive_reads_bytes dispatch fresh.formed reads short world run
  rw [fresh.pending_nil, List.nil_append] at kept lost
  refine ⟨received, run, ?_, fun fits => (kept fits).symm⟩
  intro same
  by_contra misfit
  have shorter := lost misfit
  rw [same] at shorter
  exact lt_irrefl _ shorter

/-- A heartbeat in two reads, and behind it the start flag of a frame that is still on its way. -/
theorem received_bytes_kept_iff_start_flag :
    let reads : List Read := [⟨0, [0xCE, 0x00, 0x08]⟩, ⟨1, [0x80, 0x02, 0x00, 0x44, 0xCE, 0xCE]⟩]
    ∃ received, receiveReads ignoreFrame newConnection reads () = some received ∧
      (streamOf reads = logBytes received.log ++ pending received.connection ↔
        ReadsFit ignoreFrame newConnection reads ()) ∧
      streamOf reads = logBytes received.log ++ pending received.connection := by
  intro reads
  have sized : ∀ read ∈ reads, ReadSized read := by
    simp [reads, ReadSized]
  rcases received_bytes_kept_iff ignoreFrame () new_connection_fresh reads sized with
    ⟨received, run, kept⟩
  have fits := reads_fit_of_short ignoreFrame new_connection_fresh.formed reads ()
    (by rw [new_connection_fresh.pending_nil]; decide)
  exact ⟨received, run, kept, kept.mpr fits⟩

def overfullReads : List Read := [⟨0, [0xCE]⟩, ⟨1, List.replicate 1024 0⟩]

theorem overfull_reads_sized : ∀ read ∈ overfullReads, ReadSized read := by
  rw [overfullReads, List.forall_mem_cons, List.forall_mem_singleton, ReadSized, ReadSized,
    List.length_replicate]
  decide

theorem overfull_reads_misfit : ¬ReadsFit ignoreFrame newConnection overfullReads () := by
  have order : newConnection.rawfifo.outCount ≤ newConnection.rawfifo.inCount := by decide
  obtain ⟨first, run, -, left, -⟩ := recvmsg_scan ignoreFrame ()
    new_connection_fresh.formed order ⟨0, [0xCE]⟩
    (by rw [new_connection_fresh.pending_nil]; decide) (by decide)
  have waiting : pending first.connection = [0xCE] := by
    rw [left, new_connection_fresh.pending_nil]
    exact congrArg Prod.snd (wireScanner.scan_hold [0xCE] (by decide))
  rw [overfullReads, reads_fit_cons ignoreFrame _ run, ReadsFit, waiting, List.length_replicate]
  intro fits
  exact absurd fits.2.1 (by decide)

/-- The start flag is still pending at the second read, so its last byte is dropped. -/
theorem received_byte_lost :
    ¬∃ received, receiveReads ignoreFrame newConnection overfullReads () = some received ∧
      streamOf overfullReads = logBytes received.log ++ pending received.connection := by
  rintro ⟨received, run, same⟩
  have lost := (receive_reads_bytes ignoreFrame new_connection_fresh.formed overfullReads
    (fun read member => (overfull_reads_sized read member).2) () run).2.1 overfull_reads_misfit
  rw [new_connection_fresh.pending_nil, List.nil_append, same] at lost
  exact lt_irrefl _ lost

end SmartHome.ReceivePath
