import Mathlib.Data.List.Nodup
import Mathlib.Logic.Function.Basic
import SmartHome.FrameStream
import SmartHome.Library.PrefixCodes
import SmartHome.Library.Runs

/-!
# Frames on a socket

`sendnonblocking` hands a frame to the socket in one `write`. It starts again when the
write is interrupted, and gives up when the socket takes nothing or only a part of the
frame. The rest of a frame that was cut off never follows, but the next frame does.
-/

namespace SmartHome.Sending

open SmartHome.Library.CTypes
open SmartHome.Library.PrefixCodes
open SmartHome.Library.Runs
open SmartHome.Bytebuffer
open SmartHome.Connections
open SmartHome.Protocol
open SmartHome.WireScan
open SmartHome.Registry
open SmartHome.Encode
open SmartHome.FrameStream
open SmartHome.ReceivePath (newConnection)

set_option autoImplicit false

/-- How a `write` ends that is not interrupted. -/
inductive WriteResult
  | accepted (count : Nat)
  | wouldBlock
  | failed
  deriving DecidableEq

/-- The writes of one call: so many are interrupted before one ends. -/
structure Writes where
  interrupted : Nat
  last : WriteResult
  deriving DecidableEq

/-- What the call returns, and what of the buffer the socket has taken. -/
def sendnonblocking (buf : List UInt8) : Nat → WriteResult → Int × List UInt8
  | interrupted + 1, last => sendnonblocking buf interrupted last
  | 0, .accepted count => ((min count buf.length : Nat), buf.take count)
  | 0, .wouldBlock => (-1, [])
  | 0, .failed => (-1, [])

structure Framed (bytes : List UInt8) : Prop where
  head : 3 ≤ bytes.length
  length : lengthField bytes = bytes.length

structure Frame where
  bytes : List UInt8
  framed : Framed bytes

structure Line where
  accepted : List UInt8
  sent : List Frame

def Line.send (line : Line) (frame : Frame) (writes : Writes) : Line where
  accepted := line.accepted ++ (sendnonblocking frame.bytes writes.interrupted writes.last).2
  sent := line.sent ++ [frame]

def isPeer (c : Connection) : Bool :=
  c.conntype = .connsocketclient || c.conntype = .connsocketserver

abbrev Lines := Int → Line

def sendTo (lines : Lines) (fd : Int) (frame : Frame) (writes : Writes) : Lines :=
  Function.update lines fd ((lines fd).send frame writes)

def broadcast (frame : Frame) (writes : Int → Writes) : List Connection → Lines → Lines
  | [], lines => lines
  | c :: rest, lines =>
      if isPeer c then broadcast frame writes rest (sendTo lines c.fd frame (writes c.fd))
      else broadcast frame writes rest lines

/-- The two ways a frame is sent; no two connections have the same descriptor. -/
inductive SendCall
  | send (fd : Int) (frame : Frame) (writes : Writes)
  | broadcast (connlist : List Connection) (distinct : (connlist.map Connection.fd).Nodup)
      (frame : Frame) (writes : Int → Writes)

def sendStep (lines : Lines) : SendCall → Option Lines
  | .send fd frame writes => some (sendTo lines fd frame writes)
  | .broadcast connlist _ frame writes => some (broadcast frame writes connlist lines)

/-- What the socket has taken are whole frames, some of those sent, in their order. -/
def InStep (line : Line) : Prop :=
  ∃ frames : List Frame, frames.Sublist line.sent ∧ line.accepted = (frames.map Frame.bytes).flatten

def shortWrite (frame : Frame) (writes : Writes) : Bool :=
  match writes.last with
  | .accepted count => 0 < count ∧ count < frame.bytes.length
  | _ => false

def CutsOff (fd : Int) : SendCall → Prop
  | .send other frame writes => other = fd ∧ shortWrite frame writes = true
  | .broadcast connlist _ frame writes =>
      (∃ c ∈ connlist, isPeer c = true ∧ c.fd = fd) ∧ shortWrite frame (writes fd) = true

section Frames

theorem produced_framed {sign : CharSign} {id : UInt16} {buf : List UInt8}
    (produced : Produced sign id buf) (bound : buf.length < 2 ^ 16) : Framed buf := by
  rcases produced_shape produced with ⟨_, _, ⟨gw, _, same⟩ | ⟨fields, _, same⟩⟩
  · have complete := protocol_encode_heart_complete gw
    rw [← same] at complete
    exact ⟨le_trans (by decide) complete.lower, complete.length⟩
  · have parts := encode_frame_eq id fields
    have length := encode_frame_length id fields
    rw [same] at bound ⊢
    constructor
    · omega
    · rw [parts, closeFrame, List.append_assoc, List.append_assoc]
      rw [(header_fields _ _ _).2.1, ← List.append_assoc, ← List.append_assoc, ← closeFrame,
        ← parts, length, UInt16.toNat_ofNat']
      omega

theorem length_field_prefix {bytes stream : List UInt8} (head : 3 ≤ bytes.length)
    (inside : bytes <+: stream) : lengthField bytes = lengthField stream := by
  rcases inside with ⟨later, rfl⟩
  rw [lengthField, lengthField, List.drop_append_of_le_length (by omega),
    List.take_append_of_le_length (by rw [List.length_drop]; omega)]

theorem framed_prefix_free : PrefixFree Framed := by
  constructor
  · rintro word framed rfl
    exact absurd framed.head (by decide)
  · intro word other isWord isOther inside
    apply inside.eq_of_length
    rw [← isWord.length, ← isOther.length]
    exact length_field_prefix isWord.head inside

end Frames

section Lines

variable {line : Line} {frame : Frame} {writes : Writes}

theorem sendnonblocking_taken (buf : List UInt8) (interrupted : Nat) (last : WriteResult) :
    (sendnonblocking buf interrupted last).2 =
      match last with
      | .accepted count => buf.take count
      | _ => [] := by
  induction interrupted with
  | zero => cases last <;> rfl
  | succ interrupted induction =>
      rw [sendnonblocking]
      exact induction

theorem InStep.nothing (inStep : InStep line) (frame : Frame) :
    InStep ⟨line.accepted ++ [], line.sent ++ [frame]⟩ := by
  rcases inStep with ⟨frames, some_, accepted⟩
  refine ⟨frames, some_.trans (List.sublist_append_left _ _), ?_⟩
  rw [List.append_nil]
  exact accepted

theorem InStep.whole (inStep : InStep line) (frame : Frame) :
    InStep ⟨line.accepted ++ frame.bytes, line.sent ++ [frame]⟩ := by
  rcases inStep with ⟨frames, some_, accepted⟩
  refine ⟨frames ++ [frame], some_.append (List.Sublist.refl _), ?_⟩
  rw [List.map_append, List.flatten_append, ← accepted, List.map_singleton,
    List.flatten_singleton]

theorem send_in_step (inStep : InStep line) (uncut : shortWrite frame writes = false) :
    InStep (line.send frame writes) := by
  rw [Line.send, sendnonblocking_taken]
  unfold shortWrite at uncut
  generalize writes.last = last at uncut
  cases last with
  | wouldBlock => exact inStep.nothing frame
  | failed => exact inStep.nothing frame
  | accepted count =>
      have bounds := of_decide_eq_false uncut
      rcases Nat.eq_zero_or_pos count with none | positive
      · rw [none]
        exact inStep.nothing frame
      · have all : frame.bytes.length ≤ count := by omega
        dsimp only
        rw [List.take_of_length_le all]
        exact inStep.whole frame

/-- Behind a piece of a frame the socket does not hold whole frames. -/
theorem short_write_breaks (inStep : InStep line) (cut : shortWrite frame writes = true) :
    ¬InStep (line.send frame writes) := by
  rcases inStep with ⟨frames, _, accepted⟩
  unfold shortWrite at cut
  rw [Line.send, sendnonblocking_taken]
  generalize writes.last = last at cut
  cases last with
  | wouldBlock => cases cut
  | failed => cases cut
  | accepted count =>
      rcases of_decide_eq_true cut with ⟨positive, inside⟩
      rintro ⟨others, _, same⟩
      have words : ∀ frames : List Frame, ∀ word ∈ frames.map Frame.bytes, Framed word := by
        intro frames word member
        rcases List.mem_map.mp member with ⟨other, _, rfl⟩
        exact other.framed
      have length : (frame.bytes.take count).length = count := by
        rw [List.length_take]
        omega
      apply framed_prefix_free.no_piece (words frames) (words others) frame.framed
        (List.take_prefix count frame.bytes)
      · intro none
        rw [none, List.length_nil] at length
        omega
      · intro whole
        rw [whole] at length
        omega
      · rw [← accepted]
        exact same

end Lines

section Connections

variable {fd : Int} {frame : Frame} {writes : Int → Writes} {connlist : List Connection}
  {lines : Lines}

theorem send_to_other {other : Int} (apart : fd ≠ other) (writes : Writes) :
    sendTo lines other frame writes fd = lines fd := Function.update_of_ne apart _ _

theorem send_to_same (writes : Writes) :
    sendTo lines fd frame writes fd = (lines fd).send frame writes := Function.update_self _ _ _

theorem broadcast_absent (absent : ∀ c ∈ connlist, isPeer c = true → c.fd ≠ fd) :
    broadcast frame writes connlist lines fd = lines fd := by
  induction connlist generalizing lines with
  | nil => rfl
  | cons c rest induction =>
      rcases List.forall_mem_cons.mp absent with ⟨here, later⟩
      rw [broadcast]
      split_ifs with peer
      · rw [induction later, send_to_other (here peer).symm]
      · exact induction later

theorem broadcast_present (distinct : (connlist.map Connection.fd).Nodup)
    (present : ∃ c ∈ connlist, isPeer c = true ∧ c.fd = fd) :
    broadcast frame writes connlist lines fd = (lines fd).send frame (writes fd) := by
  induction connlist generalizing lines with
  | nil =>
      rcases present with ⟨c, member, _⟩
      cases member
  | cons c rest induction =>
      rw [List.map_cons, List.nodup_cons] at distinct
      rcases present with ⟨other, member, peer, owned⟩
      rcases List.mem_cons.mp member with here | later
      · have alone : ∀ another ∈ rest, isPeer another = true → another.fd ≠ fd := by
          intro another inside _ same
          apply distinct.1
          rw [← here, owned, ← same]
          exact List.mem_map_of_mem inside
        rw [broadcast, ← here, if_pos peer, broadcast_absent alone, owned, send_to_same]
      · have apart : fd ≠ c.fd := by
          intro same
          apply distinct.1
          rw [← same, ← owned]
          exact List.mem_map_of_mem later
        have kept : ∀ others : Lines, others fd = lines fd →
            broadcast frame writes rest others fd = (lines fd).send frame (writes fd) := by
          intro others same
          rw [induction distinct.2 ⟨other, later, peer, owned⟩, same]
        rw [broadcast]
        split_ifs
        · exact kept _ (send_to_other apart _)
        · exact kept lines rfl

theorem send_step_line {event : SendCall} {next : Lines}
    (stepped : sendStep lines event = some next)
    (fd : Int) :
    (next fd = lines fd ∧ ¬CutsOff fd event) ∨
      ∃ frame writes, next fd = (lines fd).send frame writes ∧
        (CutsOff fd event ↔ shortWrite frame writes = true) := by
  cases event with
  | send other frame writes =>
      rw [sendStep, Option.some.injEq] at stepped
      rw [← stepped]
      by_cases same : other = fd
      · rw [same]
        exact Or.inr ⟨frame, writes, send_to_same writes, and_iff_right rfl⟩
      · exact Or.inl ⟨send_to_other (Ne.symm same) writes, fun cut => same cut.1⟩
  | broadcast connlist distinct frame writes =>
      rw [sendStep, Option.some.injEq] at stepped
      rw [← stepped]
      by_cases present : ∃ c ∈ connlist, isPeer c = true ∧ c.fd = fd
      · exact Or.inr ⟨frame, writes fd, broadcast_present distinct present,
          and_iff_right present⟩
      · refine Or.inl ⟨broadcast_absent ?_, fun cut => present cut.1⟩
        intro c member peer same
        exact present ⟨c, member, peer, same⟩

end Connections

/-- A peer's stream is in step after every call exactly as long as no frame to it is cut off. -/
theorem stream_in_step_iff (fd : Int) {lines : Lines} (accepted : (lines fd).accepted = [])
    (events : List SendCall) :
    Always sendStep (fun lines => InStep (lines fd)) lines events ↔
      Meets sendStep (fun _ event => ¬CutsOff fd event) lines events := by
  have initial : InStep (lines fd) := ⟨[], List.nil_sublist _, accepted⟩
  refine @always_iff_meets _ _ sendStep _ (fun lines => InStep (lines fd)) _ ?_ ?_ ?_ _
    initial events
  · intro lines inStep
    exact inStep
  · intro lines event next inStep uncut stepped
    rcases send_step_line stepped fd with ⟨same, _⟩ | ⟨frame, writes, sent, cut⟩
    · rw [same]
      exact inStep
    · rw [sent]
      exact send_in_step inStep (Bool.eq_false_iff.mpr fun short => uncut (cut.mpr short))
  · intro lines event inStep cuts
    have total : (sendStep lines event).isSome := by
      cases event <;> rfl
    rcases Option.isSome_iff_exists.mp total with ⟨next, stepped⟩
    refine ⟨next, stepped, ?_⟩
    rcases send_step_line stepped fd with ⟨_, uncut⟩ | ⟨frame, writes, sent, cut⟩
    · exact absurd (not_not.mp cuts) uncut
    · rw [sent]
      exact short_write_breaks inStep (cut.mp (not_not.mp cuts))

def silentLines : Lines := fun _ => ⟨[], []⟩

def heartbeat : Frame where
  bytes := protocolEncodeHeart twoContacts
  framed := produced_framed (@Produced.heart .signed twoContacts) (by decide +kernel)

def loginFrame : Frame where
  bytes := protocolEncodeLogin twoContacts
  framed := produced_framed (@Produced.login .signed twoContacts) (by decide +kernel)

/-- A heartbeat whose write is interrupted twice, a login that finds no room and is dropped, a
heartbeat to another peer that is cut off, and a broadcast to both of them. -/
def patientCalls : List SendCall :=
  [.send 7 heartbeat ⟨2, .accepted 100⟩, .send 7 loginFrame ⟨1, .wouldBlock⟩,
    .send 5 heartbeat ⟨0, .accepted 3⟩,
    .broadcast [newConnection, { newConnection with fd := 7 }] (by decide) loginFrame
      fun _ => ⟨0, .accepted 1500⟩]

theorem stream_in_step_iff_heartbeat :
    (Always sendStep (fun lines => InStep (lines 7)) silentLines patientCalls ↔
        Meets sendStep (fun _ event => ¬CutsOff 7 event) silentLines patientCalls) ∧
      Always sendStep (fun lines => InStep (lines 7)) silentLines patientCalls := by
  have exact_ := @stream_in_step_iff 7 silentLines rfl patientCalls
  have whole : Meets sendStep (fun _ event => ¬CutsOff 7 event) silentLines patientCalls := by
    apply meets_of_forall
    intro event member _
    have uncut : ∀ event ∈ patientCalls, ¬CutsOff 7 event := by
      simp only [patientCalls, List.forall_mem_cons, CutsOff]
      refine ⟨fun cut => absurd cut.2 (by decide +kernel), fun cut => absurd cut.2 (by decide +kernel),
        fun cut => absurd cut.1 (by decide), fun cut => absurd cut.2 (by decide +kernel), ?_⟩
      intro event absent
      exact absurd absent List.not_mem_nil
    exact uncut event member
  exact ⟨exact_, exact_.mpr whole⟩

/-- The socket has room for ten bytes of a heartbeat, and then for the whole of the next one: the
peer reads the second frame in the middle of the first. -/
theorem heartbeat_cut_off :
    ¬∀ fd lines events, (lines fd).accepted = [] →
      Always sendStep (fun lines => InStep (lines fd)) lines events := by
  intro always
  have stream := always 7 silentLines
    [.send 7 heartbeat ⟨0, .accepted 10⟩, .send 7 heartbeat ⟨0, .accepted 100⟩] rfl
  have boundary := (stream.2 _ rfl).first
  rw [send_to_same] at boundary
  have cut : shortWrite heartbeat ⟨0, .accepted 10⟩ = true := by decide +kernel
  exact short_write_breaks ⟨[], List.nil_sublist _, rfl⟩ cut boundary

end SmartHome.Sending
