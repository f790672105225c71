import SmartHome.Encode
import SmartHome.ReceivePath

/-!
# From the encoders to the checker

Payloads are not escaped and both flags are the same byte, so a frame is found again
only through its length and its checksum. Whatever the encoders write, the receive
path cuts the stream into exactly their frames.
-/

namespace SmartHome.FrameStream

open SmartHome.Library.CTypes
open SmartHome.Library.StreamScanner
open SmartHome.Bytebuffer
open SmartHome.Connections
open SmartHome.Protocol
open SmartHome.Registry
open SmartHome.PipeMessages
open SmartHome.WireScan
open SmartHome.Receive
open SmartHome.ReceivePath
open SmartHome.Encode

set_option autoImplicit false

/-- The frames some call of an encoder returns, with the message id it writes. -/
inductive Produced (sign : CharSign) : UInt16 → List UInt8 → Prop
  | login (gw : Gateway) : Produced sign login (protocolEncodeLogin gw)
  | heart (gw : Gateway) : Produced sign heart (protocolEncodeHeart gw)
  | addDelDevice (gw : Gateway) (ieeeaddr : UInt64) (add : UInt8) (buf : List UInt8)
      (after : Gateway)
      (encoded : protocolEncodeAddDelDevice sign gw ieeeaddr add = some (buf, after)) :
      Produced sign adddeldevice buf
  | alarm (gw : Gateway) (notification : Zclzonechangenotification) (ctime : UInt64)
      (buf : List UInt8) (encoded : protocolEncodeAlarm gw notification ctime = some buf) :
      Produced sign alarm buf
  | armFeedback (serialNum : UInt32) (ieee : UInt64) (result : UInt8) :
      Produced sign deviceArmFeedback (protocolEncodeArmFeedback serialNum ieee result)
  | delDeviceFeedback (delDevice : DelDevice) (result : UInt8) :
      Produced sign delDeviceFeedback (protocolEncodeDelDeviceFeedback delDevice result)
  | deviceattr (gw : Gateway) (getAttr : GetDeviceAttr) :
      Produced sign deviceattribute (protocolEncodeDeviceattr gw getAttr)
  | setNameFeedback (deviceName : SetDeviceName) (result : UInt8) :
      Produced sign deviceSetNameFeedback (protocolEncodeSetNameFeedback deviceName result)
  | generalResponse (response : Zclgeneraldefaultresponse) :
      Produced sign deviceResponse (protocolEncodeGeneralResponse response)
  | onoffResponse (response : Zclgeneraldefaultresponse) :
      Produced sign deviceOnoffRsp (protocolEncodeOnoffResponse response)
  | readonoffResponse (response : Zclreadonoffrsp) :
      Produced sign readOnoffRsp (protocolEncodeReadonoffResponse response)
  | levelResponse (response : Zcllevlctldefaultresponse) :
      Produced sign deviceLevelRsp (protocolEncodeLevelResponse response)
  | warningResponse (response : Zclgeneraldefaultresponse) :
      Produced sign deviceWarningRsp (protocolEncodeWarningResponse response)
  | reportStatus (status : Zclbasicstatus) :
      Produced sign statusReport (protocolEncodeReportStatus status)

/-- Every encoder but the heartbeat is `encodeFrame` at its id and some fields. -/
theorem produced_shape {sign : CharSign} {id : UInt16} {buf : List UInt8}
    (produced : Produced sign id buf) :
    id ≠ illegal ∧ id ≠ halfpack ∧
      ((∃ gw, id = heart ∧ buf = protocolEncodeHeart gw) ∨
        ∃ fields, 1 ≤ fields.length ∧ buf = encodeFrame id fields) := by
  cases produced with
  | heart gw => exact ⟨by decide, by decide, .inl ⟨gw, rfl, rfl⟩⟩
  | login gw =>
      refine ⟨by decide, by decide, .inr ⟨_, ?_, rfl⟩⟩
      simp only [List.length_append, bytebuffer_writemac_length]
      omega
  | addDelDevice gw ieeeaddr add buf after encoded =>
      refine ⟨by decide, by decide, .inr ?_⟩
      rw [protocolEncodeAddDelDevice] at encoded
      split at encoded
      · contradiction
      · cases encoded
        refine ⟨_, ?_, rfl⟩
        simp only [List.length_append, bytebuffer_writebyte_length]
        omega
  | alarm gw notification ctime buf encoded =>
      refine ⟨by decide, by decide, .inr ?_⟩
      rw [protocolEncodeAlarm] at encoded
      split at encoded
      · contradiction
      · cases encoded
        refine ⟨_, ?_, rfl⟩
        simp only [List.length_append, bytebuffer_writequadword_length]
        omega
  | armFeedback | delDeviceFeedback | deviceattr | setNameFeedback | generalResponse
  | onoffResponse | readonoffResponse | levelResponse | warningResponse | reportStatus =>
      refine ⟨by decide, by decide, .inr ⟨_, ?_, rfl⟩⟩
      simp only [responseFields, List.length_append, bytebuffer_writequadword_length]
      omega

theorem produced_complete {sign : CharSign} {id : UInt16} {buf : List UInt8}
    (produced : Produced sign id buf) (bound : buf.length ≤ 2048) : CompleteFrame id buf := by
  obtain ⟨-, -, ⟨gw, rfl, rfl⟩ | ⟨fields, nonempty, rfl⟩⟩ := produced_shape produced
  · exact protocol_encode_heart_complete gw
  · exact encode_frame_complete id fields nonempty bound

/-- A frame of an encoder, with bytes other than a start flag in front of it. -/
structure SentFrame (sign : CharSign) where
  noise : List UInt8
  id : UInt16
  frame : List UInt8
  quiet : (0xCE : UInt8) ∉ noise
  produced : Produced sign id frame

def sentStream {sign : CharSign} (sent : List (SentFrame sign)) : List UInt8 :=
  sent.flatMap fun item => item.noise ++ item.frame

theorem scan_noise (noise later : List UInt8) (quiet : (0xCE : UInt8) ∉ noise) :
    wireScanner.scan (noise ++ later) =
      (noise.map .skipped ++ (wireScanner.scan later).1, (wireScanner.scan later).2) := by
  induction noise with
  | nil => rfl
  | cons byte noise induction =>
      have other : byte ≠ 0xCE := fun same => quiet (by simp [same])
      have verdict : wireScanner.verdict (byte :: (noise ++ later)) = .skip := if_pos other
      rw [List.cons_append, wireScanner.scan_skip _ _ verdict,
        induction fun member => quiet (List.mem_cons_of_mem _ member)]
      rfl

theorem scan_frame {id : UInt16} {frame : List UInt8} (complete : CompleteFrame id frame)
    (legal : id ≠ illegal) (full : id ≠ halfpack) (later : List UInt8) :
    wireScanner.scan (frame ++ later) =
      (.record id frame :: (wireScanner.scan later).1, (wireScanner.scan later).2) := by
  have nonempty : frame ++ later ≠ [] := by
    intro empty
    have lower := complete.lower
    have lengths := congrArg List.length empty
    rw [List.length_append, List.length_nil] at lengths
    omega
  have length : (UInt16.ofNat frame.length).toNat = frame.length := by
    have upper := complete.upper
    rw [UInt16.toNat_ofNat']
    exact Nat.mod_eq_of_lt (by omega)
  have verdict : wireScanner.verdict (frame ++ later) = .cut id frame.length := by
    change referenceVerdict (frame ++ later) = _
    rw [reference_verdict_eq _ nonempty, check_head_frame complete, ofHeadCheck,
      if_neg (not_or.mpr ⟨legal, full⟩), length]
  rw [wireScanner.scan_cut _ _ _ verdict, List.take_left, List.drop_left]

theorem scan_sent_stream {sign : CharSign} (sent : List (SentFrame sign))
    (bound : (sentStream sent).length ≤ 2048) :
    frames (wireScanner.scan (sentStream sent)).1 =
        sent.map (fun item => (item.id, item.frame)) ∧
      (wireScanner.scan (sentStream sent)).2 = [] := by
  induction sent with
  | nil =>
      have empty : wireScanner.scan (sentStream ([] : List (SentFrame sign))) = ([], []) :=
        wireScanner.scan_hold [] rfl
      rw [empty]
      exact ⟨rfl, rfl⟩
  | cons item sent induction =>
      have unfolded : sentStream (item :: sent) =
          item.noise ++ (item.frame ++ sentStream sent) := by
        simp only [sentStream, List.flatMap_cons, List.append_assoc]
      rw [unfolded, List.length_append, List.length_append] at bound
      obtain ⟨framesLater, pendingLater⟩ := induction (by omega)
      obtain ⟨legal, full, -⟩ := produced_shape item.produced
      rw [unfolded, scan_noise _ _ item.quiet,
        scan_frame (produced_complete item.produced (by omega)) legal full]
      refine ⟨?_, pendingLater⟩
      rw [frames_append, frames_skips, List.nil_append, List.map_cons, ← framesLater]
      rfl

/-- Whatever the encoders write, the receive path finds exactly their frames. -/
theorem encoded_frames_received {World : Type*} (dispatch : Dispatch World) (world : World)
    {c : Connection} (fresh : Fresh c) {sign : CharSign} (sent : List (SentFrame sign))
    (short : (sentStream sent).length ≤ 1024) (now : Int) :
    ∃ received, recvmsg dispatch c ⟨now, sentStream sent⟩ world = some received ∧
      frames received.log = sent.map (fun item => (item.id, item.frame)) ∧
      pending received.connection = [] := by
  have order : c.rawfifo.outCount ≤ c.rawfifo.inCount := by
    rw [fresh.inCount, fresh.outCount, UInt32.le_iff_toNat_le]
  obtain ⟨received, run, log, left, -⟩ := recvmsg_scan dispatch world fresh.formed order
    ⟨now, sentStream sent⟩ (by rw [fresh.pending_nil]; simpa using short)
    (by rw [fresh.inCount]; change 0 + (sentStream sent).length < _; omega)
  rw [fresh.pending_nil, List.nil_append] at log left
  obtain ⟨framesSent, pendingSent⟩ := scan_sent_stream sent (by omega)
  exact ⟨received, run, by rw [log, framesSent], by rw [left, pendingSent]⟩

/-- A heartbeat for a gateway id full of start flags, behind two stray bytes. -/
def flagHeartbeat : SentFrame .unsigned where
  noise := [0x00, 0x01]
  id := heart
  frame := protocolEncodeHeart
    { gatewayid := 0xCECECECECECE, gatewayname := noName, boxversion := 1,
      protocolversion := 1, devices := [] }
  quiet := by decide
  produced := .heart _

theorem encoded_frames_received_flag_heartbeat :
    ∃ received, recvmsg ignoreFrame newConnection
        ⟨0, sentStream [flagHeartbeat, flagHeartbeat]⟩ () = some received ∧
      frames received.log = [(heart, flagHeartbeat.frame), (heart, flagHeartbeat.frame)] ∧
      pending received.connection = [] :=
  encoded_frames_received ignoreFrame () new_connection_fresh [flagHeartbeat, flagHeartbeat]
    (by decide) 0

end SmartHome.FrameStream
