import SmartHome.EventRecvmsg
import SmartHome.ReceivePath

/-!
# How far the parsers read

For every command, one past the furthest byte its parser reads, computed from the
bytes alone. The payload of a frame ends two bytes before the frame does; no parser
checks that its fields end there.
-/

namespace SmartHome.PayloadBounds

open SmartHome.Library.Bytes
open SmartHome.Library.MemoryCursor
open SmartHome.Bytebuffer
open SmartHome.Connections
open SmartHome.Protocol
open SmartHome.WireScan
open SmartHome.Registry
open SmartHome.Receive
open SmartHome.ReceivePath
open SmartHome.Zcl
open SmartHome.Parse
open SmartHome.EventRecvmsg

set_option autoImplicit false

def levelArgumentLength (zclCmdid : UInt8) : Nat :=
  if zclCmdid = commandLevelMoveToLevel ∨ zclCmdid = commandLevelMoveToLevelWithOnOff then 3
  else if zclCmdid = commandLevelMove ∨ zclCmdid = commandLevelMoveWithOnOff then 2
  else if zclCmdid = commandLevelStep ∨ zclCmdid = commandLevelStepWithOnOff then 4
  else 0

/-- The bytes read for a reportable change: four for the types of 24 bits, eight for those of 40 to
56 bits, none for types that are not analog. -/
def changeLength (dataType : UInt8) : Nat :=
  if zclAnalogDataType dataType then
    match dataTypeGroup dataType with
    | .bytes1 => 1
    | .bytes2 => 2
    | .bytes3 | .bytes4 => 4
    | _ => 8
  else 0

/-- Where `count` report records end. They lie ten bytes apart, and behind each there is its
change. -/
def recordsEnd (cells : Memory) (address : Nat) : Nat → Nat
  | 0 => address
  | count + 1 =>
      max (address + 10 + changeLength (cells (address + 3))) (recordsEnd cells (address + 10) count)

def fieldsEnd (messageid : UInt16) (cells : Memory) : Nat :=
  match messageCase messageid with
  | .loginfeedback => 16
  | .deviceSetName => 18 + (cells 17).toNat
  | .deviceDel => 17
  | .deviceAttr => 18
  | .deviceIdentify => 18
  | .deviceWarning => 25
  | .appLogin => 0
  | .deviceSetarm => 23
  | .deviceOnoff => 19
  | .deviceLevelCtrl => 19 + levelArgumentLength (cells 18)
  | .permitJoining => 10
  | .configReport => recordsEnd cells 21 (cells 20).toNat
  | .readOnoffCmd => 18
  | .skip => 0

theorem set_device_name_reach (stack : Vector UInt8 256) (memory : Memory) :
    (protocolParseSetDeviceName stack).reach memory = 18 + (memory 17).toNat := by
  change (if (memory 17).toNat = 0 then 18 else max 18 (18 + (memory 17).toNat)) = _
  split_ifs <;> omega

theorem level_ctrl_reach (stack : PipeMessages.LevelCtrlCmd) (memory : Memory) :
    (protocolParseLevelCtrl stack).reach memory = 19 + levelArgumentLength (memory 18) := by
  change (Parser.runFrom (parseLevelCtrlCmd stack (memory 18)) memory ⟨19, 19⟩).2.reach = _
  rw [parseLevelCtrlCmd, levelArgumentLength]
  split_ifs <;> rfl

theorem recv_reportable_change_run {dataType : UInt8} (analog : zclAnalogDataType dataType = true)
    (memory : Memory) (cursor : Cursor) :
    (Parser.runFrom (recvReportableChange dataType) memory cursor).2 =
      ⟨cursor.p, max cursor.reach (cursor.p + changeLength dataType)⟩ := by
  rw [changeLength, if_pos analog]
  have group := analog_groups analog
  unfold recvReportableChange
  simp only [List.mem_cons, List.not_mem_nil, or_false] at group
  rcases group with group | group | group | group | group | group | group | group <;>
    rw [group] <;> rfl

theorem parse_cfg_report_recod_run (len : UInt16) (memory : Memory) (cursor : Cursor) :
    (Parser.runFrom (parseCfgReportRecod len) memory cursor).2 =
      ⟨cursor.p + 10,
        max cursor.reach (cursor.p + 10 + changeLength (memory (cursor.p + 3)))⟩ := by
  have typeByte : (readBytes memory (cursor.p + 1 + 2) 1).headD 0 = memory (cursor.p + 3) := rfl
  unfold parseCfgReportRecod
  simp only [bytebufferReadbyte, bytebufferReadword, Parser.run_from_bind, Parser.run_from_map,
    Parser.run_from_take, typeByte]
  by_cases analog : zclAnalogDataType (memory (cursor.p + 3)) = true
  · rw [if_pos analog]
    simp only [Parser.run_from_bind, Parser.run_from_position, Parser.run_from_pure]
    rw [recv_reportable_change_run analog]
    simp
  · rw [if_neg analog, changeLength, if_neg analog]
    simp

theorem parse_cfg_report_recods_reach (len : UInt16) (memory : Memory) (count : Nat)
    (cursor : Cursor) (behind : cursor.p ≤ cursor.reach) :
    (Parser.runFrom (parseCfgReportRecods len count) memory cursor).2.reach =
      max cursor.reach (recordsEnd memory cursor.p count) := by
  induction count generalizing cursor with
  | zero => exact (Nat.max_eq_left behind).symm
  | succ count induction =>
      unfold parseCfgReportRecods
      simp only [Parser.run_from_bind, Parser.run_from_pure]
      rw [parse_cfg_report_recod_run, induction _ (by simp only; omega), recordsEnd]
      simp only
      omega

theorem records_end_ge (cells : Memory) (count address : Nat) :
    address ≤ recordsEnd cells address count := by
  induction count generalizing address with
  | zero => exact le_rfl
  | succ count induction =>
      have later := induction (address + 10)
      unfold recordsEnd
      omega

theorem config_reporting_reach (len : UInt16) (memory : Memory) :
    (protocolParseConfigReporting len).reach memory = recordsEnd memory 21 (memory 20).toNat := by
  change (Parser.runFrom (parseCfgReportRecods len (memory 20).toNat) memory ⟨21, 21⟩).2.reach = _
  rw [parse_cfg_report_recods_reach len memory _ ⟨21, 21⟩ le_rfl]
  exact Nat.max_eq_right (records_end_ge memory _ _)

theorem parse_command_reach (host : Host) (messageid : UInt16) (messagelen : UInt32)
    (memory : Memory) :
    (parseCommand host messageid messagelen).reach memory = fieldsEnd messageid memory := by
  rw [parseCommand, fieldsEnd]
  cases messageCase messageid with
  | deviceSetName => exact set_device_name_reach host.nameStack memory
  | deviceLevelCtrl => exact level_ctrl_reach host.levelStack memory
  | configReport => exact config_reporting_reach messagelen.toUInt16 memory
  | _ => rfl

/-- Below a bound, the records of two memories end alike when the memories agree up to there. -/
theorem records_end_le_congr {left right : Memory} {bound : Nat}
    (agree : ∀ address < bound, left address = right address) (count address : Nat) :
    recordsEnd left address count ≤ bound ↔ recordsEnd right address count ≤ bound := by
  induction count generalizing address with
  | zero => exact Iff.rfl
  | succ count induction =>
      rw [recordsEnd, recordsEnd, max_le_iff, max_le_iff, induction]
      by_cases inside : address + 3 < bound
      · rw [agree _ inside]
      · constructor <;> rintro ⟨fits, -⟩ <;> omega

theorem fields_end_le_congr {left right : Memory} {bound : Nat}
    (agree : ∀ address < bound, left address = right address) (messageid : UInt16) :
    fieldsEnd messageid left ≤ bound ↔ fieldsEnd messageid right ≤ bound := by
  rw [fieldsEnd, fieldsEnd]
  cases messageCase messageid with
  | deviceSetName =>
      by_cases inside : 17 < bound
      · rw [agree 17 inside]
      · simp only
        omega
  | deviceLevelCtrl =>
      by_cases inside : 18 < bound
      · rw [agree 18 inside]
      · simp only
        omega
  | configReport =>
      by_cases inside : 20 < bound
      · simp only [agree 20 inside]
        exact records_end_le_congr agree _ _
      · have behind := records_end_ge left (left 20).toNat 21
        have behind' := records_end_ge right (right 20).toNat 21
        simp only
        omega
  | _ => exact Iff.rfl

/-- The fields of the command end where the payload does, or before. -/
def PayloadFits (messageid : UInt16) (frame : List UInt8) : Prop :=
  fieldsEnd messageid (frame.getD · 0) ≤ frame.length - 2

instance (messageid : UInt16) (frame : List UInt8) : Decidable (PayloadFits messageid frame) :=
  Nat.decLe _ _

/-- The parser reads nothing behind the payload, and a frame that is too short changes nothing. -/
def LooksOnlyAtPayload (host : Host) (fd : Int) (messageid : UInt16) (messagelen : UInt32)
    (frame : List UInt8) (state : MainState) : Prop :=
  (parseCommand host messageid messagelen).reach (bufferMemory host (localBuffer frame)) ≤
      messagelen.toNat - 2 ∧
    (¬PayloadFits messageid frame →
      eventSwitch host fd messageid messagelen (localBuffer frame) state = state)

/-- Of the frames that `protocol_check` accepts, the parser keeps to the payload exactly for those
that are long enough for their command. -/
theorem looks_only_at_payload_iff (host : Host) (fd : Int) (state : MainState) {c : Connection}
    (formed : WellFormed c) (legal : (protocolCheck c illegal).messageid ≠ illegal)
    (full : (protocolCheck c illegal).messageid ≠ halfpack) :
    LooksOnlyAtPayload host fd (protocolCheck c illegal).messageid
        (protocolCheck c illegal).messagelen (extraction c).2.1 state ↔
      PayloadFits (protocolCheck c illegal).messageid (extraction c).2.1 := by
  have length := (recv_pass_spec formed legal full).2.2.1
  have agree : ∀ address < (protocolCheck c illegal).messagelen.toNat - 2,
      bufferMemory host (localBuffer (extraction c).2.1) address =
        (extraction c).2.1.getD address 0 := by
    intro address inside
    apply buffer_memory_get
    omega
  have ends := fields_end_le_congr agree (protocolCheck c illegal).messageid
  rw [LooksOnlyAtPayload, parse_command_reach, ends, PayloadFits, length]
  exact ⟨And.left, fun fits => ⟨fits, fun short => absurd fits short⟩⟩

def deletable : MainState :=
  stateOf { twoContacts with devices := [contactSwitch 0x00137A00000156CE 0] }

def delFrame : List UInt8 :=
  [0xCE, 0x00, 0x13, 0x80, 0x0A, 0x00, 0x00, 0x00, 0x07,
    0x00, 0x13, 0x7A, 0x00, 0x00, 0x01, 0x56, 0xD3, 0xBD, 0xCE]

/-- A request to delete a device, cut short by two bytes: its checksum and its end flag lie where
the last two bytes of the address belong. -/
def shortDelFrame : List UInt8 :=
  [0xCE, 0x00, 0x11, 0x80, 0x0A, 0x00, 0x00, 0x00, 0x6B,
    0x00, 0x13, 0x7A, 0x00, 0x00, 0x01, 0x56, 0xCE]

theorem del_frame_complete : CompleteFrame deviceDel delFrame :=
  ⟨by decide, by decide, by decide, by decide, by decide, by decide⟩

theorem short_del_frame_complete : CompleteFrame deviceDel shortDelFrame :=
  ⟨by decide, by decide, by decide, by decide, by decide, by decide⟩

theorem looks_only_at_payload_iff_del_device :
    LooksOnlyAtPayload quietHost 5 (protocolCheck (afterRead delFrame) illegal).messageid
        (protocolCheck (afterRead delFrame) illegal).messagelen (extraction (afterRead delFrame)).2.1
        (stateOf twoContacts) ↔
      PayloadFits (protocolCheck (afterRead delFrame) illegal).messageid
        (extraction (afterRead delFrame)).2.1 := by
  obtain ⟨formed, -, messageid, -⟩ := after_read_frame del_frame_complete (by decide)
  exact looks_only_at_payload_iff quietHost 5 (stateOf twoContacts) formed
    (by rw [messageid]; decide) (by rw [messageid]; decide)

/-- The frame is accepted, and the device at the address completed by its end flag is deleted. -/
theorem short_del_device_not_rejected :
    (protocolCheck (afterRead shortDelFrame) illegal).messageid = deviceDel ∧
      ¬LooksOnlyAtPayload quietHost 5 (protocolCheck (afterRead shortDelFrame) illegal).messageid
        (protocolCheck (afterRead shortDelFrame) illegal).messagelen
        (extraction (afterRead shortDelFrame)).2.1 deletable ∧
      (eventSwitch quietHost 5 deviceDel 17 (localBuffer shortDelFrame)
        deletable).gateway.devices = [] := by
  obtain ⟨-, bytes, messageid, messagelen⟩ := after_read_frame short_del_frame_complete (by decide)
  refine ⟨messageid, ?_, by decide +kernel⟩
  rw [bytes, messageid, messagelen, LooksOnlyAtPayload, parse_command_reach]
  rintro ⟨within, -⟩
  exact absurd within (by decide)

end SmartHome.PayloadBounds
