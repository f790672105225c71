import SmartHome.Pipes

/-!
# The pipes carry whole messages

For every kind of message the struct that the writer wraps is the struct that the reader
declares, so a message is read as it was written and the next read starts at the next
message. This holds for any interleaving of writes and reads on the two pipes.
-/

namespace SmartHome.FaithfulPipes

open SmartHome.Library.Bytes
open SmartHome.Library.Layouts
open SmartHome.Library.Layouts.Layout
open SmartHome.Library.BytePipes
open SmartHome.PipeMessages
open SmartHome.Pipes

set_option autoImplicit false

/-- The size of the struct that `event_recvznp` reads behind the command id. -/
def zclBodySize : ZclMessage → Nat
  | .zoneEnrollReq _ => zclzoneenrollreq.size
  | .zoneChangeNotification _ => zclzonechangenotification.size
  | .generalDefaultRsp _ => zclgeneraldefaultresponse.size
  | .genOnoffRsp _ => zclgeneraldefaultresponse.size
  | .readOnoffRsp _ => zclreadonoffrsp.size
  | .genLevelCtlRsp _ => zcllevlctldefaultresponse.size
  | .warningRsp _ => zclgeneraldefaultresponse.size
  | .basicStatus _ => zclbasicstatus.size

/-- The size of the struct that `appProcess` reads behind the command id. -/
def protocolBodySize {pointer : Nat} : ProtocolCommand pointer → Nat
  | .identify _ => protocolCmdtypeIdentifyIeee.size
  | .warning _ => protocolCmdtypeWarningIeee.size
  | .onoff _ => protocolCmdtypeOnoffIeee.size
  | .levelCtrl _ => protocolCmdtypeLevelCtrlIeee.size
  | .permitJoing _ => protocolCmdtypePermitJoining.size
  | .configReport _ => (protocolCmdtypeConfigReporting pointer).size
  | .readOnoff _ => protocolCmdtypeGetOnoffState.size

theorem zcl_write_length (cmd : Memory) (message : ZclMessage) :
    (zclWrite cmd message).length = int.size + zclBodySize message := by
  cases message <;> exact image_length _ cmd 0 _

theorem protocol_write_length {pointer : Nat} (cmd : Memory) (command : ProtocolCommand pointer) :
    (protocolWrite cmd command).length = int.size + protocolBodySize command := by
  cases command <;> exact image_length _ cmd 0 _

theorem protocol_write_ne_nil {pointer : Nat} (cmd : Memory) (command : ProtocolCommand pointer) :
    protocolWrite cmd command ≠ [] := by
  have length := protocol_write_length cmd command
  have positive : 0 < int.size := by decide
  rw [← List.length_pos_iff]
  omega

theorem cmdid_front {Req : Type*} (layout : Layout Req) (cmd stack : Memory) (cmdid : UInt32)
    (req : Req) (rest : List UInt8) :
    int.readOver stack ((withCmdid layout).image cmd 0 (cmdid, req) ++ rest) = cmdid := by
  rw [withCmdid, pair_image, List.append_assoc, read_over_image]

theorem cmdid_behind {Req : Type*} (layout : Layout Req) (cmd : Memory) (cmdid : UInt32)
    (req : Req) (rest : List UInt8) :
    ((withCmdid layout).image cmd 0 (cmdid, req) ++ rest).drop int.size =
      layout.image cmd int.size req ++ rest := by
  rw [withCmdid, pair_image, List.append_assoc, List.drop_left' (image_length int cmd 0 cmdid),
    Nat.zero_add]

theorem read_body_image {Req Message : Type*} (layout : Layout Req) (message : Req → Message)
    (stack cmd : Memory) (address : Nat) (req : Req) (rest : List UInt8) :
    readBody layout message stack (layout.image cmd address req ++ rest) =
      (some (message req), rest) := by
  rw [readBody, read_over_image, List.drop_left' (image_length layout cmd address req)]

theorem event_recvznp_read_write (cmd : Memory) (message : ZclMessage) (stack : Memory)
    (rest : List UInt8) :
    eventRecvznpRead stack (zclWrite cmd message ++ rest) = (some message, rest) := by
  cases message with
  | zoneEnrollReq req =>
      simp +decide only [zclWrite, eventRecvznpRead, zclZoneEnrollReqCmd, cmdid_front,
        cmdid_behind, read_body_image, if_true, if_false]
  | zoneChangeNotification req =>
      simp +decide only [zclWrite, eventRecvznpRead, zclZoneChangeNotificationCmd, cmdid_front,
        cmdid_behind, read_body_image, if_true, if_false]
  | generalDefaultRsp req =>
      simp +decide only [zclWrite, eventRecvznpRead, zclGeneralDefaultResponseCmd, cmdid_front,
        cmdid_behind, read_body_image, if_true, if_false]
  | genOnoffRsp req =>
      simp +decide only [zclWrite, eventRecvznpRead, zclGeneralDefaultResponseCmd, cmdid_front,
        cmdid_behind, read_body_image, if_true, if_false]
  | readOnoffRsp req =>
      simp +decide only [zclWrite, eventRecvznpRead, zclReadOnoffRspCmd, cmdid_front,
        cmdid_behind, read_body_image, if_true, if_false]
  | genLevelCtlRsp req =>
      simp +decide only [zclWrite, eventRecvznpRead, zclLevlctlDefaultResponseCmd, cmdid_front,
        cmdid_behind, read_body_image, if_true, if_false]
  | warningRsp req =>
      simp +decide only [zclWrite, eventRecvznpRead, zclGeneralDefaultResponseCmd, cmdid_front,
        cmdid_behind, read_body_image, if_true, if_false]
  | basicStatus req =>
      simp +decide only [zclWrite, eventRecvznpRead, zclBasicStatusCmd, cmdid_front,
        cmdid_behind, read_body_image, if_true, if_false]

theorem app_process_read_write {pointer : Nat} (cmd : Memory) (command : ProtocolCommand pointer)
    (stack : Memory) (rest : List UInt8) :
    appProcessRead pointer stack (protocolWrite cmd command ++ rest) = (some command, rest) := by
  have filled : protocolWrite cmd command ++ rest ≠ [] :=
    List.append_ne_nil_of_left_ne_nil (protocol_write_ne_nil cmd command) rest
  rw [appProcessRead, if_neg filled]
  cases command with
  | identify command =>
      simp +decide only [protocolWrite, protocolCmdtypeIdentifyIeeeCmd, cmdid_front,
        cmdid_behind, read_body_image, if_true, if_false]
  | warning command =>
      simp +decide only [protocolWrite, protocolCmdtypeWarningIeeeCmd, cmdid_front,
        cmdid_behind, read_body_image, if_true, if_false]
  | onoff command =>
      simp +decide only [protocolWrite, protocolCmdtypeOnoffIeeeCmd, cmdid_front,
        cmdid_behind, read_body_image, if_true, if_false]
  | levelCtrl command =>
      simp +decide only [protocolWrite, protocolCmdtypeLevelCtrlIeeeCmd, cmdid_front,
        cmdid_behind, read_body_image, if_true, if_false]
  | permitJoing command =>
      simp +decide only [protocolWrite, protocolCmdtypePermitJoiningCmd, cmdid_front,
        cmdid_behind, read_body_image, if_true, if_false]
  | configReport command =>
      simp +decide only [protocolWrite, protocolCmdtypeConfigReportingCmd, cmdid_front,
        cmdid_behind, read_body_image, if_true, if_false]
  | readOnoff command =>
      simp +decide only [protocolWrite, protocolCmdtypeGetOnoffStateCmd, cmdid_front,
        cmdid_behind, read_body_image, if_true, if_false]


def zclFraming : Framing ZclMessage where
  frame := zclWrite
  read := eventRecvznpRead
  read_frame := event_recvznp_read_write
  read_empty := fun _ => rfl

def protocolFraming (pointer : Nat) : Framing (ProtocolCommand pointer) where
  frame := protocolWrite
  read := appProcessRead pointer
  read_frame := app_process_read_write
  read_empty := fun _ => rfl

inductive PipesEvent (pointer : Nat)
  | znpToMain (event : Event ZclMessage)
  | mainToZnp (event : Event (ProtocolCommand pointer))

structure PipesState (pointer : Nat) where
  znpToMain : Channel ZclMessage
  mainToZnp : Channel (ProtocolCommand pointer)

def pipesStart (pointer : Nat) : PipesState pointer := ⟨.empty, .empty⟩

def pipesStep {pointer : Nat} (s : PipesState pointer) : PipesEvent pointer → PipesState pointer
  | .znpToMain event => { s with znpToMain := step zclFraming s.znpToMain event }
  | .mainToZnp event => { s with mainToZnp := step (protocolFraming pointer) s.mainToZnp event }

def BothFaithful {pointer : Nat} (s : PipesState pointer) : Prop :=
  Faithful zclFraming s.znpToMain ∧ Faithful (protocolFraming pointer) s.mainToZnp

theorem pipes_step_faithful {pointer : Nat} {s : PipesState pointer} (both : BothFaithful s)
    (event : PipesEvent pointer) : BothFaithful (pipesStep s event) := by
  cases event with
  | znpToMain event => exact ⟨step_faithful zclFraming both.1 event, both.2⟩
  | mainToZnp event => exact ⟨both.1, step_faithful (protocolFraming pointer) both.2 event⟩

theorem pipes_run_faithful {pointer : Nat} {s : PipesState pointer} (both : BothFaithful s)
    (events : List (PipesEvent pointer)) : BothFaithful (events.foldl pipesStep s) := by
  induction events generalizing s with
  | nil => exact both
  | cons event events induction => exact induction (pipes_step_faithful both event)

/-- Whatever was written and read in whatever order: each reader got the first part of what was
written to its pipe, the pipe starts with the next message, and a reader that is called often
enough gets all of it; the writer's bytes are a command id and the struct the reader expects. -/
theorem pipes_are_faithful (pointer : Nat) (events : List (PipesEvent pointer)) :
    let s := events.foldl pipesStep (pipesStart pointer)
    Faithful zclFraming s.znpToMain ∧ Faithful (protocolFraming pointer) s.mainToZnp ∧
      (∀ calls : List Memory,
        s.znpToMain.written.length ≤ s.znpToMain.received.length + calls.length →
        (calls.foldl (fun channel stack => step zclFraming channel (.read stack))
          s.znpToMain).received = s.znpToMain.written) ∧
      (∀ calls : List Memory,
        s.mainToZnp.written.length ≤ s.mainToZnp.received.length + calls.length →
        (calls.foldl (fun channel stack => step (protocolFraming pointer) channel (.read stack))
          s.mainToZnp).received = s.mainToZnp.written) ∧
      (∀ cmd message, (zclWrite cmd message).length = int.size + zclBodySize message) ∧
      ∀ cmd (command : ProtocolCommand pointer),
        (protocolWrite cmd command).length = int.size + protocolBodySize command := by
  intro s
  have start : BothFaithful (pipesStart pointer) := ⟨empty_faithful _, empty_faithful _⟩
  have both : BothFaithful s := pipes_run_faithful start events
  refine ⟨both.1, both.2, ?_, ?_, zcl_write_length, protocol_write_length⟩
  · intro calls enough
    exact drained zclFraming both.1 calls enough
  · intro calls enough
    exact drained (protocolFraming pointer) both.2 calls enough

end SmartHome.FaithfulPipes
