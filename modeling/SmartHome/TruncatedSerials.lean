import SmartHome.Serials

/-!
# Which serial numbers come back

Each stage hands the serial number on, except for the one that takes its low eight bits.
An answer is the one the app waits for exactly when there was nothing above them.
-/

namespace SmartHome.TruncatedSerials

open SmartHome.Library.Bytes
open SmartHome.Library.MemoryCursor
open SmartHome.Library.Runs
open SmartHome.Bytebuffer
open SmartHome.Registry
open SmartHome.PipeMessages
open SmartHome.Effects
open SmartHome.Encode
open SmartHome.Zcl
open SmartHome.Receive
open SmartHome.EventRecvmsg
open SmartHome.CommandTranslation
open SmartHome.DownCommand
open SmartHome.System (ZnpMessage ZnpHost eventRecvznp)
open SmartHome.ZclIncoming
open SmartHome.Serials

set_option autoImplicit false

def commandSerial : ZnpCommand → Option UInt32
  | .onoff command => some command.serialnum
  | .levelCtrl command => some command.serialnum
  | .readOnoff command => some command.serialnum
  | _ => none

theorem truncated_eq_iff (serialnum : UInt32) :
    serialnum.toUInt8.toUInt32 = serialnum ↔ serialnum < 256 := by
  rw [← UInt32.toNat_inj, UInt32.lt_iff_toNat_lt]
  have low : serialnum.toUInt8.toUInt32.toNat = serialnum.toNat % 256 := by simp
  have bound : (256 : UInt32).toNat = 256 := rfl
  rw [low, bound]
  omega

/-! ## From the frame to the pipe -/

theorem pass_on_commands (ieee : UInt64) (command : ZnpCommand) (gw : Gateway) :
    ∀ passed ∈ pipeCommands (passOn ieee command (stateOf gw)).effects, passed = command := by
  unfold passOn
  split_ifs
  · intro passed member
    cases member
  · intro passed member
    exact List.mem_singleton.mp member

theorem level_ctrl_commands (levelCtrl : LevelCtrlIeee) (gw : Gateway) :
    ∀ passed ∈ pipeCommands (handleLevelCtrl levelCtrl (stateOf gw)).effects,
      passed = .levelCtrl levelCtrl := by
  unfold handleLevelCtrl
  split_ifs
  · intro passed member
    cases member
  · split
    · intro passed member
      cases member
    · intro passed member
      exact List.mem_singleton.mp member

theorem ask_commands (host : Host) (fd : Int) (ask : Ask) (serialnum : UInt32) (rest : List UInt8)
    (messagelen : UInt32) (gw : Gateway) :
    ∀ command ∈ pipeCommands (eventSwitch host fd ask.messageid messagelen
        (localBuffer (askFrame ask serialnum rest)) (stateOf gw)).effects,
      commandSerial command = some serialnum := by
  have held := frame_fields_held host ask.messageid (bytebufferWritedword serialnum ++ rest)
  rw [holds_append] at held
  have read := getdword_held held.1
  cases ask with
  | onoff =>
      intro command member
      have passed := pass_on_commands _ _ gw command member
      rw [passed]
      exact congrArg some read
  | readOnoff =>
      intro command member
      have passed := pass_on_commands _ _ gw command member
      rw [passed]
      exact congrArg some read
  | levelCtrl =>
      intro command member
      have passed := level_ctrl_commands _ gw command member
      rw [passed]
      exact congrArg some read

/-! ## From the pipe to the radio -/

theorem sequence_number_plain {data : Memory} {specific : Bool}
    (control : data 0 = if specific then 1 else 0) : sequenceNumber data = data 1 := by
  have plain : (data 0).toBitVec.extractLsb' 2 1 = 0 := by
    rw [control]
    cases specific <;> rfl
  simp only [sequenceNumber, zclParsehdr, plain, ne_eq, not_true_eq_false, if_false]

theorem sendcommand_sequence (srcEP dstEp : UInt8) (dstaddr clusterID : UInt16) (cmd : UInt8)
    (specific : Bool) (seqNum : UInt8) (cmdFormat : List UInt8)
    (short : cmdFormat.length + 3 < 65536) :
    requestSequence
      (zclSendcommand srcEP dstEp dstaddr clusterID cmd specific 0 0 0 seqNum cmdFormat) =
        seqNum := by
  rw [requestSequence, zcl_sendcommand_eq _ _ _ _ _ _ _ _ short]
  exact sequence_number_plain rfl

theorem cluster_command_sequence (clusterID : UInt16) (cmd srcEP : UInt8) (dstAddr : AfAddr)
    (seqNum : UInt8) (buf : List UInt8) (short : buf.length + 3 < 65536) :
    requestSequence (sendClusterCommand clusterID cmd srcEP dstAddr 0 seqNum buf) = seqNum :=
  sendcommand_sequence srcEP dstAddr.endPoint dstAddr.shortAddr clusterID cmd true seqNum buf short

theorem level_request_sequence {addrtype : AfAddr} {levelCtrl : LevelCtrlIeee}
    {request : DataRequest} (asked : levelCtrlRequest addrtype levelCtrl = some request) :
    requestSequence request = levelCtrl.serialnum.toUInt8 := by
  rcases level_ctrl_request_eq asked with ⟨cmd, buf, short, rfl⟩
  exact cluster_command_sequence _ _ _ _ _ _ (by omega)

theorem app_process_sequence (heap : Memory) (gw : Gateway) {command : ZnpCommand}
    {serialnum : UInt32} (serial : commandSerial command = some serialnum) :
    ∀ request ∈ dataRequests (appProcess heap gw command),
      requestSequence request = serialnum.toUInt8 := by
  cases command with
  | onoff onoff =>
      rw [commandSerial, Option.some.injEq] at serial
      rw [← serial, appProcess, zclDownCmdOnoff]
      cases gatewayGetdevice gw onoff.ieee with
      | none =>
          intro request member
          cases member
      | some d =>
          dsimp only
          split_ifs <;>
            · intro request member
              rw [List.mem_singleton.mp member]
              exact cluster_command_sequence _ _ _ _ _ _ (by simp)
  | levelCtrl levelCtrl =>
      rw [commandSerial, Option.some.injEq] at serial
      rw [← serial, appProcess, zclDownCmdLevelCtrl]
      cases gatewayGetdevice gw levelCtrl.ieee with
      | none =>
          intro request member
          cases member
      | some d =>
          dsimp only
          intro request member
          cases asked : levelCtrlRequest ⟨d.shortaddr, levelCtrl.endpoint⟩ levelCtrl with
          | none =>
              rw [asked] at member
              cases member
          | some sent =>
              rw [asked] at member
              rw [List.mem_singleton.mp member]
              exact level_request_sequence asked
  | readOnoff onoffAttr =>
      rw [commandSerial, Option.some.injEq] at serial
      rw [← serial, appProcess, zclDownCmdGetOnoff]
      cases gatewayGetdevice gw onoffAttr.ieee with
      | none =>
          intro request member
          cases member
      | some d =>
          intro request member
          rw [List.mem_singleton.mp member]
          exact sendcommand_sequence _ _ _ _ _ _ _ _ (by simp)
  | _ => cases serial

/-! ## From the answer to the app -/

theorem frame_serial_encode (id : UInt16) (serialnum : UInt32) (rest : List UInt8) :
    frameSerial (encodeFrame id (bytebufferWritedword serialnum ++ rest)) = serialnum := by
  have length := bytebuffer_writedword_length serialnum
  rw [frameSerial, encode_frame_eq, closeFrame, List.append_assoc, List.append_assoc,
    List.drop_left' (header_length _ _), List.append_assoc, bytebufferGetdword,
    List.take_left' length, ← List.take_of_length_le (Nat.le_of_eq length), ← bytebufferGetdword,
    bytebuffer_getdword_writedword]

theorem response_fields_serial (id : UInt16) (serialnum : UInt32) (ieeeaddr : UInt64)
    (endpoint first second : UInt8) :
    frameSerial (encodeFrame id (responseFields serialnum ieeeaddr endpoint first second)) =
      serialnum := by
  rw [responseFields, List.append_assoc, List.append_assoc, List.append_assoc, frame_serial_encode]

theorem readonoff_response_serial (response : Zclreadonoffrsp) :
    frameSerial (protocolEncodeReadonoffResponse response) = response.serialnum := by
  rw [protocolEncodeReadonoffResponse, List.append_assoc, List.append_assoc, frame_serial_encode]

def Carries (serialnum : UInt32) (sends : Prop) (effects : List Effect) : Prop :=
  (∀ frame ∈ broadcasts effects, frameSerial frame = serialnum) ∧
    (sends ↔ ∃ frame, frame ∈ broadcasts effects)

theorem carries_one {serialnum : UInt32} {sends : Prop} {effects : List Effect}
    {frame : List UInt8} (meant : sends) (sent : broadcasts effects = [frame])
    (carried : frameSerial frame = serialnum) : Carries serialnum sends effects := by
  rw [Carries, sent]
  refine ⟨?_, iff_of_true meant ⟨frame, List.mem_singleton_self frame⟩⟩
  intro other member
  rw [List.mem_singleton.mp member, carried]

theorem gen_level_ctl_carries (gw : Gateway) (response : Zcllevlctldefaultresponse) :
    Carries response.serialnum (Sends gw (.genLevelCtlRsp response))
      (ZnpResponses.genLevelCtlRsp gw response).effects := by
  unfold ZnpResponses.genLevelCtlRsp
  cases known : gatewayGetEndpoint gw response.ieeeaddr response.endpoint with
  | none =>
      refine ⟨?_, ?_⟩
      · intro frame member
        cases member
      · apply iff_of_false
        · rintro ⟨ep, found⟩
          rw [known] at found
          cases found
        · rintro ⟨frame, member⟩
          cases member
  | some ep =>
      by_cases success : response.status = 0
      · simp only [success, if_true]
        exact carries_one ⟨ep, known⟩ rfl (response_fields_serial _ _ _ _ _ _)
      · simp only [success, if_false]
        exact carries_one ⟨ep, known⟩ rfl (response_fields_serial _ _ _ _ _ _)

theorem recvznp_carries {host : ZnpHost} {gw : Gateway} {message : ZnpMessage}
    {outcome : Outcome} {serialnum : UInt32} (ran : eventRecvznp host gw message = some outcome)
    (serial : answerSerial message = some serialnum) :
    Carries serialnum (Sends gw message) outcome.effects := by
  cases message with
  | genOnoffRsp response =>
      rw [answerSerial, Option.some.injEq] at serial
      simp only [eventRecvznp, ZnpResponses.genOnoffRsp] at ran
      cases found : gatewayGetdevice gw response.ieeeaddr with
      | none =>
          rw [found] at ran
          cases ran
      | some d =>
          rw [found, Option.some.injEq] at ran
          rw [← ran, ← serial]
          exact carries_one ⟨d, found⟩ rfl (response_fields_serial _ _ _ _ _ _)
  | readOnoffRsp response =>
      rw [answerSerial, Option.some.injEq] at serial
      rw [eventRecvznp, Option.some.injEq] at ran
      rw [← ran, ← serial]
      exact carries_one trivial rfl (readonoff_response_serial response)
  | genLevelCtlRsp response =>
      rw [answerSerial, Option.some.injEq] at serial
      rw [eventRecvznp, Option.some.injEq] at ran
      rw [← ran, ← serial]
      exact gen_level_ctl_carries gw response
  | _ => cases serial

theorem recvznp_sends (host : ZnpHost) {gw : Gateway} {message : ZnpMessage}
    (sends : Sends gw message) : ∃ outcome, eventRecvznp host gw message = some outcome := by
  cases message with
  | genOnoffRsp response =>
      rcases sends with ⟨d, found⟩
      simp only [eventRecvznp, ZnpResponses.genOnoffRsp, found]
      exact ⟨_, rfl⟩
  | _ => exact ⟨_, rfl⟩

/-! ## Runs -/

/-- What every item on its way has of the serial number it goes back to. -/
structure OnTheWay (s : Traffic) : Prop where
  commands : ∀ command ∈ s.commands, commandSerial command.item = some command.serialnum
  requests : ∀ request ∈ s.requests,
    requestSequence request.item = request.serialnum.toUInt8
  messages : ∀ message ∈ s.messages,
    answerSerial message.item = some message.serialnum.toUInt8.toUInt32
  responses : ∀ response ∈ s.responses, frameSerial response.item = response.serialnum

theorem quiet_on_the_way (gateway : Gateway) : OnTheWay (quiet gateway) where
  commands := fun _ member => absurd member List.not_mem_nil
  requests := fun _ member => absurd member List.not_mem_nil
  messages := fun _ member => absurd member List.not_mem_nil
  responses := fun _ member => absurd member List.not_mem_nil

theorem on_the_way_correlated {s : Traffic} (way : OnTheWay s) : Correlated s := by
  refine ⟨way.responses, ?_⟩
  intro first firstMember second secondMember different
  rw [way.responses first firstMember, way.responses second secondMember]
  exact different

theorem forall_append_caused {Item : Type} {holds : Caused Item → Prop} {items : List (Caused Item)}
    {serialnum : UInt32} {more : List Item} (before : ∀ item ∈ items, holds item)
    (after : ∀ item ∈ more, holds ⟨serialnum, item⟩) :
    ∀ item ∈ items ++ causedBy serialnum more, holds item := by
  intro item member
  rcases List.mem_append.mp member with old | new
  · exact before item old
  · rcases List.mem_map.mp new with ⟨plain, plainMember, rfl⟩
    exact after plain plainMember

theorem step_on_the_way {s next : Traffic} {event : Event} (way : OnTheWay s)
    (small : SmallSerial s event) (stepped : step s event = some next) : OnTheWay next := by
  cases event with
  | frame host fd ask serialnum rest =>
      rw [step, Option.some.injEq] at stepped
      rw [← stepped]
      exact { way with
        commands := forall_append_caused way.commands
          (ask_commands host fd ask serialnum rest _ s.gateway) }
  | command heap =>
      cases waiting : s.commands with
      | nil =>
          simp only [step, waiting, Option.some.injEq] at stepped
          exact stepped ▸ way
      | cons command commands =>
          simp only [step, waiting, Option.some.injEq] at stepped
          have all := way.commands
          rw [waiting, List.forall_mem_cons] at all
          rw [← stepped]
          exact { way with
            commands := all.2
            requests := forall_append_caused way.requests
              (app_process_sequence heap s.gateway all.1) }
  | answer index stack message =>
      cases asked : s.requests[index]? with
      | none =>
          simp only [step, asked, Option.some.injEq] at stepped
          exact stepped ▸ way
      | some request =>
          simp only [step, asked] at stepped
          split_ifs at stepped with answers
          · have sequence := way.requests request (List.mem_of_getElem? asked)
            rw [Option.some.injEq] at stepped
            rw [← stepped]
            refine { way with messages := forall_append_caused way.messages ?_ }
            intro answer member
            rw [incoming_serial (Option.mem_toList.mp member)]
            exact congrArg (fun sequence => some (UInt8.toUInt32 sequence))
              (answers.2.trans sequence)
          · rw [Option.some.injEq] at stepped
            exact stepped ▸ way
  | message host =>
      cases waiting : s.messages with
      | nil =>
          simp only [step, waiting, Option.some.injEq] at stepped
          exact stepped ▸ way
      | cons message messages =>
          simp only [step, waiting, Option.map_eq_some_iff] at stepped
          rcases stepped with ⟨outcome, ran, rfl⟩
          have all := way.messages
          rw [waiting, List.forall_mem_cons] at all
          have carries := recvznp_carries ran all.1
          refine { way with
            messages := all.2
            responses := forall_append_caused way.responses ?_ }
          intro frame member
          have low : message.serialnum < 256 := by
            apply small message
            · rw [waiting, List.head?_cons]
            · exact carries.2.mpr ⟨frame, member⟩
          rw [carries.1 frame member]
          exact (truncated_eq_iff message.serialnum).mpr low
  | registry gateway =>
      rw [step, Option.some.injEq] at stepped
      rw [← stepped]
      exact { way with }

/-- An answer sent on for a longer serial number carries another one. -/
theorem step_truncated {s : Traffic} {event : Event} (way : OnTheWay s)
    (long : ¬SmallSerial s event) : ∃ next, step s event = some next ∧ ¬Correlated next := by
  cases event with
  | message host =>
      simp only [SmallSerial, not_forall] at long
      rcases long with ⟨message, head, sends, long⟩
      rcases List.head?_eq_some_iff.mp head with ⟨messages, waiting⟩
      rcases recvznp_sends host sends with ⟨outcome, ran⟩
      have carried := way.messages message (waiting ▸ List.mem_cons_self)
      have carries := recvznp_carries ran carried
      rcases carries.2.mp sends with ⟨frame, sent⟩
      refine ⟨{ s with
        gateway := outcome.gateway
        messages
        responses := s.responses ++ causedBy message.serialnum (broadcasts outcome.effects) },
        by simp only [step, waiting, ran, Option.map_some], ?_⟩
      intro correlated
      have same := correlated.1 ⟨message.serialnum, frame⟩
        (List.mem_append_right _ (List.mem_map_of_mem sent))
      rw [carries.1 frame sent] at same
      exact long ((truncated_eq_iff message.serialnum).mp same)
  | _ => exact absurd trivial long

/-- In every run, the frames to the app carry the serial numbers of the frames that caused them as
long as, and only as long as, each answer that is sent on goes back to a serial number of eight
bits. -/
theorem serials_carried_iff (gateway : Gateway) (events : List Event) :
    Always step Correlated (quiet gateway) events ↔
      Meets step SmallSerial (quiet gateway) events :=
  always_iff_meets (fun _ way => on_the_way_correlated way)
    (fun _ _ _ way small stepped => step_on_the_way way small stepped)
    (fun _ _ way long => step_truncated way long) (quiet_on_the_way gateway) events

def defaultRsp (sequence : UInt8) : IncomingMsg :=
  ⟨zclClusterIdGenOnOff, 1, 2, 5, fun address => [0x18, sequence, 0x0b, 1, 0].getD address 0⟩

/-- Two commands for the same device, with the serial numbers 1 and 257, and their answers. -/
def twoCommands : List Event :=
  [.frame quietHost 5 .onoff 1 [0, 0, 0, 0, 0, 0, 0, 7, 2, 1],
    .frame quietHost 5 .onoff 257 [0, 0, 0, 0, 0, 0, 0, 7, 2, 1],
    .command (fun _ => 0), .command (fun _ => 0),
    .answer 0 0 (defaultRsp 1), .answer 1 0 (defaultRsp 1),
    .message ⟨.signed, ⟨0, 0, 0⟩, []⟩, .message ⟨.signed, ⟨0, 0, 0⟩, []⟩]

/-- The commands are on their way together; the app gets two answers with the serial number 1. -/
theorem two_answers_alike :
    ¬Always step Correlated (quiet { twoContacts with devices := [contactSwitch 7 0] })
      twoCommands := by
  intro always
  have answered : (run step (quiet { twoContacts with devices := [contactSwitch 7 0] })
      twoCommands).map
          (fun s => s.responses.map fun response =>
            (response.serialnum, frameSerial response.item)) =
      some [(1, 1), (257, 1)] := by
    decide +kernel
  rcases Option.map_eq_some_iff.mp answered with ⟨final, ran, responses⟩
  have correlated := always.last ran
  have wrong : ((257 : UInt32), (1 : UInt32)) ∈
      final.responses.map fun response => (response.serialnum, frameSerial response.item) := by
    rw [responses]
    exact List.mem_cons_of_mem _ List.mem_cons_self
  rcases List.mem_map.mp wrong with ⟨response, member, pair⟩
  rcases Prod.mk.inj pair with ⟨serialnum, carried⟩
  have same := correlated.1 response member
  rw [serialnum, carried] at same
  exact absurd same (by decide)

end SmartHome.TruncatedSerials
