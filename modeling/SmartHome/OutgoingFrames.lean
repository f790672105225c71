import SmartHome.ReportMemory
import SmartHome.ZclIncoming

/-!
# Outgoing ZCL frames

`zcl_sendcommand` builds a header in front of a payload and copies both into the 128
bytes of a data request; `zcl_parsehdr` reads such headers on the way in. A frame that
fits is parsed back to what it was built from, and whether it fits is decided by what the
parsers of the app's frames let through.
-/

namespace SmartHome.OutgoingFrames

open SmartHome.Library.Bytes
open SmartHome.Library.MemoryCursor
open SmartHome.Bytebuffer
open SmartHome.Connections
open SmartHome.Protocol
open SmartHome.WireScan
open SmartHome.Registry
open SmartHome.Receive
open SmartHome.ReceivePath
open SmartHome.PipeMessages
open SmartHome.Effects
open SmartHome.Zcl
open SmartHome.ZclIncoming
open SmartHome.Parse
open SmartHome.DownCommand
open SmartHome.EventRecvmsg
open SmartHome.CommandTranslation
open SmartHome.ConfigReport
open SmartHome.ReportMemory

set_option autoImplicit false

structure SendArgs where
  srcEP : UInt8
  dstEp : UInt8
  dstaddr : UInt16
  clusterID : UInt16
  cmd : UInt8
  specific : Bool
  direction : UInt8
  disableDefaultRsp : UInt8
  manuCode : UInt16
  seqNum : UInt8
  cmdFormat : List UInt8

def SendArgs.request (args : SendArgs) : DataRequest :=
  zclSendcommand args.srcEP args.dstEp args.dstaddr args.clusterID args.cmd args.specific
    args.direction args.disableDefaultRsp args.manuCode args.seqNum args.cmdFormat

def SendArgs.header (args : SendArgs) : Zclframehdr where
  type := if args.specific then 1 else 0
  manuspecific := if args.manuCode = 0 then 0 else 1
  direction := if args.direction = 0 then 0 else 1
  disabledefaultrsp := if args.disableDefaultRsp = 0 then 0 else 1
  manucode := args.manuCode
  transseqnum := args.seqNum
  commandid := args.cmd

/-- The request carries the whole frame in its array, and the frame is parsed back to the header and
the payload it was built from, whatever lies behind it. -/
structure SendArgs.Intact (args : SendArgs) : Prop where
  fits : (zclBuildHdr args.header).length + args.cmdFormat.length ≤ 128
  whole : args.request.data = zclBuildHdr args.header ++ args.cmdFormat
  len : args.request.len.toNat = args.request.data.length
  header : ∀ behind, (zclParsehdr (placed args.request.data behind)).1 = args.header
  payload : ∀ behind, Holds (zclParsehdr (placed args.request.data behind)).2 0 args.cmdFormat

theorem zcl_build_hdr_length (hdr : Zclframehdr) :
    (zclBuildHdr hdr).length = (zclCalcHdrSize hdr).toNat := by
  rw [zclBuildHdr, zclCalcHdrSize]
  split_ifs <;> rfl

theorem request_eq (args : SendArgs) :
    args.request =
      { dstAddr := args.dstaddr
        dstEndpoint := args.dstEp
        srcEndpoint := args.srcEP
        clusterID := args.clusterID
        transID := 0
        options := 0
        radius := 0
        len := UInt8.ofNat ((zclBuildHdr args.header).length + args.cmdFormat.length)
        data := (zclBuildHdr args.header ++ args.cmdFormat).take
          (((zclBuildHdr args.header).length + args.cmdFormat.length) % 65536) } := by
  have header : Zclframehdr.mk
      ((if args.specific then zclFrameTypeSpecificCmd
        else zclFrameTypeProfileCmd).toBitVec.setWidth 2)
      (if args.manuCode ≠ 0 then 1 else 0)
      ((if args.direction ≠ 0 then zclFrameServerClientDir
        else zclFrameClientServerDir).toBitVec.setWidth 1)
      (if args.disableDefaultRsp ≠ 0 then 1 else 0)
      (if args.manuCode ≠ 0 then args.manuCode else 0) args.seqNum args.cmd = args.header := by
    rw [SendArgs.header, Zclframehdr.mk.injEq]
    refine ⟨?_, ?_, ?_, ?_, ?_, rfl, rfl⟩
    · cases args.specific <;> rfl
    · split_ifs <;> first | rfl | contradiction
    · split_ifs <;> first | rfl | contradiction
    · split_ifs <;> first | rfl | contradiction
    · split_ifs with none <;> simp_all
  have msgLen : ((zclCalcHdrSize args.header).toUInt16 +
      UInt16.ofNat args.cmdFormat.length).toNat =
        ((zclBuildHdr args.header).length + args.cmdFormat.length) % 65536 := by
    rw [UInt16.toNat_add, UInt8.toNat_toUInt16, UInt16.toNat_ofNat', zcl_build_hdr_length]
    omega
  have len : ((zclCalcHdrSize args.header).toUInt16 +
      UInt16.ofNat args.cmdFormat.length).toUInt8 =
        UInt8.ofNat ((zclBuildHdr args.header).length + args.cmdFormat.length) := by
    apply UInt8.toNat_inj.mp
    rw [UInt16.toNat_toUInt8, msgLen, UInt8.toNat_ofNat']
    omega
  rw [SendArgs.request, zclSendcommand]
  simp only [header, msgLen, len]

/-- The shifts of the builder put each field where the bit fields of the parser have it. -/
theorem control_fields (type : BitVec 2) (manuspecific direction disabledefaultrsp : BitVec 1) :
    let control := bitField type ||| bitField manuspecific <<< 2 ||| bitField direction <<< 3 |||
      bitField disabledefaultrsp <<< 4
    control.toBitVec.extractLsb' 0 2 = type ∧
      control.toBitVec.extractLsb' 2 1 = manuspecific ∧
      control.toBitVec.extractLsb' 3 1 = direction ∧
      control.toBitVec.extractLsb' 4 1 = disabledefaultrsp := by
  revert type manuspecific direction disabledefaultrsp
  decide +kernel

/-- A header that was built is parsed back, and the payload begins behind it. -/
theorem zcl_parsehdr_built {memory : Memory} {hdr : Zclframehdr}
    (held : Holds memory 0 (zclBuildHdr hdr)) (coded : hdr.manuspecific = 0 → hdr.manucode = 0) :
    (zclParsehdr memory).1 = hdr ∧
      ∀ address, (zclParsehdr memory).2 address = memory ((zclBuildHdr hdr).length + address) := by
  have fields := control_fields hdr.type hdr.manuspecific hdr.direction hdr.disabledefaultrsp
  rw [zclBuildHdr, holds_append, holds_append] at held
  rcases held with ⟨⟨control, code⟩, rest⟩
  rw [zclParsehdr, zclBuildHdr]
  simp only [control.1, fields]
  by_cases plain : hdr.manuspecific = 0
  · rw [if_neg (not_not.mpr plain)] at code rest ⊢
    rw [if_neg (not_not.mpr plain), if_neg (not_not.mpr plain)]
    refine ⟨?_, fun address => rfl⟩
    rw [← coded plain]
    exact congrArg₂ (Zclframehdr.mk hdr.type hdr.manuspecific hdr.direction
      hdr.disabledefaultrsp hdr.manucode) rest.1 rest.2.1
  · rw [if_pos plain] at code rest ⊢
    rw [if_pos plain, if_pos plain]
    have manucode : buildUint16 (memory 1) (memory 2) = hdr.manucode := by
      rw [← build_uint16_lo_hi hdr.manucode]
      exact congrArg₂ buildUint16 code.1 code.2.1
    refine ⟨?_, fun address => rfl⟩
    rw [manucode]
    exact congrArg₂ (Zclframehdr.mk hdr.type hdr.manuspecific hdr.direction
      hdr.disabledefaultrsp hdr.manucode) rest.1 rest.2.1

/-- Fitting the array is all that a frame needs. -/
theorem intact_iff (args : SendArgs) :
    args.Intact ↔ (zclCalcHdrSize args.header).toNat + args.cmdFormat.length ≤ 128 := by
  rw [← zcl_build_hdr_length]
  refine ⟨fun intact => intact.fits, fun fits => ?_⟩
  have whole : args.request.data = zclBuildHdr args.header ++ args.cmdFormat := by
    rw [request_eq]
    apply List.take_of_length_le
    rw [List.length_append]
    omega
  have coded : args.header.manuspecific = 0 → args.header.manucode = 0 := by
    rw [SendArgs.header]
    intro plain
    by_contra code
    rw [if_neg code] at plain
    exact absurd plain (show (1 : BitVec 1) ≠ 0 by decide)
  have held (behind : Memory) : Holds (placed args.request.data behind) 0
      (zclBuildHdr args.header ++ args.cmdFormat) := whole ▸ holds_placed args.request.data behind
  refine ⟨fits, whole, ?_, fun behind => ?_, fun behind => ?_⟩
  · rw [whole, request_eq, List.length_append, UInt8.toNat_ofNat']
    omega
  · exact (zcl_parsehdr_built ((holds_append _ _ _ _).mp (held behind)).1 coded).1
  · have parts := (holds_append _ _ _ _).mp (held behind)
    apply holds_of_get
    intro index inside
    rw [(zcl_parsehdr_built parts.1 coded).2, ← parts.2.get inside]
    congr 1
    omega

def Carried (request : DataRequest) : Prop :=
  ∃ args : SendArgs, args.request = request ∧ args.Intact

section Carried

variable (srcEP dstEp : UInt8) (dstaddr clusterID : UInt16) (cmd : UInt8) (specific : Bool)
  (direction disableDefaultRsp seqNum : UInt8) {cmdFormat : List UInt8}

theorem carried_iff (short : 3 + cmdFormat.length < 65536) :
    Carried (zclSendcommand srcEP dstEp dstaddr clusterID cmd specific direction disableDefaultRsp 0
        seqNum cmdFormat) ↔ 3 + cmdFormat.length ≤ 128 := by
  let args : SendArgs := ⟨srcEP, dstEp, dstaddr, clusterID, cmd, specific, direction,
    disableDefaultRsp, 0, seqNum, cmdFormat⟩
  have size : (zclCalcHdrSize args.header).toNat = 3 := rfl
  constructor
  · rintro ⟨other, same, intact⟩
    have bound : args.request.data.length ≤ 128 := by
      rw [← show other.request = args.request from same, intact.whole, List.length_append]
      exact intact.fits
    rw [request_eq] at bound
    simp only [List.length_take, List.length_append, zcl_build_hdr_length, size] at bound
    have format : args.cmdFormat.length = cmdFormat.length := rfl
    omega
  · intro fits
    exact ⟨args, rfl, (intact_iff args).mpr (size ▸ fits)⟩

theorem carried_few (few : cmdFormat.length ≤ 5) :
    Carried (zclSendcommand srcEP dstEp dstaddr clusterID cmd specific direction disableDefaultRsp 0
      seqNum cmdFormat) :=
  (carried_iff _ _ _ _ _ _ _ _ _ (by omega)).mpr (by omega)

end Carried

theorem level_ctrl_carried {addrtype : AfAddr} {levelCtrl : LevelCtrlIeee} {request : DataRequest}
    (sent : levelCtrlRequest addrtype levelCtrl = some request) : Carried request := by
  rcases level_ctrl_request_eq sent with ⟨cmd, buf, short, rfl⟩
  exact carried_few _ _ _ _ _ _ _ _ _ (by omega)

/-- Of the commands to the radio only reporting configurations have more than five bytes of
payload. -/
theorem app_process_carried {heap : Memory} {gw : Gateway} {command : ZnpCommand}
    (other : ∀ config, command ≠ .configReport config) {request : DataRequest}
    (sent : .afDataRequest request ∈ appProcess heap gw command) : Carried request := by
  cases command with
  | identify identify =>
      rw [appProcess, zclDownCmdIdentify] at sent
      split at sent
      · exact absurd sent List.not_mem_nil
      · cases List.mem_singleton.mp sent
        exact carried_few _ _ _ _ _ _ _ _ _ (by simp)
  | warning warning =>
      rw [appProcess, zclDownCmdWarning] at sent
      split at sent
      · exact absurd sent List.not_mem_nil
      · cases List.mem_singleton.mp sent
        exact carried_few _ _ _ _ _ _ _ _ _ (by simp)
  | onoff onoff =>
      rw [appProcess, zclDownCmdOnoff] at sent
      split at sent
      · exact absurd sent List.not_mem_nil
      · split at sent <;> cases List.mem_singleton.mp sent <;>
          exact carried_few _ _ _ _ _ _ _ _ _ (by simp)
  | levelCtrl levelCtrl =>
      rw [appProcess, zclDownCmdLevelCtrl] at sent
      split at sent
      · exact absurd sent List.not_mem_nil
      · rcases List.mem_map.mp sent with ⟨found, member, same⟩
        cases same
        exact level_ctrl_carried (Option.mem_toList.mp member)
  | permitJoing permitJoining =>
      cases List.mem_singleton.mp sent
  | configReport config => exact absurd rfl (other config)
  | readOnoff onoffState =>
      rw [appProcess, zclDownCmdGetOnoff] at sent
      split at sent
      · exact absurd sent List.not_mem_nil
      · cases List.mem_singleton.mp sent
        exact carried_few _ _ _ _ _ _ _ _ _ (by simp)

theorem config_report_carried_iff (heap : Memory) (gw : Gateway) {config : ConfigReporting}
    (few : config.attrList.length ≤ 255) :
    (∀ request, .afDataRequest request ∈ appProcess heap gw (.configReport config) →
        Carried request) ↔
      ((gatewayGetdevice gw config.ieee).isSome →
        3 + ((config.attrList.map cfgReportRec).map reportRecLen).sum ≤ 128) := by
  have total := report_recs_len_le (config.attrList.map cfgReportRec)
  have length := load_report_recs_length heap (config.attrList.map cfgReportRec) []
  rw [List.length_map] at total
  rw [List.append_nil, List.map_nil, List.sum_nil, Nat.add_zero] at length
  rw [appProcess, zclDownCmdConfigReporting]
  cases gatewayGetdevice gw config.ieee with
  | none => simp
  | some d =>
      have carried : Carried (zclSendConfigReportCmd heap 2 config.endpoint d.shortaddr
          config.clusterid (config.attrList.map cfgReportRec) zclFrameClientServerDir 0
          config.serialnum.toUInt8) ↔ _ := carried_iff _ _ _ _ _ _ _ _ _ (by omega)
      rw [length] at carried
      simp only [List.mem_singleton, RadioRequest.afDataRequest.injEq, forall_eq,
        Option.isSome_some, true_implies]
      exact carried

def newCommands (before after : MainState) : List ZnpCommand :=
  pipeCommands (newEffects before after)

@[simp] theorem new_commands_self (state : MainState) : newCommands state state = [] := by
  rw [newCommands, newEffects, List.drop_length]
  rfl

@[simp] theorem new_commands_act (state : MainState) (effects : List Effect) :
    newCommands state (state.act effects) = pipeCommands effects := by
  rw [newCommands, new_effects_act]

@[simp] theorem new_commands_with_gateway (state : MainState) (gateway : Gateway)
    (effects : List Effect) :
    newCommands state ((state.withGateway gateway).act effects) = pipeCommands effects :=
  new_commands_act state effects

@[simp] theorem new_commands_login (state : MainState) (effects : List Effect) (time : Int) :
    newCommands state { state.act effects with loginTime := time } = pipeCommands effects :=
  new_commands_act state effects

/-- A reporting configuration goes through the pipe if its frame was one, and its device is not
deleted. -/
theorem handle_command_config (host : Host) (fd : Int) (command : Command) (state : MainState)
    (config : ConfigReporting) :
    .configReport config ∈ newCommands state (handleCommand host fd command state) ↔
      command = .configReporting config ∧ isDeviceDeleted state.gateway config.ieee = false := by
  cases command with
  | configReporting parsed =>
      rw [handleCommand, passOn]
      split_ifs with deleted <;> simp [pipeCommands]
      · rintro rfl
        exact deleted
      · constructor
        · rintro rfl
          exact ⟨rfl, Bool.eq_false_iff.mpr deleted⟩
        · exact fun same => same.1.symm
  | loginFeedback feedback =>
      rw [handleCommand, handleLoginFeedback]
      split
      · simp
      · split_ifs <;> simp [pipeCommands]
  | setDeviceName deviceName =>
      simp only [handleCommand, handleSetDeviceName]
      split_ifs <;> simp [pipeCommands]
  | delDevice delDevice =>
      rw [handleCommand, handleDelDevice]
      split <;> simp [pipeCommands]
  | getDeviceAttr getAttr =>
      rw [handleCommand, handleGetDeviceAttr]
      split_ifs <;> simp [pipeCommands]
  | identify identify =>
      rw [handleCommand, passOn]
      split_ifs <;> simp [pipeCommands]
  | warning warning =>
      rw [handleCommand, handleWarning]
      split_ifs <;> simp [pipeCommands]
  | appLogin =>
      rw [handleCommand, new_commands_login]
      simp [pipeCommands]
  | setArm parsed =>
      simp only [handleCommand, handleSetArm]
      split_ifs
      · split <;> simp [pipeCommands]
      · simp [pipeCommands]
      · simp [pipeCommands]
  | onoff onoff =>
      rw [handleCommand, passOn]
      split_ifs <;> simp [pipeCommands]
  | levelCtrl levelCtrl =>
      rw [handleCommand, handleLevelCtrl]
      split_ifs
      · simp
      · split <;> simp [pipeCommands]
  | permitJoining permitJoining => simp [handleCommand, pipeCommands]
  | getOnoffState onoffState =>
      rw [handleCommand, passOn]
      split_ifs <;> simp [pipeCommands]
  | nothing => simp [handleCommand]

/-- A reporting configuration has a list that its arrays hold, and all requests are intact. -/
structure SentIntact (command : Command) (requests : List RadioRequest) : Prop where
  listed : ∀ config, command = .configReporting config → config.attrList.length ≤ 10
  intact : ∀ request, .afDataRequest request ∈ requests → Carried request

def commandRequests (host : Host) (fd : Int) (heap : Memory) (command : Command) (state : MainState)
    (later : Gateway) : List RadioRequest :=
  radioRequests heap later (newEffects state (handleCommand host fd command state))

theorem command_sent_intact_iff (host : Host) (fd : Int) (heap : Memory) (command : Command)
    (state : MainState) (later : Gateway) :
    SentIntact command (commandRequests host fd heap command state later) ↔
      ∀ config, command = .configReporting config → config.attrList.length ≤ 10 ∧
        (isDeviceDeleted state.gateway config.ieee = false →
          (gatewayGetdevice later config.ieee).isSome →
            3 + ((config.attrList.map cfgReportRec).map reportRecLen).sum ≤ 128) := by
  have member (request : DataRequest) :
      .afDataRequest request ∈ commandRequests host fd heap command state later ↔
        ∃ znp ∈ newCommands state (handleCommand host fd command state),
          .afDataRequest request ∈ appProcess heap later znp := List.mem_flatMap
  constructor
  · rintro ⟨listed, intact⟩ config same
    refine ⟨listed config same, fun active => ?_⟩
    have few := listed config same
    rw [← config_report_carried_iff heap later (by omega : config.attrList.length ≤ 255)]
    intro request sent
    exact intact request ((member request).mpr ⟨.configReport config,
      (handle_command_config host fd command state config).mpr ⟨same, active⟩, sent⟩)
  · intro fit
    refine ⟨fun config same => (fit config same).1, fun request sent => ?_⟩
    rcases (member request).mp sent with ⟨znp, passed, sent⟩
    by_cases isConfig : ∃ config, znp = .configReport config
    · rcases isConfig with ⟨config, rfl⟩
      rcases (handle_command_config host fd command state config).mp passed with ⟨same, active⟩
      have few := (fit config same).1
      exact (config_report_carried_iff heap later (by omega)).mpr ((fit config same).2 active)
        request sent
    · exact app_process_carried (fun config same => isConfig ⟨config, same⟩) sent

/-- The bytes that a record takes up in the command. -/
def reportRecSize (direction dataType : UInt8) : Nat :=
  3 +
    if direction = zclSendAttrReports then
      5 + if zclAnalogDataType dataType then zclGetDataTypeLength dataType else 0
    else 2

/-- The bytes that the records of a frame, ten bytes apart in it, take up in the command. -/
def reportsSize (frame : List UInt8) : Nat :=
  ((List.range (frame.getD 20 0).toNat).map fun index =>
    reportRecSize (frame.getD (21 + 10 * index) 0) (frame.getD (24 + 10 * index) 0)).sum

def frameIeee (frame : List UInt8) : UInt64 :=
  bytebufferGetquadword (readBytes (frame.getD · 0) 9 8)

structure ReportsFit (frame : List UInt8) (gw later : Gateway) : Prop where
  few : (frame.getD 20 0).toNat ≤ 10
  fits : isDeviceDeleted gw (frameIeee frame) = false →
    (gatewayGetdevice later (frameIeee frame)).isSome → 3 + reportsSize frame ≤ 128

theorem else_of_ne {Item : Type} {condition : Prop} [Decidable condition] {first second item : Item}
    (value : (if condition then first else second) = item) (differ : first ≠ item) :
    second = item := by
  split_ifs at value
  · exact absurd value differ
  · exact value

theorem message_case_config_report (messageid : UInt16) :
    messageCase messageid = .configReport ↔ messageid = configReport := by
  constructor
  · intro isConfig
    unfold messageCase at isConfig
    -- fourteen cases come before it, one behind it
    iterate 14 replace isConfig := else_of_ne isConfig (by decide)
    by_contra differ
    rw [if_neg differ] at isConfig
    exact absurd (else_of_ne isConfig (by decide)) (by decide)
  · rintro rfl
    rfl

theorem parse_command_config (host : Host) (messageid : UInt16) (messagelen : UInt32)
    (memory : Memory) (config : ConfigReporting) :
    (parseCommand host messageid messagelen).value memory = .configReporting config ↔
      messageid = configReport ∧
        (protocolParseConfigReporting messagelen.toUInt16).value memory = config := by
  rw [← message_case_config_report, parseCommand]
  cases messageCase messageid with
  | configReport => exact ⟨fun same => ⟨rfl, Command.configReporting.inj same⟩,
      fun same => congrArg Command.configReporting same.2⟩
  | _ => exact ⟨fun same => Command.noConfusion same, fun same => by cases same.1⟩

theorem report_rec_len_at (len : UInt16) (memory : Memory) (address : Nat) :
    reportRecLen (cfgReportRec (recodAt len memory address)) =
      reportRecSize (memory address) (memory (address + 3)) := rfl

/-- The fields of a reporting configuration that decide, in terms of the bytes of its frame. -/
theorem config_of_frame (host : Host) (frame : List UInt8) (len : UInt16)
    (few : (frame.getD 20 0).toNat ≤ 10) :
    let config := (protocolParseConfigReporting len).value (bufferMemory host (localBuffer frame))
    config.ieee = frameIeee frame ∧
      ((config.attrList.map cfgReportRec).map reportRecLen).sum = reportsSize frame := by
  intro config
  have recods := (config_reporting_records len (bufferMemory host (localBuffer frame))).2
  have byte {address : Nat} (inside : address < 1024) := buffer_memory_getD host frame inside
  constructor
  · change bytebufferGetquadword (readBytes (bufferMemory host (localBuffer frame)) 9 8) = _
    have same : ∀ index < 8, bufferMemory host (localBuffer frame) (9 + index) =
        frame.getD (9 + index) 0 := fun index inside => byte (by omega)
    rw [frameIeee]
    exact congrArg bytebufferGetquadword (read_bytes_congr same)
  · rw [recods, byte (by decide), List.map_map, List.map_map, reportsSize]
    congr 1
    apply List.map_congr_left
    intro index member
    have inside := List.mem_range.mp member
    rw [Function.comp_apply, Function.comp_apply, report_rec_len_at]
    rw [byte (by omega), byte (by omega)]
    congr 2
    omega

/-- Whatever frame is handed to the switch, as every accepted one is: unless it is a `CONFIG_REPORT`
it leads to intact commands only, and if it is, exactly if its records are not too many and fit. For
`zcl_sendcommand` itself it is the length alone that matters, whatever the flags, the manufacturer
code and the payload. -/
theorem sent_frames_intact_iff (host : Host) (fd : Int) (heap : Memory) (state : MainState)
    (later : Gateway) (messageid : UInt16) (messagelen : UInt32) (frame : List UInt8) :
    (∀ args : SendArgs, args.Intact ↔
      (zclCalcHdrSize args.header).toNat + args.cmdFormat.length ≤ 128) ∧
    (SentIntact
        ((parseCommand host messageid messagelen).value (bufferMemory host (localBuffer frame)))
        (radioRequests heap later (newEffects state
          (eventSwitch host fd messageid messagelen (localBuffer frame) state))) ↔
      (messageid = configReport → ReportsFit frame state.gateway later)) := by
  refine ⟨intact_iff, ?_⟩
  have stated := command_sent_intact_iff host fd heap
    ((parseCommand host messageid messagelen).value (bufferMemory host (localBuffer frame)))
    state later
  rw [commandRequests] at stated
  rw [eventSwitch, stated]
  have records := (config_reporting_records messagelen.toUInt16
    (bufferMemory host (localBuffer frame))).2
  have length : ((protocolParseConfigReporting messagelen.toUInt16).value
      (bufferMemory host (localBuffer frame))).attrList.length = (frame.getD 20 0).toNat := by
    rw [records, List.length_map, List.length_range, buffer_memory_getD host _ (by decide)]
  constructor
  · intro fit isConfig
    obtain ⟨few, fits⟩ := fit _ ((parse_command_config host _ _ _ _).mpr ⟨isConfig, rfl⟩)
    rw [length] at few
    obtain ⟨ieee, size⟩ := config_of_frame host frame messagelen.toUInt16 few
    rw [ieee, size] at fits
    exact ⟨few, fits⟩
  · intro fit config parsed
    obtain ⟨isConfig, rfl⟩ := (parse_command_config host _ _ _ _).mp parsed
    obtain ⟨few, fits⟩ := fit isConfig
    obtain ⟨ieee, size⟩ := config_of_frame host frame messagelen.toUInt16 few
    rw [length, ieee, size]
    exact ⟨few, fits⟩

def eightWords : List UInt8 :=
  reportFrame 8
    ((List.replicate 8 [0x00, 0x00, 0x00, 0x27, 0x00, 0x01, 0x00, 0x3C, 0x00, 0x00]).flatten ++
      [0x00, 0x00, 0x00, 0x00, 0x00, 0x00, 0x00, 0x05])

theorem eight_words_complete : CompleteFrame configReport eightWords := by
  refine ⟨?_, ?_, ?_, ?_, ?_, ?_⟩ <;> decide +kernel

/-- The frame is accepted, and nothing is stored outside its arrays and blocks; but the command it
leads to has 131 bytes. -/
theorem eight_words_too_long :
    (protocolCheck (afterRead eightWords) illegal).messageid = configReport ∧
      (extraction (afterRead eightWords)).2.1 = eightWords ∧
      (∀ behind, OwnsMemory (configReportAccesses twoContacts twoContacts behind
        ((protocolParseConfigReporting (UInt32.ofNat eightWords.length).toUInt16).value
          (bufferMemory quietHost (localBuffer eightWords))))) ∧
      ¬SentIntact
        ((parseCommand quietHost configReport (UInt32.ofNat eightWords.length)).value
          (bufferMemory quietHost (localBuffer eightWords)))
        (radioRequests (fun _ => 0) twoContacts (newEffects (stateOf twoContacts)
          (eventSwitch quietHost 5 configReport (UInt32.ofNat eightWords.length)
            (localBuffer eightWords) (stateOf twoContacts)))) := by
  obtain ⟨-, bytes, messageid, -⟩ := after_read_frame eight_words_complete (by decide +kernel)
  refine ⟨messageid, bytes, fun behind => ?_, fun sent => ?_⟩
  · have eight : (eightWords.getD 20 0).toNat = 8 := by decide +kernel
    have room : ∀ index ∈ List.range 8,
        33 + 10 * index + storedLength (eightWords.getD (24 + 10 * index) 0) ≤
          eightWords.length := by decide +kernel
    rw [owns_memory_frame_iff _ _ _ _ _ (by decide +kernel)]
    exact ⟨eight.trans_le (by decide),
      fun index inside _ => room index (List.mem_range.mpr (eight ▸ inside))⟩
  · have parsed := (parse_command_config quietHost configReport
      (UInt32.ofNat eightWords.length) (bufferMemory quietHost (localBuffer eightWords)) _).mpr
        ⟨rfl, rfl⟩
    obtain ⟨-, fits⟩ := (command_sent_intact_iff quietHost 5 (fun _ => 0) _ (stateOf twoContacts)
      twoContacts).mp sent _ parsed
    obtain ⟨ieee, size⟩ := config_of_frame quietHost eightWords
      (UInt32.ofNat eightWords.length).toUInt16 (by decide +kernel)
    rw [ieee, size] at fits
    have active : isDeviceDeleted (stateOf twoContacts).gateway (frameIeee eightWords) = false := by
      decide +kernel
    have known : (gatewayGetdevice twoContacts (frameIeee eightWords)).isSome = true := by
      decide +kernel
    exact absurd (fits active known) (by decide +kernel)

end SmartHome.OutgoingFrames
