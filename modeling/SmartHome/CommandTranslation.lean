import SmartHome.DownCommand
import SmartHome.EventRecvmsg

/-!
# From command frames to ZCL commands

What a command frame asks for and what the ZigBee side has to be told, both as lists
of arguments: a frame carries them most significant byte first, a ZCL payload least
significant byte first. The chain from the parser to `zcl_sendcommand` translates the
one into the other.
-/

namespace SmartHome.CommandTranslation

open SmartHome.Library.Bytes
open SmartHome.Library.MemoryCursor
open SmartHome.Bytebuffer
open SmartHome.WireScan
open SmartHome.Registry
open SmartHome.PipeMessages
open SmartHome.Effects
open SmartHome.Encode
open SmartHome.Zcl
open SmartHome.Parse
open SmartHome.Receive
open SmartHome.EventRecvmsg
open SmartHome.DownCommand

set_option autoImplicit false

inductive Argument
  | byte (value : UInt8)
  | word (value : UInt16)

def bigEndian : Argument → List UInt8
  | .byte value => [value]
  | .word value => toBytesBE 2 value.toNat

def littleEndian : Argument → List UInt8
  | .byte value => [value]
  | .word value => toBytesLE 2 value.toNat

inductive LevelCommand
  | moveToLevel (level : UInt8) (transTime : UInt16)
  | move (moveMode rate : UInt8)
  | step (stepMode stepSize : UInt8) (transTime : UInt16)
  | stop

def LevelCommand.arguments : LevelCommand → List Argument
  | .moveToLevel level transTime => [.byte level, .word transTime]
  | .move moveMode rate => [.byte moveMode, .byte rate]
  | .step stepMode stepSize transTime => [.byte stepMode, .byte stepSize, .word transTime]
  | .stop => []

/-- The variants with on/off follow the four plain commands. -/
def LevelCommand.commandId (command : LevelCommand) (withOnOff : Bool) : UInt8 :=
  (match command with
    | .moveToLevel .. => 0
    | .move .. => 1
    | .step .. => 2
    | .stop => 3) + if withOnOff then 4 else 0

/-- What a frame asks of a device. A warning keeps to the documented ranges; `otherLevel` is a level
command that the ZCL does not have, with whatever bytes follow it. -/
inductive Downlink
  | identify
  | warning (duration : UInt16) (mode : Fin 7) (strobe : Fin 2) (sirenLevel strobeLevel : Fin 4)
      (strobeDutyCycle : UInt8)
  | onoff (on : UInt8)
  | level (command : LevelCommand) (withOnOff : Bool)
  | otherLevel (zclCmdid : UInt8) (other : 7 < zclCmdid) (rest : List UInt8)
      (fits : rest.length ≤ 1003)
  | readOnoff

namespace Downlink

def messageid : Downlink → UInt16
  | identify => 0x800C
  | warning .. => 0x800D
  | onoff _ => 0x8010
  | level .. => 0x8011
  | otherLevel .. => 0x8011
  | readOnoff => 0x8016

def frameArguments : Downlink → List Argument
  | identify => []
  | warning duration mode strobe sirenLevel strobeLevel strobeDutyCycle =>
      [.word duration, .byte (UInt8.ofNat mode), .byte (UInt8.ofNat strobe),
        .byte (UInt8.ofNat sirenLevel), .byte (UInt8.ofNat strobeLevel), .byte strobeDutyCycle]
  | onoff on => [.byte on]
  | level command withOnOff => .byte (command.commandId withOnOff) :: command.arguments
  | otherLevel zclCmdid _ rest _ => .byte zclCmdid :: rest.map .byte
  | readOnoff => []

end Downlink

def commandFields (serialnum : UInt32) (ieee : UInt64) (endpoint : UInt8) (downlink : Downlink) :
    List UInt8 :=
  bytebufferWritedword serialnum ++ (bytebufferWritequadword ieee ++
    (bytebufferWritebyte endpoint ++ downlink.frameArguments.flatMap bigEndian))

def commandFrame (serialnum : UInt32) (ieee : UInt64) (endpoint : UInt8) (downlink : Downlink) :
    List UInt8 :=
  encodeFrame downlink.messageid (commandFields serialnum ieee endpoint downlink)

structure ZclCommand where
  clusterId : UInt16
  clusterSpecific : Bool
  commandId : UInt8
  arguments : List Argument

def ZclCommand.payload (command : ZclCommand) : List UInt8 :=
  command.arguments.flatMap littleEndian

def ZclCommand.frame (command : ZclCommand) (sequence : UInt8) : List UInt8 :=
  (if command.clusterSpecific then 0x01 else 0x00) :: sequence :: command.commandId ::
    command.payload

/-- What the ZCL has for a request: identify for thirty seconds, start a warning, on or off, the
level command, read the attribute 0x0000. -/
def Downlink.zclCommand : Downlink → Option ZclCommand
  | .identify => some ⟨0x0003, true, 0x00, [.word 30]⟩
  | .warning duration mode strobe sirenLevel strobeLevel strobeDutyCycle =>
      some ⟨0x0502, true, 0x00,
        [.byte (UInt8.ofNat (mode + 16 * strobe + 64 * sirenLevel)), .word duration,
          .byte strobeDutyCycle, .byte (UInt8.ofNat strobeLevel)]⟩
  | .onoff on => some ⟨0x0006, true, if on = 0 then 0x00 else 0x01, []⟩
  | .level command withOnOff => some ⟨0x0008, true, command.commandId withOnOff, command.arguments⟩
  | .otherLevel .. => none
  | .readOnoff => some ⟨0x0006, false, 0x00, [.word 0x0000]⟩

/-- The endpoint of the gateway that speaks for the cluster. -/
def Downlink.srcEndpoint : Downlink → UInt8
  | .level .. | .otherLevel .. => 2
  | _ => 1

/-- Warnings go to the network address in the endpoint's descriptor, the rest to the device's. -/
def Downlink.dstAddr (d : Device) (ep : Endpoint) : Downlink → UInt16
  | .warning .. => ep.simpledesc.simpledesc.nwkAddr
  | _ => d.shortaddr

def dataRequest (serialnum : UInt32) (endpoint : UInt8) (d : Device) (ep : Endpoint)
    (downlink : Downlink) (command : ZclCommand) : DataRequest where
  dstAddr := downlink.dstAddr d ep
  dstEndpoint := endpoint
  srcEndpoint := downlink.srcEndpoint
  clusterID := command.clusterId
  transID := 0
  options := 0
  radius := 0
  len := UInt8.ofNat (command.frame serialnum.toUInt8).length
  data := command.frame serialnum.toUInt8

theorem little_endian_byte (value : UInt8) : littleEndian (.byte value) = [value] := rfl

theorem little_endian_word (value : UInt16) :
    littleEndian (.word value) = [loUint16 value, hiUint16 value] := by
  have bound : value.toNat < 65536 := value.toNat_lt
  rw [littleEndian, toBytesLE, toBytesLE, toBytesLE, List.cons.injEq, List.cons.injEq]
  refine ⟨UInt8.toNat_inj.mp ?_, UInt8.toNat_inj.mp ?_, rfl⟩
  · rw [lo_uint16_toNat, UInt8.toNat_ofNat']
  · rw [hi_uint16_toNat, UInt8.toNat_ofNat']
    omega

theorem zcl_build_hdr_eq (specific : Bool) (seqNum cmd : UInt8) :
    zclBuildHdr
        { type := if specific then 1 else 0
          manuspecific := 0
          direction := 0
          disabledefaultrsp := 0
          manucode := 0
          transseqnum := seqNum
          commandid := cmd } =
      [if specific then 0x01 else 0x00, seqNum, cmd] := by
  cases specific <;> simp [zclBuildHdr, bitField]

theorem zcl_sendcommand_eq (srcEP dstEp : UInt8) (dstaddr clusterID : UInt16) (cmd : UInt8)
    (specific : Bool) (seqNum : UInt8) (cmdFormat : List UInt8)
    (short : cmdFormat.length + 3 < 65536) :
    zclSendcommand srcEP dstEp dstaddr clusterID cmd specific 0 0 0 seqNum cmdFormat =
      { dstAddr := dstaddr
        dstEndpoint := dstEp
        srcEndpoint := srcEP
        clusterID := clusterID
        transID := 0
        options := 0
        radius := 0
        len := UInt8.ofNat (cmdFormat.length + 3)
        data := (if specific then 0x01 else 0x00) :: seqNum :: cmd :: cmdFormat } := by
  have type : (if specific then zclFrameTypeSpecificCmd
      else zclFrameTypeProfileCmd).toBitVec.setWidth 2 = if specific then 1 else 0 := by
    cases specific <;> rfl
  have direction : zclFrameClientServerDir.toBitVec.setWidth 1 = 0 := rfl
  have three : (UInt8.toUInt16 3).toNat = 3 := rfl
  have msgLen : (UInt8.toUInt16 3 + UInt16.ofNat cmdFormat.length).toNat =
      cmdFormat.length + 3 := by
    rw [UInt16.toNat_add, UInt16.toNat_ofNat', three]
    omega
  have len : (UInt8.toUInt16 3 + UInt16.ofNat cmdFormat.length).toUInt8 =
      UInt8.ofNat (cmdFormat.length + 3) := by
    rw [← msgLen]
    rfl
  simp only [zclSendcommand, zclCalcHdrSize, type, direction, ne_eq, not_true_eq_false, if_false,
    zcl_build_hdr_eq, len, msgLen]
  rw [List.take_of_length_le (by simp)]
  rfl

structure CommandFields (memory : Memory) (serialnum : UInt32) (ieee : UInt64) (endpoint : UInt8)
    (arguments : List UInt8) : Prop where
  serialnum : bytebufferGetdword (readBytes memory 5 4) = serialnum
  ieee : bytebufferGetquadword (readBytes memory 9 8) = ieee
  endpoint : memory 17 = endpoint
  arguments : Holds memory 18 arguments

section Fields

variable {memory : Memory} {address : Nat}

theorem getword_held {value : UInt16}
    (held : Holds memory address (bytebufferWriteword value)) :
    bytebufferGetword (readBytes memory address 2) = value := by
  rw [held.read_length (bytebuffer_writeword_length value), ← List.append_nil (bytebufferWriteword _),
    bytebuffer_getword_writeword]

theorem getdword_held {value : UInt32}
    (held : Holds memory address (bytebufferWritedword value)) :
    bytebufferGetdword (readBytes memory address 4) = value := by
  rw [held.read_length (bytebuffer_writedword_length value), bytebuffer_getdword_writedword]

theorem getquadword_held {value : UInt64}
    (held : Holds memory address (bytebufferWritequadword value)) :
    bytebufferGetquadword (readBytes memory address 8) = value := by
  rw [held.read_length (bytebuffer_writequadword_length value),
    bytebuffer_getquadword_writequadword]

end Fields

theorem frame_fields_held (host : Host) (id : UInt16) (fields : List UInt8) :
    Holds (bufferMemory host (localBuffer (encodeFrame id fields))) 5 fields := by
  have held := buffer_memory_frame host (encodeFrame id fields)
  rw [encode_frame_eq, closeFrame, List.append_assoc, List.append_assoc, holds_append,
    holds_append, header_length, ← List.append_assoc, ← List.append_assoc, ← closeFrame,
    ← encode_frame_eq] at held
  exact held.2.1

theorem command_fields_held (host : Host) (serialnum : UInt32) (ieee : UInt64) (endpoint : UInt8)
    (downlink : Downlink) :
    CommandFields
      (bufferMemory host (localBuffer (commandFrame serialnum ieee endpoint downlink))) serialnum
      ieee endpoint (downlink.frameArguments.flatMap bigEndian) := by
  have held := frame_fields_held host downlink.messageid
    (commandFields serialnum ieee endpoint downlink)
  rw [← commandFrame, commandFields, holds_append, holds_append, holds_append] at held
  simp only [bytebuffer_writedword_length, bytebuffer_writequadword_length,
    bytebuffer_writebyte_length] at held
  rcases held with ⟨serialnumHeld, ieeeHeld, endpointHeld, argumentsHeld⟩
  exact ⟨getdword_held serialnumHeld, getquadword_held ieeeHeld, endpointHeld.1, argumentsHeld⟩

section Parsers

variable {memory : Memory} {serialnum : UInt32} {ieee : UInt64} {endpoint : UInt8}

theorem parse_identify {arguments : List UInt8}
    (fields : CommandFields memory serialnum ieee endpoint arguments) :
    protocolParseIdentify.value memory = ⟨ieee, ⟨endpoint, serialnum⟩⟩ := by
  change IdentifyIeee.mk (bytebufferGetquadword (readBytes memory 9 8))
    ⟨memory 17, bytebufferGetdword (readBytes memory 5 4)⟩ = _
  rw [fields.serialnum, fields.ieee, fields.endpoint]

theorem parse_get_onoff_state {arguments : List UInt8}
    (fields : CommandFields memory serialnum ieee endpoint arguments) :
    protocolParseGetOnoffState.value memory = ⟨ieee, serialnum, endpoint⟩ := by
  change GetOnoffState.mk (bytebufferGetquadword (readBytes memory 9 8))
    (bytebufferGetdword (readBytes memory 5 4)) (memory 17) = _
  rw [fields.serialnum, fields.ieee, fields.endpoint]

theorem parse_onoff {on : UInt8}
    (fields : CommandFields memory serialnum ieee endpoint [on]) :
    protocolParseOnoff.value memory = ⟨ieee, serialnum, endpoint, on⟩ := by
  change OnoffIeee.mk (bytebufferGetquadword (readBytes memory 9 8))
    (bytebufferGetdword (readBytes memory 5 4)) (memory 17) (memory 18) = _
  rw [fields.serialnum, fields.ieee, fields.endpoint, fields.arguments.1]

theorem parse_warning {duration : UInt16} {mode strobe sirenLevel strobeLevel dutyCycle : UInt8}
    (fields : CommandFields memory serialnum ieee endpoint
      (bytebufferWriteword duration ++ [mode, strobe, sirenLevel, strobeLevel, dutyCycle])) :
    protocolParseWarning.value memory =
      ⟨ieee, serialnum, endpoint, mode.toBitVec.setWidth 4, strobe.toBitVec.setWidth 2,
        sirenLevel.toBitVec.setWidth 2, duration, dutyCycle, strobeLevel⟩ := by
  have held := fields.arguments
  rw [holds_append, bytebuffer_writeword_length] at held
  rcases held with ⟨durationHeld, modeHeld, strobeHeld, sirenHeld, levelHeld, cycleHeld, -⟩
  change WarningIeee.mk (bytebufferGetquadword (readBytes memory 9 8))
    ⟨bytebufferGetdword (readBytes memory 5 4), memory 17,
      (memory 20).toBitVec.setWidth 4, (memory 21).toBitVec.setWidth 2,
        (memory 22).toBitVec.setWidth 2, bytebufferGetword (readBytes memory 18 2), memory 24,
        memory 23⟩ = _
  rw [fields.serialnum, fields.ieee, fields.endpoint, getword_held durationHeld, modeHeld,
    strobeHeld, sirenHeld, levelHeld, cycleHeld]

def LevelCommand.stored (stack : LevelCtrlCmd) : LevelCommand → LevelCtrlCmd
  | .moveToLevel level transTime => setMove2level stack level transTime
  | .move moveMode rate => setMove stack moveMode rate
  | .step stepMode stepSize transTime => setStep stepMode stepSize transTime
  | .stop => stack

theorem parse_level_ctrl {zclCmdid : UInt8} {arguments : List UInt8} (stack : LevelCtrlCmd)
    (fields : CommandFields memory serialnum ieee endpoint (zclCmdid :: arguments)) :
    (protocolParseLevelCtrl stack).value memory =
      ⟨ieee, serialnum, endpoint, zclCmdid,
        ((parseLevelCtrlCmd stack zclCmdid).runFrom memory ⟨19, 19⟩).1⟩ := by
  change LevelCtrlIeee.mk (bytebufferGetquadword (readBytes memory 9 8))
    (bytebufferGetdword (readBytes memory 5 4)) (memory 17) (memory 18)
    ((parseLevelCtrlCmd stack (memory 18)).runFrom memory ⟨19, 19⟩).1 = _
  rw [fields.serialnum, fields.ieee, fields.endpoint, fields.arguments.1]

theorem parse_level_ctrl_cmd (stack : LevelCtrlCmd) (command : LevelCommand) (withOnOff : Bool)
    (held : Holds memory 19 (command.arguments.flatMap bigEndian)) :
    ((parseLevelCtrlCmd stack (command.commandId withOnOff)).runFrom memory ⟨19, 19⟩).1 =
      command.stored stack := by
  -- the two variants of a command share its case label
  have chosen : parseLevelCtrlCmd stack (command.commandId withOnOff) =
      parseLevelCtrlCmd stack (command.commandId false) := by
    cases command <;> cases withOnOff <;> rfl
  rw [chosen]
  cases command with
  | moveToLevel level transTime =>
      have levelHeld : memory 19 = level := held.1
      have timeHeld : Holds memory 20 (bytebufferWriteword transTime) := held.2
      change setMove2level stack (memory 19) (bytebufferGetword (readBytes memory 20 2)) = _
      rw [levelHeld, getword_held timeHeld]
      rfl
  | move moveMode rate =>
      have modeHeld : memory 19 = moveMode := held.1
      have rateHeld : memory 20 = rate := held.2.1
      change setMove stack (memory 19) (memory 20) = _
      rw [modeHeld, rateHeld]
      rfl
  | step stepMode stepSize transTime =>
      have modeHeld : memory 19 = stepMode := held.1
      have sizeHeld : memory 20 = stepSize := held.2.1
      have timeHeld : Holds memory 21 (bytebufferWriteword transTime) := held.2.2
      change setStep (memory 19) (memory 20) (bytebufferGetword (readBytes memory 21 2)) = _
      rw [modeHeld, sizeHeld, getword_held timeHeld]
      rfl
  | stop => rfl

end Parsers

def afterCommand (host : Host) (fd : Int) (state : MainState) (serialnum : UInt32) (ieee : UInt64)
    (endpoint : UInt8) (downlink : Downlink) : MainState :=
  eventSwitch host fd downlink.messageid
    (UInt32.ofNat (commandFrame serialnum ieee endpoint downlink).length)
    (localBuffer (commandFrame serialnum ieee endpoint downlink)) state

def newEffects (before after : MainState) : List Effect :=
  after.effects.drop before.effects.length

@[simp] theorem new_effects_act (state : MainState) (effects : List Effect) :
    newEffects state (state.act effects) = effects := List.drop_left

theorem pass_on_active {ieee : UInt64} (command : ZnpCommand) {state : MainState} {d : Device}
    (found : gatewayGetdevice state.gateway ieee = some d)
    (active : deviceCheckStatus d deviceAppDel = false) :
    passOn ieee command state = state.act [.pipe command] := by
  rw [passOn, (is_device_deleted_eq_false state.gateway ieee).mpr ⟨d, found, active⟩]
  rfl

/-- The three fields share the byte without overlap. -/
theorem start_warning_byte (mode : Fin 7) (strobe : Fin 2) (sirenLevel : Fin 4)
    (duration : UInt16) (strobeDutyCycle strobeLevel : UInt8) :
    (StartWarning.mk ((UInt8.ofNat mode).toBitVec.setWidth 4)
      ((UInt8.ofNat strobe).toBitVec.setWidth 2) ((UInt8.ofNat sirenLevel).toBitVec.setWidth 2)
      duration strobeDutyCycle strobeLevel).warningbyte =
    UInt8.ofNat (mode + 16 * strobe + 64 * sirenLevel) := by
  have packed : ∀ (mode : Fin 7) (strobe : Fin 2) (sirenLevel : Fin 4),
      ((UInt8.ofNat sirenLevel).toBitVec.setWidth 2 ++ (UInt8.ofNat strobe).toBitVec.setWidth 2 ++
        (UInt8.ofNat mode).toBitVec.setWidth 4) =
      (UInt8.ofNat (mode + 16 * strobe + 64 * sirenLevel)).toBitVec := by
    decide
  exact congrArg UInt8.ofBitVec (packed mode strobe sirenLevel)

/-- The request that is expected is the one `zcl_sendcommand` builds from the ZCL command. -/
theorem data_request_eq (serialnum : UInt32) (endpoint : UInt8) (d : Device) (ep : Endpoint)
    (downlink : Downlink) (command : ZclCommand) (short : command.payload.length ≤ 125) :
    dataRequest serialnum endpoint d ep downlink command =
      zclSendcommand downlink.srcEndpoint endpoint (downlink.dstAddr d ep) command.clusterId
        command.commandId command.clusterSpecific 0 0 0 serialnum.toUInt8 command.payload := by
  rw [zcl_sendcommand_eq _ _ _ _ _ _ _ _ (by omega)]
  rfl

theorem level_ctrl_request (shortAddr : UInt16) (ieee : UInt64) (serialnum : UInt32)
    (endpoint : UInt8) (stack : LevelCtrlCmd) (command : LevelCommand) (withOnOff : Bool) :
    levelCtrlRequest ⟨shortAddr, endpoint⟩
        ⟨ieee, serialnum, endpoint, command.commandId withOnOff, command.stored stack⟩ =
      some (zclSendcommand 2 endpoint shortAddr 0x0008 (command.commandId withOnOff) true 0 0 0
        serialnum.toUInt8 (command.arguments.flatMap littleEndian)) := by
  cases command with
  | moveToLevel level transTime =>
      have request : levelCtrlRequest ⟨shortAddr, endpoint⟩
          ⟨ieee, serialnum, endpoint, (LevelCommand.moveToLevel level transTime).commandId withOnOff,
            (LevelCommand.moveToLevel level transTime).stored stack⟩ =
          some (zclSendcommand 2 endpoint shortAddr 0x0008
            ((LevelCommand.moveToLevel level transTime).commandId withOnOff) true 0 0 0
            serialnum.toUInt8
            [level, loUint16 (buildUint16 (loUint16 transTime) (hiUint16 transTime)),
              hiUint16 (buildUint16 (loUint16 transTime) (hiUint16 transTime))]) := by
        cases withOnOff <;> rfl
      rw [request, build_uint16_lo_hi, LevelCommand.arguments]
      rw [List.flatMap_cons, List.flatMap_cons, List.flatMap_nil, little_endian_byte,
        little_endian_word, List.singleton_append, List.append_nil]
  | move moveMode rate => cases withOnOff <;> rfl
  | step stepMode stepSize transTime =>
      have request : levelCtrlRequest ⟨shortAddr, endpoint⟩
          ⟨ieee, serialnum, endpoint,
            (LevelCommand.step stepMode stepSize transTime).commandId withOnOff,
            (LevelCommand.step stepMode stepSize transTime).stored stack⟩ =
          some (zclSendcommand 2 endpoint shortAddr 0x0008
            ((LevelCommand.step stepMode stepSize transTime).commandId withOnOff) true 0 0 0
            serialnum.toUInt8
            [stepMode, stepSize, loUint16 (buildUint16 (loUint16 transTime) (hiUint16 transTime)),
              hiUint16 (buildUint16 (loUint16 transTime) (hiUint16 transTime))]) := by
        cases withOnOff <;> rfl
      rw [request, build_uint16_lo_hi, LevelCommand.arguments]
      rw [List.flatMap_cons, List.flatMap_cons, List.flatMap_cons, List.flatMap_nil,
        little_endian_byte, little_endian_byte, little_endian_word, List.singleton_append,
        List.singleton_append, List.append_nil]
  | stop => cases withOnOff <;> rfl

theorem level_ctrl_request_other (addrtype : AfAddr) {levelCtrl : LevelCtrlIeee}
    (other : 7 < levelCtrl.zclCmdid) : levelCtrlRequest addrtype levelCtrl = none := by
  have differs : ∀ cmd : UInt8, cmd ≤ 7 → ¬levelCtrl.zclCmdid = cmd := by
    rintro cmd low rfl
    exact absurd other (UInt8.not_lt.mpr low)
  simp only [levelCtrlRequest, differs commandLevelMoveToLevel (by decide),
    differs commandLevelMove (by decide), differs commandLevelStep (by decide),
    differs commandLevelStop (by decide), differs commandLevelMoveToLevelWithOnOff (by decide),
    differs commandLevelMoveWithOnOff (by decide), differs commandLevelStepWithOnOff (by decide),
    differs commandLevelStopWithOnOff (by decide), if_false]

theorem radio_requests_pipe (heap : Memory) (gw : Gateway) (command : ZnpCommand) :
    radioRequests heap gw [.pipe command] = appProcess heap gw command := by
  rw [radioRequests, pipeCommands, List.filterMap_cons, List.filterMap_nil, List.flatMap_cons,
    List.flatMap_nil, List.append_nil]

theorem expected_requests (serialnum : UInt32) (endpoint : UInt8) (d : Device) (ep : Endpoint)
    (downlink : Downlink) (command : ZclCommand) (known : downlink.zclCommand = some command)
    (short : command.payload.length ≤ 125) :
    (downlink.zclCommand.map (dataRequest serialnum endpoint d ep downlink)).toList.map
        RadioRequest.afDataRequest =
      [.afDataRequest (zclSendcommand downlink.srcEndpoint endpoint (downlink.dstAddr d ep)
        command.clusterId command.commandId command.clusterSpecific 0 0 0 serialnum.toUInt8
        command.payload)] := by
  rw [known, ← data_request_eq serialnum endpoint d ep downlink command short]
  rfl

section Chain

variable (host : Host) (fd : Int) (heap : Memory) {state : MainState} {d : Device} {ep : Endpoint}
  {ieee : UInt64} {endpoint : UInt8}

theorem handle_level_ctrl_requests (found : gatewayGetdevice state.gateway ieee = some d)
    (active : deviceCheckStatus d deviceAppDel = false)
    (onIt : deviceGetEndpoint d endpoint = some ep) (serialnum : UInt32) (zclCmdid : UInt8)
    (levelCtrlCmd : LevelCtrlCmd) :
    let after := handleLevelCtrl ⟨ieee, serialnum, endpoint, zclCmdid, levelCtrlCmd⟩ state
    radioRequests heap after.gateway (newEffects state after) =
      (levelCtrlRequest ⟨d.shortaddr, endpoint⟩
        ⟨ieee, serialnum, endpoint, zclCmdid, levelCtrlCmd⟩).toList.map .afDataRequest := by
  intro after
  have reached : gatewayGetEndpoint state.gateway ieee endpoint = some ep :=
    (gateway_get_endpoint_eq found endpoint).trans onIt
  have result : after = (state.withGateway (modifyDevice state.gateway ieee
      (modifyEndpoint · endpoint (setDeviceState · (move2levelLevel levelCtrlCmd))))).act
        [.pipe (.levelCtrl ⟨ieee, serialnum, endpoint, zclCmdid, levelCtrlCmd⟩)] := by
    change handleLevelCtrl _ _ = _
    rw [handleLevelCtrl, (is_device_deleted_eq_false state.gateway ieee).mpr ⟨d, found, active⟩,
      reached]
    rfl
  have kept : gatewayGetdevice after.gateway ieee =
      some (modifyEndpoint d endpoint (setDeviceState · (move2levelLevel levelCtrlCmd))) := by
    rw [result]
    refine (gateway_getdevice_modify state.gateway ieee
      (modifyEndpoint · endpoint (setDeviceState · (move2levelLevel levelCtrlCmd)))
      fun _ => rfl).trans ?_
    rw [found]
    rfl
  have effects : newEffects state after =
      [.pipe (.levelCtrl ⟨ieee, serialnum, endpoint, zclCmdid, levelCtrlCmd⟩)] := by
    rw [result]
    exact List.drop_left
  rw [effects, radio_requests_pipe, appProcess, zclDownCmdLevelCtrl, kept]
  rfl

theorem after_identify (found : gatewayGetdevice state.gateway ieee = some d)
    (active : deviceCheckStatus d deviceAppDel = false) (serialnum : UInt32) :
    afterCommand host fd state serialnum ieee endpoint .identify =
      state.act [.pipe (.identify ⟨ieee, endpoint, serialnum⟩)] := by
  change handleCommand host fd (.identify (protocolParseIdentify.value _)) state = _
  rw [parse_identify (command_fields_held host serialnum ieee endpoint .identify)]
  exact pass_on_active _ found active

theorem after_warning (found : gatewayGetdevice state.gateway ieee = some d)
    (active : deviceCheckStatus d deviceAppDel = false) (serialnum : UInt32) (duration : UInt16)
    (mode : Fin 7) (strobe : Fin 2) (sirenLevel strobeLevel : Fin 4) (strobeDutyCycle : UInt8) :
    afterCommand host fd state serialnum ieee endpoint
        (.warning duration mode strobe sirenLevel strobeLevel strobeDutyCycle) =
      state.act
        [.pipe (.warning ⟨ieee, serialnum, endpoint, (UInt8.ofNat mode).toBitVec.setWidth 4,
            (UInt8.ofNat strobe).toBitVec.setWidth 2, (UInt8.ofNat sirenLevel).toBitVec.setWidth 2,
            duration, strobeDutyCycle, UInt8.ofNat strobeLevel⟩),
          .send fd (protocolEncodeWarningResponse ⟨ieee, serialnum, 0, endpoint, 0, 0⟩)] := by
  change handleCommand host fd (.warning (protocolParseWarning.value _)) state = _
  rw [parse_warning (command_fields_held host serialnum ieee endpoint
      (.warning duration mode strobe sirenLevel strobeLevel strobeDutyCycle)),
    handleCommand, handleWarning,
    (is_device_deleted_eq_false state.gateway ieee).mpr ⟨d, found, active⟩]
  rfl

theorem after_onoff (found : gatewayGetdevice state.gateway ieee = some d)
    (active : deviceCheckStatus d deviceAppDel = false) (serialnum : UInt32) (on : UInt8) :
    afterCommand host fd state serialnum ieee endpoint (.onoff on) =
      state.act [.pipe (.onoff ⟨ieee, serialnum, endpoint, on⟩)] := by
  change handleCommand host fd (.onoff (protocolParseOnoff.value _)) state = _
  rw [parse_onoff (command_fields_held host serialnum ieee endpoint (.onoff on))]
  exact pass_on_active _ found active

theorem after_read_onoff (found : gatewayGetdevice state.gateway ieee = some d)
    (active : deviceCheckStatus d deviceAppDel = false) (serialnum : UInt32) :
    afterCommand host fd state serialnum ieee endpoint .readOnoff =
      state.act [.pipe (.readOnoff ⟨ieee, serialnum, endpoint⟩)] := by
  change handleCommand host fd (.getOnoffState (protocolParseGetOnoffState.value _)) state = _
  rw [parse_get_onoff_state (command_fields_held host serialnum ieee endpoint .readOnoff)]
  exact pass_on_active _ found active

theorem after_level (serialnum : UInt32) (command : LevelCommand) (withOnOff : Bool) :
    afterCommand host fd state serialnum ieee endpoint (.level command withOnOff) =
      handleLevelCtrl ⟨ieee, serialnum, endpoint, command.commandId withOnOff,
        command.stored host.levelStack⟩ state := by
  have fields := command_fields_held host serialnum ieee endpoint (.level command withOnOff)
  change handleLevelCtrl ((protocolParseLevelCtrl host.levelStack).value _) state = _
  rw [parse_level_ctrl host.levelStack fields,
    parse_level_ctrl_cmd host.levelStack command withOnOff fields.arguments.2]

/-- Every command frame for an active device and one of its endpoints makes the radio send exactly
the ZCL command it asks for, and nothing when there is none. -/
theorem downlink_translated (found : gatewayGetdevice state.gateway ieee = some d)
    (active : deviceCheckStatus d deviceAppDel = false)
    (onIt : deviceGetEndpoint d endpoint = some ep) (serialnum : UInt32) (downlink : Downlink) :
    let after := afterCommand host fd state serialnum ieee endpoint downlink
    radioRequests heap after.gateway (newEffects state after) =
      (downlink.zclCommand.map (dataRequest serialnum endpoint d ep downlink)).toList.map
        .afDataRequest := by
  intro after
  cases downlink with
  | identify =>
      have result : after = _ := after_identify host fd found active serialnum
      rw [result, new_effects_act, radio_requests_pipe, appProcess, zclDownCmdIdentify,
        MainState.act_gateway, found,
        expected_requests serialnum endpoint d ep .identify _ rfl (by decide)]
      rfl
  | warning duration mode strobe sirenLevel strobeLevel strobeDutyCycle =>
      have result : after = _ := after_warning host fd found active serialnum duration mode strobe
        sirenLevel strobeLevel strobeDutyCycle
      have reached : gatewayGetEndpoint state.gateway ieee endpoint = some ep :=
        (gateway_get_endpoint_eq found endpoint).trans onIt
      have fits : 5 ≤ 125 := by decide
      rw [result, new_effects_act,
        expected_requests serialnum endpoint d ep (.warning duration mode strobe sirenLevel
          strobeLevel strobeDutyCycle) _ rfl fits]
      change zclDownCmdWarning state.gateway ieee _ ++ [] = _
      rw [List.append_nil, zclDownCmdWarning, reached]
      change [RadioRequest.afDataRequest (zclssSendIasWdStartWarningCmd _ _ _ _ _ _)] = _
      rw [zclssSendIasWdStartWarningCmd, start_warning_byte, ZclCommand.payload]
      simp only [List.flatMap_cons, List.flatMap_nil, little_endian_word, little_endian_byte,
        List.append_nil, List.cons_append, List.nil_append]
      rfl
  | onoff on =>
      have result : after = _ := after_onoff host fd found active serialnum on
      have fits : 0 ≤ 125 := by decide
      rw [result, new_effects_act, radio_requests_pipe, appProcess, zclDownCmdOnoff,
        MainState.act_gateway, found,
        expected_requests serialnum endpoint d ep (.onoff on) _ rfl fits]
      by_cases off : on = 0
      · subst off
        rfl
      · rw [if_neg off]
        exact if_pos off
  | level command withOnOff =>
      have result : after = _ := after_level host fd serialnum command withOnOff
      have fits : (command.arguments.flatMap littleEndian).length ≤ 125 := by
        cases command <;> simp [LevelCommand.arguments, littleEndian]
      rw [result, handle_level_ctrl_requests heap found active onIt, level_ctrl_request,
        expected_requests serialnum endpoint d ep (.level command withOnOff) _ rfl fits]
      rfl
  | otherLevel zclCmdid other rest fits =>
      have fields := command_fields_held host serialnum ieee endpoint
        (.otherLevel zclCmdid other rest fits)
      have result : after = handleLevelCtrl
          ((protocolParseLevelCtrl host.levelStack).value _) state := rfl
      rw [result, parse_level_ctrl host.levelStack fields,
        handle_level_ctrl_requests heap found active onIt, level_ctrl_request_other _ other]
      rfl
  | readOnoff =>
      have result : after = _ := after_read_onoff host fd found active serialnum
      rw [result, new_effects_act, radio_requests_pipe, appProcess, zclDownCmdGetOnoff,
        MainState.act_gateway, found,
        expected_requests serialnum endpoint d ep .readOnoff _ rfl (by decide)]
      rfl

end Chain

/-- A step up by sixteen levels, with on/off, over 0x0102 tenths of a second. -/
theorem downlink_translated_step_up :
    let after := afterCommand quietHost 5 (stateOf twoContacts) 0x01020304 0x00137A00000156D3 2
      (.level (.step 0 16 0x0102) true)
    radioRequests (fun _ => 0) after.gateway (newEffects (stateOf twoContacts) after) =
      [.afDataRequest ⟨1, 2, 2, 0x0008, 0, 0, 0, 7, [0x01, 0x04, 0x06, 0, 16, 0x02, 0x01]⟩] := by
  have found : gatewayGetdevice (stateOf twoContacts).gateway 0x00137A00000156D3 =
      some (contactSwitch 0x00137A00000156D3 0) := rfl
  have active : deviceCheckStatus (contactSwitch 0x00137A00000156D3 0) deviceAppDel = false := rfl
  have onIt : deviceGetEndpoint (contactSwitch 0x00137A00000156D3 0) 2 = some contactEndpoint := rfl
  exact downlink_translated quietHost 5 (fun _ => 0) found active onIt 0x01020304
    (.level (.step 0 16 0x0102) true)

end SmartHome.CommandTranslation
