import SmartHome.System

/-!
# Answers from devices

`zcl_proccessincomingmessage` for the clusters in which devices answer switching and level
commands. The handler reads the ZCL header, looks the sender up, and writes a message for
the main thread with the header's sequence number as the serial number.
-/

namespace SmartHome.ZclIncoming

open SmartHome.Library.Bytes
open SmartHome.Bytebuffer
open SmartHome.Registry
open SmartHome.PipeMessages
open SmartHome.Zcl
open SmartHome.System

set_option autoImplicit false

def zclCmdReadRsp : UInt8 := 0x01
def zclCmdDefaultRsp : UInt8 := 0x0b

/-- `IncomingMsgFormat_t`, as far as these handlers read it. -/
structure IncomingMsg where
  clusterId : UInt16
  srcAddr : UInt16
  srcEndpoint : UInt8
  len : UInt8
  data : Memory

def zclParsehdr (data : Memory) : Zclframehdr × Memory :=
  let control := data 0
  let manuspecific : BitVec 1 := control.toBitVec.extractLsb' 2 1
  let manucode : UInt16 := if manuspecific ≠ 0 then buildUint16 (data 1) (data 2) else 0
  let start := if manuspecific ≠ 0 then 3 else 1
  ({ type := control.toBitVec.extractLsb' 0 2
     manuspecific
     direction := control.toBitVec.extractLsb' 3 1
     disabledefaultrsp := control.toBitVec.extractLsb' 4 1
     manucode
     transseqnum := data start
     commandid := data (start + 1) },
    fun address => data (start + 2 + address))

def defaultResponse (d : Device) (message : IncomingMsg) (hdr : Zclframehdr) (data : Memory) :
    Zclgeneraldefaultresponse where
  ieeeaddr := d.ieeeaddr
  serialnum := hdr.transseqnum.toUInt32
  clusterid := message.clusterId
  endpoint := message.srcEndpoint
  cmdInd := data 0
  status := data 1

def zclProssOnoffResponse (d : Device) (message : IncomingMsg) (hdr : Zclframehdr)
    (data : Memory) : ZnpMessage :=
  .genOnoffRsp (defaultResponse d message hdr data)

def zclProssReadOnoffRsp (d : Device) (message : IncomingMsg) (hdr : Zclframehdr)
    (data : Memory) : ZnpMessage :=
  .readOnoffRsp
    { ieeeaddr := d.ieeeaddr
      serialnum := hdr.transseqnum.toUInt32
      endpoint := message.srcEndpoint
      state := data 4 }

def handleOnoffState (d : Device) (message : IncomingMsg) (hdr : Zclframehdr) (data : Memory) :
    Option ZnpMessage :=
  if hdr.commandid = zclCmdReadRsp then some (zclProssReadOnoffRsp d message hdr data)
  else if hdr.commandid = zclCmdDefaultRsp then some (zclProssOnoffResponse d message hdr data)
  else none

/-- The device's state is left to the reader; `stack` is what the struct held there. -/
def handleLevelctrRsp (stack : UInt8) (d : Device) (message : IncomingMsg) (hdr : Zclframehdr)
    (data : Memory) : ZnpMessage :=
  .genLevelCtlRsp
    { ieeeaddr := d.ieeeaddr
      serialnum := hdr.transseqnum.toUInt32
      clusterid := message.clusterId
      endpoint := message.srcEndpoint
      deviceState := stack
      status := data 1 }

/-- The cases of the two clusters; zone messages and basic attributes are no answers to commands. -/
def zclProccessincomingmessage (stack : UInt8) (gw : Gateway) (message : IncomingMsg) :
    Option ZnpMessage :=
  if message.len = 0 then none
  else
    let (hdr, data) := zclParsehdr message.data
    match gatewayGetdeviceShortaddr gw message.srcAddr with
    | none => none
    | some d =>
        if message.clusterId = zclClusterIdGenOnOff then handleOnoffState d message hdr data
        else if message.clusterId = zclClusterIdGenLevelControl then
          some (handleLevelctrRsp stack d message hdr data)
        else none

def answerSerial : ZnpMessage → Option UInt32
  | .genOnoffRsp response => some response.serialnum
  | .readOnoffRsp response => some response.serialnum
  | .genLevelCtlRsp response => some response.serialnum
  | _ => none

theorem incoming_serial {stack : UInt8} {gw : Gateway} {message : IncomingMsg} {answer : ZnpMessage}
    (answered : zclProccessincomingmessage stack gw message = some answer) :
    answerSerial answer = some (zclParsehdr message.data).1.transseqnum.toUInt32 := by
  rw [zclProccessincomingmessage] at answered
  by_cases empty : message.len = 0
  · rw [if_pos empty] at answered
    cases answered
  · rw [if_neg empty] at answered
    cases sender : gatewayGetdeviceShortaddr gw message.srcAddr with
    | none =>
        rw [sender] at answered
        cases answered
    | some d =>
        simp only [sender, handleOnoffState] at answered
        split_ifs at answered <;>
          · rw [Option.some.injEq] at answered
            rw [← answered]
            rfl

end SmartHome.ZclIncoming
