import SmartHome.PipeMessages
import SmartHome.Zcl

/-!
# The parsers of the command frames

Every `protocol_parse_*` that `event_recvmsg` calls, as a parser over the memory
that starts at the local buffer. They are given `messagelen`; only the one for
reporting configurations uses it, and only for the size of its `malloc`.
-/

namespace SmartHome.Parse

open SmartHome.Library.Bytes
open SmartHome.Library.MemoryCursor
open SmartHome.Bytebuffer
open SmartHome.Registry
open SmartHome.PipeMessages
open SmartHome.Zcl

set_option autoImplicit false

def protocolParseLoginFeedback : Parser LoginFeedback := do
  bytebufferSkipbytes 11
  let timestamp ← bytebufferReaddword
  let result ← bytebufferReadbyte
  return { timestamp, result }

/-- The name buffer after `bytebuffer_readbytes` and the assignment of the final NUL; behind it
lies what the caller's stack held. -/
def nameBuffer (stack : Vector UInt8 256) (namelen : UInt8) (bytes : List UInt8) :
    Vector UInt8 256 :=
  Vector.ofFn fun index =>
    if index.val < namelen.toNat then bytes.getD index.val 0
    else if index.val = namelen.toNat then 0
    else stack.get index

theorem name_buffer_terminated (stack : Vector UInt8 256) (namelen : UInt8) (bytes : List UInt8) :
    (nameBuffer stack namelen bytes).get ⟨namelen.toNat, namelen.toNat_lt⟩ = 0 := by
  have bound : namelen.toNat < 256 := namelen.toNat_lt
  change (nameBuffer stack namelen bytes)[namelen.toNat] = 0
  rw [nameBuffer, Vector.getElem_ofFn, if_neg (lt_irrefl _), if_pos rfl]

def protocolParseSetDeviceName (stack : Vector UInt8 256) : Parser SetDeviceName := do
  bytebufferSkipbytes 5
  let serialnum ← bytebufferReaddword
  let ieee ← bytebufferReadquadword
  let namelen ← bytebufferReadbyte
  let bytes ← bytebufferReadbytes namelen.toNat
  return {
    ieee
    serialnum
    namelen
    name := nameBuffer stack namelen bytes
    terminated := name_buffer_terminated stack namelen bytes }

def protocolParseDelDevice : Parser DelDevice := do
  bytebufferSkipbytes 5
  let serialnum ← bytebufferReaddword
  let ieee ← bytebufferReadquadword
  return { ieee, serialnum }

def protocolParseGetDeviceAttr : Parser GetDeviceAttr := do
  bytebufferSkipbytes 5
  let serialnum ← bytebufferReaddword
  let ieee ← bytebufferReadquadword
  let endpoint ← bytebufferReadbyte
  return { ieee, serialnum, endpoint }

def protocolParseIdentify : Parser IdentifyIeee := do
  bytebufferSkipbytes 5
  let serialnum ← bytebufferReaddword
  let ieee ← bytebufferReadquadword
  let endpoint ← bytebufferReadbyte
  return { ieee, identify := { endpoint, serialnum } }

/-- The bit fields keep the low bits of the bytes assigned to them. -/
def protocolParseWarning : Parser WarningIeee := do
  bytebufferSkipbytes 5
  let serialnum ← bytebufferReaddword
  let ieee ← bytebufferReadquadword
  let endpoint ← bytebufferReadbyte
  let warningduration ← bytebufferReadword
  let warnmode ← bytebufferReadbyte
  let strobe ← bytebufferReadbyte
  let sirenlevel ← bytebufferReadbyte
  let strobelevel ← bytebufferReadbyte
  let strobedutycycle ← bytebufferReadbyte
  return {
    ieee
    warning :=
      { serialnum
        endpoint
        startWarning :=
          { warnMode := warnmode.toBitVec.setWidth 4
            warnStrobe := strobe.toBitVec.setWidth 2
            warnSirenLevel := sirenlevel.toBitVec.setWidth 2
            warningDuration := warningduration
            strobeDutyCycle := strobedutycycle
            strobeLevel := strobelevel } } }

structure ParsedArm where
  ieee : UInt64
  serialnum : UInt32
  endpoint : UInt8
  arm : Arm

def protocolParseArm : Parser ParsedArm := do
  bytebufferSkipbytes 5
  let serialnum ← bytebufferReaddword
  let ieee ← bytebufferReadquadword
  let endpoint ← bytebufferReadbyte
  let armmodel ← bytebufferReadbyte
  let starthour ← bytebufferReadbyte
  let startminute ← bytebufferReadbyte
  let endhour ← bytebufferReadbyte
  let endminute ← bytebufferReadbyte
  return {
    ieee, serialnum, endpoint, arm := { armmodel, starthour, startminute, endhour, endminute } }

def protocolParseOnoff : Parser OnoffIeee := do
  bytebufferSkipbytes 5
  let serialnum ← bytebufferReaddword
  let ieee ← bytebufferReadquadword
  let endpoint ← bytebufferReadbyte
  let onoff ← bytebufferReadbyte
  return { ieee, serialnum, endpoint, onoff }

def commandLevelMoveToLevel : UInt8 := 0x00
def commandLevelMove : UInt8 := 0x01
def commandLevelStep : UInt8 := 0x02
def commandLevelStop : UInt8 := 0x03
def commandLevelMoveToLevelWithOnOff : UInt8 := 0x04
def commandLevelMoveWithOnOff : UInt8 := 0x05
def commandLevelStepWithOnOff : UInt8 := 0x06
def commandLevelStopWithOnOff : UInt8 := 0x07

/-- The `switch` over the level commands fills the union; the rest of it keeps what the caller's
stack held. -/
def parseLevelCtrlCmd (stack : LevelCtrlCmd) (zclCmdid : UInt8) : Parser LevelCtrlCmd :=
  if zclCmdid = commandLevelMoveToLevel ∨ zclCmdid = commandLevelMoveToLevelWithOnOff then do
    let level ← bytebufferReadbyte
    let transTime ← bytebufferReadword
    return setMove2level stack level transTime
  else if zclCmdid = commandLevelMove ∨ zclCmdid = commandLevelMoveWithOnOff then do
    let moveMode ← bytebufferReadbyte
    let rate ← bytebufferReadbyte
    return setMove stack moveMode rate
  else if zclCmdid = commandLevelStep ∨ zclCmdid = commandLevelStepWithOnOff then do
    let stepMode ← bytebufferReadbyte
    let stepSize ← bytebufferReadbyte
    let transTime ← bytebufferReadword
    return setStep stepMode stepSize transTime
  else return stack

def protocolParseLevelCtrl (stack : LevelCtrlCmd) : Parser LevelCtrlIeee := do
  bytebufferSkipbytes 5
  let serialnum ← bytebufferReaddword
  let ieee ← bytebufferReadquadword
  let endpoint ← bytebufferReadbyte
  let zclCmdid ← bytebufferReadbyte
  let levelCtrlCmd ← parseLevelCtrlCmd stack zclCmdid
  return { ieee, serialnum, endpoint, zclCmdid, levelCtrlCmd }

def protocolParsePermitJoining : Parser PermitJoining := do
  bytebufferSkipbytes 5
  let serialnum ← bytebufferReaddword
  let joingTime ← bytebufferReadbyte
  return { serialnum, joingTime }

/-- The bytes `recv_reportable_change` stores at `d`, reading from `s`. Numbers are stored in the
host's byte order; the types of five to seven bytes take the low bytes of the eight read. -/
def recvReportableChange (dataType : UInt8) : Parser (List UInt8) :=
  match dataTypeGroup dataType with
  | .bytes1 => Parser.look 0 1
  | .bytes2 => do
      return toBytesLE 2 (bytebufferGetword (← Parser.look 0 2)).toNat
  | .bytes3 | .bytes4 => do
      return toBytesLE 4 (bytebufferGetdword (← Parser.look 0 4)).toNat
  | .bytes5 => do
      return (toBytesLE 8 (bytebufferGetquadword (← Parser.look 0 8)).toNat).take 5
  | .bytes6 => do
      return (toBytesLE 8 (bytebufferGetquadword (← Parser.look 0 8)).toNat).take 6
  | .bytes7 => do
      return (toBytesLE 8 (bytebufferGetquadword (← Parser.look 0 8)).toNat).take 7
  | .bytes8 => do
      return toBytesLE 8 (bytebufferGetquadword (← Parser.look 0 8)).toNat
  | .shortString => do
      let len := (← Parser.look 0 1).headD 0
      Parser.look 0 (len.toNat + 1)
  | .longString => do
      let len := bytebufferGetword (← Parser.look 0 2)
      let text ← Parser.look 2 len.toNat
      return [loUint16 len, hiUint16 len] ++ text
  | .secKey => Parser.look 0 secKeyLen
  | .noData => return []

/-- One pass of the loop over the records. `left_len` counts to the checksum of the frame. -/
def parseCfgReportRecod (len : UInt16) : Parser CfgReportRecod := do
  let direction ← bytebufferReadbyte
  let attrId ← bytebufferReadword
  let dataType ← bytebufferReadbyte
  let minInterval ← bytebufferReadword
  let maxInterval ← bytebufferReadword
  let timeoutPeriod ← bytebufferReadword
  let reprotableChange ←
    if zclAnalogDataType dataType then do
      let p ← Parser.position
      let leftLen : Int := len.toNat - (p + 2)
      let bytes ← recvReportableChange dataType
      pure (some { size := leftLen, bytes })
    else pure none
  return { direction, attrId, dataType, minInterval, maxInterval, timeoutPeriod, reprotableChange }

/-- The loop over the records; the source has room for ten of them. -/
def parseCfgReportRecods (len : UInt16) : Nat → Parser (List CfgReportRecod)
  | 0 => return []
  | count + 1 => do
      let recod ← parseCfgReportRecod len
      let recods ← parseCfgReportRecods len count
      return recod :: recods

def protocolParseConfigReporting (len : UInt16) : Parser ConfigReporting := do
  bytebufferSkipbytes 5
  let serialnum ← bytebufferReaddword
  let ieee ← bytebufferReadquadword
  let clusterid ← bytebufferReadword
  let endpoint ← bytebufferReadbyte
  let attrNum ← bytebufferReadbyte
  let attrList ← parseCfgReportRecods len attrNum.toNat
  return { ieee, serialnum, clusterid, endpoint, attrNum, attrList }

def protocolParseGetOnoffState : Parser GetOnoffState := do
  bytebufferSkipbytes 5
  let serialnum ← bytebufferReaddword
  let ieee ← bytebufferReadquadword
  let endpoint ← bytebufferReadbyte
  return { ieee, serialnum, endpoint }

end SmartHome.Parse
