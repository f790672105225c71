import SmartHome.Effects
import SmartHome.Parse

/-!
# Commands to the radio

`appProcess` takes the structs off the pipe, `zcl_down_cmd_*` turns each into calls
of the ZCL layer. The registry it looks devices up in is the one the event loop
writes.
-/

namespace SmartHome.DownCommand

open SmartHome.Library.Bytes
open SmartHome.Bytebuffer
open SmartHome.Registry
open SmartHome.PipeMessages
open SmartHome.Effects
open SmartHome.Zcl
open SmartHome.Parse

set_option autoImplicit false

def appDevicetypeidSsEndpoint : UInt8 := 1
def appDevicetypeidClosuresEndpoint : UInt8 := 2

def identyfytime : UInt16 := 30

def commandIdentify : UInt8 := 0x00
def commandOff : UInt8 := 0x00
def commandOn : UInt8 := 0x01
def commandSsIasWdStartWarning : UInt8 := 0x00

inductive RadioRequest
  | afDataRequest (request : DataRequest)
  | zbPermitJoiningReq (destination : UInt16) (timeout : UInt8)
  deriving DecidableEq

def zclGeneralSendIdentify (srcEP dstEP : UInt8) (dstAddr identifyTime : UInt16)
    (disableDefaultRsp seqNum : UInt8) : DataRequest :=
  zclSendcommand srcEP dstEP dstAddr zclClusterIdGenIdentify commandIdentify true
    zclFrameClientServerDir disableDefaultRsp 0 seqNum
    [loUint16 identifyTime, hiUint16 identifyTime]

def zclssSendIasWdStartWarningCmd (srcep dstep : UInt8) (dstaddr : UInt16) (warning : StartWarning)
    (disabledefaultrsp seqnum : UInt8) : DataRequest :=
  zclSendcommand srcep dstep dstaddr zclClusterIdSsIasWd commandSsIasWdStartWarning true
    zclFrameClientServerDir disabledefaultrsp 0 seqnum
    [warning.warningbyte, loUint16 warning.warningDuration, hiUint16 warning.warningDuration,
      warning.strobeDutyCycle, warning.strobeLevel]

/-- The common shape of the cluster commands that go out through `zcl_SendCommand`. -/
def sendClusterCommand (clusterID : UInt16) (cmd srcEP : UInt8) (dstAddr : AfAddr)
    (disableDefaultRsp seqNum : UInt8) (buf : List UInt8) : DataRequest :=
  zclSendCommand srcEP dstAddr clusterID cmd true zclFrameClientServerDir disableDefaultRsp 0
    seqNum buf

def zclGeneralSendOnOffCmdOn (srcEP : UInt8) (dstAddr : AfAddr)
    (disableDefaultRsp seqNum : UInt8) : DataRequest :=
  sendClusterCommand zclClusterIdGenOnOff commandOn srcEP dstAddr disableDefaultRsp seqNum []

def zclGeneralSendOnOffCmdOff (srcEP : UInt8) (dstAddr : AfAddr)
    (disableDefaultRsp seqNum : UInt8) : DataRequest :=
  sendClusterCommand zclClusterIdGenOnOff commandOff srcEP dstAddr disableDefaultRsp seqNum []

def zclGeneralSendLevelControlMoveToLevelRequest (srcEP : UInt8) (dstAddr : AfAddr)
    (cmd level : UInt8) (transTime : UInt16) (disableDefaultRsp seqNum : UInt8) : DataRequest :=
  sendClusterCommand zclClusterIdGenLevelControl cmd srcEP dstAddr disableDefaultRsp seqNum
    [level, loUint16 transTime, hiUint16 transTime]

def zclGeneralSendLevelControlMoveRequest (srcEP : UInt8) (dstAddr : AfAddr)
    (cmd moveMode rate disableDefaultRsp seqNum : UInt8) : DataRequest :=
  sendClusterCommand zclClusterIdGenLevelControl cmd srcEP dstAddr disableDefaultRsp seqNum
    [moveMode, rate]

def zclGeneralSendLevelControlStepRequest (srcEP : UInt8) (dstAddr : AfAddr)
    (cmd stepMode stepSize : UInt8) (transTime : UInt16) (disableDefaultRsp seqNum : UInt8) :
    DataRequest :=
  sendClusterCommand zclClusterIdGenLevelControl cmd srcEP dstAddr disableDefaultRsp seqNum
    [stepMode, stepSize, loUint16 transTime, hiUint16 transTime]

/-- `zclGeneral_SendLevelControlStop` and `zclGeneral_SendLevelControlStopWithOnOff`. -/
def zclGeneralSendLevelControlStop (srcEP : UInt8) (dstAddr : AfAddr)
    (cmd disableDefaultRsp seqNum : UInt8) : DataRequest :=
  sendClusterCommand zclClusterIdGenLevelControl cmd srcEP dstAddr disableDefaultRsp seqNum []

def zclDownCmdIdentify (gw : Gateway) (ieee : UInt64) (identify : Identify) : List RadioRequest :=
  match gatewayGetdevice gw ieee with
  | none => []
  | some d =>
      [.afDataRequest (zclGeneralSendIdentify appDevicetypeidSsEndpoint identify.endpoint d.shortaddr
        identyfytime 0 identify.serialnum.toUInt8)]

def zclDownCmdWarning (gw : Gateway) (ieee : UInt64) (warning : Warning) : List RadioRequest :=
  match gatewayGetEndpoint gw ieee warning.endpoint with
  | none => []
  | some dstep =>
      [.afDataRequest (zclssSendIasWdStartWarningCmd appDevicetypeidSsEndpoint warning.endpoint
        dstep.simpledesc.simpledesc.nwkAddr warning.startWarning 0 warning.serialnum.toUInt8)]

def zclDownCmdOnoff (gw : Gateway) (onoff : OnoffIeee) : List RadioRequest :=
  match gatewayGetdevice gw onoff.ieee with
  | none => []
  | some d =>
      let addrtype : AfAddr := { shortAddr := d.shortaddr, endPoint := onoff.endpoint }
      if onoff.onoff ≠ 0 then
        [.afDataRequest (zclGeneralSendOnOffCmdOn appDevicetypeidSsEndpoint addrtype 0
          onoff.serialnum.toUInt8)]
      else
        [.afDataRequest (zclGeneralSendOnOffCmdOff appDevicetypeidSsEndpoint addrtype 0
          onoff.serialnum.toUInt8)]

/-- The `switch` over `zcl_cmdid`; it has no default. -/
def levelCtrlRequest (addrtype : AfAddr) (levelCtrl : LevelCtrlIeee) : Option DataRequest :=
  let srcEP := appDevicetypeidClosuresEndpoint
  let cmd := levelCtrl.levelCtrlCmd
  let seqNum := levelCtrl.serialnum.toUInt8
  if levelCtrl.zclCmdid = commandLevelMoveToLevel then
    some (zclGeneralSendLevelControlMoveToLevelRequest srcEP addrtype commandLevelMoveToLevel
      (move2levelLevel cmd) (move2levelTransTime cmd) 0 seqNum)
  else if levelCtrl.zclCmdid = commandLevelMove then
    some (zclGeneralSendLevelControlMoveRequest srcEP addrtype commandLevelMove
      (moveMoveMode cmd) (moveRate cmd) 0 seqNum)
  else if levelCtrl.zclCmdid = commandLevelStep then
    some (zclGeneralSendLevelControlStepRequest srcEP addrtype commandLevelStep
      (stepStepMode cmd) (stepStepSize cmd) (stepTransTime cmd) 0 seqNum)
  else if levelCtrl.zclCmdid = commandLevelStop then
    some (zclGeneralSendLevelControlStop srcEP addrtype commandLevelStop 0 seqNum)
  else if levelCtrl.zclCmdid = commandLevelMoveToLevelWithOnOff then
    some (zclGeneralSendLevelControlMoveToLevelRequest srcEP addrtype
      commandLevelMoveToLevelWithOnOff (move2levelLevel cmd) (move2levelTransTime cmd) 0 seqNum)
  else if levelCtrl.zclCmdid = commandLevelMoveWithOnOff then
    some (zclGeneralSendLevelControlMoveRequest srcEP addrtype commandLevelMoveWithOnOff
      (moveMoveMode cmd) (moveRate cmd) 0 seqNum)
  else if levelCtrl.zclCmdid = commandLevelStepWithOnOff then
    some (zclGeneralSendLevelControlStepRequest srcEP addrtype commandLevelStepWithOnOff
      (stepStepMode cmd) (stepStepSize cmd) (stepTransTime cmd) 0 seqNum)
  else if levelCtrl.zclCmdid = commandLevelStopWithOnOff then
    some (zclGeneralSendLevelControlStop srcEP addrtype commandLevelStopWithOnOff 0 seqNum)
  else none

theorem chosen_of_first {condition : Prop} [Decidable condition] {first request : DataRequest}
    {later : Option DataRequest} {property : DataRequest → Prop} (here : property first)
    (behind : later = some request → property request) :
    (if condition then some first else later) = some request → property request := by
  intro chosen
  split at chosen
  · rwa [← Option.some.inj chosen]
  · exact behind chosen

/-- All cases send a command of the level cluster with the low byte of the serial number. -/
theorem level_ctrl_request_eq {addrtype : AfAddr} {levelCtrl : LevelCtrlIeee}
    {request : DataRequest} (sent : levelCtrlRequest addrtype levelCtrl = some request) :
    ∃ cmd buf, buf.length ≤ 4 ∧
      request = sendClusterCommand zclClusterIdGenLevelControl cmd appDevicetypeidClosuresEndpoint
        addrtype 0 levelCtrl.serialnum.toUInt8 buf := by
  revert sent
  unfold levelCtrlRequest
  iterate 8
    apply chosen_of_first
    · exact ⟨_, _, by simp, rfl⟩
  intro none_
  cases none_

def zclDownCmdLevelCtrl (gw : Gateway) (levelCtrl : LevelCtrlIeee) : List RadioRequest :=
  match gatewayGetdevice gw levelCtrl.ieee with
  | none => []
  | some d =>
      let addrtype : AfAddr := { shortAddr := d.shortaddr, endPoint := levelCtrl.endpoint }
      (levelCtrlRequest addrtype levelCtrl).toList.map .afDataRequest

def zclDownCmdPermitJoining (permitJoining : PermitJoining) : List RadioRequest :=
  [.zbPermitJoiningReq 0x0000 permitJoining.joingTime]

/-- The pointer to the change is taken over for analog types only; the others never read it. -/
def cfgReportRec (recod : CfgReportRecod) : ZclCfgReportRec where
  direction := recod.direction
  attrID := recod.attrId
  dataType := recod.dataType
  minReportInt := recod.minInterval
  maxReportInt := recod.maxInterval
  timeoutPeriod := recod.timeoutPeriod
  reportableChange :=
    if zclAnalogDataType recod.dataType then recod.reprotableChange.map HeapBlock.bytes else none

def zclDownCmdConfigReporting (heap : Memory) (gw : Gateway) (configReporting : ConfigReporting) :
    List RadioRequest :=
  match gatewayGetdevice gw configReporting.ieee with
  | none => []
  | some d =>
      [.afDataRequest (zclSendConfigReportCmd heap 2 configReporting.endpoint d.shortaddr
        configReporting.clusterid (configReporting.attrList.map cfgReportRec)
        zclFrameClientServerDir 0 configReporting.serialnum.toUInt8)]

/-- A cluster id is passed where the direction belongs. -/
def zclDownCmdGetOnoff (gw : Gateway) (onoffAttr : GetOnoffState) : List RadioRequest :=
  match gatewayGetdevice gw onoffAttr.ieee with
  | none => []
  | some d =>
      [.afDataRequest (zclSendRead 1 onoffAttr.endpoint d.shortaddr zclClusterIdGenOnOff
        [attridBasicZclVersion] zclClusterIdGenBasic.toUInt8 0 onoffAttr.serialnum.toUInt8)]

/-- One pass of the loop of `appProcess`. -/
def appProcess (heap : Memory) (gw : Gateway) : ZnpCommand → List RadioRequest
  | .identify command => zclDownCmdIdentify gw command.ieee command.identify
  | .warning command => zclDownCmdWarning gw command.ieee command.warning
  | .onoff command => zclDownCmdOnoff gw command
  | .levelCtrl command => zclDownCmdLevelCtrl gw command
  | .permitJoing command => zclDownCmdPermitJoining command
  | .configReport command => zclDownCmdConfigReporting heap gw command
  | .readOnoff command => zclDownCmdGetOnoff gw command

def pipeCommands (effects : List Effect) : List ZnpCommand :=
  effects.filterMap fun effect =>
    match effect with
    | .pipe command => some command
    | _ => none

def radioRequests (heap : Memory) (gw : Gateway) (effects : List Effect) : List RadioRequest :=
  (pipeCommands effects).flatMap (appProcess heap gw)

end SmartHome.DownCommand
