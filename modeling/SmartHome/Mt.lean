import SmartHome.MtPrinting
import SmartHome.Rpc
import SmartHome.ZdoCallbacks

/-!
# Messages of the network processor

`mtProcess` of `mtParser.c`, with `zdoProcess`, `afProcess`, `sysProcess` and `sapiProcess`: from
the bytes of a message to the callback it is for, and the record that is passed to it. Fields
that are not read keep what the stack held, and the counts in a message are not compared
with the arrays that the elements go to.
-/

namespace SmartHome.Mt

open SmartHome.Library.Bytes
open SmartHome.Library.ByteCursors
open SmartHome.Bytebuffer
open SmartHome.Registry
open SmartHome.ZdoCallbacks
open SmartHome.Rpc

set_option autoImplicit false

def mtRpcSysSys : UInt8 := 1
def mtRpcSysAf : UInt8 := 4
def mtRpcSysZdo : UInt8 := 5
def mtRpcSysSapi : UInt8 := 6

def mtRpcCmdAreq : UInt8 := 0x40

def mtZdoGetLinkKey : UInt8 := 0x25
def mtZdoNwkAddrRsp : UInt8 := 0x80
def mtZdoIeeeAddrRsp : UInt8 := 0x81
def mtZdoNodeDescRsp : UInt8 := 0x82
def mtZdoPowerDescRsp : UInt8 := 0x83
def mtZdoSimpleDescRsp : UInt8 := 0x84
def mtZdoActiveEpRsp : UInt8 := 0x85
def mtZdoMatchDescRsp : UInt8 := 0x86
def mtZdoComplexDescRsp : UInt8 := 0x90
def mtZdoUserDescRsp : UInt8 := 0x91
def mtZdoUserDescConf : UInt8 := 0x94
def mtZdoServerDiscRsp : UInt8 := 0x95
def mtZdoEndDeviceBindRsp : UInt8 := 0xA0
def mtZdoBindRsp : UInt8 := 0xA1
def mtZdoUnbindRsp : UInt8 := 0xA2
def mtZdoMgmtNwkDiscRsp : UInt8 := 0xB0
def mtZdoMgmtLqiRsp : UInt8 := 0xB1
def mtZdoMgmtRtgRsp : UInt8 := 0xB2
def mtZdoMgmtBindRsp : UInt8 := 0xB3
def mtZdoMgmtLeaveRsp : UInt8 := 0xB4
def mtZdoMgmtDirectJoinRsp : UInt8 := 0xB5
def mtZdoMgmtPermitJoinRsp : UInt8 := 0xB6
def mtZdoStateChangeInd : UInt8 := 0xC0
def mtZdoEndDeviceAnnceInd : UInt8 := 0xC1
def mtZdoMatchDescRspSent : UInt8 := 0xC2
def mtZdoStatusErrorRsp : UInt8 := 0xC3
def mtZdoSrcRtgInd : UInt8 := 0xC4
def mtZdoBeaconNotifyInd : UInt8 := 0xC5
def mtZdoJoinCnf : UInt8 := 0xC6
def mtZdoNwkDiscoveryCnf : UInt8 := 0xC7
def mtZdoLeaveInd : UInt8 := 0xC9
def mtZdoMsgCbIncoming : UInt8 := 0xFF

def mtAfDataRetrieve : UInt8 := 0x12
def mtAfDataConfirm : UInt8 := 0x80
def mtAfIncomingMsg : UInt8 := 0x81
def mtAfIncomingMsgExt : UInt8 := 0x82
def mtAfReflectError : UInt8 := 0x83

def mtSysPing : UInt8 := 0x01
def mtSysVersion : UInt8 := 0x02
def mtSysGetExtaddr : UInt8 := 0x04
def mtSysRamRead : UInt8 := 0x05
def mtSysOsalNvRead : UInt8 := 0x08
def mtSysRandom : UInt8 := 0x0C
def mtSysAdcRead : UInt8 := 0x0D
def mtSysGpio : UInt8 := 0x0E
def mtSysStackTune : UInt8 := 0x0F
def mtSysGetTime : UInt8 := 0x11
def mtSysOsalNvLength : UInt8 := 0x13
def mtSysSetTxPower : UInt8 := 0x14
def mtSysResetInd : UInt8 := 0x80
def mtSysOsalTimerExpired : UInt8 := 0x81

def mtSapiReadConfiguration : UInt8 := 0x04
def mtSapiGetDeviceInfo : UInt8 := 0x06
def mtSapiStartCnf : UInt8 := 0x80
def mtSapiBindCnf : UInt8 := 0x81
def mtSapiAllowBindCnf : UInt8 := 0x82
def mtSapiSendDataCnf : UInt8 := 0x83
def mtSapiFindDeviceCnf : UInt8 := 0x85
def mtSapiReceiveDataInd : UInt8 := 0x87

structure LeaveIndFormat where
  srcAddr : UInt16
  extAddr : UInt64
  request : UInt8
  remove : UInt8
  rejoin : UInt8
  deriving DecidableEq

structure DataConfirmFormat where
  status : UInt8
  endpoint : UInt8
  transId : UInt8
  deriving DecidableEq

structure IncomingMsgFormat where
  groupId : UInt16
  clusterId : UInt16
  srcAddr : UInt16
  srcEndpoint : UInt8
  dstEndpoint : UInt8
  wasVroadcast : UInt8
  linkQuality : UInt8
  securityUse : UInt8
  timeStamp : UInt32
  transSeqNum : UInt8
  len : UInt8
  data : Vector UInt8 99
  deriving DecidableEq

/-- What the local variables hold that are not filled as a whole. -/
structure Stack where
  simpleDescRsp : SimpleDescRspFormat
  activeEpRsp : ActiveEpRspFormat
  incomingMsg : IncomingMsgFormat

/-- What a message makes `mtProcess` do: the copy in `srspRpcBuff`, or a callback. -/
inductive Callback
  | srsp (message : List UInt8)
  | stateChangeInd (newDevState : UInt8)
  | simpleDescRsp (msg : SimpleDescRspFormat)
  | activeEpRsp (msg : ActiveEpRspFormat)
  | endDeviceAnnceInd (msg : EndDeviceAnnceIndFormat)
  | leaveInd (msg : LeaveIndFormat)
  | dataConfirm (msg : DataConfirmFormat)
  | incomingMsg (msg : IncomingMsgFormat)
  deriving DecidableEq

def processStateChange : Reader UInt8 := readByte

def processSimpleDescRsp (rsp : SimpleDescRspFormat) (rpcLen : UInt8) :
    Reader SimpleDescRspFormat := do
  let srcAddr ← readUint16
  let status ← readByte
  let nwkAddr ← readUint16
  let len ← readByte
  if rpcLen > 6 then
    let endpoint ← readByte
    let profileID ← readUint16
    let deviceID ← readUint16
    let deviceVersion ← readByte
    let numInClusters ← readByte
    let inClusterList ← fillArray readUint16 0 numInClusters.toNat rsp.inClusterList
    let numOutClusters ← readByte
    let outClusterList ← fillArray readUint16 0 numOutClusters.toNat rsp.outClusterList
    return {
      srcAddr, status, nwkAddr, len, endpoint, profileID, deviceID, deviceVersion, numInClusters,
      inClusterList, numOutClusters, outClusterList }
  else return { rsp with srcAddr, status, nwkAddr, len }

def processActiveEpRsp (rsp : ActiveEpRspFormat) (rpcLen : UInt8) : Reader ActiveEpRspFormat := do
  let srcAddr ← readUint16
  let status ← readByte
  let nwkAddr ← readUint16
  let activeEPCount ← readByte
  if rpcLen > 6 then
    let activeEPList ← fillArray readByte 0 activeEPCount.toNat rsp.activeEPList
    return { srcAddr, status, nwkAddr, activeEPCount, activeEPList }
  else return { rsp with srcAddr, status, nwkAddr, activeEPCount }

/-- The capabilities are read behind the address, and not used. -/
def processEndDeviceAnnceInd : Reader EndDeviceAnnceIndFormat := do
  let srcAddr ← readUint16
  let nwkAddr ← readUint16
  let ieeeAddr ← readUint64
  let _capabilities ← readByte
  return { srcAddr, nwkAddr, ieeeAddr }

def processLeaveInd : Reader LeaveIndFormat := do
  let srcAddr ← readUint16
  let extAddr ← readUint64
  let request ← readByte
  let remove ← readByte
  let rejoin ← readByte
  return { srcAddr, extAddr, request, remove, rejoin }

def processDataConfirm : Reader DataConfirmFormat := do
  let status ← readByte
  let endpoint ← readByte
  let transId ← readByte
  return { status, endpoint, transId }

def processIncomingMsg (rsp : IncomingMsgFormat) (rpcLen : UInt8) : Reader IncomingMsgFormat := do
  let groupId ← readUint16
  let clusterId ← readUint16
  let srcAddr ← readUint16
  let srcEndpoint ← readByte
  let dstEndpoint ← readByte
  let wasVroadcast ← readByte
  let linkQuality ← readByte
  let securityUse ← readByte
  let timeStamp ← readUint32
  let transSeqNum ← readByte
  let len ← readByte
  if rpcLen > 17 then
    let data ← fillArray readByte 0 len.toNat rsp.data
    return {
      groupId, clusterId, srcAddr, srcEndpoint, dstEndpoint, wasVroadcast, linkQuality, securityUse,
      timeStamp, transSeqNum, len, data }
  else
    return {
      groupId, clusterId, srcAddr, srcEndpoint, dstEndpoint, wasVroadcast, linkQuality, securityUse,
      timeStamp, transSeqNum, len, data := rsp.data }

def called {Record : Type} (callback : Record → Callback) (reader : Reader Record) :
    Reader (Option Callback) := do
  return some (callback (← reader))

def printed (reader : Reader Unit) : Reader (Option Callback) := do
  let _ ← reader
  return none

abbrev Cases (Result : Type) := List (UInt8 × Reader Result)

def zdoResponses : Cases Unit := [(mtZdoGetLinkKey, processGetLinkKey)]

def zdoCases (stack : Stack) (rpcLen : UInt8) : Cases (Option Callback) :=
  [(mtZdoStateChangeInd, called .stateChangeInd processStateChange),
    (mtZdoNwkAddrRsp, printed (processNwkAddrRsp rpcLen)),
    (mtZdoIeeeAddrRsp, printed (processIeeeAddrRsp rpcLen)),
    (mtZdoNodeDescRsp, printed processNodeDescRsp),
    (mtZdoPowerDescRsp, printed processPowerDescRsp),
    (mtZdoSimpleDescRsp, called .simpleDescRsp (processSimpleDescRsp stack.simpleDescRsp rpcLen)),
    (mtZdoActiveEpRsp, called .activeEpRsp (processActiveEpRsp stack.activeEpRsp rpcLen)),
    (mtZdoMatchDescRsp, printed (processMatchDescRsp rpcLen)),
    (mtZdoComplexDescRsp, printed (processComplexDescRsp rpcLen)),
    (mtZdoUserDescRsp, printed (processUserDescRsp rpcLen)),
    (mtZdoUserDescConf, printed processUserDescConf),
    (mtZdoServerDiscRsp, printed processServerDiscRsp),
    (mtZdoEndDeviceBindRsp, printed processEndDeviceBindRsp),
    (mtZdoBindRsp, printed processBindRsp),
    (mtZdoUnbindRsp, printed processUnbindRsp),
    (mtZdoMgmtNwkDiscRsp, printed (processMgmtNwkDiscRsp rpcLen)),
    (mtZdoMgmtLqiRsp, printed (processMgmtLqiRsp rpcLen)),
    (mtZdoMgmtRtgRsp, printed (processMgmtRtgRsp rpcLen)),
    (mtZdoMgmtBindRsp, printed (processMgmtBindRsp rpcLen)),
    (mtZdoMgmtLeaveRsp, printed processMgmtLeaveRsp),
    (mtZdoMgmtDirectJoinRsp, printed processMgmtDirectJoinRsp),
    (mtZdoMgmtPermitJoinRsp, printed processMgmtPermitJoinRsp),
    (mtZdoEndDeviceAnnceInd, called .endDeviceAnnceInd processEndDeviceAnnceInd),
    (mtZdoMatchDescRspSent, printed processMatchDescRspSent),
    (mtZdoStatusErrorRsp, printed processStatusErrorRsp),
    (mtZdoSrcRtgInd, printed processSrcRtgInd),
    (mtZdoBeaconNotifyInd, printed (processBeaconNotifyInd rpcLen)),
    (mtZdoJoinCnf, printed processJoinCnf),
    (mtZdoNwkDiscoveryCnf, printed processNwkDiscoveryCnf),
    (mtZdoLeaveInd, called .leaveInd processLeaveInd),
    (mtZdoMsgCbIncoming, printed processMsgCbIncoming)]

def afResponses (rpcLen : UInt8) : Cases Unit :=
  [(mtAfDataRetrieve, processDataRetrieveSrsp rpcLen)]

def afCases (stack : Stack) (rpcLen : UInt8) : Cases (Option Callback) :=
  [(mtAfDataConfirm, called .dataConfirm processDataConfirm),
    (mtAfIncomingMsg, called .incomingMsg (processIncomingMsg stack.incomingMsg rpcLen)),
    (mtAfIncomingMsgExt, printed processIncomingMsgExt),
    (mtAfReflectError, printed processReflectError)]

def sysResponses (rpcLen : UInt8) : Cases Unit :=
  [(mtSysPing, processPingSrsp),
    (mtSysGetExtaddr, processGetExtAddrSrsp),
    (mtSysRamRead, processRamReadSrsp rpcLen),
    (mtSysVersion, processVersionSrsp),
    (mtSysOsalNvRead, processOsalNvReadSrsp rpcLen),
    (mtSysOsalNvLength, processOsalNvLengthSrsp),
    (mtSysStackTune, processStackTuneSrsp),
    (mtSysAdcRead, processAdcReadSrsp),
    (mtSysGpio, processGpioSrsp),
    (mtSysRandom, processRandomSrsp),
    (mtSysGetTime, processGetTimeSrsp),
    (mtSysSetTxPower, processSetTxPowerSrsp)]

def sysCases : Cases (Option Callback) :=
  [(mtSysResetInd, printed processResetInd),
    (mtSysOsalTimerExpired, printed processOsalTimerExpired)]

def sapiResponses (rpcLen : UInt8) : Cases Unit :=
  [(mtSapiReadConfiguration, processReadConfigurationSrsp rpcLen),
    (mtSapiGetDeviceInfo, processGetDeviceInfoSrsp)]

def sapiCases (rpcLen : UInt8) : Cases (Option Callback) :=
  [(mtSapiFindDeviceCnf, printed processFindDeviceCnf),
    (mtSapiSendDataCnf, printed processSendDataCnf),
    (mtSapiReceiveDataInd, printed (processReceiveDataInd rpcLen)),
    (mtSapiAllowBindCnf, printed processAllowBindCnf),
    (mtSapiBindCnf, printed processBindCnf),
    (mtSapiStartCnf, printed processStartCnf)]

/-- `processSrsp` of each subsystem: a response is copied, and some are printed. -/
def processSrsp (responses : Cases Unit) (rpcBuff : Memory) (rpcLen : UInt8) :
    Option (Option Callback) :=
  let copied := Callback.srsp (readBytes rpcBuff 0 rpcLen.toNat)
  match responses.lookup (rpcBuff 1) with
  | none => some (some copied)
  | some reader => (reader rpcBuff 2).map fun _ => some copied

/-- `zdoProcess` and its siblings: messages go by their second byte. No value stands for a store
behind the end of an array. -/
def subsystemProcess (responses : Cases Unit) (cases : Cases (Option Callback)) (rpcBuff : Memory)
    (rpcLen : UInt8) : Option (Option Callback) :=
  if rpcBuff 0 &&& mtRpcCmdTypeMask = mtRpcCmdSrsp then processSrsp responses rpcBuff rpcLen
  else
    match cases.lookup (rpcBuff 1) with
    | none => some none
    | some reader => (reader rpcBuff 2).map Prod.fst

def zdoProcess (stack : Stack) (rpcBuff : Memory) (rpcLen : UInt8) : Option (Option Callback) :=
  subsystemProcess zdoResponses (zdoCases stack rpcLen) rpcBuff rpcLen

def afProcess (stack : Stack) (rpcBuff : Memory) (rpcLen : UInt8) : Option (Option Callback) :=
  subsystemProcess (afResponses rpcLen) (afCases stack rpcLen) rpcBuff rpcLen

def sysProcess (rpcBuff : Memory) (rpcLen : UInt8) : Option (Option Callback) :=
  subsystemProcess (sysResponses rpcLen) sysCases rpcBuff rpcLen

def sapiProcess (rpcBuff : Memory) (rpcLen : UInt8) : Option (Option Callback) :=
  subsystemProcess (sapiResponses rpcLen) (sapiCases rpcLen) rpcBuff rpcLen

def mtProcess (stack : Stack) (rpcBuff : Memory) (rpcLen : UInt8) : Option (Option Callback) :=
  let subsystem := rpcBuff 0 &&& mtRpcSubsystemMask
  if subsystem = mtRpcSysZdo then zdoProcess stack rpcBuff rpcLen
  else if subsystem = mtRpcSysSys then sysProcess rpcBuff rpcLen
  else if subsystem = mtRpcSysAf then afProcess stack rpcBuff rpcLen
  else if subsystem = mtRpcSysSapi then sapiProcess rpcBuff rpcLen
  else some none

/-- What `rpcWaitMqClientMsg` does with a message from the queue; `rpcFrame` is what its buffer
holds before. -/
def processMqClientMsg (stack : Stack) (rpcFrame : Memory) (message : List UInt8) :
    Option (Option Callback) :=
  mtProcess stack (stored rpcFrame 0 message) (UInt8.ofNat message.length)

end SmartHome.Mt
