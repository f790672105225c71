import SmartHome.Library.ByteCursors
import SmartHome.Bytebuffer

/-!
# Messages that are only printed

The readers of `mtZdo.c`, `mtAf.c`, `mtSys.c` and `mtSapi.c` whose records go to callbacks that
do nothing but print them. What is read does not matter then, but where it is stored does:
counts in the messages are not compared with the arrays that the elements go to.
-/

namespace SmartHome.Mt

open SmartHome.Library.Bytes
open SmartHome.Library.ByteCursors
open SmartHome.Bytebuffer

set_option autoImplicit false

def readUint16 : Reader UInt16 := do
  let bytes ← readPair
  return buildUint16 bytes.1 bytes.2

def readUint32 : Reader UInt32 := do
  return UInt32.ofNat (← readNumber 4)

def readUint64 : Reader UInt64 := do
  return UInt64.ofNat (← readNumber 8)

/-- Fields, a count, and so many elements if the message is longer than this. -/
def listMessage (fields : Nat) (beyond : UInt8) (width capacity : Nat) (rpcLen : UInt8) :
    Reader Unit := do
  skip fields
  let count ← readByte
  if rpcLen > beyond then fillUnused width capacity count.toNat

section Zdo

def processNwkAddrRsp (rpcLen : UInt8) : Reader Unit :=
  listMessage (1 + 8 + 2 + 1) 13 2 70 rpcLen

def processIeeeAddrRsp (rpcLen : UInt8) : Reader Unit :=
  listMessage (1 + 8 + 2 + 1) 13 2 70 rpcLen

def processNodeDescRsp : Reader Unit := skip (2 + 1 + 2 + 1 + 1 + 1 + 2 + 1 + 2 + 2 + 2 + 1)

def processPowerDescRsp : Reader Unit := skip (2 + 1 + 2 + 1 + 1)

def processMatchDescRsp (rpcLen : UInt8) : Reader Unit := listMessage (2 + 1 + 2) 6 1 77 rpcLen

def processComplexDescRsp (rpcLen : UInt8) : Reader Unit := listMessage (2 + 1 + 2) 6 1 77 rpcLen

def processUserDescRsp (rpcLen : UInt8) : Reader Unit := listMessage (2 + 1 + 2) 6 1 77 rpcLen

def processUserDescConf : Reader Unit := skip (2 + 1 + 2)

def processServerDiscRsp : Reader Unit := skip (2 + 1 + 2)

def processEndDeviceBindRsp : Reader Unit := skip (2 + 1)

def processBindRsp : Reader Unit := skip (2 + 1)

def processUnbindRsp : Reader Unit := skip (2 + 1)

def processMgmtNwkDiscRsp (rpcLen : UInt8) : Reader Unit :=
  listMessage (2 + 1 + 1 + 1) 6 (8 + 1 + 1 + 1 + 1) 72 rpcLen

def processMgmtLqiRsp (rpcLen : UInt8) : Reader Unit :=
  listMessage (2 + 1 + 1 + 1) 6 (8 + 8 + 2 + 1 + 1 + 1 + 1) 66 rpcLen

def processMgmtRtgRsp (rpcLen : UInt8) : Reader Unit :=
  listMessage (2 + 1 + 1 + 1) 6 (2 + 1 + 2) 75 rpcLen

/-- The counter of the loop is hidden by another in its body: at the place of an element only the
address is set to zero, and the element itself goes to the places 0 to 8. -/
def processMgmtBindRsp (rpcLen : UInt8) : Reader Unit :=
  listMessage (2 + 1 + 1 + 1) 6 (8 + 1 + 1 + 1 + 8 + 1) 75 rpcLen

def processMgmtLeaveRsp : Reader Unit := skip (2 + 1)

def processMgmtDirectJoinRsp : Reader Unit := skip (2 + 1)

def processMgmtPermitJoinRsp : Reader Unit := skip (2 + 1)

def processMatchDescRspSent : Reader Unit := do
  skip 2
  let numInClusters ← readByte
  fillUnused 2 16 numInClusters.toNat
  let numOutClusters ← readByte
  fillUnused 2 16 numOutClusters.toNat

def processStatusErrorRsp : Reader Unit := skip (2 + 1)

def processSrcRtgInd : Reader Unit := do
  skip 2
  let relayCount ← readByte
  fillUnused 2 255 relayCount.toNat

def processBeaconNotifyInd (rpcLen : UInt8) : Reader Unit :=
  listMessage 0 1 (2 + 2 + 1 + 1 + 1 + 1 + 1 + 1 + 1 + 1 + 1 + 8) 21 rpcLen

def processJoinCnf : Reader Unit := skip (1 + 2 + 2)

def processNwkDiscoveryCnf : Reader Unit := skip 1

def processMsgCbIncoming : Reader Unit := skip (2 + 1 + 2 + 1 + 1 + 2 + 1 + 8)

def processGetLinkKey : Reader Unit := skip (1 + 8 + 16)

end Zdo

section Af

def processIncomingMsgExt : Reader Unit := do
  skip (2 + 2 + 1 + 8 + 1 + 2 + 1 + 1 + 1 + 1 + 4 + 1)
  let len ← readByte
  fillUnused 1 99 len.toNat

def processReflectError : Reader Unit := skip (1 + 1 + 1 + 1 + 2)

def processDataRetrieveSrsp (rpcLen : UInt8) : Reader Unit := listMessage 1 2 1 248 rpcLen

end Af

section Sys

def processResetInd : Reader Unit := skip (1 + 1 + 1 + 1 + 1 + 1)

def processOsalTimerExpired : Reader Unit := skip 1

def processPingSrsp : Reader Unit := skip 2

def processGetExtAddrSrsp : Reader Unit := skip 8

def processRamReadSrsp (rpcLen : UInt8) : Reader Unit := listMessage 1 2 1 128 rpcLen

def processVersionSrsp : Reader Unit := skip (1 + 1 + 1 + 1 + 1)

def processOsalNvReadSrsp (rpcLen : UInt8) : Reader Unit := listMessage 1 2 1 248 rpcLen

def processOsalNvLengthSrsp : Reader Unit := skip 2

def processStackTuneSrsp : Reader Unit := skip 1

def processAdcReadSrsp : Reader Unit := skip 2

def processGpioSrsp : Reader Unit := skip 1

def processRandomSrsp : Reader Unit := skip 2

def processGetTimeSrsp : Reader Unit := skip (4 + 1 + 1 + 1 + 1 + 1 + 2)

def processSetTxPowerSrsp : Reader Unit := skip 1

end Sys

section Sapi

def processFindDeviceCnf : Reader Unit := skip (2 + 8)

def processSendDataCnf : Reader Unit := skip (1 + 1)

/-- The only count of two bytes. -/
def processReceiveDataInd (rpcLen : UInt8) : Reader Unit := do
  skip (2 + 2)
  let len ← readUint16
  if rpcLen > 6 then fillUnused 1 84 len.toNat

def processAllowBindCnf : Reader Unit := skip 2

def processBindCnf : Reader Unit := skip (2 + 1)

def processStartCnf : Reader Unit := skip 1

def processReadConfigurationSrsp (rpcLen : UInt8) : Reader Unit :=
  listMessage (1 + 1) 3 1 128 rpcLen

/-- All eight bytes of the value are read, whichever parameter it is. -/
def processGetDeviceInfoSrsp : Reader Unit := skip (1 + 8)

end Sapi

end SmartHome.Mt
