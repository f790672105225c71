import SmartHome.Mt
import SmartHome.RpcStream

/-!
# What the network processor indicates

The messages in which the network processor tells of the network, by what they carry, and
the bytes it sends for each. `mtProcess` hands what a message carries to the callback of
its kind, whatever follows the message in its frame and whatever the buffer held before,
as long as the lists fit their arrays.
-/

namespace SmartHome.MtMessages

open SmartHome.Library.Bytes
open SmartHome.Library.ByteCursors
open SmartHome.Bytebuffer
open SmartHome.Registry
open SmartHome.ZdoCallbacks
open SmartHome.Rpc
open SmartHome.RpcStream
open SmartHome.Mt

set_option autoImplicit false

structure Descriptor where
  endpoint : UInt8
  profileID : UInt16
  deviceID : UInt16
  deviceVersion : UInt8
  inClusters : List UInt16
  outClusters : List UInt16

structure IncomingHead where
  groupId : UInt16
  clusterId : UInt16
  srcAddr : UInt16
  srcEndpoint : UInt8
  dstEndpoint : UInt8
  wasVroadcast : UInt8
  linkQuality : UInt8
  securityUse : UInt8
  timeStamp : UInt32
  transSeqNum : UInt8

inductive Indication
  | stateChangeInd (zdoState : UInt8)
  | simpleDescRsp (srcAddr : UInt16) (status : UInt8) (nwkAddr : UInt16) (len : UInt8)
      (descriptor : Descriptor)
  | activeEpRsp (srcAddr : UInt16) (status : UInt8) (nwkAddr : UInt16) (endpoints : List UInt8)
  | endDeviceAnnceInd (msg : EndDeviceAnnceIndFormat) (capabilities : UInt8)
  | leaveInd (msg : LeaveIndFormat)
  | dataConfirm (msg : DataConfirmFormat)
  | incomingMsg (head : IncomingHead) (data : List UInt8)

def uint16Bytes (value : UInt16) : List UInt8 := [loUint16 value, hiUint16 value]

def countByte {α : Type} (items : List α) : List UInt8 := [UInt8.ofNat items.length]

def Descriptor.bytes (descriptor : Descriptor) : List UInt8 :=
  [descriptor.endpoint] ++ uint16Bytes descriptor.profileID ++ uint16Bytes descriptor.deviceID ++
    [descriptor.deviceVersion] ++
    countByte descriptor.inClusters ++ descriptor.inClusters.flatMap uint16Bytes ++
    countByte descriptor.outClusters ++ descriptor.outClusters.flatMap uint16Bytes

def IncomingHead.bytes (head : IncomingHead) : List UInt8 :=
  uint16Bytes head.groupId ++ uint16Bytes head.clusterId ++ uint16Bytes head.srcAddr ++
    [head.srcEndpoint] ++ [head.dstEndpoint] ++ [head.wasVroadcast] ++ [head.linkQuality] ++
    [head.securityUse] ++ toBytesLE 4 head.timeStamp.toNat ++ [head.transSeqNum]

namespace Indication

def subsystem : Indication → UInt8
  | dataConfirm _ => mtRpcSysAf
  | incomingMsg _ _ => mtRpcSysAf
  | _ => mtRpcSysZdo

def cmd0 (indication : Indication) : UInt8 := mtRpcCmdAreq ||| indication.subsystem

def cmd1 : Indication → UInt8
  | stateChangeInd _ => mtZdoStateChangeInd
  | simpleDescRsp _ _ _ _ _ => mtZdoSimpleDescRsp
  | activeEpRsp _ _ _ _ => mtZdoActiveEpRsp
  | endDeviceAnnceInd _ _ => mtZdoEndDeviceAnnceInd
  | leaveInd _ => mtZdoLeaveInd
  | dataConfirm _ => mtAfDataConfirm
  | incomingMsg _ _ => mtAfIncomingMsg

def payload : Indication → List UInt8
  | stateChangeInd zdoState => [zdoState]
  | simpleDescRsp srcAddr status nwkAddr len descriptor =>
      uint16Bytes srcAddr ++ [status] ++ uint16Bytes nwkAddr ++ [len] ++ descriptor.bytes
  | activeEpRsp srcAddr status nwkAddr endpoints =>
      uint16Bytes srcAddr ++ [status] ++ uint16Bytes nwkAddr ++ countByte endpoints ++ endpoints
  | endDeviceAnnceInd msg capabilities =>
      uint16Bytes msg.srcAddr ++ uint16Bytes msg.nwkAddr ++ toBytesLE 8 msg.ieeeAddr.toNat ++
        [capabilities]
  | leaveInd msg =>
      uint16Bytes msg.srcAddr ++ toBytesLE 8 msg.extAddr.toNat ++ [msg.request] ++ [msg.remove] ++
        [msg.rejoin]
  | dataConfirm msg => [msg.status] ++ [msg.endpoint] ++ [msg.transId]
  | incomingMsg head data => head.bytes ++ countByte data ++ data

def Fits : Indication → Prop
  | simpleDescRsp _ _ _ _ descriptor =>
      descriptor.inClusters.length ≤ 16 ∧ descriptor.outClusters.length ≤ 16
  | activeEpRsp _ _ _ endpoints => endpoints.length ≤ 77
  | incomingMsg _ data => data.length ≤ 99
  | _ => True

/-- The callback for an indication; what the arrays hold behind the lists was on the stack. -/
def callback (stack : Stack) : Indication → Callback
  | stateChangeInd zdoState => .stateChangeInd zdoState
  | simpleDescRsp srcAddr status nwkAddr len descriptor =>
      .simpleDescRsp
        { srcAddr, status, nwkAddr, len
          endpoint := descriptor.endpoint
          profileID := descriptor.profileID
          deviceID := descriptor.deviceID
          deviceVersion := descriptor.deviceVersion
          numInClusters := UInt8.ofNat descriptor.inClusters.length
          inClusterList := laid stack.simpleDescRsp.inClusterList 0 descriptor.inClusters
          numOutClusters := UInt8.ofNat descriptor.outClusters.length
          outClusterList := laid stack.simpleDescRsp.outClusterList 0 descriptor.outClusters }
  | activeEpRsp srcAddr status nwkAddr endpoints =>
      .activeEpRsp
        { srcAddr, status, nwkAddr
          activeEPCount := UInt8.ofNat endpoints.length
          activeEPList := laid stack.activeEpRsp.activeEPList 0 endpoints }
  | endDeviceAnnceInd msg _ => .endDeviceAnnceInd msg
  | leaveInd msg => .leaveInd msg
  | dataConfirm msg => .dataConfirm msg
  | incomingMsg head data =>
      .incomingMsg
        { groupId := head.groupId
          clusterId := head.clusterId
          srcAddr := head.srcAddr
          srcEndpoint := head.srcEndpoint
          dstEndpoint := head.dstEndpoint
          wasVroadcast := head.wasVroadcast
          linkQuality := head.linkQuality
          securityUse := head.securityUse
          timeStamp := head.timeStamp
          transSeqNum := head.transSeqNum
          len := UInt8.ofNat data.length
          data := laid stack.incomingMsg.data 0 data }

end Indication

section Fields

theorem reads_uint16 (value : UInt16) : Reads readUint16 (uint16Bytes value) value := by
  have read : Reads readUint16 (uint16Bytes value)
      (buildUint16 (loUint16 value) (hiUint16 value)) :=
    (reads_pair (loUint16 value) (hiUint16 value)).map
  rwa [build_uint16_lo_hi] at read

theorem reads_uint32 (value : UInt32) : Reads readUint32 (toBytesLE 4 value.toNat) value := by
  have read : Reads readUint32 (toBytesLE 4 value.toNat) (UInt32.ofNat value.toNat) :=
    (reads_number value.toNat_lt).map
  rwa [UInt32.ofNat_toNat] at read

theorem reads_uint64 (value : UInt64) : Reads readUint64 (toBytesLE 8 value.toNat) value := by
  have read : Reads readUint64 (toBytesLE 8 value.toNat) (UInt64.ofNat value.toNat) :=
    (reads_number value.toNat_lt).map
  rwa [UInt64.ofNat_toNat] at read

theorem reads_counted {α β : Type} {size : Nat} {element : Reader α} {write : α → List UInt8}
    (each : ∀ value, Reads element (write value) value) {items : List α} (room : items.length ≤ size)
    (small : size < 256) (array : Vector α size) {next : UInt8 → Vector α size → Reader β}
    {back : List UInt8} {result : β}
    (behind : Reads (next (UInt8.ofNat items.length) (laid array 0 items)) back result) :
    Reads
      (do
        let count ← readByte
        let list ← fillArray element 0 count.toNat array
        next count list)
      (countByte items ++ (items.flatMap write ++ back)) result := by
  have fits : items.length < 256 := Nat.lt_of_le_of_lt room small
  have whole : (UInt8.ofNat items.length).toNat = items.length := UInt8.toNat_ofNat_of_lt' fits
  have filled := reads_fill (fun value (_ : value ∈ items) => each value) 0 (by omega) array
  refine (reads_byte (UInt8.ofNat items.length)).bind ?_
  rw [whole]
  exact filled.bind behind

end Fields

section Records

theorem reads_simple_desc_rsp (rsp : SimpleDescRspFormat) {rpcLen : UInt8} (long : rpcLen > 6)
    {srcAddr nwkAddr : UInt16} {status len : UInt8} {descriptor : Descriptor}
    (room : descriptor.inClusters.length ≤ 16 ∧ descriptor.outClusters.length ≤ 16) :
    Reads (processSimpleDescRsp rsp rpcLen)
      (Indication.simpleDescRsp srcAddr status nwkAddr len descriptor).payload
      { srcAddr, status, nwkAddr, len
        endpoint := descriptor.endpoint
        profileID := descriptor.profileID
        deviceID := descriptor.deviceID
        deviceVersion := descriptor.deviceVersion
        numInClusters := UInt8.ofNat descriptor.inClusters.length
        inClusterList := laid rsp.inClusterList 0 descriptor.inClusters
        numOutClusters := UInt8.ofNat descriptor.outClusters.length
        outClusterList := laid rsp.outClusterList 0 descriptor.outClusters } := by
  simp only [Indication.payload, Descriptor.bytes, List.append_assoc]
  apply (reads_uint16 srcAddr).bind
  apply (reads_byte status).bind
  apply (reads_uint16 nwkAddr).bind
  apply (reads_byte len).bind
  rw [if_pos long]
  apply (reads_byte descriptor.endpoint).bind
  apply (reads_uint16 descriptor.profileID).bind
  apply (reads_uint16 descriptor.deviceID).bind
  apply (reads_byte descriptor.deviceVersion).bind
  apply reads_counted reads_uint16 room.1 (by decide) rsp.inClusterList
  rw [← List.append_nil (descriptor.outClusters.flatMap uint16Bytes)]
  apply reads_counted reads_uint16 room.2 (by decide) rsp.outClusterList
  exact Reads.pure _

theorem reads_active_ep_rsp (rsp : ActiveEpRspFormat) {rpcLen : UInt8} (long : rpcLen > 6)
    {srcAddr nwkAddr : UInt16} {status : UInt8} {endpoints : List UInt8}
    (room : endpoints.length ≤ 77) :
    Reads (processActiveEpRsp rsp rpcLen)
      (Indication.activeEpRsp srcAddr status nwkAddr endpoints).payload
      { srcAddr, status, nwkAddr
        activeEPCount := UInt8.ofNat endpoints.length
        activeEPList := laid rsp.activeEPList 0 endpoints } := by
  have bytes : endpoints = endpoints.flatMap (fun endpoint => [endpoint]) ++ [] := by
    rw [List.append_nil, List.flatMap_singleton']
  simp only [Indication.payload, List.append_assoc]
  apply (reads_uint16 srcAddr).bind
  apply (reads_byte status).bind
  apply (reads_uint16 nwkAddr).bind
  simp only [if_pos long]
  nth_rewrite 2 [bytes]
  apply reads_counted reads_byte room (by decide) rsp.activeEPList
  exact Reads.pure _

theorem reads_end_device_annce_ind (msg : EndDeviceAnnceIndFormat) (capabilities : UInt8) :
    Reads processEndDeviceAnnceInd (Indication.endDeviceAnnceInd msg capabilities).payload msg := by
  simp only [Indication.payload, List.append_assoc]
  apply (reads_uint16 msg.srcAddr).bind
  apply (reads_uint16 msg.nwkAddr).bind
  apply (reads_uint64 msg.ieeeAddr).bind
  exact (reads_byte capabilities).map

theorem reads_leave_ind (msg : LeaveIndFormat) :
    Reads processLeaveInd (Indication.leaveInd msg).payload msg := by
  simp only [Indication.payload, List.append_assoc]
  apply (reads_uint16 msg.srcAddr).bind
  apply (reads_uint64 msg.extAddr).bind
  apply (reads_byte msg.request).bind
  apply (reads_byte msg.remove).bind
  exact (reads_byte msg.rejoin).map

theorem reads_data_confirm (msg : DataConfirmFormat) :
    Reads processDataConfirm (Indication.dataConfirm msg).payload msg := by
  simp only [Indication.payload, List.append_assoc]
  apply (reads_byte msg.status).bind
  apply (reads_byte msg.endpoint).bind
  exact (reads_byte msg.transId).map

theorem reads_incoming_msg (rsp : IncomingMsgFormat) {rpcLen : UInt8} (long : rpcLen > 17)
    (head : IncomingHead) {data : List UInt8} (room : data.length ≤ 99) :
    Reads (processIncomingMsg rsp rpcLen) (Indication.incomingMsg head data).payload
      { groupId := head.groupId
        clusterId := head.clusterId
        srcAddr := head.srcAddr
        srcEndpoint := head.srcEndpoint
        dstEndpoint := head.dstEndpoint
        wasVroadcast := head.wasVroadcast
        linkQuality := head.linkQuality
        securityUse := head.securityUse
        timeStamp := head.timeStamp
        transSeqNum := head.transSeqNum
        len := UInt8.ofNat data.length
        data := laid rsp.data 0 data } := by
  have bytes : data = data.flatMap (fun byte => [byte]) ++ [] := by
    rw [List.append_nil, List.flatMap_singleton']
  simp only [Indication.payload, IncomingHead.bytes, List.append_assoc]
  apply (reads_uint16 head.groupId).bind
  apply (reads_uint16 head.clusterId).bind
  apply (reads_uint16 head.srcAddr).bind
  apply (reads_byte head.srcEndpoint).bind
  apply (reads_byte head.dstEndpoint).bind
  apply (reads_byte head.wasVroadcast).bind
  apply (reads_byte head.linkQuality).bind
  apply (reads_byte head.securityUse).bind
  apply (reads_uint32 head.timeStamp).bind
  apply (reads_byte head.transSeqNum).bind
  simp only [if_pos long]
  nth_rewrite 2 [bytes]
  apply reads_counted reads_byte room (by decide) rsp.data
  exact Reads.pure _

end Records

theorem subsystem_process_reads {responses : Cases Unit} {cases : Cases (Option Callback)}
    {cmd0 cmd1 : UInt8} (request : cmd0 &&& mtRpcCmdTypeMask ≠ mtRpcCmdSrsp) {Record : Type}
    {make : Record → Callback} {reader : Reader Record}
    (found : cases.lookup cmd1 = some (called make reader)) {payload : List UInt8} {value : Record}
    (reads : Reads reader payload value) {rpcBuff : Memory}
    (holds : Holds rpcBuff 0 (cmd0 :: cmd1 :: payload)) (short : 2 + payload.length < 256)
    (rpcLen : UInt8) :
    subsystemProcess responses cases rpcBuff rpcLen = some (some (make value)) := by
  have two : (2 : UInt8).toNat = 2 := rfl
  have made : Reads (called make reader) payload (some (make value)) := reads.map
  have read := made rpcBuff 2 holds.2.2 (by omega)
  have first : rpcBuff 0 = cmd0 := holds.1
  have second : rpcBuff 1 = cmd1 := holds.2.1
  rw [subsystemProcess, first, second, if_neg request, found]
  simp only [read, Option.map_some]

theorem zdo_message_reads {stack : Stack} {rpcLen cmd1 : UInt8} {Record : Type}
    {make : Record → Callback} {reader : Reader Record}
    (found : (zdoCases stack rpcLen).lookup cmd1 = some (called make reader)) {payload : List UInt8}
    {value : Record} (reads : Reads reader payload value) {rpcBuff : Memory}
    (holds : Holds rpcBuff 0 ((mtRpcCmdAreq ||| mtRpcSysZdo) :: cmd1 :: payload))
    (short : 2 + payload.length < 256) :
    mtProcess stack rpcBuff rpcLen = some (some (make value)) := by
  have request : (mtRpcCmdAreq ||| mtRpcSysZdo) &&& mtRpcCmdTypeMask ≠ mtRpcCmdSrsp := by decide
  have subsystem : (mtRpcCmdAreq ||| mtRpcSysZdo) &&& mtRpcSubsystemMask = mtRpcSysZdo := by decide
  have first : rpcBuff 0 = mtRpcCmdAreq ||| mtRpcSysZdo := holds.1
  rw [mtProcess, first, subsystem, if_pos rfl, zdoProcess]
  exact subsystem_process_reads request found reads holds short rpcLen

theorem af_message_reads {stack : Stack} {rpcLen cmd1 : UInt8} {Record : Type}
    {make : Record → Callback} {reader : Reader Record}
    (found : (afCases stack rpcLen).lookup cmd1 = some (called make reader)) {payload : List UInt8}
    {value : Record} (reads : Reads reader payload value) {rpcBuff : Memory}
    (holds : Holds rpcBuff 0 ((mtRpcCmdAreq ||| mtRpcSysAf) :: cmd1 :: payload))
    (short : 2 + payload.length < 256) :
    mtProcess stack rpcBuff rpcLen = some (some (make value)) := by
  have request : (mtRpcCmdAreq ||| mtRpcSysAf) &&& mtRpcCmdTypeMask ≠ mtRpcCmdSrsp := by decide
  have subsystem : (mtRpcCmdAreq ||| mtRpcSysAf) &&& mtRpcSubsystemMask = mtRpcSysAf := by decide
  have first : rpcBuff 0 = mtRpcCmdAreq ||| mtRpcSysAf := holds.1
  rw [mtProcess, first, subsystem, if_neg (by decide), if_neg (by decide), if_pos rfl, afProcess]
  exact subsystem_process_reads request found reads holds short rpcLen

theorem mt_process_indication {indication : Indication} (fits : indication.Fits) (stack : Stack)
    {rpcBuff : Memory}
    (holds : Holds rpcBuff 0 (indication.cmd0 :: indication.cmd1 :: indication.payload))
    {rpcLen : UInt8} (length : 2 + indication.payload.length ≤ rpcLen.toNat) :
    mtProcess stack rpcBuff rpcLen = some (some (indication.callback stack)) := by
  have bounded : rpcLen.toNat < 256 := rpcLen.toNat_lt
  have short : 2 + indication.payload.length < 256 := by omega
  have six : (6 : UInt8).toNat = 6 := rfl
  have seventeen : (17 : UInt8).toNat = 17 := rfl
  cases indication with
  | stateChangeInd zdoState =>
      exact zdo_message_reads (by rfl) (reads_byte zdoState) holds short
  | simpleDescRsp srcAddr status nwkAddr len descriptor =>
      have long : rpcLen > 6 := by
        simp only [Indication.payload, uint16Bytes, List.length_append, List.length_cons] at length
        rw [gt_iff_lt, UInt8.lt_iff_toNat_lt, six]
        omega
      exact zdo_message_reads (by rfl) (reads_simple_desc_rsp stack.simpleDescRsp long fits) holds
        short
  | activeEpRsp srcAddr status nwkAddr endpoints =>
      have long : rpcLen > 6 := by
        simp only [Indication.payload, uint16Bytes, countByte, List.length_append,
          List.length_cons] at length
        rw [gt_iff_lt, UInt8.lt_iff_toNat_lt, six]
        omega
      exact zdo_message_reads (by rfl) (reads_active_ep_rsp stack.activeEpRsp long fits) holds short
  | endDeviceAnnceInd msg capabilities =>
      exact zdo_message_reads (by rfl) (reads_end_device_annce_ind msg capabilities) holds short
  | leaveInd msg => exact zdo_message_reads (by rfl) (reads_leave_ind msg) holds short
  | dataConfirm msg => exact af_message_reads (by rfl) (reads_data_confirm msg) holds short
  | incomingMsg head data =>
      have long : rpcLen > 17 := by
        simp only [Indication.payload, IncomingHead.bytes, uint16Bytes, countByte,
          List.length_append, List.length_cons, to_bytes_le_length] at length
        rw [gt_iff_lt, UInt8.lt_iff_toNat_lt, seventeen]
        omega
      exact af_message_reads (by rfl) (reads_incoming_msg stack.incomingMsg long head fits) holds
        short

def zeroStack : Stack where
  simpleDescRsp := ⟨0, 0, 0, 0, 0, 0, 0, 0, 0, Vector.replicate 16 0, 0, Vector.replicate 16 0⟩
  activeEpRsp := ⟨0, 0, 0, 0, Vector.replicate 77 0⟩
  incomingMsg := ⟨0, 0, 0, 0, 0, 0, 0, 0, 0, 0, 0, Vector.replicate 99 0⟩

def twoEndpoints : Indication := .activeEpRsp 0x1234 0 0x1234 [1, 8]

theorem mt_process_indication_two_endpoints :
    mtProcess zeroStack
        (placed (twoEndpoints.cmd0 :: twoEndpoints.cmd1 :: twoEndpoints.payload) fun _ => 0xFF) 11 =
      some (some (twoEndpoints.callback zeroStack)) :=
  @mt_process_indication twoEndpoints (show ([1, 8] : List UInt8).length ≤ 77 by decide) zeroStack _
    (holds_placed _ _) 11 (by decide)

end SmartHome.MtMessages
