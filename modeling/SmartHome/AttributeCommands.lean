import Mathlib.Data.UInt
import SmartHome.BasicAttributes
import SmartHome.ZclIncoming

/-!
# Commands with attribute records

`zcl_SendReadRsp` and `zcl_SendWriteRequest`: a first pass adds up the lengths of the
records, a second one loads them into a buffer of that length.
-/

namespace SmartHome.AttributeCommands

open SmartHome.Library.Bytes
open SmartHome.Library.OutputBuffer
open SmartHome.Bytebuffer
open SmartHome.Zcl
open SmartHome.ZclIncoming
open SmartHome.BasicAttributes

set_option autoImplicit false

def attrDataSize (dataType : UInt8) (pData : List UInt8) : Nat :=
  match dataTypeGroup dataType with
  | .shortString => (pData.getD 0 0).toNat + 1
  | .longString => (buildUint16 (pData.getD 0 0) (pData.getD 1 0)).toNat + 2
  | _ => zclGetDataTypeLength dataType

/-- The memory that a record points to: "the size depends on the attribute data type". -/
structure AttrData (dataType : UInt8) where
  bytes : List UInt8
  whole : attrDataSize dataType bytes ≤ bytes.length

/-- `zclReadRspStatus_t`. -/
structure ZclReadRspStatus where
  attrID : UInt16
  status : UInt8
  dataType : UInt8
  data : Option (AttrData dataType)

/-- `zclWriteRec_t`. -/
structure ZclWriteRec where
  attrID : UInt16
  dataType : UInt8
  attrData : AttrData dataType

/-- The share of one record in `len`. An attribute without data is left to the callback of its
endpoint; nothing ever registers one, and without it the length is 0. -/
def readRspStatusLen (statusRec : ZclReadRspStatus) : UInt16 :=
  2 + 1 +
    if statusRec.status = zclStatusSuccess then
      1 + match statusRec.data with
        | some data => zclGetAttrDataLength statusRec.dataType data.bytes
        | none => 0
    else 0

def loadReadRspStatus (filling : Filling UInt8) (statusRec : ZclReadRspStatus) : Filling UInt8 :=
  let filling := store filling
    [loUint16 statusRec.attrID, hiUint16 statusRec.attrID, statusRec.status] 3
  if statusRec.status = zclStatusSuccess then
    let filling := store filling [statusRec.dataType] 1
    match statusRec.data with
    | some data =>
        let (bytes, advance) := zclSerializeData statusRec.dataType (some data.bytes)
        store filling bytes advance
    | none => filling
  else filling

def readRspLen (attrList : List ZclReadRspStatus) : UInt16 := (attrList.map readRspStatusLen).sum

def loadReadRsp (attrList : List ZclReadRspStatus) (buf : List UInt8) : List UInt8 :=
  (attrList.foldl loadReadRspStatus ⟨buf, 0⟩).cells

def zclSendReadRsp (heap : Memory) (srcEP dstEp : UInt8) (dstAddr clusterID : UInt16)
    (attrList : List ZclReadRspStatus) (direction disableDefaultRsp seqNum : UInt8) : DataRequest :=
  let len := readRspLen attrList
  let buf := loadReadRsp attrList (readBytes heap 0 len.toNat)
  zclSendcommand srcEP dstEp dstAddr clusterID zclCmdReadRsp false direction disableDefaultRsp 0
    seqNum (buf.take len.toNat)

def writeRecLen (statusRec : ZclWriteRec) : UInt16 :=
  2 + 1 + zclGetAttrDataLength statusRec.dataType statusRec.attrData.bytes

def loadWriteRec (filling : Filling UInt8) (statusRec : ZclWriteRec) : Filling UInt8 :=
  let filling := store filling
    [loUint16 statusRec.attrID, hiUint16 statusRec.attrID, statusRec.dataType] 3
  let (bytes, advance) := zclSerializeData statusRec.dataType (some statusRec.attrData.bytes)
  store filling bytes advance

def writeRequestLen (attrList : List ZclWriteRec) : UInt16 := (attrList.map writeRecLen).sum

def loadWriteRequest (attrList : List ZclWriteRec) (buf : List UInt8) : List UInt8 :=
  (attrList.foldl loadWriteRec ⟨buf, 0⟩).cells

def zclSendWriteRequest (heap : Memory) (srcEP : UInt8) (dstAddr : AfAddr) (clusterID : UInt16)
    (attrList : List ZclWriteRec) (cmd direction disableDefaultRsp seqNum : UInt8) : DataRequest :=
  let dataLen := writeRequestLen attrList
  let buf := loadWriteRequest attrList (readBytes heap 0 dataLen.toNat)
  zclSendCommand srcEP dstAddr clusterID cmd false direction disableDefaultRsp 0 seqNum
    (buf.take dataLen.toNat)

end SmartHome.AttributeCommands
