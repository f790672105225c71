import SmartHome.Bytebuffer
import SmartHome.Library.OutputBuffer

/-!
# The ZCL layer of `zcl.c`

From a ZCL command to the `AF_DATA_REQUEST` that carries it, and the data types of
attribute values. Memory from `malloc` is filled with what the heap held before.
-/

namespace SmartHome.Zcl

open SmartHome.Library.Bytes
open SmartHome.Library.OutputBuffer
open SmartHome.Bytebuffer

set_option autoImplicit false

def zclClusterIdGenBasic : UInt16 := 0x0000
def zclClusterIdGenIdentify : UInt16 := 0x0003
def zclClusterIdGenOnOff : UInt16 := 0x0006
def zclClusterIdGenLevelControl : UInt16 := 0x0008
def zclClusterIdSsIasWd : UInt16 := 0x0502

def zclFrameTypeProfileCmd : UInt8 := 0x00
def zclFrameTypeSpecificCmd : UInt8 := 0x01
def zclFrameClientServerDir : UInt8 := 0x00
def zclFrameServerClientDir : UInt8 := 0x01

def zclCmdRead : UInt8 := 0x00
def zclCmdConfigReport : UInt8 := 0x06

def zclSendAttrReports : UInt8 := 0x00

def attridBasicZclVersion : UInt16 := 0x0000

/-- `struct zclframehdr` with the bit fields of its frame control. -/
structure Zclframehdr where
  type : BitVec 2
  manuspecific : BitVec 1
  direction : BitVec 1
  disabledefaultrsp : BitVec 1
  manucode : UInt16
  transseqnum : UInt8
  commandid : UInt8

def zclCalcHdrSize (hdr : Zclframehdr) : UInt8 :=
  if hdr.manuspecific ≠ 0 then 3 + 2 else 3

def bitField {width : Nat} (field : BitVec width) : UInt8 := ⟨field.setWidth 8⟩

def zclBuildHdr (hdr : Zclframehdr) : List UInt8 :=
  [bitField hdr.type ||| bitField hdr.manuspecific <<< 2 ||| bitField hdr.direction <<< 3 |||
      bitField hdr.disabledefaultrsp <<< 4] ++
    (if hdr.manuspecific ≠ 0 then [loUint16 hdr.manucode, hiUint16 hdr.manucode] else []) ++
    [hdr.transseqnum, hdr.commandid]

/-- `DataRequestFormat_t`: `data` is what was copied to its `Data[128]`, and past it when it is
longer. -/
structure DataRequest where
  dstAddr : UInt16
  dstEndpoint : UInt8
  srcEndpoint : UInt8
  clusterID : UInt16
  transID : UInt8
  options : UInt8
  radius : UInt8
  len : UInt8
  data : List UInt8
  deriving DecidableEq

/-- The request `zcl_sendcommand` hands to `sendcmd`; the message is kept in an `unsigned short`,
the request's length in a byte. -/
def zclSendcommand (srcEP dstEp : UInt8) (dstaddr clusterID : UInt16) (cmd : UInt8)
    (specific : Bool) (direction disableDefaultRsp : UInt8) (manuCode : UInt16) (seqNum : UInt8)
    (cmdFormat : List UInt8) : DataRequest :=
  let hdr : Zclframehdr :=
    { type := (if specific then zclFrameTypeSpecificCmd else zclFrameTypeProfileCmd).toBitVec.setWidth 2
      manuspecific := if manuCode ≠ 0 then 1 else 0
      direction :=
        (if direction ≠ 0 then zclFrameServerClientDir
        else zclFrameClientServerDir).toBitVec.setWidth 1
      disabledefaultrsp := if disableDefaultRsp ≠ 0 then 1 else 0
      manucode := if manuCode ≠ 0 then manuCode else 0
      transseqnum := seqNum
      commandid := cmd }
  let msgLen : UInt16 := (zclCalcHdrSize hdr).toUInt16 + UInt16.ofNat cmdFormat.length
  { dstAddr := dstaddr
    dstEndpoint := dstEp
    srcEndpoint := srcEP
    clusterID := clusterID
    transID := 0
    options := 0
    radius := 0
    len := msgLen.toUInt8
    data := (zclBuildHdr hdr ++ cmdFormat).take msgLen.toNat }

/-- `zcl_SendCommand` takes the short address and the endpoint from an address. -/
structure AfAddr where
  shortAddr : UInt16
  endPoint : UInt8

def zclSendCommand (srcEP : UInt8) (destAddr : AfAddr) (clusterID : UInt16) (cmd : UInt8)
    (specific : Bool) (direction disableDefaultRsp : UInt8) (manuCode : UInt16) (seqNum : UInt8)
    (cmdFormat : List UInt8) : DataRequest :=
  zclSendcommand srcEP destAddr.endPoint destAddr.shortAddr clusterID cmd specific direction
    disableDefaultRsp manuCode seqNum cmdFormat

def zclSendRead (srcEP dstEp : UInt8) (dstAddr clusterID : UInt16) (attrID : List UInt16)
    (direction disableDefaultRsp seqNum : UInt8) : DataRequest :=
  zclSendcommand srcEP dstEp dstAddr clusterID zclCmdRead false direction disableDefaultRsp 0
    seqNum (attrID.flatMap fun attr => [loUint16 attr, hiUint16 attr])

/-- The groups of `case` labels that `zclGetDataTypeLength`, `zclSerializeData` and
`recv_reportable_change` have in common. -/
inductive DataTypeGroup
  | bytes1
  | bytes2
  | bytes3
  | bytes4
  | bytes5
  | bytes6
  | bytes7
  | bytes8
  | shortString
  | longString
  | secKey
  | noData
  deriving DecidableEq

def zclDatatypeData8 : UInt8 := 0x08
def zclDatatypeData16 : UInt8 := 0x09
def zclDatatypeData24 : UInt8 := 0x0a
def zclDatatypeData32 : UInt8 := 0x0b
def zclDatatypeBoolean : UInt8 := 0x10
def zclDatatypeBitmap8 : UInt8 := 0x18
def zclDatatypeBitmap16 : UInt8 := 0x19
def zclDatatypeBitmap24 : UInt8 := 0x1a
def zclDatatypeBitmap32 : UInt8 := 0x1b
def zclDatatypeUint8 : UInt8 := 0x20
def zclDatatypeUint16 : UInt8 := 0x21
def zclDatatypeUint24 : UInt8 := 0x22
def zclDatatypeUint32 : UInt8 := 0x23
def zclDatatypeUint40 : UInt8 := 0x24
def zclDatatypeUint48 : UInt8 := 0x25
def zclDatatypeUint56 : UInt8 := 0x26
def zclDatatypeUint64 : UInt8 := 0x27
def zclDatatypeInt8 : UInt8 := 0x28
def zclDatatypeInt16 : UInt8 := 0x29
def zclDatatypeInt24 : UInt8 := 0x2a
def zclDatatypeInt32 : UInt8 := 0x2b
def zclDatatypeInt40 : UInt8 := 0x2c
def zclDatatypeInt48 : UInt8 := 0x2d
def zclDatatypeInt56 : UInt8 := 0x2e
def zclDatatypeInt64 : UInt8 := 0x2f
def zclDatatypeEnum8 : UInt8 := 0x30
def zclDatatypeEnum16 : UInt8 := 0x31
def zclDatatypeSemiPrec : UInt8 := 0x38
def zclDatatypeSinglePrec : UInt8 := 0x39
def zclDatatypeDoublePrec : UInt8 := 0x3a
def zclDatatypeOctetStr : UInt8 := 0x41
def zclDatatypeCharStr : UInt8 := 0x42
def zclDatatypeLongOctetStr : UInt8 := 0x43
def zclDatatypeLongCharStr : UInt8 := 0x44
def zclDatatypeTod : UInt8 := 0xe0
def zclDatatypeDate : UInt8 := 0xe1
def zclDatatypeUtc : UInt8 := 0xe2
def zclDatatypeClusterId : UInt8 := 0xe8
def zclDatatypeAttrId : UInt8 := 0xe9
def zclDatatypeBacOid : UInt8 := 0xea
def zclDatatypeIeeeAddr : UInt8 := 0xf0
def zclDatatype128BitSecKey : UInt8 := 0xf1

def dataTypeGroup (dataType : UInt8) : DataTypeGroup :=
  if dataType ∈ [zclDatatypeData8, zclDatatypeBoolean, zclDatatypeBitmap8, zclDatatypeInt8,
      zclDatatypeUint8, zclDatatypeEnum8] then .bytes1
  else if dataType ∈ [zclDatatypeData16, zclDatatypeBitmap16, zclDatatypeUint16, zclDatatypeInt16,
      zclDatatypeEnum16, zclDatatypeSemiPrec, zclDatatypeClusterId, zclDatatypeAttrId] then .bytes2
  else if dataType ∈ [zclDatatypeData24, zclDatatypeBitmap24, zclDatatypeUint24,
      zclDatatypeInt24] then .bytes3
  else if dataType ∈ [zclDatatypeData32, zclDatatypeBitmap32, zclDatatypeUint32, zclDatatypeInt32,
      zclDatatypeSinglePrec, zclDatatypeTod, zclDatatypeDate, zclDatatypeUtc,
      zclDatatypeBacOid] then .bytes4
  else if dataType ∈ [zclDatatypeUint40, zclDatatypeInt40] then .bytes5
  else if dataType ∈ [zclDatatypeUint48, zclDatatypeInt48] then .bytes6
  else if dataType ∈ [zclDatatypeUint56, zclDatatypeInt56] then .bytes7
  else if dataType ∈ [zclDatatypeDoublePrec, zclDatatypeIeeeAddr, zclDatatypeUint64,
      zclDatatypeInt64] then .bytes8
  else if dataType ∈ [zclDatatypeCharStr, zclDatatypeOctetStr] then .shortString
  else if dataType ∈ [zclDatatypeLongCharStr, zclDatatypeLongOctetStr] then .longString
  else if dataType = zclDatatype128BitSecKey then .secKey
  else .noData

def secKeyLen : Nat := 16

/-- The string types fall under its `default`. -/
def zclGetDataTypeLength (dataType : UInt8) : Nat :=
  match dataTypeGroup dataType with
  | .bytes1 => 1
  | .bytes2 => 2
  | .bytes3 => 3
  | .bytes4 => 4
  | .bytes5 => 5
  | .bytes6 => 6
  | .bytes7 => 7
  | .bytes8 => 8
  | .secKey => secKeyLen
  | .shortString | .longString | .noData => 0

/-- The bytes that a value of this type takes up at `pData`, the length in front of a string
included; 16 bits, as the source has it. -/
def zclGetAttrDataLength (dataType : UInt8) (pData : List UInt8) : UInt16 :=
  if dataType = zclDatatypeLongCharStr ∨ dataType = zclDatatypeLongOctetStr then
    buildUint16 (pData.getD 0 0) (pData.getD 1 0) + 2
  else if dataType = zclDatatypeCharStr ∨ dataType = zclDatatypeOctetStr then
    (pData.getD 0 0).toUInt16 + 1
  else UInt16.ofNat (zclGetDataTypeLength dataType)

def analogDataTypes : List UInt8 :=
  [zclDatatypeUint8, zclDatatypeUint16, zclDatatypeUint24, zclDatatypeUint32, zclDatatypeUint40,
    zclDatatypeUint48, zclDatatypeUint56, zclDatatypeUint64, zclDatatypeInt8, zclDatatypeInt16,
    zclDatatypeInt24, zclDatatypeInt32, zclDatatypeInt40, zclDatatypeInt48, zclDatatypeInt56,
    zclDatatypeInt64, zclDatatypeSemiPrec, zclDatatypeSinglePrec, zclDatatypeDoublePrec,
    zclDatatypeTod, zclDatatypeDate, zclDatatypeUtc]

def zclAnalogDataType (dataType : UInt8) : Bool := dataType ∈ analogDataTypes

/-- What `zclSerializeData` stores at `buf`, and how far behind `buf` the pointer is that it
returns. `zcl_buffer_uint32` and `zcl_memcpy` return what `memcpy` does: `buf` itself. -/
def zclSerializeData (dataType : UInt8) (attrData : Option (List UInt8)) : List UInt8 × Nat :=
  match attrData with
  | none => ([], 0)
  | some attrData =>
      match dataTypeGroup dataType with
      | .bytes1 => (attrData.take 1, 1)
      | .bytes2 => (attrData.take 2, 2)
      | .bytes3 => (attrData.take 3, 3)
      | .bytes4 => (attrData.take 4, 0)
      | .bytes5 => (attrData.take 5, 0)
      | .bytes6 => (attrData.take 6, 0)
      | .bytes7 => (attrData.take 7, 0)
      | .bytes8 => (attrData.take 8, 0)
      | .shortString => (attrData.take ((attrData.headD 0).toNat + 1), 0)
      | .longString =>
          (attrData.take ((buildUint16 (attrData.getD 0 0) (attrData.getD 1 0)).toNat + 2), 0)
      | .secKey => (attrData.take secKeyLen, 0)
      | .noData => ([], 0)

/-- `zclCfgReportRec_t`; `reportableChange` is the memory it points to. -/
structure ZclCfgReportRec where
  direction : UInt8
  attrID : UInt16
  dataType : UInt8
  minReportInt : UInt16
  maxReportInt : UInt16
  timeoutPeriod : UInt16
  reportableChange : Option (List UInt8)

def reportRecLen (reportRec : ZclCfgReportRec) : Nat :=
  1 + 2 +
    if reportRec.direction = zclSendAttrReports then
      1 + 2 + 2 +
        if zclAnalogDataType reportRec.dataType then zclGetDataTypeLength reportRec.dataType else 0
    else 2

def loadReportRec (filling : Filling UInt8) (reportRec : ZclCfgReportRec) : Filling UInt8 :=
  let filling := store filling
    [reportRec.direction, loUint16 reportRec.attrID, hiUint16 reportRec.attrID] 3
  if reportRec.direction = zclSendAttrReports then
    let filling := store filling
      [reportRec.dataType, loUint16 reportRec.minReportInt, hiUint16 reportRec.minReportInt,
        loUint16 reportRec.maxReportInt, hiUint16 reportRec.maxReportInt] 5
    if zclAnalogDataType reportRec.dataType then
      let (bytes, advance) := zclSerializeData reportRec.dataType reportRec.reportableChange
      store filling bytes advance
    else filling
  else
    store filling [loUint16 reportRec.timeoutPeriod, hiUint16 reportRec.timeoutPeriod] 2

/-- At most 255 records of at most 16 bytes: `dataLen` does not overflow its 16 bits. -/
def zclSendConfigReportCmd (heap : Memory) (srcEP dstEp : UInt8) (dstAddr clusterID : UInt16)
    (attrList : List ZclCfgReportRec) (direction disableDefaultRsp seqNum : UInt8) : DataRequest :=
  let dataLen := (attrList.map reportRecLen).sum
  let buf := attrList.foldl loadReportRec ⟨readBytes heap 0 dataLen, 0⟩
  zclSendcommand srcEP dstEp dstAddr clusterID zclCmdConfigReport false direction
    disableDefaultRsp 0 seqNum buf.cells

theorem analog_groups {dataType : UInt8} (analog : zclAnalogDataType dataType = true) :
    dataTypeGroup dataType ∈ [DataTypeGroup.bytes1, .bytes2, .bytes3, .bytes4, .bytes5, .bytes6,
      .bytes7, .bytes8] := by
  have groups : ∀ dataType ∈ analogDataTypes, dataTypeGroup dataType ∈
      [DataTypeGroup.bytes1, .bytes2, .bytes3, .bytes4, .bytes5, .bytes6, .bytes7, .bytes8] := by
    decide +kernel
  exact groups dataType (by simpa [zclAnalogDataType] using analog)

end SmartHome.Zcl
