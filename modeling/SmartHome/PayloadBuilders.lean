import SmartHome.AttributeCommands
import SmartHome.ConfigReport
import SmartHome.Library.RecordBuffers

/-!
# What the payload builders send

All three builders load their records as pieces of a buffer: a head that the pointer
is moved behind, and a value that `zclSerializeData` stores. Behind a value of four bytes
or more, or a string, it returns the pointer it was given.
-/

namespace SmartHome.PayloadBuilders

open SmartHome.Library.Bytes
open SmartHome.Library.OutputBuffer
open SmartHome.Library.RecordBuffers
open SmartHome.Bytebuffer
open SmartHome.Zcl
open SmartHome.BasicAttributes
open SmartHome.AttributeCommands
open SmartHome.ConfigReport

set_option autoImplicit false

/-- The types of at most three bytes, and those that no table of the source knows. -/
def Advances (dataType : UInt8) : Prop :=
  dataTypeGroup dataType ∈ [DataTypeGroup.bytes1, .bytes2, .bytes3, .noData]

instance (dataType : UInt8) : Decidable (Advances dataType) := inferInstanceAs (Decidable (_ ∈ _))

def valueEncoding {dataType : UInt8} (data : AttrData dataType) : List UInt8 :=
  data.bytes.take (attrDataSize dataType data.bytes)

def readRspEncoding (statusRec : ZclReadRspStatus) : List UInt8 :=
  [loUint16 statusRec.attrID, hiUint16 statusRec.attrID, statusRec.status] ++
    if statusRec.status = zclStatusSuccess then
      statusRec.dataType :: (statusRec.data.map valueEncoding).getD []
    else []

def writeEncoding (statusRec : ZclWriteRec) : List UInt8 :=
  [loUint16 statusRec.attrID, hiUint16 statusRec.attrID, statusRec.dataType] ++
    valueEncoding statusRec.attrData

structure GivenReportRec where
  reportRec : ZclCfgReportRec
  given : loadsChange reportRec → ∃ change, reportRec.reportableChange = some change ∧
    zclGetDataTypeLength reportRec.dataType ≤ change.length

def reportEncoding (given : GivenReportRec) : List UInt8 :=
  recHead given.reportRec ++
    if loadsChange given.reportRec then
      (given.reportRec.reportableChange.getD []).take
        (zclGetDataTypeLength given.reportRec.dataType)
    else []

/-- `dataLen` of `zcl_SendConfigReportCmd`. -/
def configReportLen (attrList : List GivenReportRec) : UInt16 :=
  UInt16.ofNat (attrList.map fun given => reportRecLen given.reportRec).sum

def loadConfigReport (attrList : List GivenReportRec) (buf : List UInt8) : List UInt8 :=
  ((attrList.map GivenReportRec.reportRec).foldl loadReportRec ⟨buf, 0⟩).cells

def ReadRspAdvances (statusRec : ZclReadRspStatus) : Prop :=
  statusRec.status = zclStatusSuccess → statusRec.data.isSome → Advances statusRec.dataType

def WriteAdvances (statusRec : ZclWriteRec) : Prop := Advances statusRec.dataType

def ReportAdvances (given : GivenReportRec) : Prop :=
  loadsChange given.reportRec → Advances given.reportRec.dataType

theorem value_encoding_length {dataType : UInt8} (data : AttrData dataType) :
    (valueEncoding data).length = attrDataSize dataType data.bytes := by
  rw [valueEncoding, List.length_take, Nat.min_eq_left data.whole]

/-- The string types are the ones that `zclGetAttrDataLength` compares with. -/
theorem string_groups (dataType : UInt8) :
    (dataTypeGroup dataType = .longString ↔
        dataType = zclDatatypeLongCharStr ∨ dataType = zclDatatypeLongOctetStr) ∧
      (dataTypeGroup dataType = .shortString ↔
        dataType = zclDatatypeCharStr ∨ dataType = zclDatatypeOctetStr) := by
  revert dataType
  apply forall_uint8
  decide +kernel

theorem attr_data_length (dataType : UInt8) (pData : List UInt8) :
    zclGetAttrDataLength dataType pData = UInt16.ofNat (attrDataSize dataType pData) := by
  have groups := string_groups dataType
  rw [zclGetAttrDataLength, attrDataSize]
  simp only [← groups.1, ← groups.2]
  cases dataTypeGroup dataType with
  | longString =>
      rw [if_pos rfl, UInt16.ofNat_add, UInt16.ofNat_toNat]
      rfl
  | shortString =>
      rw [if_neg (by decide), if_pos rfl, UInt16.ofNat_add, UInt16.ofNat_uInt8ToNat]
      rfl
  | _ => rfl

theorem attr_data_size_pos {dataType : UInt8} (stays : ¬Advances dataType) (pData : List UInt8) :
    0 < attrDataSize dataType pData := by
  rw [Advances] at stays
  rw [attrDataSize, zclGetDataTypeLength]
  cases group : dataTypeGroup dataType <;>
    first
    | exact absurd (by rw [group]; decide) stays
    | exact Nat.succ_pos _

theorem attr_data_size_le (dataType : UInt8) (pData : List UInt8) :
    attrDataSize dataType pData ≤ 65537 ∧
      (Advances dataType → attrDataSize dataType pData ≤ 3) := by
  have short := (pData.getD 0 0).toNat_lt
  have long := (buildUint16 (pData.getD 0 0) (pData.getD 1 0)).toNat_lt
  rw [attrDataSize, zclGetDataTypeLength, Advances]
  cases dataTypeGroup dataType <;> simp [secKeyLen, -List.getD_eq_getElem?_getD] <;> omega

/-- The value is stored whole; the pointer is moved behind it only for the types that say so. -/
theorem serialize_value {dataType : UInt8} (data : AttrData dataType) :
    zclSerializeData dataType (some data.bytes) =
      (valueEncoding data, if Advances dataType then (valueEncoding data).length else 0) := by
  have first : data.bytes.headD 0 = data.bytes.getD 0 0 := by cases data.bytes <;> rfl
  rw [value_encoding_length, valueEncoding]
  cases group : dataTypeGroup dataType <;>
    simp [zclSerializeData, attrDataSize, zclGetDataTypeLength, Advances, group, first,
      -List.headD_eq_head?_getD, -List.getD_eq_getElem?_getD]

def valuePiece {dataType : UInt8} (head : List UInt8) (starts : head ≠ [])
    (data : AttrData dataType) : Piece UInt8 where
  head
  value := valueEncoding data
  advance := if Advances dataType then (valueEncoding data).length else 0
  starts
  bounded := by
    split_ifs
    · exact le_rfl
    · exact Nat.zero_le _

def plainPiece (head : List UInt8) (starts : head ≠ []) : Piece UInt8 where
  head
  value := []
  advance := 0
  starts
  bounded := le_rfl

theorem value_piece_moves_iff {dataType : UInt8} (head : List UInt8) (starts : head ≠ [])
    (data : AttrData dataType) : (valuePiece head starts data).Moves ↔ Advances dataType := by
  rw [Piece.Moves, valuePiece]
  simp only
  by_cases advances : Advances dataType
  · rw [if_pos advances]
    exact ⟨fun _ => advances, fun _ => rfl⟩
  · rw [if_neg advances, value_encoding_length]
    have positive := attr_data_size_pos advances data.bytes
    exact ⟨fun none => absurd none (by omega), fun moves => absurd moves advances⟩

def writePiece (statusRec : ZclWriteRec) : Piece UInt8 :=
  valuePiece [loUint16 statusRec.attrID, hiUint16 statusRec.attrID, statusRec.dataType]
    (List.cons_ne_nil _ _) statusRec.attrData

def readRspPiece (statusRec : ZclReadRspStatus) : Piece UInt8 :=
  let head := [loUint16 statusRec.attrID, hiUint16 statusRec.attrID, statusRec.status]
  if statusRec.status = zclStatusSuccess then
    match statusRec.data with
    | some data => valuePiece (head ++ [statusRec.dataType]) (List.cons_ne_nil _ _) data
    | none => plainPiece (head ++ [statusRec.dataType]) (List.cons_ne_nil _ _)
  else plainPiece head (List.cons_ne_nil _ _)

theorem given_change (given : GivenReportRec) (loads : loadsChange given.reportRec) :
    ∃ data : AttrData given.reportRec.dataType,
      given.reportRec.reportableChange = some data.bytes ∧
        attrDataSize given.reportRec.dataType data.bytes =
          zclGetDataTypeLength given.reportRec.dataType := by
  rcases given.given loads with ⟨change, present, long⟩
  have size : attrDataSize given.reportRec.dataType change =
      zclGetDataTypeLength given.reportRec.dataType := by
    have group := analog_groups loads.2
    simp only [List.mem_cons, List.not_mem_nil, or_false] at group
    rw [attrDataSize]
    rcases group with group | group | group | group | group | group | group | group <;> rw [group]
  exact ⟨⟨change, size.trans_le long⟩, present, size⟩

theorem load_write_rec_eq (filling : Filling UInt8) (statusRec : ZclWriteRec) :
    loadWriteRec filling statusRec = load filling (writePiece statusRec) := by
  rw [loadWriteRec, serialize_value]
  rfl

theorem load_plain_piece (filling : Filling UInt8) (head : List UInt8) (starts : head ≠ []) :
    load filling (plainPiece head starts) = store filling head head.length := store_nil _

theorem load_read_rsp_status_eq (filling : Filling UInt8) (statusRec : ZclReadRspStatus) :
    loadReadRspStatus filling statusRec = load filling (readRspPiece statusRec) := by
  have head := store_store filling
    [loUint16 statusRec.attrID, hiUint16 statusRec.attrID, statusRec.status]
    [statusRec.dataType] 1
  rw [loadReadRspStatus, readRspPiece]
  by_cases success : statusRec.status = zclStatusSuccess
  · simp only [if_pos success]
    cases statusRec.data with
    | none =>
        rw [load_plain_piece]
        exact head
    | some data =>
        simp only [serialize_value]
        exact congrArg (fun filling => store filling _ _) head
  · simp only [if_neg success, load_plain_piece]
    rfl

theorem load_rec_head_eq (filling : Filling UInt8) (reportRec : ZclCfgReportRec) :
    loadRecHead filling reportRec =
      store filling (recHead reportRec) (recHead reportRec).length := by
  rw [loadRecHead, recHead]
  split_ifs
  · exact store_store filling _ _ 5
  · exact store_store filling _ _ 2

def reportPiece (given : GivenReportRec) : Piece UInt8 where
  head := recHead given.reportRec
  value :=
    if loadsChange given.reportRec then
      (zclSerializeData given.reportRec.dataType given.reportRec.reportableChange).1
    else []
  advance :=
    if loadsChange given.reportRec then
      (zclSerializeData given.reportRec.dataType given.reportRec.reportableChange).2
    else 0
  starts := List.cons_ne_nil _ _
  bounded := by
    by_cases loads : loadsChange given.reportRec
    · rcases given_change given loads with ⟨data, present, -⟩
      rw [if_pos loads, if_pos loads, present, serialize_value]
      exact (valuePiece [0] (List.cons_ne_nil _ _) data).bounded
    · rw [if_neg loads, if_neg loads]
      rfl

theorem load_report_rec_piece (filling : Filling UInt8) (given : GivenReportRec) :
    loadReportRec filling given.reportRec = load filling (reportPiece given) := by
  rw [load_report_rec_eq, load_rec_head_eq, load, reportPiece]
  by_cases loads : loadsChange given.reportRec
  · simp only [if_pos loads]
  · simp only [if_neg loads, store_nil]

theorem write_piece_items (statusRec : ZclWriteRec) :
    (writePiece statusRec).items = writeEncoding statusRec := rfl

theorem read_rsp_piece_items (statusRec : ZclReadRspStatus) :
    (readRspPiece statusRec).items = readRspEncoding statusRec := by
  rw [readRspPiece, readRspEncoding]
  by_cases success : statusRec.status = zclStatusSuccess
  · simp only [if_pos success]
    cases statusRec.data <;> rfl
  · simp only [if_neg success]
    rfl

theorem report_piece_items (given : GivenReportRec) :
    (reportPiece given).items = reportEncoding given := by
  rw [Piece.items, reportPiece, reportEncoding]
  by_cases loads : loadsChange given.reportRec
  · rcases given_change given loads with ⟨data, present, size⟩
    simp only [if_pos loads, present, serialize_value, valueEncoding, size, Option.getD_some]
  · simp only [if_neg loads]

theorem read_rsp_moves_iff (statusRec : ZclReadRspStatus) :
    (readRspPiece statusRec).Moves ↔ ReadRspAdvances statusRec := by
  rw [readRspPiece, ReadRspAdvances]
  by_cases success : statusRec.status = zclStatusSuccess
  · simp only [if_pos success]
    cases statusRec.data with
    | none => exact ⟨fun _ _ absent => Bool.noConfusion absent, fun _ => rfl⟩
    | some data =>
        rw [value_piece_moves_iff]
        exact ⟨fun advances _ _ => advances, fun advances => advances success rfl⟩
  · simp only [if_neg success]
    exact ⟨fun _ same => absurd same success, fun _ => rfl⟩

theorem report_moves_iff (given : GivenReportRec) :
    (reportPiece given).Moves ↔ ReportAdvances given := by
  rw [ReportAdvances]
  by_cases loads : loadsChange given.reportRec
  · rcases given_change given loads with ⟨data, present, -⟩
    have moves := value_piece_moves_iff [0] (List.cons_ne_nil _ _) data
    rw [Piece.Moves, valuePiece] at moves
    rw [Piece.Moves, reportPiece]
    simp only [if_pos loads, present, serialize_value] at moves ⊢
    rw [moves]
    exact ⟨fun advances _ => advances, fun advances => advances loads⟩
  · rw [Piece.Moves, reportPiece]
    simp only [if_neg loads]
    exact ⟨fun _ loaded => absurd loaded loads, fun _ => rfl⟩

theorem write_rec_len_eq (statusRec : ZclWriteRec) :
    writeRecLen statusRec = UInt16.ofNat (writeEncoding statusRec).length := by
  rw [writeRecLen, attr_data_length, writeEncoding, List.length_append, value_encoding_length,
    UInt16.ofNat_add]
  rfl

theorem read_rsp_status_len_eq (statusRec : ZclReadRspStatus) :
    readRspStatusLen statusRec = UInt16.ofNat (readRspEncoding statusRec).length := by
  rw [readRspStatusLen, readRspEncoding, List.length_append, UInt16.ofNat_add]
  change (2 + 1 : UInt16) + _ = (2 + 1 : UInt16) + _
  congr 1
  by_cases success : statusRec.status = zclStatusSuccess
  · rw [if_pos success, if_pos success, List.length_cons, Nat.add_comm, UInt16.ofNat_add]
    cases statusRec.data with
    | none => rfl
    | some data =>
        simp only [attr_data_length, Option.map_some, Option.getD_some, ← value_encoding_length]
        rfl
  · rw [if_neg success, if_neg success]
    rfl

theorem sum_len_eq {Record : Type} {len : Record → UInt16} {encoding : Record → List UInt8}
    (one : ∀ statusRec, len statusRec = UInt16.ofNat (encoding statusRec).length)
    (attrList : List Record) :
    (attrList.map len).sum = UInt16.ofNat (attrList.flatMap encoding).length := by
  induction attrList with
  | nil => rfl
  | cons statusRec rest induction =>
      rw [List.map_cons, List.sum_cons, induction, one, List.flatMap_cons, List.length_append,
        UInt16.ofNat_add]

theorem report_len_eq (attrList : List GivenReportRec) :
    (attrList.map fun given => reportRecLen given.reportRec).sum =
      (attrList.flatMap reportEncoding).length := by
  induction attrList with
  | nil => rfl
  | cons given rest induction =>
      rw [List.map_cons, List.sum_cons, induction, List.flatMap_cons, List.length_append,
        report_rec_len_eq, reportEncoding, List.length_append]
      by_cases loads : loadsChange given.reportRec
      · rcases given.given loads with ⟨change, present, long⟩
        rw [if_pos loads, if_pos loads, present, Option.getD_some, List.length_take,
          Nat.min_eq_left long]
      · rw [if_neg loads, if_neg loads]
        rfl

/-- The three builders are fill passes over their pieces. -/
theorem fills_iff {Record : Type} {loadRec : Filling UInt8 → Record → Filling UInt8}
    {piece : Record → Piece UInt8} {encoding : Record → List UInt8} {advances : Record → Prop}
    (loads : ∀ filling statusRec, loadRec filling statusRec = load filling (piece statusRec))
    (items : ∀ statusRec, (piece statusRec).items = encoding statusRec)
    (moves : ∀ statusRec, (piece statusRec).Moves ↔ advances statusRec) (attrList : List Record) :
    FillsExactly (UInt16.ofNat (attrList.flatMap encoding).length).toNat
        (fun buf => (attrList.foldl loadRec ⟨buf, 0⟩).cells) (attrList.flatMap encoding) ↔
      (attrList.flatMap encoding).length < 65536 ∧
        ∀ statusRec ∈ attrList.dropLast, advances statusRec := by
  have bytesDiffer : Nontrivial UInt8 := ⟨0, 1, by decide⟩
  have pass : (fun buf => (attrList.foldl loadRec ⟨buf, 0⟩).cells) =
      (loadAll · (attrList.map piece)) := by
    funext buf
    rw [loadAll, List.foldl_map]
    congr 2
    funext filling statusRec
    exact loads filling statusRec
  have encodings : attrList.flatMap encoding = (attrList.map piece).flatMap Piece.items := by
    rw [List.flatMap_map]
    congr 1
    funext statusRec
    exact (items statusRec).symm
  rw [pass, encodings, load_all_fills_iff, ← List.map_dropLast, UInt16.toNat_ofNat']
  constructor
  · rintro ⟨size, front⟩
    refine ⟨by omega, fun statusRec member => ?_⟩
    exact (moves statusRec).mp (front _ (List.mem_map_of_mem member))
  · rintro ⟨short, front⟩
    refine ⟨Nat.mod_eq_of_lt short, fun other member => ?_⟩
    rcases List.mem_map.mp member with ⟨statusRec, inFront, rfl⟩
    exact (moves statusRec).mpr (front statusRec inFront)

theorem read_rsp_fills_iff (attrList : List ZclReadRspStatus) :
    FillsExactly (readRspLen attrList).toNat (loadReadRsp attrList)
        (attrList.flatMap readRspEncoding) ↔
      (attrList.flatMap readRspEncoding).length < 65536 ∧
        ∀ statusRec ∈ attrList.dropLast, ReadRspAdvances statusRec := by
  rw [readRspLen, sum_len_eq read_rsp_status_len_eq]
  exact fills_iff load_read_rsp_status_eq read_rsp_piece_items read_rsp_moves_iff attrList

theorem write_request_fills_iff (attrList : List ZclWriteRec) :
    FillsExactly (writeRequestLen attrList).toNat (loadWriteRequest attrList)
        (attrList.flatMap writeEncoding) ↔
      (attrList.flatMap writeEncoding).length < 65536 ∧
        ∀ statusRec ∈ attrList.dropLast, WriteAdvances statusRec := by
  rw [writeRequestLen, sum_len_eq write_rec_len_eq]
  exact fills_iff load_write_rec_eq write_piece_items
    (fun statusRec => value_piece_moves_iff _ _ statusRec.attrData) attrList

theorem config_report_fills_iff {attrList : List GivenReportRec} (few : attrList.length < 256) :
    FillsExactly (configReportLen attrList).toNat (loadConfigReport attrList)
        (attrList.flatMap reportEncoding) ↔
      ∀ given ∈ attrList.dropLast, ReportAdvances given := by
  have total := report_recs_len_le (attrList.map GivenReportRec.reportRec)
  rw [List.map_map, List.length_map] at total
  have short : (attrList.flatMap reportEncoding).length < 65536 := by
    rw [← report_len_eq]
    exact total.trans_lt (by omega)
  have pass : loadConfigReport attrList = fun buf =>
      (attrList.foldl (fun filling given => loadReportRec filling given.reportRec)
        ⟨buf, 0⟩).cells := by
    funext buf
    rw [loadConfigReport, List.foldl_map]
  rw [configReportLen, report_len_eq, pass,
    fills_iff load_report_rec_piece report_piece_items report_moves_iff attrList]
  exact ⟨fun fills => fills.2, fun front => ⟨short, front⟩⟩

theorem zcl_send_read_rsp_sends {attrList : List ZclReadRspStatus}
    (fills : FillsExactly (readRspLen attrList).toNat (loadReadRsp attrList)
      (attrList.flatMap readRspEncoding))
    (heap : Memory) (srcEP dstEp : UInt8) (dstAddr clusterID : UInt16)
    (direction disableDefaultRsp seqNum : UInt8) :
    zclSendReadRsp heap srcEP dstEp dstAddr clusterID attrList direction disableDefaultRsp seqNum =
      zclSendcommand srcEP dstEp dstAddr clusterID ZclIncoming.zclCmdReadRsp false direction
        disableDefaultRsp 0 seqNum (attrList.flatMap readRspEncoding) := by
  have length := read_bytes_length heap 0 (readRspLen attrList).toNat
  rw [zclSendReadRsp, List.take_of_length_le (fills.inside _ length).le, fills.filled _ length]

theorem zcl_send_write_request_sends {attrList : List ZclWriteRec}
    (fills : FillsExactly (writeRequestLen attrList).toNat (loadWriteRequest attrList)
      (attrList.flatMap writeEncoding))
    (heap : Memory) (srcEP : UInt8) (dstAddr : AfAddr) (clusterID : UInt16)
    (cmd direction disableDefaultRsp seqNum : UInt8) :
    zclSendWriteRequest heap srcEP dstAddr clusterID attrList cmd direction disableDefaultRsp
        seqNum =
      zclSendCommand srcEP dstAddr clusterID cmd false direction disableDefaultRsp 0 seqNum
        (attrList.flatMap writeEncoding) := by
  have length := read_bytes_length heap 0 (writeRequestLen attrList).toNat
  rw [zclSendWriteRequest, List.take_of_length_le (fills.inside _ length).le, fills.filled _ length]

theorem zcl_send_config_report_cmd_sends {attrList : List GivenReportRec}
    (few : attrList.length < 256)
    (fills : FillsExactly (configReportLen attrList).toNat (loadConfigReport attrList)
      (attrList.flatMap reportEncoding))
    (heap : Memory) (srcEP dstEp : UInt8) (dstAddr clusterID : UInt16)
    (direction disableDefaultRsp seqNum : UInt8) :
    zclSendConfigReportCmd heap srcEP dstEp dstAddr clusterID
        (attrList.map GivenReportRec.reportRec) direction disableDefaultRsp seqNum =
      zclSendcommand srcEP dstEp dstAddr clusterID zclCmdConfigReport false direction
        disableDefaultRsp 0 seqNum (attrList.flatMap reportEncoding) := by
  have total := report_recs_len_le (attrList.map GivenReportRec.reportRec)
  rw [List.map_map, List.length_map] at total
  have dataLen : (configReportLen attrList).toNat =
      ((attrList.map GivenReportRec.reportRec).map reportRecLen).sum := by
    rw [configReportLen, UInt16.toNat_ofNat', List.map_map]
    exact Nat.mod_eq_of_lt (total.trans_lt (by omega))
  have length := read_bytes_length heap 0 (configReportLen attrList).toNat
  have filled := fills.filled _ length
  rw [dataLen, loadConfigReport] at filled
  rw [zclSendConfigReportCmd, filled]

/-- Each builder leaves its buffer, whatever that held, with the encodings of its records and stores
nothing behind it, exactly if the pointer is moved behind every value but the last and the length
does not wrap; and then these encodings are sent. It is moved behind a value by the value's length
for the types of at most three bytes, and for a long string whose length wraps to zero. -/
theorem payload_builders_fill_iff {dataType : UInt8} (data : AttrData dataType)
    (rspList : List ZclReadRspStatus) (writeList : List ZclWriteRec)
    (reportList : List GivenReportRec) :
    ((zclSerializeData dataType (some data.bytes)).2 =
        (zclGetAttrDataLength dataType data.bytes).toNat ↔
      Advances dataType ∨ attrDataSize dataType data.bytes = 65536) ∧
    (FillsExactly (readRspLen rspList).toNat (loadReadRsp rspList)
        (rspList.flatMap readRspEncoding) ↔
      (rspList.flatMap readRspEncoding).length < 65536 ∧
        ∀ statusRec ∈ rspList.dropLast, ReadRspAdvances statusRec) ∧
    (FillsExactly (writeRequestLen writeList).toNat (loadWriteRequest writeList)
        (writeList.flatMap writeEncoding) ↔
      (writeList.flatMap writeEncoding).length < 65536 ∧
        ∀ statusRec ∈ writeList.dropLast, WriteAdvances statusRec) ∧
    (reportList.length < 256 →
      (FillsExactly (configReportLen reportList).toNat (loadConfigReport reportList)
          (reportList.flatMap reportEncoding) ↔
        ∀ given ∈ reportList.dropLast, ReportAdvances given)) ∧
    (∀ (heap : Memory) (srcEP dstEp : UInt8) (dstAddr clusterID : UInt16)
        (direction disableDefaultRsp seqNum : UInt8),
      ((rspList.flatMap readRspEncoding).length < 65536 →
        (∀ statusRec ∈ rspList.dropLast, ReadRspAdvances statusRec) →
        zclSendReadRsp heap srcEP dstEp dstAddr clusterID rspList direction disableDefaultRsp
            seqNum =
          zclSendcommand srcEP dstEp dstAddr clusterID ZclIncoming.zclCmdReadRsp false direction
            disableDefaultRsp 0 seqNum (rspList.flatMap readRspEncoding)) ∧
      (reportList.length < 256 → (∀ given ∈ reportList.dropLast, ReportAdvances given) →
        zclSendConfigReportCmd heap srcEP dstEp dstAddr clusterID
            (reportList.map GivenReportRec.reportRec) direction disableDefaultRsp seqNum =
          zclSendcommand srcEP dstEp dstAddr clusterID zclCmdConfigReport false direction
            disableDefaultRsp 0 seqNum (reportList.flatMap reportEncoding))) ∧
    ∀ (heap : Memory) (srcEP : UInt8) (dstAddr : AfAddr) (clusterID : UInt16)
        (cmd direction disableDefaultRsp seqNum : UInt8),
      (writeList.flatMap writeEncoding).length < 65536 →
      (∀ statusRec ∈ writeList.dropLast, WriteAdvances statusRec) →
        zclSendWriteRequest heap srcEP dstAddr clusterID writeList cmd direction disableDefaultRsp
            seqNum =
          zclSendCommand srcEP dstAddr clusterID cmd false direction disableDefaultRsp 0 seqNum
            (writeList.flatMap writeEncoding) := by
  refine ⟨?_, read_rsp_fills_iff rspList, write_request_fills_iff writeList,
    fun few => config_report_fills_iff few, ?_, ?_⟩
  · have sizes := attr_data_size_le dataType data.bytes
    rw [serialize_value, attr_data_length, UInt16.toNat_ofNat', value_encoding_length]
    by_cases advances : Advances dataType
    · have small := sizes.2 advances
      rw [if_pos advances]
      exact ⟨fun _ => .inl advances, fun _ => by omega⟩
    · have positive := attr_data_size_pos advances data.bytes
      rw [if_neg advances]
      constructor
      · intro none
        exact .inr (by omega)
      · rintro (advances' | wraps)
        · exact absurd advances' advances
        · rw [wraps]
  · intro heap srcEP dstEp dstAddr clusterID direction disableDefaultRsp seqNum
    constructor
    · intro short front
      exact zcl_send_read_rsp_sends ((read_rsp_fills_iff rspList).mpr ⟨short, front⟩) heap srcEP
        dstEp dstAddr clusterID direction disableDefaultRsp seqNum
    · intro few front
      exact zcl_send_config_report_cmd_sends few ((config_report_fills_iff few).mpr front) heap
        srcEP dstEp dstAddr clusterID direction disableDefaultRsp seqNum
  · intro heap srcEP dstAddr clusterID cmd direction disableDefaultRsp seqNum short front
    exact zcl_send_write_request_sends ((write_request_fills_iff writeList).mpr ⟨short, front⟩)
      heap srcEP dstAddr clusterID cmd direction disableDefaultRsp seqNum

def twoWords : List ZclWriteRec :=
  [⟨0x0000, zclDatatypeUint32, ⟨[1, 2, 3, 4], by decide⟩⟩,
    ⟨0x0001, zclDatatypeUint32, ⟨[5, 6, 7, 8], by decide⟩⟩]

/-- The second record overwrites the value of the first, and the last four bytes of the buffer are
what the heap held. -/
theorem two_words_not_written :
    (zclSerializeData zclDatatypeUint32 (some [1, 2, 3, 4])).2 ≠
        (zclGetAttrDataLength zclDatatypeUint32 [1, 2, 3, 4]).toNat ∧
      ¬FillsExactly (writeRequestLen twoWords).toNat (loadWriteRequest twoWords)
        (twoWords.flatMap writeEncoding) := by
  refine ⟨by decide, fun fills => ?_⟩
  have sent := fills.filled (List.replicate 14 0xAA) rfl
  exact absurd sent (by decide +kernel)

end SmartHome.PayloadBuilders
