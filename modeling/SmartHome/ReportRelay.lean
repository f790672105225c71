import SmartHome.ConfigReport

/-!
# Relaying reporting configurations

The records of a `CONFIG_REPORT` frame and the records that a Configure Reporting
command has to carry for them. The relay gets them right for every value of their
fields exactly when no change lies in front of another record and the last one has
a width that is read and written alike.
-/

namespace SmartHome.ReportRelay

open SmartHome.Library.Bytes
open SmartHome.Library.MemoryCursor
open SmartHome.Library.OutputBuffer
open SmartHome.Bytebuffer
open SmartHome.Registry
open SmartHome.PipeMessages
open SmartHome.Effects
open SmartHome.Encode
open SmartHome.Zcl
open SmartHome.Parse
open SmartHome.Receive
open SmartHome.EventRecvmsg
open SmartHome.DownCommand
open SmartHome.CommandTranslation
open SmartHome.PayloadBounds
open SmartHome.ConfigReport

set_option autoImplicit false

/-- The bytes of an analog type: integers with and without sign, floating-point numbers, times.
Other types have no reportable change. -/
def changeWidth (dataType : UInt8) : Nat :=
  if 0x20 ≤ dataType ∧ dataType ≤ 0x27 then dataType.toNat - 0x1F
  else if 0x28 ≤ dataType ∧ dataType ≤ 0x2F then dataType.toNat - 0x27
  else if dataType = 0x38 then 2
  else if dataType = 0x39 then 4
  else if dataType = 0x3A then 8
  else if 0xE0 ≤ dataType ∧ dataType ≤ 0xE2 then 4
  else 0

/-- What decides where the bytes of a record go. -/
structure RecordShape where
  direction : UInt8
  dataType : UInt8
  deriving DecidableEq

/-- `change` is the reportable change as the frame has it, most significant byte first. -/
structure ReportRecord extends RecordShape where
  attrId : UInt16
  minInterval : UInt16
  maxInterval : UInt16
  timeoutPeriod : UInt16
  change : List UInt8
  sized : change.length = changeWidth dataType

namespace ReportRecord

def frameBytes (record : ReportRecord) : List UInt8 :=
  record.direction :: (bytebufferWriteword record.attrId ++ (record.dataType ::
    (bytebufferWriteword record.minInterval ++ (bytebufferWriteword record.maxInterval ++
      (bytebufferWriteword record.timeoutPeriod ++ record.change)))))

def zclHead (record : ReportRecord) : List UInt8 :=
  record.direction :: (littleEndian (.word record.attrId) ++
    if record.direction = 0 then
      record.dataType :: (littleEndian (.word record.minInterval) ++
        littleEndian (.word record.maxInterval))
    else littleEndian (.word record.timeoutPeriod))

/-- Only a device that is to send reports is told the change, as the same number with its least
significant byte first. -/
def zclChange (record : ReportRecord) : List UInt8 :=
  if record.direction = 0 then toBytesLE record.change.length (ofBytesBE record.change) else []

def zclBytes (record : ReportRecord) : List UInt8 := record.zclHead ++ record.zclChange

end ReportRecord

def configFields (serialnum : UInt32) (ieee : UInt64) (clusterid : UInt16) (endpoint : UInt8)
    (records : List ReportRecord) : List UInt8 :=
  bytebufferWritedword serialnum ++ (bytebufferWritequadword ieee ++
    (bytebufferWriteword clusterid ++ (bytebufferWritebyte endpoint ++
      (bytebufferWritebyte (UInt8.ofNat records.length) ++
        records.flatMap ReportRecord.frameBytes))))

def configFrame (serialnum : UInt32) (ieee : UInt64) (clusterid : UInt16) (endpoint : UInt8)
    (records : List ReportRecord) : List UInt8 :=
  encodeFrame configReport (configFields serialnum ieee clusterid endpoint records)

def afterConfigReport (host : Host) (fd : Int) (state : MainState) (serialnum : UInt32)
    (ieee : UInt64) (clusterid : UInt16) (endpoint : UInt8) (records : List ReportRecord) :
    MainState :=
  eventSwitch host fd configReport
    (UInt32.ofNat (configFrame serialnum ieee clusterid endpoint records).length)
    (localBuffer (configFrame serialnum ieee clusterid endpoint records)) state

/-- The radio is asked for one data request, whose payload behind the ZCL header is the ZCL
encoding of these records. -/
def Relays (requests : List RadioRequest) (records : List ReportRecord) : Prop :=
  ∃ request : DataRequest, requests = [.afDataRequest request] ∧
    request.data.drop 3 = records.flatMap ReportRecord.zclBytes

/-- Records of these shapes are relayed whatever they hold, to every active device. -/
def ShapesRelayed (shapes : List RecordShape) : Prop :=
  ∀ (host : Host) (fd : Int) (heap : Memory) (state : MainState) (d : Device) (serialnum : UInt32)
    (ieee : UInt64) (clusterid : UInt16) (endpoint : UInt8) (records : List ReportRecord),
    records.map ReportRecord.toRecordShape = shapes →
      gatewayGetdevice state.gateway ieee = some d → deviceCheckStatus d deviceAppDel = false →
        let after := afterConfigReport host fd state serialnum ieee clusterid endpoint records
        Relays (radioRequests heap after.gateway (newEffects state after)) records

def EvenWidth (shape : RecordShape) : Prop :=
  shape.direction = 0 → changeWidth shape.dataType ∈ [0, 1, 2, 4, 8]

instance (shape : RecordShape) : Decidable (EvenWidth shape) :=
  inferInstanceAs (Decidable (_ → _))

def LastChangeOnly : List RecordShape → Prop
  | [] => True
  | [last] => EvenWidth last
  | first :: second :: rest => changeWidth first.dataType = 0 ∧ LastChangeOnly (second :: rest)

/-- The width of a type as the three length tables of the source have it. -/
theorem change_width_eq (dataType : UInt8) :
    (zclAnalogDataType dataType = true ↔ changeWidth dataType ≠ 0) ∧
      (changeWidth dataType ≠ 0 → zclGetDataTypeLength dataType = changeWidth dataType) ∧
      changeLength dataType = (if changeWidth dataType = 3 then 4
        else if 4 < changeWidth dataType then 8 else changeWidth dataType) ∧
      changeWidth dataType ≤ 8 := by
  revert dataType
  apply forall_uint8
  decide +kernel

theorem frame_bytes_length (record : ReportRecord) :
    record.frameBytes.length = 10 + changeWidth record.dataType := by
  simp only [ReportRecord.frameBytes, List.length_cons, List.length_append,
    bytebuffer_writeword_length, record.sized]
  omega

theorem zcl_change_eq (record : ReportRecord) :
    record.zclChange = if record.direction = 0 then record.change.reverse else [] := by
  rw [ReportRecord.zclChange, to_bytes_le_of_bytes_be]

section RecordAt

variable {memory : Memory} {address : Nat} {record : ReportRecord}

/-- Where a record lies in the frame, its head is loaded as the ZCL has it. -/
theorem rec_at_held (held : Holds memory address record.frameBytes) :
    (recAt memory address).direction = record.direction ∧
      (recAt memory address).dataType = record.dataType ∧
      recHead (recAt memory address) = record.zclHead ∧
      Holds memory (address + 10) record.change := by
  rw [ReportRecord.frameBytes, Holds, holds_append, Holds, holds_append, holds_append,
    holds_append] at held
  simp only [bytebuffer_writeword_length] at held
  rcases held with ⟨direction, attrId, dataType, minInterval, maxInterval, timeoutPeriod, change⟩
  have attr : (recAt memory address).attrID = record.attrId := getword_held attrId
  have least : (recAt memory address).minReportInt = record.minInterval :=
    getword_held minInterval
  have greatest : (recAt memory address).maxReportInt = record.maxInterval :=
    getword_held maxInterval
  have timeout : (recAt memory address).timeoutPeriod = record.timeoutPeriod :=
    getword_held timeoutPeriod
  have sends : (recAt memory address).direction = record.direction := direction
  have type : (recAt memory address).dataType = record.dataType := dataType
  refine ⟨sends, type, ?_, change⟩
  rw [recHead, ReportRecord.zclHead, sends, type, attr, least, greatest, timeout]
  simp only [little_endian_word]
  by_cases zero : record.direction = 0
  · have reports : record.direction = zclSendAttrReports := zero
    rw [if_pos reports, if_pos zero]
    rfl
  · have expects : ¬record.direction = zclSendAttrReports := zero
    rw [if_neg expects, if_neg zero]
    rfl

theorem loads_change_iff (held : Holds memory address record.frameBytes) :
    loadsChange (recAt memory address) ↔
      record.direction = 0 ∧ changeWidth record.dataType ≠ 0 := by
  obtain ⟨direction, dataType, -⟩ := rec_at_held held
  rw [loadsChange, direction, dataType, (change_width_eq _).1]
  rfl

theorem serialize_rec_at (held : Holds memory address record.frameBytes)
    (analog : changeWidth record.dataType ≠ 0) :
    zclSerializeData (recAt memory address).dataType (recAt memory address).reportableChange =
      ((readBytes memory (address + 10) (changeLength record.dataType)).reverse.take
          (changeWidth record.dataType),
        if changeWidth record.dataType ≤ 3 then changeWidth record.dataType else 0) := by
  obtain ⟨-, dataType, -⟩ := rec_at_held held
  have isAnalog := (change_width_eq record.dataType).1.mpr analog
  have stored := serialize_stored isAnalog memory ⟨address + 10, 0⟩
  rw [(change_width_eq record.dataType).2.1 analog] at stored
  have type : memory (address + 3) = record.dataType := dataType
  rw [dataType, recAt]
  simp only [type, isAnalog, if_true]
  exact stored

end RecordAt

/-- Records without a change are loaded as the ZCL has them. -/
theorem plain_records {memory : Memory} {address : Nat} {plain : List ReportRecord}
    (held : Holds memory address (plain.flatMap ReportRecord.frameBytes))
    (noChange : ∀ record ∈ plain, changeWidth record.dataType = 0) :
    (plain.flatMap ReportRecord.frameBytes).length = 10 * plain.length ∧
      (∀ reportRec ∈ recsAt memory address plain.length, ¬loadsChange reportRec) ∧
      (recsAt memory address plain.length).flatMap recHead =
        plain.flatMap ReportRecord.zclBytes := by
  induction plain generalizing address with
  | nil => exact ⟨rfl, List.forall_mem_nil _, rfl⟩
  | cons record rest induction =>
      rw [List.forall_mem_cons] at noChange
      rcases noChange with ⟨none, later⟩
      have ten := frame_bytes_length record
      rw [List.flatMap_cons, holds_append, ten, none] at held
      obtain ⟨length, unloaded, loaded⟩ := induction held.2 later
      have noBytes : record.change = [] :=
        List.eq_nil_of_length_eq_zero (record.sized.trans none)
      refine ⟨?_, ?_, ?_⟩
      · rw [List.flatMap_cons, List.length_append, List.length_cons, length, ten, none]
        omega
      · rw [List.length_cons, recsAt, List.forall_mem_cons, loads_change_iff held.1]
        exact ⟨fun loads => loads.2 none, unloaded⟩
      · rw [List.length_cons, recsAt, List.flatMap_cons, List.flatMap_cons, loaded,
          (rec_at_held held.1).2.2.1, ReportRecord.zclBytes, zcl_change_eq, noBytes,
          List.reverse_nil, ite_self, List.append_nil]

theorem last_record_held {memory : Memory} {address : Nat} {plain : List ReportRecord}
    {last : ReportRecord}
    (held : Holds memory address ((plain ++ [last]).flatMap ReportRecord.frameBytes))
    (noChange : ∀ record ∈ plain, changeWidth record.dataType = 0) :
    Holds memory (address + 10 * plain.length) last.frameBytes := by
  rw [List.flatMap_append, holds_append, List.flatMap_cons, List.flatMap_nil, List.append_nil]
    at held
  rw [← (plain_records held.1 noChange).1]
  exact held.2

section Loaded

variable (heap : Memory) {memory : Memory} {address : Nat} {plain rest : List ReportRecord}
  {record : ReportRecord}

def loadedBuffer (memory : Memory) (address count : Nat) : List UInt8 :=
  ((recsAt memory address count).foldl loadReportRec
    ⟨readBytes heap 0 ((recsAt memory address count).map reportRecLen).sum, 0⟩).cells

/-- Loading up to the first record with a change: what comes in front of it is as the ZCL has it,
and the rest of the buffer is for this record and those behind it. -/
theorem loaded_up_to
    (held : Holds memory address ((plain ++ record :: rest).flatMap ReportRecord.frameBytes))
    (noChange : ∀ record ∈ plain, changeWidth record.dataType = 0) :
    let here := address + 10 * plain.length
    Holds memory here ((record :: rest).flatMap ReportRecord.frameBytes) ∧
      ∃ filling, Filled filling (plain.flatMap ReportRecord.zclBytes) ∧
        filling.cells.length = filling.pointer + (reportRecLen (recAt memory here) +
          ((recsAt memory (here + 10) rest.length).map reportRecLen).sum) ∧
        loadedBuffer heap memory address (plain ++ record :: rest).length =
          ((recsAt memory (here + 10) rest.length).foldl loadReportRec
            (loadReportRec filling (recAt memory here))).cells := by
  intro here
  rw [List.flatMap_append, holds_append] at held
  obtain ⟨length, unloaded, heads⟩ := plain_records held.1 noChange
  have recs : recsAt memory address (plain ++ record :: rest).length =
      recsAt memory address plain.length ++
        (recAt memory here :: recsAt memory (here + 10) rest.length) := by
    rw [List.length_append, recs_at_add, List.length_cons, recsAt]
  have filled := load_report_recs_filled (filled_start
    (readBytes heap 0 ((recsAt memory address
      (plain ++ record :: rest).length).map reportRecLen).sum)) unloaded
  rw [List.nil_append] at filled
  rw [length] at held
  refine ⟨held.2, _, heads ▸ filled, ?_, ?_⟩
  · rw [filled.1, rec_heads_length unloaded, recs, load_report_recs_length, List.map_cons,
      List.sum_cons]
  · rw [loadedBuffer, recs, List.foldl_append, List.foldl_cons]

theorem loaded_last
    (held : Holds memory address ((plain ++ [record]).flatMap ReportRecord.frameBytes))
    (noChange : ∀ record ∈ plain, changeWidth record.dataType = 0) :
    loadedBuffer heap memory address (plain ++ [record]).length =
      plain.flatMap ReportRecord.zclBytes ++ (record.zclHead ++
        if record.direction = 0 then
          (readBytes memory (address + 10 * plain.length + 10)
            (changeLength record.dataType)).reverse.take (changeWidth record.dataType)
        else []) := by
  obtain ⟨-, filling, filled, room, loaded⟩ := loaded_up_to heap held noChange
  have here := last_record_held held noChange
  obtain ⟨-, dataType, head, -⟩ := rec_at_held here
  rw [List.length_nil, recsAt, List.map_nil, List.sum_nil, Nat.add_zero] at room
  rw [List.length_nil, recsAt, List.foldl_nil] at loaded
  have widths := change_width_eq record.dataType
  rw [loaded, load_report_rec_full filled room, head, List.append_assoc]
  · by_cases loads : loadsChange (recAt memory (address + 10 * plain.length))
    · obtain ⟨sends, analog⟩ := (loads_change_iff here).mp loads
      rw [if_pos loads, if_pos sends, serialize_rec_at here analog]
    · rw [if_neg loads]
      by_cases sends : record.direction = 0
      · have none : changeWidth record.dataType = 0 := by
          by_contra analog
          exact loads ((loads_change_iff here).mpr ⟨sends, analog⟩)
        rw [if_pos sends, none, List.take_zero]
      · rw [if_neg sends]
  · intro loads
    obtain ⟨-, analog⟩ := (loads_change_iff here).mp loads
    rw [serialize_rec_at here analog, dataType, widths.2.1 analog, List.length_take,
      List.length_reverse, read_bytes_length, widths.2.2.1]
    split_ifs <;> omega

/-- Behind a record with a change, the next direction is taken from the first byte of the change and
stays where the pointer was. -/
theorem loaded_behind_change {next : ReportRecord}
    (held : Holds memory address ((plain ++ record :: next :: rest).flatMap
      ReportRecord.frameBytes))
    (noChange : ∀ record ∈ plain, changeWidth record.dataType = 0)
    (analog : changeWidth record.dataType ≠ 0) :
    (loadedBuffer heap memory address (plain ++ record :: next :: rest).length)[
        (plain.flatMap ReportRecord.zclBytes).length + (record.zclHead.length +
          if record.direction = 0 ∧ changeWidth record.dataType ≤ 3 then
            changeWidth record.dataType
          else 0)]? = some (record.change.getD 0 0) := by
  obtain ⟨here, filling, filled, room, loaded⟩ := loaded_up_to heap held noChange
  rw [List.flatMap_cons, holds_append] at here
  obtain ⟨direction, dataType, head, change⟩ := rec_at_held here.1
  have first : memory (address + 10 * plain.length + 10) = record.change.getD 0 0 := by
    have present : 0 < record.change.length := by
      rw [record.sized]
      omega
    have byte := change.get present
    rwa [Nat.add_zero] at byte
  rw [List.length_cons, recsAt] at room loaded
  have stays := next_direction_stays room.ge
  have pointer : (loadReportRec filling (recAt memory (address + 10 * plain.length))).pointer =
      filling.pointer + (record.zclHead.length +
        if record.direction = 0 ∧ changeWidth record.dataType ≤ 3 then
          changeWidth record.dataType
        else 0) := by
    rw [load_report_rec_eq]
    by_cases loads : loadsChange (recAt memory (address + 10 * plain.length))
    · obtain ⟨sends, -⟩ := (loads_change_iff here.1).mp loads
      rw [if_pos loads, store, load_rec_head_pointer, head, serialize_rec_at here.1 analog]
      simp only [sends, true_and]
      omega
    · have stops : ¬record.direction = 0 := fun sends =>
        loads ((loads_change_iff here.1).mpr ⟨sends, analog⟩)
      rw [if_neg loads, load_rec_head_pointer, head, if_neg fun both => stops both.1]
      rfl
  rw [pointer, filled.1] at stays
  rw [loaded, stays]
  exact congrArg some first

end Loaded

theorem config_fields_held {memory : Memory} {serialnum : UInt32} {ieee : UInt64}
    {clusterid : UInt16} {endpoint : UInt8} {records : List ReportRecord}
    (held : Holds memory 5 (configFields serialnum ieee clusterid endpoint records)) :
    Holds memory 5 (bytebufferWritedword serialnum) ∧
      Holds memory 9 (bytebufferWritequadword ieee) ∧
      Holds memory 17 (bytebufferWriteword clusterid) ∧ memory 19 = endpoint ∧
      memory 20 = UInt8.ofNat records.length ∧
      Holds memory 21 (records.flatMap ReportRecord.frameBytes) := by
  rw [configFields, holds_append, holds_append, holds_append, holds_append, holds_append] at held
  simp only [bytebuffer_writedword_length, bytebuffer_writequadword_length,
    bytebuffer_writeword_length, bytebuffer_writebyte_length] at held
  rcases held with ⟨serialHeld, ieeeHeld, clusterHeld, endpointHeld, numberHeld, recordsHeld⟩
  exact ⟨serialHeld, ieeeHeld, clusterHeld, endpointHeld.1, numberHeld.1, recordsHeld⟩

theorem parse_config_reporting {memory : Memory} {serialnum : UInt32} {ieee : UInt64}
    {clusterid : UInt16} {endpoint : UInt8} {records : List ReportRecord}
    (held : Holds memory 5 (configFields serialnum ieee clusterid endpoint records))
    (few : records.length ≤ 255) (len : UInt16) :
    let config := (protocolParseConfigReporting len).value memory
    config.ieee = ieee ∧ config.serialnum = serialnum ∧ config.clusterid = clusterid ∧
      config.endpoint = endpoint ∧
      config.attrList.map cfgReportRec = recsAt memory 21 records.length := by
  intro config
  obtain ⟨serialHeld, ieeeHeld, clusterHeld, endpointHeld, numberHeld, -⟩ :=
    config_fields_held held
  have recods : config.attrList.map cfgReportRec = recsAt memory 21 (memory 20).toNat :=
    parse_cfg_report_recods_value len memory (memory 20).toNat ⟨21, 21⟩
  have number : (memory 20).toNat = records.length := by
    rw [numberHeld, UInt8.toNat_ofNat']
    omega
  refine ⟨getquadword_held ieeeHeld, getdword_held serialHeld, getword_held clusterHeld,
    endpointHeld, ?_⟩
  rw [recods, number]

def frameMemory (host : Host) (serialnum : UInt32) (ieee : UInt64) (clusterid : UInt16)
    (endpoint : UInt8) (records : List ReportRecord) : Memory :=
  bufferMemory host (localBuffer (configFrame serialnum ieee clusterid endpoint records))

theorem frame_memory_held (host : Host) (serialnum : UInt32) (ieee : UInt64) (clusterid : UInt16)
    (endpoint : UInt8) (records : List ReportRecord) :
    Holds (frameMemory host serialnum ieee clusterid endpoint records) 5
        (configFields serialnum ieee clusterid endpoint records) ∧
      Holds (frameMemory host serialnum ieee clusterid endpoint records) 21
        (records.flatMap ReportRecord.frameBytes) := by
  have held := frame_fields_held host configReport
    (configFields serialnum ieee clusterid endpoint records)
  exact ⟨held, (config_fields_held held).2.2.2.2.2⟩

section Chain

variable (host : Host) (fd : Int) (heap : Memory) {state : MainState} {d : Device} {ieee : UInt64}

theorem relays_iff (found : gatewayGetdevice state.gateway ieee = some d)
    (active : deviceCheckStatus d deviceAppDel = false) (serialnum : UInt32) (clusterid : UInt16)
    (endpoint : UInt8) {records : List ReportRecord} (few : records.length ≤ 255) :
    let after := afterConfigReport host fd state serialnum ieee clusterid endpoint records
    Relays (radioRequests heap after.gateway (newEffects state after)) records ↔
      loadedBuffer heap (frameMemory host serialnum ieee clusterid endpoint records) 21
        records.length = records.flatMap ReportRecord.zclBytes := by
  intro after
  have parsed := parse_config_reporting
    (frame_memory_held host serialnum ieee clusterid endpoint records).1 few
    (UInt32.ofNat (configFrame serialnum ieee clusterid endpoint records).length).toUInt16
  have switched : after = handleCommand host fd (.configReporting ((protocolParseConfigReporting
      (UInt32.ofNat (configFrame serialnum ieee clusterid endpoint records).length).toUInt16).value
        (frameMemory host serialnum ieee clusterid endpoint records))) state := rfl
  generalize (protocolParseConfigReporting _).value _ = config at parsed switched
  rcases parsed with ⟨ieeeRead, serialRead, clusterRead, endpointRead, recods⟩
  have result : after = state.act [.pipe (.configReport config)] := by
    rw [switched, handleCommand]
    exact pass_on_active _ (ieeeRead ▸ found) active
  have count : (recsAt (frameMemory host serialnum ieee clusterid endpoint records) 21
      records.length).length ≤ 255 := by rwa [recs_at_length]
  rw [result, new_effects_act, radio_requests_pipe, appProcess, zclDownCmdConfigReporting,
    ieeeRead, MainState.act_gateway, found]
  simp only [recods, clusterRead, endpointRead, serialRead, Relays]
  constructor
  · rintro ⟨request, requests, payload⟩
    rw [List.cons.injEq, RadioRequest.afDataRequest.injEq] at requests
    rw [← payload, ← requests.1, zcl_send_config_report_cmd_payload _ _ _ _ _ count, loadedBuffer]
  · intro loaded
    refine ⟨_, rfl, ?_⟩
    rw [zcl_send_config_report_cmd_payload _ _ _ _ _ count, ← loadedBuffer, loaded]

end Chain

theorem last_change_only_split {records : List ReportRecord}
    (holds : LastChangeOnly (records.map ReportRecord.toRecordShape)) (nonempty : records ≠ []) :
    ∃ plain last, records = plain ++ [last] ∧
      (∀ record ∈ plain, changeWidth record.dataType = 0) ∧ EvenWidth last.toRecordShape := by
  induction records with
  | nil => exact absurd rfl nonempty
  | cons record rest induction =>
      cases rest with
      | nil => exact ⟨[], record, rfl, List.forall_mem_nil _, holds⟩
      | cons second rest =>
          obtain ⟨plain, last, split, noChange, even⟩ :=
            induction holds.2 (List.cons_ne_nil _ _)
          refine ⟨record :: plain, last, by rw [split, List.cons_append], ?_, even⟩
          exact List.forall_mem_cons.mpr ⟨holds.1, noChange⟩

theorem not_last_change_only_split {shapes : List RecordShape} (fails : ¬LastChangeOnly shapes) :
    ∃ plain shape rest, shapes = plain ++ shape :: rest ∧
      (∀ shape ∈ plain, changeWidth shape.dataType = 0) ∧
      (rest = [] ∧ ¬EvenWidth shape ∨ rest ≠ [] ∧ changeWidth shape.dataType ≠ 0) := by
  induction shapes with
  | nil => exact absurd trivial fails
  | cons shape rest induction =>
      cases rest with
      | nil => exact ⟨[], shape, [], rfl, List.forall_mem_nil _, Or.inl ⟨rfl, fails⟩⟩
      | cons second rest =>
          by_cases none : changeWidth shape.dataType = 0
          · obtain ⟨plain, found, later, split, noChange, wrong⟩ :=
              induction fun holds => fails ⟨none, holds⟩
            refine ⟨shape :: plain, found, later, by rw [split, List.cons_append], ?_, wrong⟩
            exact List.forall_mem_cons.mpr ⟨none, noChange⟩
          · exact ⟨[], shape, second :: rest, rfl, List.forall_mem_nil _,
              Or.inr ⟨List.cons_ne_nil _ _, none⟩⟩

def sampleRecord (shape : RecordShape) (first rest : UInt8) : ReportRecord where
  toRecordShape := shape
  attrId := 0
  minInterval := 0
  maxInterval := 0
  timeoutPeriod := 0
  change := (first :: List.replicate 7 rest).take (changeWidth shape.dataType)
  sized := by
    rw [List.length_take]
    exact Nat.min_eq_left (change_width_eq shape.dataType).2.2.2

/-- The number with its bytes in reverse order, from its second byte on. -/
theorem sample_record_change (shape : RecordShape) (first rest : UInt8) {index : Nat}
    (low : 0 < index) (inside : index < changeWidth shape.dataType) :
    (sampleRecord shape first rest).change[index]? = some rest := by
  have bound := (change_width_eq shape.dataType).2.2.2
  cases index with
  | zero => exact absurd low (lt_irrefl 0)
  | succ index =>
      rw [sampleRecord, List.getElem?_take_of_lt inside, List.getElem?_cons_succ,
        List.getElem?_replicate_of_lt (by omega)]

theorem sample_record_head (shape : RecordShape) (first rest : UInt8)
    (analog : changeWidth shape.dataType ≠ 0) :
    (sampleRecord shape first rest).change[0]? = some first := by
  rw [sampleRecord, List.getElem?_take_of_lt (Nat.pos_of_ne_zero analog)]
  rfl

section Shapes

variable (heap : Memory) {memory : Memory} {address : Nat} {plain rest : List ReportRecord}

theorem even_width_loaded {last : ReportRecord}
    (held : Holds memory address ((plain ++ [last]).flatMap ReportRecord.frameBytes))
    (noChange : ∀ record ∈ plain, changeWidth record.dataType = 0)
    (even : EvenWidth last.toRecordShape) :
    loadedBuffer heap memory address (plain ++ [last]).length =
      (plain ++ [last]).flatMap ReportRecord.zclBytes := by
  obtain ⟨-, -, -, change⟩ := rec_at_held (last_record_held held noChange)
  rw [loaded_last heap held noChange, List.flatMap_append, List.flatMap_cons, List.flatMap_nil,
    List.append_nil, ReportRecord.zclBytes, zcl_change_eq]
  by_cases sends : last.direction = 0
  · have width := even sends
    simp only [List.mem_cons, List.not_mem_nil, or_false] at width
    have same : changeLength last.dataType = changeWidth last.dataType := by
      rw [(change_width_eq last.dataType).2.2.1]
      split_ifs <;> omega
    rw [if_pos sends, if_pos sends, same, change.read_length last.sized, List.take_of_length_le]
    rw [List.length_reverse, last.sized]
  · rw [if_neg sends, if_neg sends]

/-- Of a change of three, five, six or seven bytes, the byte in front of its low end is sent
last. -/
theorem odd_width_loaded {shape : RecordShape} (odd : ¬EvenWidth shape)
    (held : Holds memory address
      ((plain ++ [sampleRecord shape 1 0]).flatMap ReportRecord.frameBytes))
    (noChange : ∀ record ∈ plain, changeWidth record.dataType = 0) :
    loadedBuffer heap memory address (plain ++ [sampleRecord shape 1 0]).length ≠
      (plain ++ [sampleRecord shape 1 0]).flatMap ReportRecord.zclBytes := by
  obtain ⟨-, -, -, change⟩ := rec_at_held (last_record_held held noChange)
  obtain ⟨sends, width⟩ := Classical.not_imp.mp odd
  simp only [List.mem_cons, List.not_mem_nil, or_false, not_or] at width
  obtain ⟨-, -, read, bound⟩ := change_width_eq shape.dataType
  have between : changeWidth shape.dataType < changeLength shape.dataType ∧
      changeLength shape.dataType < 2 * changeWidth shape.dataType := by
    rw [read]
    split_ifs <;> omega
  have sent : (sampleRecord shape 1 0).direction = 0 := sends
  rw [loaded_last heap held noChange, List.flatMap_append, List.flatMap_cons, List.flatMap_nil,
    List.append_nil, ReportRecord.zclBytes, zcl_change_eq, if_pos sent, if_pos sent]
  intro same
  have changes := List.append_cancel_left (List.append_cancel_left same)
  rw [List.take_reverse, List.reverse_inj, read_bytes_length] at changes
  have lowBytes : changeLength shape.dataType - changeWidth shape.dataType <
      (sampleRecord shape 1 0).change.length := by
    rw [(sampleRecord shape 1 0).sized]
    change _ < changeWidth shape.dataType
    omega
  have sentByte : (readBytes memory (address + 10 * plain.length + 10)
      (changeLength shape.dataType))[changeLength shape.dataType - changeWidth shape.dataType]? =
        some 0 := by
    rw [read_bytes_get _ _ (by omega), change.get lowBytes, List.getD_eq_getElem?_getD,
      sample_record_change shape 1 0 (by omega) (by omega)]
    rfl
  have highByte := sample_record_head shape 1 0 (by omega)
  rw [← changes, List.getElem?_drop] at highByte
  exact absurd (highByte.symm.trans sentByte) (by decide)

theorem expected_behind_change (shape : RecordShape) (next : ReportRecord) (later : List UInt8) :
    ((sampleRecord shape (next.direction + 1) next.direction).zclChange ++
        (next.zclBytes ++ later))[
          if shape.direction = 0 ∧ changeWidth shape.dataType ≤ 3 then changeWidth shape.dataType
          else 0]? = some next.direction := by
  have sized := (sampleRecord shape (next.direction + 1) next.direction).sized
  have width : changeWidth (sampleRecord shape (next.direction + 1) next.direction).dataType =
      changeWidth shape.dataType := rfl
  have direction : (sampleRecord shape (next.direction + 1) next.direction).direction =
      shape.direction := rfl
  have head : (next.zclBytes ++ later)[0]? = some next.direction := rfl
  rw [zcl_change_eq, direction]
  by_cases sends : shape.direction = 0
  · rw [if_pos sends]
    by_cases moved : changeWidth shape.dataType ≤ 3
    · rw [if_pos ⟨sends, moved⟩, List.getElem?_append_right (by rw [List.length_reverse, sized]; rfl),
        List.length_reverse, sized, width, Nat.sub_self, head]
    · rw [if_neg fun both => moved both.2, List.getElem?_append_left (by
          rw [List.length_reverse, sized, width]; omega),
        List.getElem?_reverse (by rw [sized, width]; omega), sized, width,
        sample_record_change shape _ _ (by omega) (by omega)]
  · rw [if_neg sends, if_neg fun both => sends both.1, List.nil_append, head]

theorem change_in_front_loaded {shape : RecordShape} {next : ReportRecord}
    (analog : changeWidth shape.dataType ≠ 0)
    (held : Holds memory address
      ((plain ++ sampleRecord shape (next.direction + 1) next.direction :: next :: rest).flatMap
        ReportRecord.frameBytes))
    (noChange : ∀ record ∈ plain, changeWidth record.dataType = 0) :
    loadedBuffer heap memory address
        (plain ++ sampleRecord shape (next.direction + 1) next.direction :: next :: rest).length ≠
      (plain ++ sampleRecord shape (next.direction + 1) next.direction :: next :: rest).flatMap
        ReportRecord.zclBytes := by
  have loaded := loaded_behind_change heap held noChange analog
  rw [List.getD_eq_getElem?_getD, sample_record_head shape _ _ analog] at loaded
  intro same
  rw [same, List.flatMap_append, List.flatMap_cons, List.flatMap_cons,
    List.getElem?_append_right (Nat.le_add_right _ _), Nat.add_sub_cancel_left,
    ReportRecord.zclBytes, List.append_assoc,
    List.getElem?_append_right (Nat.le_add_right _ _), Nat.add_sub_cancel_left] at loaded
  have expected := expected_behind_change shape next (rest.flatMap ReportRecord.zclBytes)
  have differs : next.direction + 1 ≠ next.direction := by
    intro fixed
    have numbers := congrArg UInt8.toNat fixed
    rw [UInt8.toNat_add] at numbers
    have bound := next.direction.toNat_lt
    have one : (1 : UInt8).toNat = 1 := rfl
    omega
  exact differs (Option.some_inj.mp (expected.symm.trans loaded)).symm

end Shapes

theorem sample_records_shapes (shapes : List RecordShape) :
    (shapes.map (sampleRecord · 0 0)).map ReportRecord.toRecordShape = shapes := by
  rw [List.map_map]
  exact List.map_id shapes

theorem sample_records_no_change {shapes : List RecordShape}
    (noChange : ∀ shape ∈ shapes, changeWidth shape.dataType = 0) :
    ∀ record ∈ shapes.map (sampleRecord · 0 0), changeWidth record.dataType = 0 := by
  rw [List.forall_mem_map]
  exact noChange

/-- Relayed whatever they hold are exactly the lists of records in which only the last has a change,
of one, two, four or eight bytes if the device is told it. -/
theorem config_report_relayed_iff (shapes : List RecordShape) (nonempty : shapes ≠ [])
    (few : shapes.length ≤ 10) : ShapesRelayed shapes ↔ LastChangeOnly shapes := by
  constructor
  · intro relayed
    by_contra fails
    have loads : ∀ records : List ReportRecord,
        records.map ReportRecord.toRecordShape = shapes →
          ∃ memory, Holds memory 21 (records.flatMap ReportRecord.frameBytes) ∧
            loadedBuffer (fun _ => 0) memory 21 records.length =
              records.flatMap ReportRecord.zclBytes := by
      intro records shaped
      have short : records.length ≤ 255 := by
        rw [← shaped, List.length_map] at few
        omega
      have relays := relayed quietHost 5 (fun _ => 0) (stateOf twoContacts)
        (contactSwitch 0x00137A00000156D3 0) 7 0x00137A00000156D3 0x0402 1 records shaped rfl rfl
      exact ⟨_, (frame_memory_held quietHost 7 0x00137A00000156D3 0x0402 1 records).2,
        (relays_iff quietHost 5 (fun _ => 0) rfl rfl 7 0x0402 1 short).mp relays⟩
    obtain ⟨plain, shape, rest, rfl, noChange, wrong⟩ := not_last_change_only_split fails
    have plainNone := sample_records_no_change noChange
    rcases wrong with ⟨rfl, odd⟩ | ⟨behind, analog⟩
    · obtain ⟨memory, held, loaded⟩ :=
        loads (plain.map (sampleRecord · 0 0) ++ [sampleRecord shape 1 0]) (by
          rw [List.map_append, sample_records_shapes]
          rfl)
      exact odd_width_loaded _ odd held plainNone loaded
    · obtain ⟨second, rest, rfl⟩ := List.exists_cons_of_ne_nil behind
      obtain ⟨memory, held, loaded⟩ :=
        loads (plain.map (sampleRecord · 0 0) ++
          sampleRecord shape ((sampleRecord second 0 0).direction + 1)
            (sampleRecord second 0 0).direction ::
              sampleRecord second 0 0 :: rest.map (sampleRecord · 0 0)) (by
          rw [List.map_append, List.map_cons, List.map_cons, sample_records_shapes,
            sample_records_shapes]
          rfl)
      exact change_in_front_loaded _ analog held plainNone loaded
  · intro only host fd heap state d serialnum ieee clusterid endpoint records shaped found active
    have short : records.length ≤ 255 := by
      rw [← shaped, List.length_map] at few
      omega
    have present : records ≠ [] := by
      rintro rfl
      exact nonempty shaped.symm
    have held := (frame_memory_held host serialnum ieee clusterid endpoint records).2
    apply (relays_iff host fd heap found active serialnum clusterid endpoint short).mpr
    rw [← shaped] at only
    obtain ⟨plain, last, rfl, noChange, even⟩ := last_change_only_split only present
    exact even_width_loaded heap held noChange even

theorem config_report_relayed_iff_humidity :
    ShapesRelayed [⟨0, 0x10⟩, ⟨1, 0x00⟩, ⟨0, 0x21⟩] :=
  (config_report_relayed_iff _ (List.cons_ne_nil _ _) (by decide)).mpr
    ⟨by decide, by decide, fun _ => by decide⟩

/-- Reports of two counters of one byte, each once it has changed by five. -/
def twoCounters : List ReportRecord :=
  [⟨⟨0, 0x20⟩, 0x0000, 1, 60, 0, [5], rfl⟩, ⟨⟨0, 0x20⟩, 0x0001, 1, 60, 0, [5], rfl⟩]

def payloads (requests : List RadioRequest) : List (List UInt8) :=
  requests.filterMap fun request =>
    match request with
    | .afDataRequest request => some (request.data.drop 3)
    | _ => none

/-- The second record that goes out begins with the change of the first. -/
theorem two_counters_not_relayed :
    let after := afterConfigReport quietHost 5 (stateOf twoContacts) 7 0x00137A00000156D3 0x0402 1
      twoCounters
    gatewayGetdevice twoContacts 0x00137A00000156D3 =
        some (contactSwitch 0x00137A00000156D3 0) ∧
      payloads (radioRequests (fun _ => 0) after.gateway (newEffects (stateOf twoContacts) after)) =
        [[0, 0, 0, 0x20, 1, 0, 60, 0, 5, 5, 0, 0, 0, 60]] ∧
      ¬Relays (radioRequests (fun _ => 0) after.gateway
        (newEffects (stateOf twoContacts) after)) twoCounters := by
  intro after
  have sent : payloads (radioRequests (fun _ => 0) after.gateway
      (newEffects (stateOf twoContacts) after)) =
        [[0, 0, 0, 0x20, 1, 0, 60, 0, 5, 5, 0, 0, 0, 60]] := by
    decide +kernel
  refine ⟨rfl, sent, ?_⟩
  rintro ⟨request, requests, payload⟩
  rw [requests] at sent
  have wanted : payloads [.afDataRequest request] = [twoCounters.flatMap ReportRecord.zclBytes] :=
    congrArg (fun bytes => [bytes]) payload
  exact absurd (sent.symm.trans wanted) (by decide)

end SmartHome.ReportRelay
