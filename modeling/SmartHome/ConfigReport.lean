import SmartHome.CommandTranslation
import SmartHome.PayloadBounds

/-!
# Reporting configurations

What the code makes of the records of a `CONFIG_REPORT` frame: the parser reads them
ten bytes apart, `zcl_SendConfigReportCmd` loads them one after another. Both are
described record by record, for any bytes; whether they agree with what the frame
says is the matter of the next module.
-/

namespace SmartHome.ConfigReport

open SmartHome.Library.Bytes
open SmartHome.Library.MemoryCursor
open SmartHome.Library.OutputBuffer
open SmartHome.Bytebuffer
open SmartHome.PipeMessages
open SmartHome.Zcl
open SmartHome.Parse
open SmartHome.DownCommand
open SmartHome.PayloadBounds

set_option autoImplicit false

theorem getword_stored {bytes : List UInt8} (length : bytes.length = 2) :
    toBytesLE 2 (bytebufferGetword bytes).toNat = bytes.reverse := by
  rw [bytebuffer_getword_toNat, List.take_of_length_le length.le, ← length, to_bytes_le_of_bytes_be]

theorem getdword_stored {bytes : List UInt8} (length : bytes.length = 4) :
    toBytesLE 4 (bytebufferGetdword bytes).toNat = bytes.reverse := by
  rw [bytebuffer_getdword_toNat, List.take_of_length_le length.le, ← length,
    to_bytes_le_of_bytes_be]

theorem getquadword_stored {bytes : List UInt8} (length : bytes.length = 8) :
    toBytesLE 8 (bytebufferGetquadword bytes).toNat = bytes.reverse := by
  rw [bytebuffer_getquadword_toNat, List.take_of_length_le length.le, ← length,
    to_bytes_le_of_bytes_be]

/-- What is stored of a change and sent again: of the bytes read, least significant first, as many
as the type has. The pointer moves only behind types of up to three bytes. -/
theorem serialize_stored {dataType : UInt8} (analog : zclAnalogDataType dataType = true)
    (memory : Memory) (cursor : Cursor) :
    zclSerializeData dataType
        (some (Parser.runFrom (recvReportableChange dataType) memory cursor).1) =
      ((readBytes memory cursor.p (changeLength dataType)).reverse.take
          (zclGetDataTypeLength dataType),
        if zclGetDataTypeLength dataType ≤ 3 then zclGetDataTypeLength dataType else 0) := by
  have group := analog_groups analog
  simp only [List.mem_cons, List.not_mem_nil, or_false] at group
  rw [changeLength, if_pos analog, zclSerializeData, zclGetDataTypeLength, recvReportableChange]
  have two := getword_stored (read_bytes_length memory cursor.p 2)
  have four := getdword_stored (read_bytes_length memory cursor.p 4)
  have eight := getquadword_stored (read_bytes_length memory cursor.p 8)
  rcases group with group | group | group | group | group | group | group | group <;>
    simp only [group, Parser.run_from_bind, Parser.run_from_look, Parser.run_from_pure,
      Nat.add_zero, two, four, eight, List.take_take]
  all_goals rfl

theorem recv_reportable_change_reach (dataType : UInt8) (memory : Memory) (cursor : Cursor) :
    (Parser.runFrom (recvReportableChange dataType) memory cursor).1 =
      (Parser.runFrom (recvReportableChange dataType) memory ⟨cursor.p, 0⟩).1 := by
  unfold recvReportableChange
  cases dataTypeGroup dataType <;> rfl

def recAt (memory : Memory) (address : Nat) : ZclCfgReportRec where
  direction := memory address
  attrID := bytebufferGetword (readBytes memory (address + 1) 2)
  dataType := memory (address + 3)
  minReportInt := bytebufferGetword (readBytes memory (address + 4) 2)
  maxReportInt := bytebufferGetword (readBytes memory (address + 6) 2)
  timeoutPeriod := bytebufferGetword (readBytes memory (address + 8) 2)
  reportableChange :=
    if zclAnalogDataType (memory (address + 3)) then
      some (Parser.runFrom (recvReportableChange (memory (address + 3))) memory ⟨address + 10, 0⟩).1
    else none

/-- The records lie ten bytes apart, whatever their types. -/
def recsAt (memory : Memory) (address : Nat) : Nat → List ZclCfgReportRec
  | 0 => []
  | count + 1 => recAt memory address :: recsAt memory (address + 10) count

@[simp] theorem recs_at_length (memory : Memory) (address count : Nat) :
    (recsAt memory address count).length = count := by
  induction count generalizing address with
  | zero => rfl
  | succ count induction => rw [recsAt, List.length_cons, induction]

theorem recs_at_add (memory : Memory) (address first second : Nat) :
    recsAt memory address (first + second) =
      recsAt memory address first ++ recsAt memory (address + 10 * first) second := by
  induction first generalizing address with
  | zero => rw [Nat.zero_add, Nat.mul_zero, Nat.add_zero, recsAt, List.nil_append]
  | succ first induction =>
      have count : first + 1 + second = first + second + 1 := by omega
      have behind : address + 10 + 10 * first = address + 10 * (first + 1) := by omega
      rw [count, recsAt, recsAt, induction, List.cons_append, behind]

def recodAt (len : UInt16) (memory : Memory) (address : Nat) : CfgReportRecod where
  direction := memory address
  attrId := bytebufferGetword (readBytes memory (address + 1) 2)
  dataType := memory (address + 3)
  minInterval := bytebufferGetword (readBytes memory (address + 4) 2)
  maxInterval := bytebufferGetword (readBytes memory (address + 6) 2)
  timeoutPeriod := bytebufferGetword (readBytes memory (address + 8) 2)
  reprotableChange :=
    if zclAnalogDataType (memory (address + 3)) then
      some
        { size := len.toNat - ((address + 10 : Nat) + 2)
          bytes :=
            (Parser.runFrom (recvReportableChange (memory (address + 3))) memory ⟨address + 10, 0⟩).1 }
    else none

theorem parse_cfg_report_recod_eq (len : UInt16) (memory : Memory) (cursor : Cursor) :
    (Parser.runFrom (parseCfgReportRecod len) memory cursor).1 = recodAt len memory cursor.p := by
  have typeByte : (readBytes memory (cursor.p + 1 + 2) 1).headD 0 = memory (cursor.p + 3) := rfl
  rw [parseCfgReportRecod, recodAt]
  simp only [bytebufferReadbyte, bytebufferReadword, Parser.run_from_bind, Parser.run_from_map,
    Parser.run_from_take, typeByte, OfNat.ofNat_ne_zero, one_ne_zero, if_false]
  by_cases analog : zclAnalogDataType (memory (cursor.p + 3)) = true
  · simp only [if_pos analog, Parser.run_from_bind, Parser.run_from_position, Parser.run_from_pure]
    rw [recv_reportable_change_reach]
    rfl
  · simp only [if_neg analog, Parser.run_from_bind, Parser.run_from_pure]
    rfl

theorem cfg_report_rec_at (len : UInt16) (memory : Memory) (address : Nat) :
    cfgReportRec (recodAt len memory address) = recAt memory address := by
  rw [cfgReportRec, recodAt, recAt]
  split_ifs <;> rfl

theorem parse_cfg_report_recods_eq (len : UInt16) (memory : Memory) (count : Nat)
    (cursor : Cursor) :
    (Parser.runFrom (parseCfgReportRecods len count) memory cursor).1 =
      (List.range count).map fun index => recodAt len memory (cursor.p + 10 * index) := by
  induction count generalizing cursor with
  | zero => rfl
  | succ count induction =>
      unfold parseCfgReportRecods
      simp only [Parser.run_from_bind, Parser.run_from_pure]
      rw [parse_cfg_report_recod_eq, induction, parse_cfg_report_recod_run,
        List.range_succ_eq_map, List.map_cons, List.map_map, Nat.mul_zero, Nat.add_zero]
      congr 1
      apply List.map_congr_left
      intro index _
      simp only [Function.comp_apply]
      congr 1
      omega

theorem parse_cfg_report_recods_value (len : UInt16) (memory : Memory) (count : Nat)
    (cursor : Cursor) :
    ((Parser.runFrom (parseCfgReportRecods len count) memory cursor).1.map cfgReportRec) =
      recsAt memory cursor.p count := by
  induction count generalizing cursor with
  | zero => rfl
  | succ count induction =>
      unfold parseCfgReportRecods
      simp only [Parser.run_from_bind, Parser.run_from_pure, List.map_cons]
      rw [parse_cfg_report_recod_eq, cfg_report_rec_at, induction, parse_cfg_report_recod_run,
        recsAt]

theorem serialize_bounds {dataType : UInt8} (analog : zclAnalogDataType dataType = true)
    (attrData : Option (List UInt8)) :
    (zclSerializeData dataType attrData).1.length ≤ zclGetDataTypeLength dataType ∧
      (zclSerializeData dataType attrData).2 ≤ zclGetDataTypeLength dataType := by
  have group := analog_groups analog
  simp only [List.mem_cons, List.not_mem_nil, or_false] at group
  cases attrData with
  | none => exact ⟨Nat.zero_le _, Nat.zero_le _⟩
  | some attrData =>
      rcases group with group | group | group | group | group | group | group | group <;>
        simp [zclSerializeData, zclGetDataTypeLength, group]

def recHead (reportRec : ZclCfgReportRec) : List UInt8 :=
  [reportRec.direction, loUint16 reportRec.attrID, hiUint16 reportRec.attrID] ++
    if reportRec.direction = zclSendAttrReports then
      [reportRec.dataType, loUint16 reportRec.minReportInt, hiUint16 reportRec.minReportInt,
        loUint16 reportRec.maxReportInt, hiUint16 reportRec.maxReportInt]
    else [loUint16 reportRec.timeoutPeriod, hiUint16 reportRec.timeoutPeriod]

def loadsChange (reportRec : ZclCfgReportRec) : Prop :=
  reportRec.direction = zclSendAttrReports ∧ zclAnalogDataType reportRec.dataType = true

instance (reportRec : ZclCfgReportRec) : Decidable (loadsChange reportRec) :=
  inferInstanceAs (Decidable (_ ∧ _))

theorem report_rec_len_eq (reportRec : ZclCfgReportRec) :
    reportRecLen reportRec = (recHead reportRec).length +
      if loadsChange reportRec then zclGetDataTypeLength reportRec.dataType else 0 := by
  rw [reportRecLen, recHead]
  by_cases sends : reportRec.direction = zclSendAttrReports
  · by_cases analog : zclAnalogDataType reportRec.dataType = true
    · have loads : loadsChange reportRec := ⟨sends, analog⟩
      rw [if_pos sends, if_pos analog, if_pos sends, if_pos loads]
      simp only [List.length_append, List.length_cons, List.length_nil]
      omega
    · rw [if_pos sends, if_neg analog, if_pos sends, if_neg fun loads => analog loads.2]
      rfl
  · rw [if_neg sends, if_neg sends, if_neg fun loads => sends loads.1]
    rfl

def loadRecHead (filling : Filling UInt8) (reportRec : ZclCfgReportRec) : Filling UInt8 :=
  let filling := store filling
    [reportRec.direction, loUint16 reportRec.attrID, hiUint16 reportRec.attrID] 3
  if reportRec.direction = zclSendAttrReports then
    store filling
      [reportRec.dataType, loUint16 reportRec.minReportInt, hiUint16 reportRec.minReportInt,
        loUint16 reportRec.maxReportInt, hiUint16 reportRec.maxReportInt] 5
  else store filling [loUint16 reportRec.timeoutPeriod, hiUint16 reportRec.timeoutPeriod] 2

theorem load_report_rec_eq (filling : Filling UInt8) (reportRec : ZclCfgReportRec) :
    loadReportRec filling reportRec =
      if loadsChange reportRec then
        store (loadRecHead filling reportRec)
          (zclSerializeData reportRec.dataType reportRec.reportableChange).1
          (zclSerializeData reportRec.dataType reportRec.reportableChange).2
      else loadRecHead filling reportRec := by
  rw [loadReportRec, loadRecHead]
  by_cases sends : reportRec.direction = zclSendAttrReports
  · by_cases analog : zclAnalogDataType reportRec.dataType = true
    · have loads : loadsChange reportRec := ⟨sends, analog⟩
      rw [if_pos sends, if_pos analog, if_pos sends, if_pos loads]
    · rw [if_pos sends, if_neg analog, if_pos sends, if_neg fun loads => analog loads.2]
  · rw [if_neg sends, if_neg sends, if_neg fun loads => sends loads.1]

theorem load_rec_head_filled {filling : Filling UInt8} {front : List UInt8}
    (filled : Filled filling front) (reportRec : ZclCfgReportRec) :
    Filled (loadRecHead filling reportRec) (front ++ recHead reportRec) := by
  have begun := filled.store
    [reportRec.direction, loUint16 reportRec.attrID, hiUint16 reportRec.attrID]
  rw [loadRecHead, recHead]
  by_cases sends : reportRec.direction = zclSendAttrReports
  · rw [if_pos sends, if_pos sends, ← List.append_assoc]
    exact begun.store _
  · rw [if_neg sends, if_neg sends, ← List.append_assoc]
    exact begun.store _

theorem load_rec_head_pointer (filling : Filling UInt8) (reportRec : ZclCfgReportRec) :
    (loadRecHead filling reportRec).pointer = filling.pointer + (recHead reportRec).length := by
  rw [loadRecHead, recHead]
  split_ifs <;> rfl

theorem load_rec_head_extends {filling : Filling UInt8} {reportRec : ZclCfgReportRec}
    (room : filling.pointer + (recHead reportRec).length ≤ filling.cells.length) :
    Extends filling (loadRecHead filling reportRec) ∧
      (loadRecHead filling reportRec).cells[filling.pointer]? = some reportRec.direction := by
  rw [recHead, List.length_append] at room
  have three : filling.pointer + [reportRec.direction, loUint16 reportRec.attrID,
      hiUint16 reportRec.attrID].length ≤ filling.cells.length := by omega
  have begun := store_extends filling _ 3 three
  have written := store_get filling reportRec.direction
    [loUint16 reportRec.attrID, hiUint16 reportRec.attrID] 3 (by omega)
  have inside : filling.pointer < filling.pointer + 3 := by omega
  unfold loadRecHead
  by_cases sends : reportRec.direction = zclSendAttrReports
  · rw [if_pos sends] at room ⊢
    have rest := store_extends _ [reportRec.dataType, loUint16 reportRec.minReportInt,
      hiUint16 reportRec.minReportInt, loUint16 reportRec.maxReportInt,
      hiUint16 reportRec.maxReportInt] 5 (by rw [begun.length, store]; exact room)
    exact ⟨begun.trans rest, (rest.get inside).trans written⟩
  · rw [if_neg sends] at room ⊢
    have rest := store_extends _ [loUint16 reportRec.timeoutPeriod,
      hiUint16 reportRec.timeoutPeriod] 2 (by rw [begun.length, store]; exact room)
    exact ⟨begun.trans rest, (rest.get inside).trans written⟩

theorem load_report_rec_extends {filling : Filling UInt8} {reportRec : ZclCfgReportRec}
    (room : filling.pointer + reportRecLen reportRec ≤ filling.cells.length) :
    Extends filling (loadReportRec filling reportRec) ∧
      (loadReportRec filling reportRec).cells[filling.pointer]? = some reportRec.direction ∧
      filling.pointer < (loadReportRec filling reportRec).pointer ∧
      (loadReportRec filling reportRec).pointer ≤ filling.pointer + reportRecLen reportRec := by
  have heads : 0 < (recHead reportRec).length := Nat.succ_pos _
  have share := report_rec_len_eq reportRec
  have headRoom : filling.pointer + (recHead reportRec).length ≤ filling.cells.length := by omega
  obtain ⟨begun, written⟩ := load_rec_head_extends headRoom
  have pointer := load_rec_head_pointer filling reportRec
  rw [load_report_rec_eq]
  by_cases loads : loadsChange reportRec
  · rw [if_pos loads] at share ⊢
    have bounds := serialize_bounds loads.2 reportRec.reportableChange
    have stored := store_extends (loadRecHead filling reportRec)
      (zclSerializeData reportRec.dataType reportRec.reportableChange).1
      (zclSerializeData reportRec.dataType reportRec.reportableChange).2
      (by rw [begun.length]; omega)
    refine ⟨begun.trans stored, (stored.get (by omega)).trans written, ?_⟩
    unfold store
    simp only
    omega
  · rw [if_neg loads] at share ⊢
    refine ⟨begun, written, ?_⟩
    omega

theorem load_report_rec_full {filling : Filling UInt8} {front : List UInt8}
    {reportRec : ZclCfgReportRec} (filled : Filled filling front)
    (room : filling.cells.length = filling.pointer + reportRecLen reportRec)
    (whole : loadsChange reportRec →
      (zclSerializeData reportRec.dataType reportRec.reportableChange).1.length =
        zclGetDataTypeLength reportRec.dataType) :
    (loadReportRec filling reportRec).cells = front ++ recHead reportRec ++
      if loadsChange reportRec then
        (zclSerializeData reportRec.dataType reportRec.reportableChange).1
      else [] := by
  have length := (load_report_rec_extends room.ge).1.length
  have share := report_rec_len_eq reportRec
  have headed := load_rec_head_filled filled reportRec
  rw [filled.1] at room
  rw [load_report_rec_eq] at length ⊢
  by_cases loads : loadsChange reportRec
  · rw [if_pos loads] at length share
    rw [if_pos loads, if_pos loads]
    -- where the pointer goes does not matter any more
    refine (headed.store _).full (length.trans ?_)
    simp only [List.length_append, whole loads]
    omega
  · rw [if_neg loads] at length share
    rw [if_neg loads, if_neg loads, List.append_nil]
    refine headed.full (length.trans ?_)
    rw [List.length_append]
    omega

theorem load_report_recs_extends {reportRecs : List ZclCfgReportRec} {filling : Filling UInt8}
    (room : filling.pointer + (reportRecs.map reportRecLen).sum ≤ filling.cells.length) :
    Extends filling (reportRecs.foldl loadReportRec filling) := by
  induction reportRecs generalizing filling with
  | nil => exact Extends.refl filling
  | cons reportRec rest induction =>
      rw [List.map_cons, List.sum_cons] at room
      have oneRoom : filling.pointer + reportRecLen reportRec ≤ filling.cells.length := by omega
      obtain ⟨one, -, -, bound⟩ := load_report_rec_extends oneRoom
      rw [List.foldl_cons]
      apply one.trans
      apply induction
      rw [one.length]
      omega

/-- Where the pointer stands behind a record, the direction of the next one stays. -/
theorem next_direction_stays {filling : Filling UInt8} {first second : ZclCfgReportRec}
    {rest : List ZclCfgReportRec}
    (room : filling.pointer + (reportRecLen first + ((second :: rest).map reportRecLen).sum) ≤
      filling.cells.length) :
    ((second :: rest).foldl loadReportRec (loadReportRec filling first)).cells[
        (loadReportRec filling first).pointer]? = some second.direction := by
  rw [List.map_cons, List.sum_cons] at room
  have firstRoom : filling.pointer + reportRecLen first ≤ filling.cells.length := by omega
  obtain ⟨begun, -, -, bound⟩ := load_report_rec_extends firstRoom
  have secondRoom : (loadReportRec filling first).pointer + reportRecLen second ≤
      (loadReportRec filling first).cells.length := by
    rw [begun.length]
    omega
  obtain ⟨next, written, moved, bound'⟩ := load_report_rec_extends secondRoom
  have restRoom : (loadReportRec (loadReportRec filling first) second).pointer +
      (rest.map reportRecLen).sum ≤
        (loadReportRec (loadReportRec filling first) second).cells.length := by
    rw [next.length, begun.length]
    omega
  have later := load_report_recs_extends restRoom
  rw [List.foldl_cons]
  exact (later.get moved).trans written

theorem load_report_recs_length (heap : Memory) (reportRecs later : List ZclCfgReportRec) :
    (reportRecs.foldl loadReportRec
        ⟨readBytes heap 0 ((reportRecs ++ later).map reportRecLen).sum, 0⟩).cells.length =
      (reportRecs.map reportRecLen).sum + (later.map reportRecLen).sum := by
  rw [List.map_append, List.sum_append]
  refine (load_report_recs_extends ?_).length.trans (read_bytes_length _ _ _)
  rw [read_bytes_length, Nat.zero_add]
  exact Nat.le_add_right _ _

theorem load_report_recs_filled {reportRecs : List ZclCfgReportRec} {filling : Filling UInt8}
    {front : List UInt8} (filled : Filled filling front)
    (plain : ∀ reportRec ∈ reportRecs, ¬loadsChange reportRec) :
    Filled (reportRecs.foldl loadReportRec filling) (front ++ reportRecs.flatMap recHead) := by
  induction reportRecs generalizing filling front with
  | nil => rwa [List.flatMap_nil, List.append_nil]
  | cons reportRec rest induction =>
      rw [List.forall_mem_cons] at plain
      rw [List.foldl_cons, List.flatMap_cons, ← List.append_assoc]
      refine induction ?_ plain.2
      rw [load_report_rec_eq, if_neg plain.1]
      exact load_rec_head_filled filled reportRec

theorem rec_heads_length {reportRecs : List ZclCfgReportRec}
    (plain : ∀ reportRec ∈ reportRecs, ¬loadsChange reportRec) :
    (reportRecs.flatMap recHead).length = (reportRecs.map reportRecLen).sum := by
  induction reportRecs with
  | nil => rfl
  | cons reportRec rest induction =>
      rw [List.forall_mem_cons] at plain
      rw [List.flatMap_cons, List.length_append, List.map_cons, List.sum_cons, induction plain.2,
        report_rec_len_eq, if_neg plain.1, Nat.add_zero]

theorem report_rec_len_le (reportRec : ZclCfgReportRec) : reportRecLen reportRec ≤ 16 := by
  have width : ∀ dataType, zclAnalogDataType dataType = true →
      zclGetDataTypeLength dataType ≤ 8 := by
    intro dataType analog
    have group := analog_groups analog
    simp only [List.mem_cons, List.not_mem_nil, or_false] at group
    rcases group with group | group | group | group | group | group | group | group <;>
      simp [zclGetDataTypeLength, group]
  unfold reportRecLen
  split_ifs with sends analog
  · have bound := width _ analog
    omega
  · omega
  · omega

theorem report_recs_len_le (reportRecs : List ZclCfgReportRec) :
    (reportRecs.map reportRecLen).sum ≤ 16 * reportRecs.length := by
  induction reportRecs with
  | nil => exact le_rfl
  | cons reportRec rest induction =>
      have bound := report_rec_len_le reportRec
      rw [List.map_cons, List.sum_cons, List.length_cons]
      omega

/-- The payload behind the three bytes of the ZCL header is the loaded buffer. -/
theorem zcl_send_config_report_cmd_payload (heap : Memory) (dstEp : UInt8)
    (dstAddr clusterID : UInt16) (seqNum : UInt8) {attrList : List ZclCfgReportRec}
    (few : attrList.length ≤ 255) :
    (zclSendConfigReportCmd heap 2 dstEp dstAddr clusterID attrList zclFrameClientServerDir 0
        seqNum).data.drop 3 =
      (attrList.foldl loadReportRec
        ⟨readBytes heap 0 (attrList.map reportRecLen).sum, 0⟩).cells := by
  have length := load_report_recs_length heap attrList []
  have total := report_recs_len_le attrList
  rw [List.append_nil, List.map_nil, List.sum_nil] at length
  unfold zclSendConfigReportCmd
  simp only [zclFrameClientServerDir]
  rw [CommandTranslation.zcl_sendcommand_eq _ _ _ _ _ _ _ _ (by omega)]
  rfl

end SmartHome.ConfigReport
