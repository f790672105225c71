import SmartHome.ConfigReport

/-!
# The memory of a reporting configuration

A `CONFIG_REPORT` frame fills an array of ten records, and for the records of an analog
type blocks from `malloc`. The array goes through the pipe with the pointers in it, is
copied into another array of ten, and the blocks are serialised and freed on the other
side. Here the stores, allocations and uses of pointers are listed one by one.
-/

namespace SmartHome.ReportMemory

open SmartHome.Library.Bytes
open SmartHome.Library.MemoryCursor
open SmartHome.Bytebuffer
open SmartHome.Connections
open SmartHome.Protocol
open SmartHome.WireScan
open SmartHome.Registry
open SmartHome.Encode
open SmartHome.Receive
open SmartHome.ReceivePath
open SmartHome.PipeMessages
open SmartHome.Zcl
open SmartHome.Parse
open SmartHome.DownCommand
open SmartHome.EventRecvmsg
open SmartHome.PayloadBounds
open SmartHome.ConfigReport

set_option autoImplicit false

/-- A `reprotable_change`: null, the block allocated for a record, or what lay on the stack. -/
inductive Pointer
  | null
  | block (index : Nat)
  | stray (address : Nat)
  deriving DecidableEq

/-- A record in the struct that goes through the pipe, as far as its pointer is concerned. -/
structure Slot where
  direction : UInt8
  dataType : UInt8
  reprotableChange : Pointer

inductive Access
  /-- A record stored in `attr_list` of the parser's struct. -/
  | storeRecod (index : Nat)
  | malloc (index : Nat) (size : Int)
  /-- Bytes that `recv_reportable_change` stores for a record. -/
  | storeChange (index count : Nat)
  /-- A record stored in `attrList` of the command's struct. -/
  | storeRec (index : Nat)
  | serialize (index : Nat) (pointer : Pointer)
  | free (index : Nat) (pointer : Pointer)

def Access.OfParser : Access → Prop
  | .storeRecod _ | .malloc _ _ | .storeChange _ _ => True
  | .storeRec _ | .serialize _ _ | .free _ _ => False

def recodAccesses (recod : CfgReportRecod) (index : Nat) : List Access :=
  .storeRecod index ::
    match recod.reprotableChange with
    | none => []
    | some block => [.malloc index block.size, .storeChange index block.bytes.length]

def parseAccesses (config : ConfigReporting) : List Access :=
  config.attrList.zipIdx.flatMap fun (recod, index) => recodAccesses recod index

/-- `malloc` takes a negative size for a huge one and returns null. -/
def changePointer (recod : CfgReportRecod) (index : Nat) : Pointer :=
  match recod.reprotableChange with
  | none => .null
  | some block => if block.size < 0 then .null else .block index

/-- The records as they come out of the pipe. The parser's struct was zeroed before; what lies
behind the array of ten on the reader's stack is `behind`. -/
def slotAt (config : ConfigReporting) (behind : Nat → Slot) (index : Nat) : Slot :=
  if index < 10 then
    match config.attrList[index]? with
    | none => ⟨0, 0, .null⟩
    | some recod => ⟨recod.direction, recod.dataType, changePointer recod index⟩
  else behind index

/-- The record is copied for the command; the pointer is serialised if the device is known, and
freed if there is one. -/
def slotAccesses (known : Bool) (slot : Slot) (index : Nat) : List Access :=
  .storeRec index ::
    ((if known ∧ slot.direction = zclSendAttrReports ∧ zclAnalogDataType slot.dataType then
        [.serialize index slot.reprotableChange] else []) ++
      if slot.reprotableChange = .null then [] else [.free index slot.reprotableChange])

/-- `zcl_down_cmd_config_reporting` works in three loops; which access comes before which does not
matter here. -/
def downAccesses (gw : Gateway) (behind : Nat → Slot) (config : ConfigReporting) : List Access :=
  (List.range config.attrNum.toNat).flatMap fun index =>
    slotAccesses (gatewayGetdevice gw config.ieee).isSome (slotAt config behind index) index

/-- A frame for a deleted device does not go through the pipe; `later` is the registry when the
command is carried out. -/
def configReportAccesses (gw later : Gateway) (behind : Nat → Slot) (config : ConfigReporting) :
    List Access :=
  parseAccesses config ++
    if isDeviceDeleted gw config.ieee then [] else downAccesses later behind config

/-- Ten records in each array, each change in a block that holds it, no pointer but the one that was
allocated for the record. -/
structure OwnsMemory (accesses : List Access) : Prop where
  recods : ∀ index, .storeRecod index ∈ accesses → index < 10
  recs : ∀ index, .storeRec index ∈ accesses → index < 10
  sizes : ∀ index size, .malloc index size ∈ accesses → 0 < size
  changes : ∀ (index count : Nat), .storeChange index count ∈ accesses →
    ∃ size, .malloc index size ∈ accesses ∧ (count : Int) ≤ size
  serialized : ∀ index pointer, .serialize index pointer ∈ accesses →
    pointer = .block index ∧ ∃ size, .malloc index size ∈ accesses
  freed : ∀ index pointer, .free index pointer ∈ accesses →
    pointer = .block index ∧ ∃ size, .malloc index size ∈ accesses

/-- The bytes `recv_reportable_change` stores: four for the types of 24 bits. -/
def storedLength (dataType : UInt8) : Nat :=
  if dataTypeGroup dataType = .bytes3 then 4 else zclGetDataTypeLength dataType

/-- At most ten records, and behind each of an analog type, ten bytes after its own start, there is
room in the payload for what is stored of its change. -/
structure RoomForChanges (frame : List UInt8) : Prop where
  few : (frame.getD 20 0).toNat ≤ 10
  room : ∀ index < (frame.getD 20 0).toNat,
    zclAnalogDataType (frame.getD (24 + 10 * index) 0) = true →
      33 + 10 * index + storedLength (frame.getD (24 + 10 * index) 0) ≤ frame.length

theorem stored_length_pos {dataType : UInt8} (analog : zclAnalogDataType dataType = true) :
    0 < storedLength dataType := by
  have group := analog_groups analog
  simp only [List.mem_cons, List.not_mem_nil, or_false] at group
  rw [storedLength, zclGetDataTypeLength]
  rcases group with group | group | group | group | group | group | group | group <;>
    rw [group] <;> decide

theorem recv_reportable_change_length {dataType : UInt8}
    (analog : zclAnalogDataType dataType = true) (memory : Memory) (cursor : Cursor) :
    (Parser.runFrom (recvReportableChange dataType) memory cursor).1.length =
      storedLength dataType := by
  have group := analog_groups analog
  simp only [List.mem_cons, List.not_mem_nil, or_false] at group
  rw [storedLength, zclGetDataTypeLength, recvReportableChange]
  rcases group with group | group | group | group | group | group | group | group <;>
    simp [group]

structure Parsed (config : ConfigReporting) : Prop where
  counted : config.attrNum.toNat = config.attrList.length
  blocks : ∀ recod ∈ config.attrList, zclAnalogDataType recod.dataType = true →
    ∃ block, recod.reprotableChange = some block

theorem config_reporting_records (len : UInt16) (memory : Memory) :
    let config := (protocolParseConfigReporting len).value memory
    config.attrNum = memory 20 ∧
      config.attrList =
        (List.range (memory 20).toNat).map fun index => recodAt len memory (21 + 10 * index) :=
  ⟨rfl, parse_cfg_report_recods_eq len memory (memory 20).toNat ⟨21, 21⟩⟩

theorem config_reporting_parsed (len : UInt16) (memory : Memory) :
    Parsed ((protocolParseConfigReporting len).value memory) := by
  obtain ⟨number, recods⟩ := config_reporting_records len memory
  constructor
  · rw [number, recods, List.length_map, List.length_range]
  · rw [recods]
    intro recod member analog
    rcases List.mem_map.mp member with ⟨index, -, rfl⟩
    exact ⟨_, if_pos analog⟩

section Accesses

variable {gw later : Gateway} {behind : Nat → Slot} {config : ConfigReporting} {index : Nat}

theorem mem_parse_accesses {access : Access} :
    access ∈ parseAccesses config ↔
      ∃ index recod, config.attrList[index]? = some recod ∧ access ∈ recodAccesses recod index := by
  rw [parseAccesses, List.mem_flatMap]
  constructor
  · rintro ⟨⟨recod, index⟩, member, found⟩
    exact ⟨index, recod, List.mk_mem_zipIdx_iff_getElem?.mp member, found⟩
  · rintro ⟨index, recod, here, found⟩
    exact ⟨(recod, index), List.mk_mem_zipIdx_iff_getElem?.mpr here, found⟩

theorem mem_config_report_accesses {access : Access} :
    access ∈ configReportAccesses gw later behind config ↔
      (∃ index recod, config.attrList[index]? = some recod ∧ access ∈ recodAccesses recod index) ∨
        isDeviceDeleted gw config.ieee = false ∧ ∃ index < config.attrNum.toNat,
          access ∈ slotAccesses (gatewayGetdevice later config.ieee).isSome
            (slotAt config behind index) index := by
  rw [configReportAccesses, List.mem_append, mem_parse_accesses]
  refine or_congr_right ?_
  cases isDeviceDeleted gw config.ieee with
  | true => simp
  | false => simp [downAccesses]

theorem mem_recod_accesses {recod : CfgReportRecod} {access : Access} :
    access ∈ recodAccesses recod index ↔
      access = .storeRecod index ∨ ∃ block, recod.reprotableChange = some block ∧
        (access = .malloc index block.size ∨ access = .storeChange index block.bytes.length) := by
  rw [recodAccesses]
  cases recod.reprotableChange with
  | none => simp
  | some block => simp

theorem behind_pipe {access : Access}
    (member : access ∈ configReportAccesses gw later behind config) (other : ¬access.OfParser) :
    ∃ index < config.attrNum.toNat, access ∈ slotAccesses
      (gatewayGetdevice later config.ieee).isSome (slotAt config behind index) index := by
  rcases mem_config_report_accesses.mp member with ⟨index, recod, -, access⟩ | ⟨-, found⟩
  · rcases mem_recod_accesses.mp access with rfl | ⟨block, -, rfl | rfl⟩ <;>
      exact absurd trivial other
  · exact found

theorem mem_slot_accesses {known : Bool} {slot : Slot} {access : Access} :
    access ∈ slotAccesses known slot index ↔
      access = .storeRec index ∨
        (known = true ∧ slot.direction = zclSendAttrReports ∧
            zclAnalogDataType slot.dataType = true) ∧
          access = .serialize index slot.reprotableChange ∨
        slot.reprotableChange ≠ .null ∧ access = .free index slot.reprotableChange := by
  rw [slotAccesses]
  split_ifs with serialized null null <;> simp [serialized, null]

theorem mem_store_recod :
    .storeRecod index ∈ configReportAccesses gw later behind config ↔
      index < config.attrList.length := by
  rw [mem_config_report_accesses]
  constructor
  · rintro (⟨index', recod, here, access⟩ | ⟨-, index', -, access⟩)
    · rcases mem_recod_accesses.mp access with same | ⟨block, -, other | other⟩
      · cases same
        exact (List.getElem?_eq_some_iff.mp here).1
      · cases other
      · cases other
    · rcases mem_slot_accesses.mp access with other | ⟨-, other⟩ | ⟨-, other⟩ <;> cases other
  · intro inside
    exact .inl ⟨index, _, List.getElem?_eq_getElem inside, mem_recod_accesses.mpr (.inl rfl)⟩

theorem mem_malloc {size : Int} :
    .malloc index size ∈ configReportAccesses gw later behind config ↔
      ∃ recod block, config.attrList[index]? = some recod ∧
        recod.reprotableChange = some block ∧ size = block.size := by
  rw [mem_config_report_accesses]
  constructor
  · rintro (⟨index', recod, here, access⟩ | ⟨-, index', -, access⟩)
    · rcases mem_recod_accesses.mp access with other | ⟨block, allocated, same | other⟩
      · cases other
      · cases same
        exact ⟨recod, block, here, allocated, rfl⟩
      · cases other
    · rcases mem_slot_accesses.mp access with other | ⟨-, other⟩ | ⟨-, other⟩ <;> cases other
  · rintro ⟨recod, block, here, allocated, rfl⟩
    exact .inl ⟨index, recod, here, mem_recod_accesses.mpr (.inr ⟨block, allocated, .inl rfl⟩)⟩

theorem mem_store_change {count : Nat} :
    .storeChange index count ∈ configReportAccesses gw later behind config ↔
      ∃ recod block, config.attrList[index]? = some recod ∧
        recod.reprotableChange = some block ∧ count = block.bytes.length := by
  rw [mem_config_report_accesses]
  constructor
  · rintro (⟨index', recod, here, access⟩ | ⟨-, index', -, access⟩)
    · rcases mem_recod_accesses.mp access with other | ⟨block, allocated, other | same⟩
      · cases other
      · cases other
      · cases same
        exact ⟨recod, block, here, allocated, rfl⟩
    · rcases mem_slot_accesses.mp access with other | ⟨-, other⟩ | ⟨-, other⟩ <;> cases other
  · rintro ⟨recod, block, here, allocated, rfl⟩
    exact .inl ⟨index, recod, here, mem_recod_accesses.mpr (.inr ⟨block, allocated, .inr rfl⟩)⟩

theorem slot_pointer (few : config.attrList.length ≤ 10) (inside : index < config.attrList.length)
    (sized : ∀ recod block, config.attrList[index]? = some recod →
      recod.reprotableChange = some block → 0 < block.size) :
    ∃ recod, config.attrList[index]? = some recod ∧
      slotAt config behind index =
        ⟨recod.direction, recod.dataType,
          match recod.reprotableChange with
          | none => .null
          | some _ => .block index⟩ := by
  refine ⟨config.attrList[index], List.getElem?_eq_getElem inside, ?_⟩
  rw [slotAt, if_pos (by omega), List.getElem?_eq_getElem inside]
  simp only [changePointer]
  cases allocated : config.attrList[index].reprotableChange with
  | none => rfl
  | some block =>
      have positive := sized _ block (List.getElem?_eq_getElem inside) allocated
      simp only [if_neg (by omega : ¬block.size < 0)]

def BlocksHold (config : ConfigReporting) : Prop :=
  ∀ (index : Nat) recod block, config.attrList[index]? = some recod →
    recod.reprotableChange = some block →
      0 < block.size ∧ (block.bytes.length : Int) ≤ block.size

theorem blocks_hold_of_owns
    (owns : OwnsMemory (configReportAccesses gw later behind config)) : BlocksHold config := by
  intro index recod block here allocated
  refine ⟨owns.sizes index _ (mem_malloc.mpr ⟨recod, block, here, allocated, rfl⟩), ?_⟩
  rcases owns.changes index _ (mem_store_change.mpr ⟨recod, block, here, allocated, rfl⟩) with
    ⟨size, malloc, fits⟩
  rcases mem_malloc.mp malloc with ⟨recod', block', here', allocated', rfl⟩
  rw [here, Option.some.injEq] at here'
  rw [← here', allocated, Option.some.injEq] at allocated'
  rwa [← allocated'] at fits

/-- Every pointer that is used comes from a slot of the array. -/
theorem used_pointer (parsed : Parsed config) (few : config.attrList.length ≤ 10)
    (blocks : BlocksHold config) {pointer : Pointer} (inside : index < config.attrNum.toNat)
    (same : (slotAt config behind index).reprotableChange = pointer) (real : pointer ≠ .null) :
    pointer = .block index ∧ ∃ size, .malloc index size ∈
      configReportAccesses gw later behind config := by
  rw [parsed.counted] at inside
  rcases slot_pointer few inside fun recod block here allocated =>
    (blocks index recod block here allocated).1 with ⟨recod, here, slot⟩
  rw [slot] at same
  cases allocated : recod.reprotableChange with
  | none =>
      rw [allocated] at same
      exact absurd same.symm real
  | some block =>
      rw [allocated] at same
      exact ⟨same.symm, block.size, mem_malloc.mpr ⟨recod, block, here, allocated, rfl⟩⟩

theorem analog_pointer (parsed : Parsed config) (few : config.attrList.length ≤ 10)
    (blocks : BlocksHold config) (inside : index < config.attrNum.toNat)
    (analog : zclAnalogDataType (slotAt config behind index).dataType = true) :
    (slotAt config behind index).reprotableChange ≠ .null := by
  intro null
  rw [parsed.counted] at inside
  rcases slot_pointer few inside fun recod block here allocated =>
    (blocks index recod block here allocated).1 with ⟨recod, here, slot⟩
  rw [slot] at null analog
  rcases parsed.blocks recod (List.mem_of_getElem? here) analog with ⟨block, allocated⟩
  rw [allocated] at null
  cases null

/-- The struct decides: at most ten records, and each block holds what is stored in it. -/
theorem owns_memory_iff (parsed : Parsed config) :
    OwnsMemory (configReportAccesses gw later behind config) ↔
      config.attrList.length ≤ 10 ∧ BlocksHold config := by
  constructor
  · intro owns
    refine ⟨?_, blocks_hold_of_owns owns⟩
    by_contra many
    exact absurd (owns.recods 10 (mem_store_recod.mpr (by omega))) (by decide)
  · rintro ⟨few, blocks⟩
    constructor
    · intro index stored
      exact (mem_store_recod.mp stored).trans_le few
    · intro index stored
      rcases behind_pipe stored id with ⟨index', inside, access⟩
      rw [parsed.counted] at inside
      rcases mem_slot_accesses.mp access with same | ⟨-, same⟩ | ⟨-, same⟩
      · cases same
        exact inside.trans_le few
      · cases same
      · cases same
    · intro index size malloc
      rcases mem_malloc.mp malloc with ⟨recod, block, here, allocated, rfl⟩
      exact (blocks index recod block here allocated).1
    · intro index count stored
      rcases mem_store_change.mp stored with ⟨recod, block, here, allocated, rfl⟩
      exact ⟨block.size, mem_malloc.mpr ⟨recod, block, here, allocated, rfl⟩,
        (blocks index recod block here allocated).2⟩
    · intro index pointer serialized
      rcases behind_pipe serialized id with ⟨index', inside, access⟩
      rcases mem_slot_accesses.mp access with same | ⟨⟨-, -, analog⟩, same⟩ | ⟨-, same⟩
      · cases same
      · cases same
        exact used_pointer parsed few blocks inside rfl
          (analog_pointer parsed few blocks inside analog)
      · cases same
    · intro index pointer freed
      rcases behind_pipe freed id with ⟨index', inside, access⟩
      rcases mem_slot_accesses.mp access with same | ⟨-, same⟩ | ⟨real, same⟩
      · cases same
      · cases same
      · cases same
        exact used_pointer parsed few blocks inside rfl real

end Accesses

theorem buffer_memory_getD (host : Host) (frame : List UInt8) {address : Nat}
    (inside : address < 1024) :
    bufferMemory host (localBuffer frame) address = frame.getD address 0 := by
  by_cases within : address < frame.length
  · exact buffer_memory_get host frame within
  · have length : (localBuffer frame).length = frame.length + (1024 - frame.length) := by
      rw [local_buffer_eq, List.length_append, List.length_replicate]
    rw [bufferMemory, placed, if_pos (by omega), local_buffer_eq,
      List.getD_append_right _ _ _ _ (by omega), List.getD_replicate _ (by omega),
      List.getD_eq_default _ _ (by omega)]

theorem owns_memory_frame_iff (host : Host) (frame : List UInt8) (gw later : Gateway)
    (behind : Nat → Slot) {len : UInt16} (length : len.toNat = frame.length) :
    OwnsMemory (configReportAccesses gw later behind
        ((protocolParseConfigReporting len).value (bufferMemory host (localBuffer frame)))) ↔
      RoomForChanges frame := by
  obtain ⟨-, recods⟩ := config_reporting_records len (bufferMemory host (localBuffer frame))
  rw [owns_memory_iff (config_reporting_parsed len _), BlocksHold, recods, List.length_map,
    List.length_range, buffer_memory_getD host frame (by decide : 20 < 1024)]
  have typeByte (index : Nat) (early : index < 10) :
      bufferMemory host (localBuffer frame) (21 + 10 * index + 3) =
        frame.getD (24 + 10 * index) 0 := by
    rw [← buffer_memory_getD host frame (by omega : 24 + 10 * index < 1024)]
    congr 1
    omega
  constructor
  · rintro ⟨few, blocks⟩
    refine ⟨few, fun index inside analog => ?_⟩
    have byte := typeByte index (by omega)
    rw [← byte] at analog ⊢
    have here : ((List.range (frame.getD 20 0).toNat).map fun index =>
        recodAt len (bufferMemory host (localBuffer frame)) (21 + 10 * index))[index]? =
          some (recodAt len (bufferMemory host (localBuffer frame)) (21 + 10 * index)) := by
      rw [List.getElem?_map, List.getElem?_range inside, Option.map_some]
    have fits := (blocks index _ _ here (if_pos analog)).2
    simp only [recv_reportable_change_length analog] at fits
    omega
  · rintro ⟨few, room⟩
    refine ⟨few, fun index recod block here allocated => ?_⟩
    rcases List.getElem?_eq_some_iff.mp here with ⟨inside, found⟩
    rw [List.length_map, List.length_range] at inside
    rw [List.getElem_map, List.getElem_range] at found
    rw [← found, recodAt] at allocated
    simp only [Option.ite_none_right_eq_some, Option.some.injEq] at allocated
    rcases allocated with ⟨analog, rfl⟩
    have byte := typeByte index (by omega)
    have fits := room index inside (byte ▸ analog)
    have positive := stored_length_pos analog
    rw [← byte] at fits
    simp only [recv_reportable_change_length analog]
    omega

/-- Of the accepted `CONFIG_REPORT` frames, those with at most ten records and room for their
changes are handled within their memory, whatever the registry and the reader's stack hold. -/
theorem config_report_memory_iff (host : Host) {c : Connection} (formed : WellFormed c)
    (config : (protocolCheck c illegal).messageid = configReport) (gw later : Gateway)
    (behind : Nat → Slot) :
    OwnsMemory (configReportAccesses gw later behind
        ((protocolParseConfigReporting (protocolCheck c illegal).messagelen.toUInt16).value
          (bufferMemory host (localBuffer (extraction c).2.1)))) ↔
      RoomForChanges (extraction c).2.1 := by
  have legal : (protocolCheck c illegal).messageid ≠ illegal := config ▸ by decide
  have full : (protocolCheck c illegal).messageid ≠ halfpack := config ▸ by decide
  obtain ⟨conserved, -, length, -⟩ := recv_pass_spec formed legal full
  have stored := formed.pending_le
  rw [← conserved] at stored
  simp only [List.length_append] at stored
  apply owns_memory_frame_iff
  rw [UInt32.toNat_toUInt16]
  omega

def reportFrame (attrNum : UInt8) (recods : List UInt8) : List UInt8 :=
  encodeFrame configReport
    ([0x00, 0x00, 0x00, 0x07] ++ [0x00, 0x13, 0x7A, 0x00, 0x00, 0x01, 0x56, 0xD3] ++
      [0x04, 0x05, 0x01, attrNum] ++ recods)

/-- A humidity of sixteen bits, reported each minute or after a change of five. -/
def humidityFrame : List UInt8 :=
  reportFrame 1 [0x00, 0x00, 0x00, 0x21, 0x00, 0x01, 0x00, 0x3C, 0x00, 0x00, 0x00, 0x05]

/-- A counter of 24 bits, reported likewise. -/
def counterFrame : List UInt8 :=
  reportFrame 1 [0x00, 0x00, 0x00, 0x22, 0x00, 0x01, 0x00, 0x3C, 0x00, 0x00, 0x00, 0x00, 0x05]

def elevenFrame : List UInt8 :=
  reportFrame 11
    (List.replicate 11 [0x00, 0x00, 0x00, 0x10, 0x00, 0x01, 0x00, 0x3C, 0x00, 0x00]).flatten

theorem humidity_frame_complete : CompleteFrame configReport humidityFrame :=
  ⟨by decide, by decide, by decide, by decide, by decide, by decide⟩

theorem counter_frame_complete : CompleteFrame configReport counterFrame :=
  ⟨by decide, by decide, by decide, by decide, by decide, by decide⟩

theorem eleven_frame_complete : CompleteFrame configReport elevenFrame := by
  refine ⟨?_, ?_, ?_, ?_, ?_, ?_⟩ <;> decide +kernel

theorem config_report_memory_iff_humidity :
    OwnsMemory (configReportAccesses twoContacts twoContacts (fun _ => ⟨0, 0, .stray 0⟩)
        ((protocolParseConfigReporting
            (protocolCheck (afterRead humidityFrame) illegal).messagelen.toUInt16).value
          (bufferMemory quietHost (localBuffer (extraction (afterRead humidityFrame)).2.1)))) ↔
      RoomForChanges (extraction (afterRead humidityFrame)).2.1 := by
  obtain ⟨formed, -, messageid, -⟩ := after_read_frame humidity_frame_complete (by decide)
  exact config_report_memory_iff quietHost formed messageid twoContacts twoContacts _

/-- The counter's block has three bytes, and four are stored in it; the eleventh switch goes behind
its array. Both frames are accepted. -/
theorem config_report_overruns :
    ((protocolCheck (afterRead counterFrame) illegal).messageid = configReport ∧
        ¬OwnsMemory (configReportAccesses twoContacts twoContacts (fun _ => ⟨0, 0, .null⟩)
          ((protocolParseConfigReporting
              (protocolCheck (afterRead counterFrame) illegal).messagelen.toUInt16).value
            (bufferMemory quietHost (localBuffer (extraction (afterRead counterFrame)).2.1))))) ∧
      (protocolCheck (afterRead elevenFrame) illegal).messageid = configReport ∧
        ¬OwnsMemory (configReportAccesses twoContacts twoContacts (fun _ => ⟨0, 0, .null⟩)
          ((protocolParseConfigReporting
              (protocolCheck (afterRead elevenFrame) illegal).messagelen.toUInt16).value
            (bufferMemory quietHost (localBuffer (extraction (afterRead elevenFrame)).2.1)))) := by
  constructor
  · obtain ⟨-, bytes, messageid, messagelen⟩ :=
      after_read_frame counter_frame_complete (by decide)
    rw [bytes, messagelen, owns_memory_frame_iff _ _ _ _ _ (by decide)]
    refine ⟨messageid, fun room => ?_⟩
    exact absurd (room.room 0 (by decide) (by decide)) (by decide)
  · obtain ⟨-, bytes, messageid, messagelen⟩ :=
      after_read_frame eleven_frame_complete (by decide +kernel)
    rw [bytes, messagelen, owns_memory_frame_iff _ _ _ _ _ (by decide +kernel)]
    exact ⟨messageid, fun room => absurd room.few (by decide +kernel)⟩

end SmartHome.ReportMemory
