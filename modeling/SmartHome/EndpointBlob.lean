import SmartHome.Library.Blobs
import SmartHome.Registry

/-!
# The endpoint blob of a device row

The bytes of the `endpoint` column as the platform lays out the structs: an
`ActiveEpRspFormat_t`, and then one `struct simpledesc` behind the other. The inner
structs are aligned to two bytes, `struct simpledesc` itself is packed. Padding is
copied along and read by nobody; it is zero here.
-/

namespace SmartHome.EndpointBlob

open SmartHome.Library.Blobs
open SmartHome.Registry

set_option autoImplicit false

def sizeofActiveEpRspFormat : Nat := 84
def sizeofSimpleDescRspFormat : Nat := 80
def sizeofArm : Nat := 5
def sizeofSimpledesc : Nat := 89

/-- The blob that a new row gets. -/
def blobSize : Nat := sizeofActiveEpRspFormat + 77 * sizeofSimpledesc

def activeepBytes (activeep : ActiveEpRspFormat) : List UInt8 :=
  wordBytes activeep.srcAddr ++ ([activeep.status, 0] ++ (wordBytes activeep.nwkAddr ++
    ([activeep.activeEPCount] ++ activeep.activeEPList.toList)))

def simpleDescBytes (desc : SimpleDescRspFormat) : List UInt8 :=
  wordBytes desc.srcAddr ++ ([desc.status, 0] ++ (wordBytes desc.nwkAddr ++
    ([desc.len, desc.endpoint] ++ (wordBytes desc.profileID ++ (wordBytes desc.deviceID ++
      ([desc.deviceVersion, desc.numInClusters] ++ (desc.inClusterList.toList.flatMap wordBytes ++
        ([desc.numOutClusters, 0] ++ desc.outClusterList.toList.flatMap wordBytes))))))))

def armBytes (arm : Arm) : List UInt8 :=
  [arm.armmodel, arm.starthour, arm.startminute, arm.endhour, arm.endminute]

def simpledescBytes (simpledesc : Simpledesc) : List UInt8 :=
  simpleDescBytes simpledesc.simpledesc ++ (wordBytes simpledesc.zonetype ++
    (armBytes simpledesc.arm ++ ([simpledesc.zclTransnum] ++ [simpledesc.deviceState])))

def readActiveep (bytes : List UInt8) : ActiveEpRspFormat where
  srcAddr := wordAt bytes 0
  status := byteAt bytes 2
  nwkAddr := wordAt bytes 4
  activeEPCount := byteAt bytes 6
  activeEPList := Vector.ofFn fun i => byteAt bytes (7 + i.val)

def readSimpleDesc (bytes : List UInt8) : SimpleDescRspFormat where
  srcAddr := wordAt bytes 0
  status := byteAt bytes 2
  nwkAddr := wordAt bytes 4
  len := byteAt bytes 6
  endpoint := byteAt bytes 7
  profileID := wordAt bytes 8
  deviceID := wordAt bytes 10
  deviceVersion := byteAt bytes 12
  numInClusters := byteAt bytes 13
  inClusterList := Vector.ofFn fun i => wordAt bytes (14 + 2 * i.val)
  numOutClusters := byteAt bytes 46
  outClusterList := Vector.ofFn fun i => wordAt bytes (48 + 2 * i.val)

def readSimpledesc (bytes : List UInt8) : Simpledesc where
  simpledesc := readSimpleDesc bytes
  zonetype := wordAt bytes 80
  arm := ⟨byteAt bytes 82, byteAt bytes 83, byteAt bytes 84, byteAt bytes 85, byteAt bytes 86⟩
  zclTransnum := byteAt bytes 87
  deviceState := byteAt bytes 88

@[simp] theorem activeep_bytes_length (activeep : ActiveEpRspFormat) :
    (activeepBytes activeep).length = sizeofActiveEpRspFormat := by
  simp [activeepBytes, sizeofActiveEpRspFormat]

@[simp] theorem simple_desc_bytes_length (desc : SimpleDescRspFormat) :
    (simpleDescBytes desc).length = sizeofSimpleDescRspFormat := by
  simp [simpleDescBytes, sizeofSimpleDescRspFormat]

@[simp] theorem arm_bytes_length (arm : Arm) : (armBytes arm).length = sizeofArm := rfl

@[simp] theorem simpledesc_bytes_length (simpledesc : Simpledesc) :
    (simpledescBytes simpledesc).length = sizeofSimpledesc := by
  simp [simpledescBytes, sizeofSimpledesc, sizeofSimpleDescRspFormat, sizeofArm]

theorem word_at_vector {size : Nat} (words : Vector UInt16 size) (rest : List UInt8)
    (index : Fin size) :
    wordAt (words.toList.flatMap wordBytes ++ rest) (2 * index.val) = words.get index := by
  have bound : index.val < words.toList.length := by simp
  rw [word_at_array words.toList rest bound]
  simp [Vector.get]

theorem words_at_vector {size : Nat} (words : Vector UInt16 size) {bytes : List UInt8}
    (rest : List UInt8) {offset : Nat} (front : List UInt8) (length : front.length = offset)
    (split : bytes = front ++ (words.toList.flatMap wordBytes ++ rest)) :
    (Vector.ofFn fun i : Fin size => wordAt bytes (offset + 2 * i.val)) = words := by
  apply Vector.ext
  intro index bound
  rw [Vector.getElem_ofFn, split, word_at_behind _ _ (by omega), length, Nat.add_sub_cancel_left]
  exact word_at_vector words rest ⟨index, bound⟩

theorem bytes_at_vector {size : Nat} (values : Vector UInt8 size) {bytes : List UInt8}
    (rest : List UInt8) {offset : Nat} (front : List UInt8) (length : front.length = offset)
    (split : bytes = front ++ (values.toList ++ rest)) :
    (Vector.ofFn fun i : Fin size => byteAt bytes (offset + i.val)) = values := by
  apply Vector.ext
  intro index bound
  have inside : index < values.toList.length := by simpa using bound
  rw [Vector.getElem_ofFn, split, byte_at_behind _ _ (by omega), length, Nat.add_sub_cancel_left,
    byteAt, List.getD_append _ _ _ _ inside, List.getD_eq_getElem _ _ inside,
    Vector.getElem_toList]

theorem read_activeep_bytes (activeep : ActiveEpRspFormat) (rest : List UInt8) :
    readActiveep (activeepBytes activeep ++ rest) = activeep := by
  have list : (Vector.ofFn fun i : Fin 77 => byteAt (activeepBytes activeep ++ rest) (7 + i.val)) =
      activeep.activeEPList := by
    apply bytes_at_vector activeep.activeEPList rest (wordBytes activeep.srcAddr ++
      ([activeep.status, 0] ++ (wordBytes activeep.nwkAddr ++ [activeep.activeEPCount])))
    · simp
    · simp [activeepBytes]
  unfold readActiveep
  rw [list]
  simp [activeepBytes, word_at_behind, byte_at_behind, word_at_start]

theorem read_simple_desc_bytes (desc : SimpleDescRspFormat) (rest : List UInt8) :
    readSimpleDesc (simpleDescBytes desc ++ rest) = desc := by
  have inClusters : (Vector.ofFn fun i : Fin 16 =>
      wordAt (simpleDescBytes desc ++ rest) (14 + 2 * i.val)) = desc.inClusterList := by
    apply words_at_vector desc.inClusterList
      ([desc.numOutClusters, 0] ++ desc.outClusterList.toList.flatMap wordBytes ++ rest)
      (wordBytes desc.srcAddr ++ ([desc.status, 0] ++ (wordBytes desc.nwkAddr ++
        ([desc.len, desc.endpoint] ++ (wordBytes desc.profileID ++ (wordBytes desc.deviceID ++
          [desc.deviceVersion, desc.numInClusters]))))))
    · simp
    · simp only [simpleDescBytes, List.append_assoc]
  have outClusters : (Vector.ofFn fun i : Fin 16 =>
      wordAt (simpleDescBytes desc ++ rest) (48 + 2 * i.val)) = desc.outClusterList := by
    apply words_at_vector desc.outClusterList rest
      (wordBytes desc.srcAddr ++ ([desc.status, 0] ++ (wordBytes desc.nwkAddr ++
        ([desc.len, desc.endpoint] ++ (wordBytes desc.profileID ++ (wordBytes desc.deviceID ++
          ([desc.deviceVersion, desc.numInClusters] ++
            (desc.inClusterList.toList.flatMap wordBytes ++ [desc.numOutClusters, 0]))))))))
    · simp
    · simp only [simpleDescBytes, List.append_assoc]
  unfold readSimpleDesc
  rw [inClusters, outClusters]
  simp [simpleDescBytes, word_at_behind, byte_at_behind, word_at_start]

theorem read_simpledesc_bytes (simpledesc : Simpledesc) (rest : List UInt8) :
    readSimpledesc (simpledescBytes simpledesc ++ rest) = simpledesc := by
  have front : ∀ tail, readSimpleDesc (simpleDescBytes simpledesc.simpledesc ++ tail) =
      simpledesc.simpledesc := read_simple_desc_bytes simpledesc.simpledesc
  simp [readSimpledesc, simpledescBytes, word_at_behind, byte_at_behind, word_at_start, armBytes,
    front, sizeofSimpleDescRspFormat]

/-- The fields that the updaters of one record write. -/
inductive RecordField
  | zonetype (zonetype : UInt16)
  | arm (arm : Arm)
  | seq (seq : UInt8)
  | state (state : UInt8)
  deriving DecidableEq

namespace RecordField

/-- Where the field lies in its record, as each updater adds it up. -/
def offset : RecordField → Nat
  | .zonetype _ => sizeofSimpleDescRspFormat
  | .arm _ => sizeofSimpleDescRspFormat + 2
  | .seq _ => sizeofSimpleDescRspFormat + 2 + sizeofArm
  | .state _ => sizeofSimpleDescRspFormat + 2 + sizeofArm + 1

def bytes : RecordField → List UInt8
  | .zonetype value => wordBytes value
  | .arm value => armBytes value
  | .seq value => [value]
  | .state value => [value]

def store : RecordField → Simpledesc → Simpledesc
  | .zonetype value, record => { record with zonetype := value }
  | .arm value, record => { record with arm := value }
  | .seq value, record => { record with zclTransnum := value }
  | .state value, record => { record with deviceState := value }

theorem store_simpledesc (field : RecordField) (record : Simpledesc) :
    (field.store record).simpledesc = record.simpledesc := by
  cases field <;> rfl

theorem inside_record (field : RecordField) :
    field.offset + field.bytes.length ≤ sizeofSimpledesc := by
  cases field <;> simp [offset, bytes, sizeofSimpledesc, sizeofSimpleDescRspFormat, sizeofArm]

/-- The offset and the width belong to the field: nothing else in the record changes. -/
theorem write_record (field : RecordField) (record : Simpledesc) :
    blobWrite (simpledescBytes record) field.offset field.bytes =
      simpledescBytes (field.store record) := by
  have length := simple_desc_bytes_length record.simpledesc
  cases field with
  | zonetype value =>
      have written := blob_write_field (simpleDescBytes record.simpledesc)
        (wordBytes record.zonetype) (armBytes record.arm ++ ([record.zclTransnum] ++
          [record.deviceState])) (wordBytes value) (by simp)
      rwa [length] at written
  | arm value =>
      have written := blob_write_field
        (simpleDescBytes record.simpledesc ++ wordBytes record.zonetype) (armBytes record.arm)
        ([record.zclTransnum] ++ [record.deviceState]) (armBytes value) (by simp)
      rw [List.length_append, length, word_bytes_length] at written
      simp only [List.append_assoc] at written
      exact written
  | seq value =>
      have written := blob_write_field
        (simpleDescBytes record.simpledesc ++ wordBytes record.zonetype ++ armBytes record.arm)
        [record.zclTransnum] [record.deviceState] [value] rfl
      rw [List.length_append, List.length_append, length, word_bytes_length,
        arm_bytes_length] at written
      simp only [List.append_assoc] at written
      exact written
  | state value =>
      have written := blob_write_field
        (simpleDescBytes record.simpledesc ++ wordBytes record.zonetype ++ armBytes record.arm ++
          [record.zclTransnum]) [record.deviceState] [] [value] rfl
      rw [List.length_append, List.length_append, List.length_append, length, word_bytes_length,
        arm_bytes_length] at written
      simp only [List.append_assoc, List.append_nil] at written
      exact written

end RecordField

def Stores (blob : List UInt8) (activeep : ActiveEpRspFormat) (records : List Simpledesc) : Prop :=
  ∃ rest, blob = activeepBytes activeep ++ (records.flatMap simpledescBytes ++ rest)

def fieldPosition (index : Nat) (field : RecordField) : Nat :=
  sizeofActiveEpRspFormat + sizeofSimpledesc * index + field.offset

theorem Stores.write_field {blob : List UInt8} {activeep : ActiveEpRspFormat}
    {records : List Simpledesc} (stores : Stores blob activeep records) (index : Nat)
    (field : RecordField) :
    Stores (blobWrite blob (fieldPosition index field) field.bytes) activeep
      (records.modify index field.store) := by
  rcases stores with ⟨rest, rfl⟩
  have position : fieldPosition index field =
      (activeepBytes activeep).length + (sizeofSimpledesc * index + field.offset) := by
    rw [activeep_bytes_length, fieldPosition, Nat.add_assoc]
  rw [position, blob_write_append_right]
  by_cases bound : index < records.length
  · rw [blob_write_record simpledesc_bytes_length field.inside_record field.write_record records
      rest bound]
    exact ⟨rest, rfl⟩
  · have behind : records.length ≤ index := Nat.not_lt.mp bound
    rcases blob_write_behind simpledesc_bytes_length records rest field.offset field.bytes behind
      with ⟨later, written⟩
    rw [written, List.modify_eq_self behind]
    exact ⟨later, rfl⟩

theorem Stores.read_header {blob : List UInt8} {activeep : ActiveEpRspFormat}
    {records : List Simpledesc} (stores : Stores blob activeep records) :
    readActiveep blob = activeep := by
  rcases stores with ⟨rest, rfl⟩
  exact read_activeep_bytes activeep _

theorem Stores.read_records {blob : List UInt8} {activeep : ActiveEpRspFormat}
    {records : List Simpledesc} (stores : Stores blob activeep records) {count : Nat}
    (enough : count ≤ records.length) :
    readRecords readSimpledesc sizeofSimpledesc count (blob.drop sizeofActiveEpRspFormat) =
      records.take count := by
  rcases stores with ⟨rest, rfl⟩
  rw [← activeep_bytes_length activeep, List.drop_left]
  exact read_records_eq simpledesc_bytes_length read_simpledesc_bytes records rest enough

theorem Stores.state_byte {blob : List UInt8} {activeep : ActiveEpRspFormat}
    {records : List Simpledesc} (stores : Stores blob activeep records) {index : Nat}
    {record : Simpledesc} (here : records[index]? = some record) (state : UInt8) :
    byteAt blob (fieldPosition index (.state state)) = record.deviceState := by
  rcases stores with ⟨rest, rfl⟩
  rcases List.getElem?_eq_some_iff.mp here with ⟨bound, same⟩
  have split : records.flatMap simpledescBytes ++ rest =
      (records.take index).flatMap simpledescBytes ++
        (simpledescBytes record ++ ((records.drop (index + 1)).flatMap simpledescBytes ++ rest)) := by
    have parts := List.take_append_drop index records
    rw [List.drop_eq_getElem_cons bound, same] at parts
    have whole := congrArg (List.flatMap simpledescBytes) parts
    rw [List.flatMap_append, List.flatMap_cons] at whole
    rw [← whole, List.append_assoc, List.append_assoc]
  have front : ((records.take index).flatMap simpledescBytes).length = sizeofSimpledesc * index := by
    rw [records_length simpledesc_bytes_length, List.length_take, Nat.min_eq_left bound.le]
  have position : fieldPosition index (.state state) =
      sizeofActiveEpRspFormat + (sizeofSimpledesc * index + 88) := Nat.add_assoc _ _ _
  have header := activeep_bytes_length activeep
  have read := congrArg Simpledesc.deviceState (read_simpledesc_bytes record
    ((records.drop (index + 1)).flatMap simpledescBytes ++ rest))
  rw [position, byte_at_behind _ _ (header ▸ Nat.le_add_right _ _), header, Nat.add_sub_cancel_left,
    split, byte_at_behind _ _ (front ▸ Nat.le_add_right _ _), front, Nat.add_sub_cancel_left]
  exact read

theorem Stores.state_inside {blob : List UInt8} {activeep : ActiveEpRspFormat}
    {records : List Simpledesc} (stores : Stores blob activeep records) {index : Nat}
    (bound : index < records.length) (state : UInt8) :
    fieldPosition index (.state state) < blob.length := by
  rcases stores with ⟨rest, rfl⟩
  have position : fieldPosition index (.state state) = 84 + 89 * index + 88 := rfl
  rw [position, List.length_append, List.length_append, activeep_bytes_length,
    records_length simpledesc_bytes_length, sizeofActiveEpRspFormat, sizeofSimpledesc]
  omega

theorem Stores.size_le {blob : List UInt8} {activeep : ActiveEpRspFormat}
    {records : List Simpledesc} (stores : Stores blob activeep records) :
    sizeofActiveEpRspFormat ≤ blob.length := by
  rcases stores with ⟨rest, rfl⟩
  rw [List.length_append, activeep_bytes_length]
  exact Nat.le_add_right _ _

theorem stores_zero : Stores (List.replicate blobSize 0) noActiveep [] := by
  have header : activeepBytes noActiveep = List.replicate sizeofActiveEpRspFormat 0 := by decide
  refine ⟨List.replicate (77 * sizeofSimpledesc) 0, ?_⟩
  rw [header, List.flatMap_nil, List.nil_append, List.replicate_append_replicate]
  rfl

end SmartHome.EndpointBlob
