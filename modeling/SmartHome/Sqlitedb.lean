import SmartHome.Effects
import SmartHome.EndpointBlob
import SmartHome.Library.Decimal
import SmartHome.Library.Tables

/-!
# The device table

The `device` table of `sqlitedb.c` and what each of its functions does to it, every
statement succeeding. An address is bound as a signed 64-bit integer when a row is
inserted or its blob is opened, and printed with `%lld` in every other statement; both
must name the same key. A text that contains the quote character ends its literal
early, and what SQLite then makes of the statement is not described: the row stays as it
was here, and results about rows ask for statements without such a text.
-/

namespace SmartHome.Sqlitedb

open SmartHome.Library.Blobs
open SmartHome.Library.CTypes
open SmartHome.Library.Decimal
open SmartHome.Library.Tables
open SmartHome.Registry
open SmartHome.Effects
open SmartHome.EndpointBlob

set_option autoImplicit false

/-- The columns behind the key; `none` is `NULL`. -/
structure DeviceRow where
  shortaddr : Option Int
  name : Option (List UInt8)
  status : Option Int
  zclversion : Option Int
  applicationversion : Option Int
  stackversion : Option Int
  hwversion : Option Int
  manufacturername : Option (List UInt8)
  modelidentifier : Option (List UInt8)
  datecode : Option (List UInt8)
  endpoint : List UInt8
  deriving DecidableEq

abbrev DeviceTable := KeyedTable Int DeviceRow

/-- `sqlite3_bind_int64` and `sqlite3_blob_open` take the address as a signed number. -/
def bindKey (ieee : UInt64) : Int := ieee.toInt64.toInt

/-- An integer that a statement's text carries as a decimal literal. -/
def sqlLiteral (value : Int) : Int := readDecimal (printDecimal value)

/-- The address behind `ieee = %lld`. -/
def textKey (ieee : UInt64) : Int := sqlLiteral ieee.toInt64.toInt

/-- `sqlite3_column_int`: the low 32 bits, zero for `NULL`. -/
def columnInt (column : Option Int) : UInt32 := UInt32.ofInt (column.getD 0)

def sqlite3Gettext (size : Nat) (column : Option (List UInt8)) : CString (size + 1) :=
  .copy size (column.getD [])

def quote : UInt8 := 0x27

/-- `%d` of an `unsigned int` prints the signed number with the same bits. -/
def statusLiteral (status : UInt32) : Int := sqlLiteral status.toInt32.toInt

def splicedTexts : DatabaseCall → List (List UInt8)
  | .updateGatewayname _ name => [name]
  | .updateDevicename _ name => [name]
  | .updateDeviceAttr d => [d.manufacturername.text, d.modelidentifier.text, d.datecode.text]
  | _ => []

/-- No statement has another meaning than its function gives it. -/
def Unspliced (calls : List DatabaseCall) : Prop :=
  ∀ call ∈ calls, ∀ text ∈ splicedTexts call, quote ∉ text

instance (calls : List DatabaseCall) : Decidable (Unspliced calls) :=
  inferInstanceAs (Decidable (∀ call ∈ calls, ∀ text ∈ splicedTexts call, quote ∉ text))

/-- With a quote in the text the statement may be any SQL, which `Unspliced` calls rule out; the row is
left here. -/
def storeName (name : List UInt8) (row : DeviceRow) : DeviceRow :=
  if quote ∈ name then row else { row with name := some name }

def storeStatus (status : UInt32) (row : DeviceRow) : DeviceRow :=
  { row with status := some (statusLiteral status) }

def storeShortaddr (shortaddr : UInt16) (row : DeviceRow) : DeviceRow :=
  { row with shortaddr := some (sqlLiteral shortaddr.toNat) }

def storeAttr (d : Device) (row : DeviceRow) : DeviceRow :=
  if quote ∈ d.manufacturername.text ∨ quote ∈ d.modelidentifier.text ∨
      quote ∈ d.datecode.text then row
  else
    { row with
      status := some (statusLiteral d.status)
      zclversion := some (sqlLiteral d.zclversion.toNat)
      applicationversion := some (sqlLiteral d.applicationversion.toNat)
      stackversion := some (sqlLiteral d.stackversion.toNat)
      hwversion := some (sqlLiteral d.hwversion.toNat)
      manufacturername := some d.manufacturername.text
      modelidentifier := some d.modelidentifier.text
      datecode := some d.datecode.text }

def storeEndpoints (d : Device) (row : DeviceRow) : DeviceRow :=
  { row with
    endpoint := writeRecords simpledescBytes sizeofSimpledesc
      (blobWrite row.endpoint 0 (activeepBytes d.activeep)) sizeofActiveEpRspFormat
      (d.eplist.map (·.simpledesc)) }

def storeField (d : Device) (endpoint : UInt8) (field : RecordField) (row : DeviceRow) :
    DeviceRow :=
  match deviceGetIndex d endpoint with
  | some epindex =>
      { row with endpoint := blobWrite row.endpoint (fieldPosition epindex field) field.bytes }
  | none => row

/-- The functions that are passed an address look the device up themselves. Two of them use it
without a check; the handler that could call them without the device stops there. -/
def storeFieldAt (gw : Gateway) (ieee : UInt64) (endpoint : UInt8) (field : RecordField)
    (row : DeviceRow) : DeviceRow :=
  match gatewayGetdevice gw ieee with
  | some d => storeField d endpoint field row
  | none => row

def newRow (shortaddr : UInt16) : DeviceRow where
  shortaddr := some shortaddr.toNat
  name := none
  status := none
  zclversion := none
  applicationversion := none
  stackversion := none
  hwversion := none
  manufacturername := none
  modelidentifier := none
  datecode := none
  endpoint := List.replicate blobSize 0

def sqlitedbInsertDeviceIeee (ieee : UInt64) (shortaddr : UInt16) (table : DeviceTable) :
    DeviceTable :=
  table.insert (bindKey ieee) (newRow shortaddr)

def sqlitedbDeleteDevice (ieee : UInt64) (table : DeviceTable) : DeviceTable :=
  table.delete (textKey ieee)

def sqlitedbUpdateDevicename (ieee : UInt64) (name : List UInt8) (table : DeviceTable) :
    DeviceTable :=
  table.update (textKey ieee) (storeName name)

def sqlitedbUpdateDeviceStatus (ieee : UInt64) (status : UInt32) (table : DeviceTable) :
    DeviceTable :=
  table.update (textKey ieee) (storeStatus status)

def sqlitedbUpdateDeviceShortaddr (ieee : UInt64) (shortaddr : UInt16) (table : DeviceTable) :
    DeviceTable :=
  table.update (textKey ieee) (storeShortaddr shortaddr)

def sqlitedbUpdateDeviceAttr (d : Device) (table : DeviceTable) : DeviceTable :=
  table.update (textKey d.ieeeaddr) (storeAttr d)

def sqlitedbUpdateDeviceEndpoint (d : Device) (table : DeviceTable) : DeviceTable :=
  table.update (bindKey d.ieeeaddr) (storeEndpoints d)

def sqlitedbUpdateDeviceEndpointZonetype (d : Device) (endpoint : UInt8) (zonetype : UInt16)
    (table : DeviceTable) : DeviceTable :=
  table.update (bindKey d.ieeeaddr) (storeField d endpoint (.zonetype zonetype))

def sqlitedbUpdateDeviceArm (gw : Gateway) (ieee : UInt64) (endpoint : UInt8) (arm : Arm)
    (table : DeviceTable) : DeviceTable :=
  table.update (bindKey ieee) (storeFieldAt gw ieee endpoint (.arm arm))

def sqlitedbUpdateDeviceSeq (gw : Gateway) (ieee : UInt64) (endpoint : UInt8) (seq : UInt8)
    (table : DeviceTable) : DeviceTable :=
  table.update (bindKey ieee) (storeFieldAt gw ieee endpoint (.seq seq))

def sqlitedbUpdateDeviceState (gw : Gateway) (ieee : UInt64) (endpoint : UInt8) (state : UInt8)
    (table : DeviceTable) : DeviceTable :=
  table.update (bindKey ieee) (storeFieldAt gw ieee endpoint (.state state))

/-- What `sqlitedb_update_device_arm` returns: 1 without the endpoint, 5 without the device. -/
def sqlitedbUpdateDeviceArmResult (gw : Gateway) (ieee : UInt64) (endpoint : UInt8) : UInt8 :=
  match gatewayGetdevice gw ieee with
  | some d => if (deviceGetIndex d endpoint).isSome then 0 else 1
  | none => 5

/-- A call, with the registry as it is when the call is made. -/
def runCall (gw : Gateway) (table : DeviceTable) : DatabaseCall → DeviceTable
  | .updateGatewayname _ _ => table
  | .updateDevicename ieee name => sqlitedbUpdateDevicename ieee name table
  | .updateDeviceStatus ieee status => sqlitedbUpdateDeviceStatus ieee status table
  | .updateDeviceArm ieee endpoint arm => sqlitedbUpdateDeviceArm gw ieee endpoint arm table
  | .updateDeviceSeq ieee endpoint seq => sqlitedbUpdateDeviceSeq gw ieee endpoint seq table
  | .deleteDevice ieee => sqlitedbDeleteDevice ieee table
  | .insertDeviceIeee ieee shortaddr => sqlitedbInsertDeviceIeee ieee shortaddr table
  | .updateDeviceShortaddr ieee shortaddr => sqlitedbUpdateDeviceShortaddr ieee shortaddr table
  | .updateDeviceEndpoint d => sqlitedbUpdateDeviceEndpoint d table
  | .updateDeviceEndpointZonetype ieee endpoint zonetype =>
      match gatewayGetdevice gw ieee with
      | some d => sqlitedbUpdateDeviceEndpointZonetype d endpoint zonetype table
      | none => table
  | .updateDeviceState ieee endpoint state =>
      sqlitedbUpdateDeviceState gw ieee endpoint state table
  | .updateDeviceAttr d => sqlitedbUpdateDeviceAttr d table

def runCalls (gw : Gateway) (calls : List DatabaseCall) (table : DeviceTable) : DeviceTable :=
  calls.foldl (runCall gw) table

/-- `_sqlite3_load_device`; past the end of a blob there would be other memory, zero here. -/
def sqlite3LoadDevice (blob : List UInt8) (d : Device) : Device :=
  if blob.length < sizeofActiveEpRspFormat then d
  else
    let activeep := readActiveep blob
    (readRecords readSimpledesc sizeofSimpledesc activeep.activeEPCount.toNat
      (blob.drop sizeofActiveEpRspFormat)).foldl
        (fun d simpledesc => deviceAddendpoint d (endpointCreate simpledesc))
        (deviceSetep d activeep)

/-- The columns but the blob: the status goes through an `unsigned char`. -/
def loadColumns (row : Int × DeviceRow) : Device :=
  deviceCreate2 (UInt64.ofInt row.1) (columnInt row.2.shortaddr).toUInt16
    (sqlite3Gettext 255 row.2.name) (columnInt row.2.status).toUInt8
    (columnInt row.2.zclversion).toUInt8 (columnInt row.2.applicationversion).toUInt8
    (columnInt row.2.stackversion).toUInt8 (columnInt row.2.hwversion).toUInt8
    (sqlite3Gettext 32 row.2.manufacturername) (sqlite3Gettext 32 row.2.modelidentifier)
    (sqlite3Gettext 16 row.2.datecode)

def loadRow (row : Int × DeviceRow) : Device :=
  sqlite3LoadDevice row.2.endpoint (loadColumns row)

def sqlitedbLoadDevice (table : DeviceTable) (gw : Gateway) : Gateway :=
  table.rows.foldl (fun gw row => gatewayAdddevice gw (loadRow row)) gw

@[simp] theorem sql_literal_eq (value : Int) : sqlLiteral value = value := read_print_decimal value

/-- Both ways of naming a device name the same key. -/
@[simp] theorem text_key_eq (ieee : UInt64) : textKey ieee = bindKey ieee := sql_literal_eq _

@[simp] theorem of_int_bind_key (ieee : UInt64) : UInt64.ofInt (bindKey ieee) = ieee := by
  have signed : bindKey ieee = ieee.toBitVec.toInt := rfl
  have unsigned : ieee.toBitVec.toNat = ieee.toNat := rfl
  have bound := ieee.toNat_lt
  apply UInt64.toNat_inj.mp
  rw [UInt64.ofInt, UInt64.toNat_ofNat', signed, BitVec.toInt_eq_toNat_cond, unsigned]
  split <;> omega

theorem bind_key_inj {ieee other : UInt64} : bindKey ieee = bindKey other ↔ ieee = other := by
  constructor
  · intro same
    rw [← of_int_bind_key ieee, same, of_int_bind_key]
  · intro same
    rw [same]

theorem column_status (status : UInt32) : columnInt (some (statusLiteral status)) = status := by
  have signed : status.toInt32.toInt = status.toBitVec.toInt := rfl
  have unsigned : status.toBitVec.toNat = status.toNat := rfl
  have bound := status.toNat_lt
  apply UInt32.toNat_inj.mp
  rw [columnInt, statusLiteral, sql_literal_eq, Option.getD_some, UInt32.ofInt,
    UInt32.toNat_ofNat', signed, BitVec.toInt_eq_toNat_cond, unsigned]
  split <;> omega

theorem column_nat (value : Nat) : columnInt (some (sqlLiteral value)) = UInt32.ofNat value := by
  apply UInt32.toNat_inj.mp
  rw [columnInt, sql_literal_eq, Option.getD_some, UInt32.ofInt, UInt32.toNat_ofNat',
    UInt32.toNat_ofNat']
  omega

theorem column_byte (value : UInt8) :
    (columnInt (some (sqlLiteral value.toNat))).toUInt8 = value := by
  rw [column_nat]
  simp

theorem column_word (value : UInt16) :
    (columnInt (some (sqlLiteral value.toNat))).toUInt16 = value := by
  rw [column_nat]
  simp

/-- The row a statement updates; an insertion, a deletion and the other table have none. -/
def target : DatabaseCall → Option UInt64
  | .updateGatewayname _ _ => none
  | .updateDevicename ieee _ => some ieee
  | .updateDeviceStatus ieee _ => some ieee
  | .updateDeviceArm ieee _ _ => some ieee
  | .updateDeviceSeq ieee _ _ => some ieee
  | .deleteDevice _ => none
  | .insertDeviceIeee _ _ => none
  | .updateDeviceShortaddr ieee _ => some ieee
  | .updateDeviceEndpoint d => some d.ieeeaddr
  | .updateDeviceEndpointZonetype ieee _ _ => some ieee
  | .updateDeviceState ieee _ _ => some ieee
  | .updateDeviceAttr d => some d.ieeeaddr

def storeCall (d : Device) : DatabaseCall → DeviceRow → DeviceRow
  | .updateDevicename _ name => storeName name
  | .updateDeviceStatus _ status => storeStatus status
  | .updateDeviceArm _ endpoint arm => storeField d endpoint (.arm arm)
  | .updateDeviceSeq _ endpoint seq => storeField d endpoint (.seq seq)
  | .updateDeviceShortaddr _ shortaddr => storeShortaddr shortaddr
  | .updateDeviceEndpoint stored => storeEndpoints stored
  | .updateDeviceEndpointZonetype _ endpoint zonetype => storeField d endpoint (.zonetype zonetype)
  | .updateDeviceState _ endpoint state => storeField d endpoint (.state state)
  | .updateDeviceAttr stored => storeAttr stored
  | .updateGatewayname _ _ | .deleteDevice _ | .insertDeviceIeee _ _ => id

def storeCalls (d : Device) (calls : List DatabaseCall) (row : DeviceRow) : DeviceRow :=
  calls.foldl (fun row call => storeCall d call row) row

theorem store_field_at_eq {gw : Gateway} {ieee : UInt64} {d : Device}
    (found : gatewayGetdevice gw ieee = some d) (endpoint : UInt8) (field : RecordField) :
    storeFieldAt gw ieee endpoint field = storeField d endpoint field := by
  funext row
  rw [storeFieldAt, found]

theorem run_call_eq {gw : Gateway} {ieee : UInt64} {d : Device}
    (found : gatewayGetdevice gw ieee = some d) (table : DeviceTable) {call : DatabaseCall}
    (named : target call = some ieee) :
    runCall gw table call = table.update (bindKey ieee) (storeCall d call) := by
  have same := gateway_getdevice_ieeeaddr found
  cases call <;> simp only [target, Option.some.injEq, reduceCtorEq] at named <;> subst named
  case updateDevicename => rw [← text_key_eq]; rfl
  case updateDeviceStatus => rw [← text_key_eq]; rfl
  case updateDeviceArm endpoint arm =>
      rw [runCall, sqlitedbUpdateDeviceArm, store_field_at_eq found]
      rfl
  case updateDeviceSeq endpoint seq =>
      rw [runCall, sqlitedbUpdateDeviceSeq, store_field_at_eq found]
      rfl
  case updateDeviceShortaddr => rw [← text_key_eq]; rfl
  case updateDeviceEndpoint => rfl
  case updateDeviceEndpointZonetype endpoint zonetype =>
      rw [runCall, found, ← same]
      rfl
  case updateDeviceState endpoint state =>
      rw [runCall, sqlitedbUpdateDeviceState, store_field_at_eq found]
      rfl
  case updateDeviceAttr => rw [← text_key_eq]; rfl

/-- The statements of a handler for one device are one change of its row. -/
theorem run_calls_eq {gw : Gateway} {ieee : UInt64} {d : Device}
    (found : gatewayGetdevice gw ieee = some d) (table : DeviceTable) (calls : List DatabaseCall)
    (named : ∀ call ∈ calls, target call = some ieee) :
    runCalls gw calls table = table.update (bindKey ieee) (storeCalls d calls) := by
  induction calls generalizing table with
  | nil => exact (update_id table (bindKey ieee)).symm
  | cons call calls induction =>
      have here := named call List.mem_cons_self
      have later : ∀ other ∈ calls, target other = some ieee := by
        intro other member
        exact named other (List.mem_cons_of_mem call member)
      have step : runCalls gw (call :: calls) table =
          runCalls gw calls (runCall gw table call) := rfl
      rw [step, induction _ later, run_call_eq found table here, update_update]
      rfl

theorem store_calls_append (d : Device) (front back : List DatabaseCall) (row : DeviceRow) :
    storeCalls d (front ++ back) row = storeCalls d back (storeCalls d front row) :=
  List.foldl_append

theorem store_endpoints_length (d : Device) (row : DeviceRow) :
    (storeEndpoints d row).endpoint.length = row.endpoint.length := by
  rw [storeEndpoints, write_records_length, blob_write_length]

theorem store_call_length (d : Device) (call : DatabaseCall) (row : DeviceRow) :
    (storeCall d call row).endpoint.length = row.endpoint.length := by
  have field : ∀ endpoint field,
      (storeField d endpoint field row).endpoint.length = row.endpoint.length := by
    intro endpoint field
    unfold storeField
    cases deviceGetIndex d endpoint with
    | none => rfl
    | some index => exact blob_write_length _ _ _
  cases call with
  | updateDeviceArm ieee endpoint arm => exact field endpoint _
  | updateDeviceSeq ieee endpoint seq => exact field endpoint _
  | updateDeviceState ieee endpoint state => exact field endpoint _
  | updateDeviceEndpointZonetype ieee endpoint zonetype => exact field endpoint _
  | updateDeviceEndpoint stored => exact store_endpoints_length stored row
  | updateDevicename ieee name =>
      rw [storeCall, storeName]
      split_ifs
      · rfl
      · rfl
  | updateDeviceAttr stored =>
      rw [storeCall, storeAttr]
      split_ifs
      · rfl
      · rfl
  | _ => rfl

theorem store_calls_length (d : Device) (calls : List DatabaseCall) (row : DeviceRow) :
    (storeCalls d calls row).endpoint.length = row.endpoint.length := by
  induction calls generalizing row with
  | nil => rfl
  | cons call calls induction =>
      exact (induction (storeCall d call row)).trans (store_call_length d call row)

theorem sqlite3_load_device_eq {blob : List UInt8} {d : Device}
    (room : sizeofActiveEpRspFormat ≤ blob.length) (none : d.endpointZonetype = noPending) :
    sqlite3LoadDevice blob d =
      { d with
        activeep := readActiveep blob
        eplist := d.eplist ++
          (readRecords readSimpledesc sizeofSimpledesc (readActiveep blob).activeEPCount.toNat
            (blob.drop sizeofActiveEpRspFormat)).map endpointCreate } := by
  have added : ∀ (records : List Simpledesc) (d : Device), d.endpointZonetype = noPending →
      records.foldl (fun d simpledesc => deviceAddendpoint d (endpointCreate simpledesc)) d =
        { d with eplist := d.eplist ++ records.map endpointCreate } := by
    intro records
    induction records with
    | nil => simp
    | cons record records induction =>
        intro d none
        rw [List.foldl_cons, device_addendpoint_no_pending none, induction]
        · simp
        · exact none
  rw [sqlite3LoadDevice, if_neg (Nat.not_lt.mpr room)]
  exact added _ (deviceSetep d (readActiveep blob)) none

theorem load_row_ieeeaddr (row : Int × DeviceRow) :
    (loadRow row).ieeeaddr = UInt64.ofInt row.1 := by
  have kept : ∀ (records : List Simpledesc) (d : Device),
      (records.foldl (fun d simpledesc => deviceAddendpoint d (endpointCreate simpledesc))
        d).ieeeaddr = d.ieeeaddr := by
    intro records
    induction records with
    | nil => intro d; rfl
    | cons record records induction =>
        intro d
        rw [List.foldl_cons, induction]
        rfl
  unfold loadRow sqlite3LoadDevice
  split
  · rfl
  · exact kept _ _

theorem load_row_eq {row : Int × DeviceRow} {activeep : ActiveEpRspFormat}
    {records : List Simpledesc} (stores : Stores row.2.endpoint activeep records)
    (counted : activeep.activeEPCount.toNat ≤ records.length) :
    loadRow row =
      { loadColumns row with
        activeep
        eplist := (records.take activeep.activeEPCount.toNat).map endpointCreate } := by
  rw [loadRow, sqlite3_load_device_eq stores.size_le rfl, stores.read_header,
    stores.read_records counted]
  rfl

theorem sqlitedb_load_device_eq (table : DeviceTable) (gw : Gateway) :
    sqlitedbLoadDevice table gw = { gw with devices := gw.devices ++ table.rows.map loadRow } := by
  have added : ∀ (rows : List (Int × DeviceRow)) (gw : Gateway),
      rows.foldl (fun gw row => gatewayAdddevice gw (loadRow row)) gw =
        { gw with devices := gw.devices ++ rows.map loadRow } := by
    intro rows
    induction rows with
    | nil => simp
    | cons row rows induction =>
        intro gw
        rw [List.foldl_cons, induction, gatewayAdddevice]
        simp
  exact added table.rows gw

end SmartHome.Sqlitedb
