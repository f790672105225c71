import SmartHome.Sqlitedb

/-!
# Partial updates of the endpoint blob

Four functions write one field of one endpoint into the stored blob, each at an offset
it adds up itself. They agree with changing the field in memory and writing the whole
blob again.
-/

namespace SmartHome.BlobUpdates

open SmartHome.Library.Blobs
open SmartHome.Library.Circular
open SmartHome.Library.CTypes
open SmartHome.Library.Tables
open SmartHome.Registry
open SmartHome.Effects
open SmartHome.EndpointBlob
open SmartHome.Sqlitedb

set_option autoImplicit false

structure FieldUpdate where
  endpoint : UInt8
  field : RecordField
  deriving DecidableEq

namespace FieldUpdate

def call (ieee : UInt64) (update : FieldUpdate) : DatabaseCall :=
  match update.field with
  | .zonetype value => .updateDeviceEndpointZonetype ieee update.endpoint value
  | .arm value => .updateDeviceArm ieee update.endpoint value
  | .seq value => .updateDeviceSeq ieee update.endpoint value
  | .state value => .updateDeviceState ieee update.endpoint value

/-- The same value in memory: one field of one endpoint. -/
def inMemory (update : FieldUpdate) (d : Device) : Device :=
  modifyEndpoint d update.endpoint fun ep =>
    { ep with simpledesc := update.field.store ep.simpledesc }

end FieldUpdate

/-- The device as the next start would load it. -/
def loadedDevice (table : DeviceTable) (ieee : UInt64) : Option Device :=
  (table.lookup (bindKey ieee)).map fun row => loadRow (bindKey ieee, row)

def records (d : Device) : List Simpledesc := d.eplist.map (·.simpledesc)

theorem target_call (ieee : UInt64) (update : FieldUpdate) :
    target (update.call ieee) = some ieee := by
  rcases update with ⟨endpoint, field⟩
  cases field <;> rfl

theorem store_call_eq (d : Device) (ieee : UInt64) (update : FieldUpdate) :
    storeCall d (update.call ieee) = storeField d update.endpoint update.field := by
  rcases update with ⟨endpoint, field⟩
  cases field <;> rfl

theorem device_get_index_numbers (d : Device) (endpoint : UInt8) :
    deviceGetIndex d endpoint = (numbers d).findIdx? (· = endpoint) := by
  rw [numbers, List.findIdx?_map]
  rfl

theorem numbers_in_memory (update : FieldUpdate) (d : Device) :
    numbers (update.inMemory d) = numbers d := by
  have kept : ∀ eps : List Endpoint,
      (modifyFirst (·.number = update.endpoint)
        (fun ep => { ep with simpledesc := update.field.store ep.simpledesc }) eps).map
          (·.number) = eps.map (·.number) := by
    intro eps
    induction eps with
    | nil => rfl
    | cons ep eps induction =>
        unfold modifyFirst
        split_ifs
        · simp only [List.map_cons, Endpoint.number, RecordField.store_simpledesc]
        · rw [List.map_cons, induction, List.map_cons]
  exact kept d.eplist

theorem map_modify_first {Item Value : Type*} (value : Item → Value) {found : Item → Bool}
    {change : Item → Item} {changeValue : Value → Value}
    (agree : ∀ item, value (change item) = changeValue (value item)) (items : List Item) :
    (modifyFirst found change items).map value =
      match items.findIdx? found with
      | some index => (items.map value).modify index changeValue
      | none => items.map value := by
  induction items with
  | nil => rfl
  | cons item rest induction =>
      rw [modifyFirst, List.findIdx?_cons]
      split_ifs with here
      · rw [List.map_cons, agree]
        rfl
      · rw [List.map_cons, induction]
        cases rest.findIdx? found <;> rfl

theorem records_in_memory (update : FieldUpdate) (d : Device) :
    records (update.inMemory d) =
      match deviceGetIndex d update.endpoint with
      | some epindex => (records d).modify epindex update.field.store
      | none => records d := by
  apply map_modify_first
  intro ep
  rfl

theorem records_take (d : Device) (bounded : d.eplist.length ≤ 77) :
    (records d).take 77 = records d := by
  apply List.take_of_length_le
  rwa [records, List.length_map]

/-- A full write puts the header and as many records as there is room for into the blob. -/
theorem stores_of_store_endpoints (d : Device) {row : DeviceRow}
    (size : row.endpoint.length = blobSize) :
    Stores (storeEndpoints d row).endpoint d.activeep ((records d).take 77) := by
  have header := activeep_bytes_length d.activeep
  have room : (row.endpoint.drop sizeofActiveEpRspFormat).length = sizeofSimpledesc * 77 := by
    rw [List.length_drop, size]
    rfl
  have written : blobWrite row.endpoint 0 (activeepBytes d.activeep) =
      activeepBytes d.activeep ++ row.endpoint.drop sizeofActiveEpRspFormat := by
    have fits : 0 + (activeepBytes d.activeep).length ≤ row.endpoint.length := by
      rw [header, size]
      decide
    rw [blobWrite, if_pos fits, overwrite, List.take_zero, List.nil_append, Nat.zero_add, header]
  rw [storeEndpoints, written, ← header]
  exact write_records_eq simpledesc_bytes_length (by decide) (records d) _ _ 77 (header ▸ room)

def changedDevice (updates : List FieldUpdate) (d : Device) : Device :=
  updates.foldl (fun d update => update.inMemory d) d

theorem changed_device_activeep (updates : List FieldUpdate) (d : Device) :
    (changedDevice updates d).activeep = d.activeep := by
  induction updates generalizing d with
  | nil => rfl
  | cons update updates induction => exact induction (update.inMemory d)

theorem changed_device_ieeeaddr (updates : List FieldUpdate) (d : Device) :
    (changedDevice updates d).ieeeaddr = d.ieeeaddr := by
  induction updates generalizing d with
  | nil => rfl
  | cons update updates induction => exact induction (update.inMemory d)

theorem changed_device_numbers (updates : List FieldUpdate) (d : Device) :
    numbers (changedDevice updates d) = numbers d := by
  induction updates generalizing d with
  | nil => rfl
  | cons update updates induction =>
      exact (induction (update.inMemory d)).trans (numbers_in_memory update d)

theorem changed_records_length (updates : List FieldUpdate) (d : Device) :
    (records (changedDevice updates d)).length = d.eplist.length := by
  have same := congrArg List.length (changed_device_numbers updates d)
  rwa [numbers, numbers, List.length_map, List.length_map, ← List.length_map (·.simpledesc)] at same

def withBlob (row : DeviceRow) (blob : List UInt8) : DeviceRow := { row with endpoint := blob }

/-- One call changes the record in the blob as `inMemory` changes the endpoint. -/
theorem store_field_stores {d changed : Device} (same : numbers changed = numbers d)
    (update : FieldUpdate) (row : DeviceRow) {blob : List UInt8} {activeep : ActiveEpRspFormat}
    (stores : Stores blob activeep (records changed)) :
    ∃ later, storeField d update.endpoint update.field (withBlob row blob) = withBlob row later ∧
      Stores later activeep (records (update.inMemory changed)) := by
  have position : deviceGetIndex d update.endpoint = deviceGetIndex changed update.endpoint := by
    rw [device_get_index_numbers, device_get_index_numbers, same]
  rw [storeField, position, records_in_memory]
  cases deviceGetIndex changed update.endpoint with
  | none => exact ⟨blob, rfl, stores⟩
  | some epindex => exact ⟨_, rfl, stores.write_field epindex update.field⟩

theorem store_calls_stores {d changed : Device} (same : numbers changed = numbers d)
    (ieee : UInt64) (updates : List FieldUpdate) (row : DeviceRow) {blob : List UInt8}
    {activeep : ActiveEpRspFormat} (stores : Stores blob activeep (records changed)) :
    ∃ later, storeCalls d (updates.map (·.call ieee)) (withBlob row blob) = withBlob row later ∧
      Stores later activeep (records (changedDevice updates changed)) := by
  induction updates generalizing changed blob with
  | nil => exact ⟨blob, rfl, stores⟩
  | cons update updates induction =>
      rcases store_field_stores same update row stores with ⟨next, stored, kept⟩
      have kept_numbers := (numbers_in_memory update changed).trans same
      rcases induction kept_numbers kept with ⟨later, written, final⟩
      refine ⟨later, ?_, final⟩
      rw [← written, ← stored, ← store_call_eq]
      rfl

/-- The loaded device depends on the blob by its header and its records only. -/
theorem load_row_blob {row : DeviceRow} {key : Int} {blob : List UInt8}
    {activeep : ActiveEpRspFormat} {records : List Simpledesc}
    (stores : Stores blob activeep records)
    (counted : records.length = activeep.activeEPCount.toNat) :
    loadRow (key, withBlob row blob) =
      { loadColumns (key, row) with activeep, eplist := records.map endpointCreate } := by
  rw [load_row_eq stores counted.ge, ← counted, List.take_length]
  rfl

section FullRewrite

variable {gw : Gateway} {ieee : UInt64} {d : Device} {table : DeviceTable} {row : DeviceRow}

theorem loaded_device_update (lookup : table.lookup (bindKey ieee) = some row)
    (change : DeviceRow → DeviceRow) :
    loadedDevice (table.update (bindKey ieee) change) ieee =
      some (loadRow (bindKey ieee, change row)) := by
  rw [loadedDevice, lookup_update, if_pos rfl, lookup]
  rfl

/-- A call for an endpoint that the device does not have changes nothing. -/
theorem missing_endpoint_unchanged (found : gatewayGetdevice gw ieee = some d)
    {update : FieldUpdate} (missing : update.endpoint ∉ numbers d) (table : DeviceTable) :
    runCall gw table (update.call ieee) = table ∧ update.inMemory d = d := by
  have absent : deviceGetIndex d update.endpoint = none := by
    rw [device_get_index_numbers, List.findIdx?_eq_none_iff]
    intro number member
    exact decide_eq_false fun same => missing (same ▸ member)
  constructor
  · have unchanged : storeField d update.endpoint update.field = id := by
      funext row
      rw [storeField, absent]
      rfl
    rw [run_call_eq found table (target_call ieee update), store_call_eq, unchanged]
    exact update_id table (bindKey ieee)
  · have kept : modifyFirst (·.number = update.endpoint)
        (fun ep => { ep with simpledesc := update.field.store ep.simpledesc }) d.eplist =
          d.eplist := by
      rw [modify_first_eq_modify]
      unfold deviceGetIndex at absent
      rw [absent]
    rw [FieldUpdate.inMemory, modifyEndpoint, kept]

theorem partial_updates_loaded (found : gatewayGetdevice gw ieee = some d)
    (lookup : table.lookup (bindKey ieee) = some row)
    (stores : Stores row.endpoint d.activeep (records d))
    (counted : d.eplist.length = d.activeep.activeEPCount.toNat) (updates : List FieldUpdate) :
    loadedDevice (runCalls gw (updates.map (·.call ieee)) table) ieee =
      some { loadColumns (bindKey ieee, row) with
        activeep := d.activeep
        eplist := (records (changedDevice updates d)).map endpointCreate } := by
  have targets : ∀ call ∈ updates.map (·.call ieee), target call = some ieee := by
    intro call member
    rcases List.mem_map.mp member with ⟨update, _, rfl⟩
    exact target_call ieee update
  rcases store_calls_stores rfl ieee updates row stores with ⟨later, stored, final⟩
  have row_after : storeCalls d (updates.map (·.call ieee)) row = withBlob row later := stored
  rw [run_calls_eq found table _ targets, loaded_device_update lookup, row_after,
    load_row_blob final ((changed_records_length updates d).trans counted)]

theorem full_write_loaded (address : d.ieeeaddr = ieee)
    (lookup : table.lookup (bindKey ieee) = some row) (size : row.endpoint.length = blobSize)
    (counted : d.eplist.length = d.activeep.activeEPCount.toNat)
    (bounded : d.activeep.activeEPCount.toNat ≤ 77) :
    loadedDevice (sqlitedbUpdateDeviceEndpoint d table) ieee =
      some { loadColumns (bindKey ieee, row) with
        activeep := d.activeep
        eplist := (records d).map endpointCreate } := by
  have stores := stores_of_store_endpoints d size
  rw [records_take d (counted ▸ bounded)] at stores
  have whole_row : storeEndpoints d row = withBlob row (storeEndpoints d row).endpoint := rfl
  have count : (records d).length = d.activeep.activeEPCount.toNat := by
    rw [records, List.length_map, counted]
  rw [sqlitedbUpdateDeviceEndpoint, address, loaded_device_update lookup, whole_row,
    load_row_blob stores count]

/-- Behind a full write, any sequence of partial updates loads as the device that was changed in
memory and written whole. -/
theorem partial_updates_agree_with_full_rewrite (found : gatewayGetdevice gw ieee = some d)
    (counted : d.eplist.length = d.activeep.activeEPCount.toNat)
    (bounded : d.activeep.activeEPCount.toNat ≤ 77)
    (lookup : table.lookup (bindKey ieee) = some row) (size : row.endpoint.length = blobSize)
    (updates : List FieldUpdate) :
    let written := sqlitedbUpdateDeviceEndpoint d table
    let changed := changedDevice updates d
    (∃ loaded,
      loadedDevice (runCalls gw (updates.map (·.call ieee)) written) ieee = some loaded ∧
        loadedDevice (sqlitedbUpdateDeviceEndpoint changed written) ieee = some loaded ∧
        loaded.eplist = (records changed).map endpointCreate ∧ loaded.activeep = d.activeep) ∧
      ∀ (update : FieldUpdate) (table : DeviceTable), update.endpoint ∉ numbers d →
        runCall gw table (update.call ieee) = table ∧ update.inMemory d = d := by
  intro written changed
  have address := gateway_getdevice_ieeeaddr found
  have first : written.lookup (bindKey ieee) = some (storeEndpoints d row) := by
    have update : written = table.update (bindKey ieee) (storeEndpoints d) := by
      rw [← address]
      rfl
    rw [update, lookup_update, if_pos rfl, lookup]
    rfl
  have stores := stores_of_store_endpoints d size
  rw [records_take d (counted ▸ bounded)] at stores
  have changed_counted : changed.eplist.length = changed.activeep.activeEPCount.toNat := by
    have length := changed_records_length updates d
    rw [records, List.length_map] at length
    rw [length, counted, changed_device_activeep]
  refine ⟨⟨_, partial_updates_loaded found first stores counted updates, ?_, rfl, rfl⟩, ?_⟩
  · have rewritten := full_write_loaded ((changed_device_ieeeaddr updates d).trans address) first
      ((store_endpoints_length d row).trans size) changed_counted
      (changed_device_activeep updates d ▸ bounded)
    rw [rewritten, changed_device_activeep]
  · intro update table missing
    exact missing_endpoint_unchanged found missing table

end FullRewrite

def discoveredSwitch : Device :=
  let numbered (number : UInt8) : Endpoint :=
    { contactEndpoint with
      simpledesc :=
        { contactEndpoint.simpledesc with
          simpledesc := { contactEndpoint.simpledesc.simpledesc with endpoint := number } } }
  { contactSwitch 0x00137A00000156D3 deviceActive with
    activeep := { noActiveep with activeEPCount := 3 }
    eplist := [contactEndpoint, numbered 1, numbered 8] }

def oneSwitch : Gateway := { twoContacts with devices := [discoveredSwitch] }

def switchTable : DeviceTable := sqlitedbInsertDeviceIeee 0x00137A00000156D3 1 .empty

/-- Each of the endpoints is written, in another order than the blob's, and one that the switch does
not have. -/
theorem partial_updates_agree_with_full_rewrite_switch :
    let updates : List FieldUpdate :=
      [⟨8, .state 1⟩, ⟨2, .arm ⟨2, 0, 0, 23, 59⟩⟩, ⟨5, .seq 9⟩, ⟨1, .zonetype 0x000D⟩, ⟨2, .seq 7⟩]
    let written := sqlitedbUpdateDeviceEndpoint discoveredSwitch switchTable
    (∃ loaded,
      loadedDevice (runCalls oneSwitch (updates.map (·.call 0x00137A00000156D3)) written)
        0x00137A00000156D3 = some loaded ∧
      loaded.eplist = (records (changedDevice updates discoveredSwitch)).map endpointCreate) ∧
      runCall oneSwitch written (.updateDeviceSeq 0x00137A00000156D3 5 9) = written := by
  intro updates written
  have agrees := @partial_updates_agree_with_full_rewrite oneSwitch 0x00137A00000156D3
    discoveredSwitch switchTable _ rfl rfl (by decide) rfl List.length_replicate updates
  rcases agrees.1 with ⟨loaded, partially, _, endpoints, _⟩
  have missing := (agrees.2 ⟨5, .seq 9⟩ written (by decide)).1
  exact ⟨⟨loaded, partially, endpoints⟩, missing⟩

end SmartHome.BlobUpdates
