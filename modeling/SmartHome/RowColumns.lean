import SmartHome.RowChanges

/-!
# The columns of a row

All of a device but its endpoints is kept in columns of its own. They are written at
different times by different calls, and each is read back through a type of its own:
the status through an `unsigned char`, a text through a fixed array.
-/

namespace SmartHome.RowColumns

open SmartHome.Library.CTypes
open SmartHome.Registry
open SmartHome.PipeMessages
open SmartHome.Effects
open SmartHome.EventRecvmsg
open SmartHome.EventRecvznp
open SmartHome.ZdoCallbacks
open SmartHome.DeviceNames
open SmartHome.BasicAttributes
open SmartHome.ZnpResponses
open SmartHome.EndpointBlob
open SmartHome.Sqlitedb
open SmartHome.System
open SmartHome.Transitions
open SmartHome.StepCases
open SmartHome.EndpointChanges
open SmartHome.RowChanges

set_option autoImplicit false

structure Columns where
  shortaddr : UInt16
  devicename : CString maxnamelen
  status : UInt8
  zclversion : UInt8
  applicationversion : UInt8
  stackversion : UInt8
  hwversion : UInt8
  manufacturername : CString 33
  modelidentifier : CString 33
  datecode : CString 17

def deviceColumns (d : Device) : Columns where
  shortaddr := d.shortaddr
  devicename := d.devicename
  status := d.status.toUInt8
  zclversion := d.zclversion
  applicationversion := d.applicationversion
  stackversion := d.stackversion
  hwversion := d.hwversion
  manufacturername := d.manufacturername
  modelidentifier := d.modelidentifier
  datecode := d.datecode

def rowColumns (row : DeviceRow) : Columns where
  shortaddr := (columnInt row.shortaddr).toUInt16
  devicename := sqlite3Gettext 255 row.name
  status := (columnInt row.status).toUInt8
  zclversion := (columnInt row.zclversion).toUInt8
  applicationversion := (columnInt row.applicationversion).toUInt8
  stackversion := (columnInt row.stackversion).toUInt8
  hwversion := (columnInt row.hwversion).toUInt8
  manufacturername := sqlite3Gettext 32 row.manufacturername
  modelidentifier := sqlite3Gettext 32 row.modelidentifier
  datecode := sqlite3Gettext 16 row.datecode

structure Unquoted (d : Device) : Prop where
  devicename : quote ∉ d.devicename.text
  manufacturername : quote ∉ d.manufacturername.text
  modelidentifier : quote ∉ d.modelidentifier.text
  datecode : quote ∉ d.datecode.text

section Stores

variable {row : DeviceRow} {d : Device}

theorem gettext_text {size : Nat} (text : CString (size + 1)) :
    sqlite3Gettext size (some text.text) = text := CString.copy_text text

theorem row_columns_status (status : UInt32) :
    rowColumns (storeStatus status row) = { rowColumns row with status := status.toUInt8 } := by
  have column : columnInt (storeStatus status row).status = status := column_status status
  rw [rowColumns, column]
  rfl

theorem row_columns_shortaddr (shortaddr : UInt16) :
    rowColumns (storeShortaddr shortaddr row) = { rowColumns row with shortaddr } := by
  have column : (columnInt (storeShortaddr shortaddr row).shortaddr).toUInt16 = shortaddr :=
    column_word shortaddr
  rw [rowColumns, column]
  rfl

theorem row_columns_name {name : CString maxnamelen} (unquoted : quote ∉ name.text) :
    rowColumns (storeName name.text row) = { rowColumns row with devicename := name } := by
  have column : sqlite3Gettext 255 (some name.text) = name := gettext_text name
  rw [storeName, if_neg unquoted, rowColumns]
  simp only [column]
  rfl

theorem row_columns_some_name (name : CString maxnamelen) :
    ∃ devicename, rowColumns (storeName name.text row) = { rowColumns row with devicename } := by
  by_cases quoted : quote ∈ name.text
  · rw [storeName, if_pos quoted]
    exact ⟨(rowColumns row).devicename, rfl⟩
  · exact ⟨name, row_columns_name quoted⟩

theorem row_columns_attr (unquoted : Unquoted d) :
    rowColumns (storeAttr d row) =
      { deviceColumns d with
        shortaddr := (rowColumns row).shortaddr
        devicename := (rowColumns row).devicename } := by
  have texts : ¬(quote ∈ d.manufacturername.text ∨ quote ∈ d.modelidentifier.text ∨
      quote ∈ d.datecode.text) := by
    rintro (found | found | found)
    · exact unquoted.manufacturername found
    · exact unquoted.modelidentifier found
    · exact unquoted.datecode found
  rw [storeAttr, if_neg texts, rowColumns]
  simp only [column_status, column_byte, gettext_text]
  rfl

theorem row_columns_field (endpoint : UInt8) (field : RecordField) :
    rowColumns (storeField d endpoint field row) = rowColumns row := by
  unfold storeField
  cases deviceGetIndex d endpoint with
  | none => rfl
  | some index => rfl

end Stores

section Calls

variable {row : DeviceRow} {d : Device}

theorem store_calls_cons (device : Device) (call : DatabaseCall) (calls : List DatabaseCall)
    (row : DeviceRow) :
    storeCalls device (call :: calls) row = storeCalls device calls (storeCall device call row) :=
  rfl

def InBlob : DatabaseCall → Prop
  | .updateDeviceArm _ _ _ => True
  | .updateDeviceSeq _ _ _ => True
  | .updateDeviceState _ _ _ => True
  | .updateDeviceEndpointZonetype _ _ _ => True
  | .updateDeviceEndpoint _ => True
  | _ => False

theorem row_columns_in_blob {call : DatabaseCall} (inBlob : InBlob call) :
    rowColumns (storeCall d call row) = rowColumns row := by
  cases call with
  | updateDeviceArm ieee endpoint arm => exact row_columns_field endpoint _
  | updateDeviceSeq ieee endpoint seq => exact row_columns_field endpoint _
  | updateDeviceState ieee endpoint state => exact row_columns_field endpoint _
  | updateDeviceEndpointZonetype ieee endpoint zonetype => exact row_columns_field endpoint _
  | updateDeviceEndpoint stored => rfl
  | _ => exact False.elim inBlob

theorem row_columns_blob_calls {calls : List DatabaseCall} (inBlob : ∀ call ∈ calls, InBlob call) :
    rowColumns (storeCalls d calls row) = rowColumns row := by
  induction calls generalizing row with
  | nil => rfl
  | cons call calls induction =>
      rcases List.forall_mem_cons.mp inBlob with ⟨first, later⟩
      rw [store_calls_cons, induction later, row_columns_in_blob first]

theorem renamed_calls (names : List (CString maxnamelen)) (d : Device) :
    databaseCalls (renamed names d).effects =
      names.map fun name => .updateDevicename d.ieeeaddr name.text := by
  rw [renamed, databaseCalls, List.filterMap_map]
  change List.filterMap (some ∘ fun name => DatabaseCall.updateDevicename d.ieeeaddr name.text)
    names = _
  rw [List.filterMap_eq_map]

theorem row_columns_some_names (device : Device) (ieee : UInt64)
    (names : List (CString maxnamelen)) (row : DeviceRow) :
    ∃ devicename, rowColumns
      (storeCalls device (names.map fun name => .updateDevicename ieee name.text) row) =
        { rowColumns row with devicename } := by
  induction names generalizing row with
  | nil => exact ⟨(rowColumns row).devicename, rfl⟩
  | cons name names induction =>
      rcases @row_columns_some_name row name with ⟨before, first⟩
      rcases induction (storeName name.text row) with ⟨devicename, later⟩
      refine ⟨devicename, ?_⟩
      rw [List.map_cons, store_calls_cons]
      change rowColumns (storeCalls device _ (storeName name.text row)) = _
      rw [later, first]

theorem row_columns_renamed (device : Device) {names : List (CString maxnamelen)}
    (unquoted : quote ∉ (renamed names d).device.devicename.text)
    (same : (rowColumns row).devicename = d.devicename) :
    rowColumns (storeCalls device (databaseCalls (renamed names d).effects) row) =
      { rowColumns row with devicename := (renamed names d).device.devicename } := by
  rw [renamed_calls]
  rcases List.eq_nil_or_concat names with none | ⟨front, last, split⟩
  · subst none
    change rowColumns row = { rowColumns row with devicename := d.devicename }
    rw [← same]
  · rw [List.concat_eq_append] at split
    subst split
    have name : (renamed (front ++ [last]) d).device.devicename = last := by
      rw [renamed]
      exact List.getLastD_concat
    rw [name] at unquoted ⊢
    rw [List.map_append, store_calls_append]
    rcases row_columns_some_names device d.ieeeaddr front row with ⟨devicename, before⟩
    change rowColumns (storeName last.text (storeCalls device _ row)) = _
    rw [row_columns_name unquoted, before]

end Calls

section Changes

variable {row : DeviceRow} {d : Device}

structure OnlyBlob (d : Device) (changed : DeviceChange) : Prop where
  columns : deviceColumns changed.device = deviceColumns d
  calls : ∀ call ∈ changed.calls, InBlob call

theorem only_blob_keep (d : Device) : OnlyBlob d (.keep d) :=
  ⟨rfl, fun _ member => absurd member List.not_mem_nil⟩

theorem only_blob_one {after : Device} {call : DatabaseCall}
    (columns : deviceColumns after = deviceColumns d) (inBlob : InBlob call) :
    OnlyBlob d ⟨after, [call]⟩ :=
  ⟨columns, List.forall_mem_singleton.mpr inBlob⟩

theorem OnlyBlob.saved {changed : DeviceChange} (only : OnlyBlob d changed)
    (saved : rowColumns row = deviceColumns d) (device : Device) :
    rowColumns (storeCalls device changed.calls row) = deviceColumns changed.device := by
  rw [row_columns_blob_calls only.calls, saved, only.columns]

theorem set_zonetype_only_blob (endpoint : UInt8) (zonetype : UInt16) (d : Device) :
    OnlyBlob d (changeOf (deviceSetZonetype endpoint zonetype d)) := by
  unfold deviceSetZonetype
  split
  · exact ⟨rfl, List.forall_mem_singleton.mpr trivial⟩
  · split
    · exact ⟨rfl, fun _ member => absurd member List.not_mem_nil⟩
    · exact only_blob_keep d

theorem accept_zone_change_only_blob (sign : CharSign) (req : Zclzonechangenotification)
    (d : Device) : OnlyBlob d (acceptZoneChange sign req d) := by
  unfold acceptZoneChange
  split
  · exact only_blob_keep d
  · split
    · exact only_blob_keep d
    · split
      · exact only_blob_one rfl trivial
      · exact only_blob_keep d

theorem accept_level_rsp_only_blob (response : Zcllevlctldefaultresponse) (d : Device) :
    OnlyBlob d (acceptLevelRsp response d) := by
  unfold acceptLevelRsp
  split
  · exact only_blob_keep d
  · split
    · exact only_blob_one rfl trivial
    · exact only_blob_keep d

theorem level_columns (levelCtrl : LevelCtrlIeee) (d : Device) :
    deviceColumns (levelEndpoint levelCtrl d) = deviceColumns d := by
  unfold levelEndpoint
  split_ifs
  · rfl
  · rfl

theorem saved_report (saved : rowColumns row = deviceColumns d) (device : Device) (host : ZnpHost)
    (unquoted : Unquoted (reportDevice host d).device) :
    rowColumns (storeCalls device (reportDevice host d).calls row) =
      deviceColumns (reportDevice host d).device := by
  unfold reportDevice at unquoted ⊢
  split_ifs at unquoted ⊢ with deleted
  · exact saved
  · rcases name_new_device_eq host.stale d with ⟨names, named⟩
    have name : (rowColumns row).devicename = d.devicename := congrArg Columns.devicename saved
    have quotes := unquoted.devicename
    rw [named] at quotes ⊢
    change rowColumns (storeCalls device (databaseCalls (renamed names d).effects) row) = _
    rw [row_columns_renamed device quotes name, saved]
    rfl

theorem saved_basic_attributes (saved : rowColumns row = deviceColumns d) (device : Device)
    {message : BasicMessage} {outcome : DeviceOutcome}
    (handled : BasicAttributes.basicAttributes message d = some outcome)
    (unquoted : Unquoted outcome.device) :
    rowColumns (storeCalls device (databaseCalls outcome.effects) row) =
      deviceColumns outcome.device := by
  rcases basic_attributes_eq handled with ⟨attributes, names, rfl⟩
  have name : (rowColumns row).devicename = (withAttributes d attributes).devicename :=
    congrArg Columns.devicename saved
  have address : (rowColumns row).shortaddr = d.shortaddr := congrArg Columns.shortaddr saved
  have quotes := unquoted.devicename
  rw [DeviceOutcome.andThen] at unquoted
  rw [DeviceOutcome.andThen, database_calls_append, store_calls_append]
  change rowColumns (storeAttr (renamed names (withAttributes d attributes)).device _) = _
  rw [row_columns_attr unquoted, row_columns_renamed device quotes name, address]
  rfl

/-- A status and an address are told before the outlets are cleared. -/
theorem saved_announced (saved : rowColumns row = deviceColumns d) (device : Device)
    (msg : EndDeviceAnnceIndFormat) :
    rowColumns (storeCalls device (changeOf (announced msg d)).calls row) =
      deviceColumns (announcedDevice msg.nwkAddr d) := by
  have moved : ∀ row : DeviceRow, (rowColumns row).shortaddr = d.shortaddr →
      rowColumns (storeCalls device (moveCalls msg.nwkAddr d) row) =
        { rowColumns row with shortaddr := msg.nwkAddr } := by
    intro row address
    unfold moveCalls
    split_ifs with same
    · rw [← same, ← address]
      rfl
    · exact row_columns_shortaddr msg.nwkAddr
  have reacted : ∀ row : DeviceRow, (rowColumns row).status = (backStatus d).toUInt8 →
      rowColumns (storeCalls device (databaseCalls (announceReaction msg d)) row) =
        { rowColumns row with status := (announcedStatus d).toUInt8 } := by
    intro row status
    by_cases again : AsksAgain d
    · rw [announceReaction, if_pos again]
      exact row_columns_status (announcedStatus d)
    · have after : announcedStatus d = backStatus d := if_neg again
      have silent : databaseCalls (announceReaction msg d) = [] := by
        rw [announceReaction, if_neg again]
        split_ifs
        · rfl
        · rfl
      rw [silent, after, ← status]
      rfl
  have cleared : ∀ call ∈ databaseCalls (clearDeviceState (announcedDevice msg.nwkAddr d)).effects,
      InBlob call := by
    intro call member
    rw [clearDeviceState, databaseCalls, List.filterMap_map, List.mem_filterMap] at member
    rcases member with ⟨ep, _, made⟩
    rw [← Option.some.inj made]
    exact trivial
  have first : rowColumns (storeStatus (backStatus d) row) =
      { deviceColumns d with status := (backStatus d).toUInt8 } := by
    rw [row_columns_status, saved]
  rw [announced_calls, store_calls_cons, store_calls_append, store_calls_append,
    row_columns_blob_calls cleared, reacted, moved]
  · change { rowColumns (storeStatus (backStatus d) row) with
      shortaddr := msg.nwkAddr, status := (announcedStatus d).toUInt8 } = _
    rw [first]
    rfl
  · exact congrArg Columns.shortaddr first
  · rw [moved]
    · exact congrArg Columns.status first
    · exact congrArg Columns.shortaddr first

theorem saved_active_ep (saved : rowColumns row = deviceColumns d) (device : Device)
    (msg : ActiveEpRspFormat) :
    rowColumns (storeCalls device (changeOf (activeEpRsp msg d)).calls row) =
      deviceColumns (activeEpRsp msg d).device := by
  unfold activeEpRsp
  split_ifs
  · exact saved
  · change rowColumns (storeStatus _ (storeStatus _ row)) = _
    rw [row_columns_status, row_columns_status, saved]
    rfl

theorem saved_described (saved : rowColumns row = deviceColumns d) (device : Device)
    {msg : SimpleDescRspFormat} {described : DeviceChange} (outcome : Describes msg d described) :
    rowColumns (storeCalls device described.calls row) = deviceColumns described.device := by
  have counted : deviceColumns (countEndpoint msg.endpoint d) = deviceColumns d := by
    rw [count_endpoint_eq]
    rfl
  cases outcome with
  | added room =>
      rw [← counted] at saved
      exact saved
  | completed last =>
      rw [← counted] at saved
      rw [complete_device_change]
      change rowColumns (storeStatus _ (storeStatus _ (storeEndpoints _ row))) = _
      have blob : ∀ stored : Device, rowColumns (storeEndpoints stored row) = rowColumns row :=
        fun _ => rfl
      rw [row_columns_status, row_columns_status, blob, saved]
      rfl
  | leftOut full =>
      rw [← counted] at saved
      exact saved

theorem saved_left (saved : rowColumns row = deviceColumns d) (device : Device) (extAddr : UInt64) :
    rowColumns (storeCalls device (.updateDeviceStatus extAddr (leaveDevice d).status ::
      d.eplist.map fun ep => .updateDeviceSeq extAddr ep.number 0) row) =
        deviceColumns (leaveDevice d) := by
  have cleared : ∀ call ∈ d.eplist.map fun ep => DatabaseCall.updateDeviceSeq extAddr ep.number 0,
      InBlob call := List.forall_mem_map.mpr fun _ _ => trivial
  rw [store_calls_cons, row_columns_blob_calls cleared]
  change rowColumns (storeStatus _ row) = _
  rw [row_columns_status, saved]
  rfl

theorem saved_command (saved : rowColumns row = deviceColumns d) (device : Device)
    {command : Command} (unquoted : Unquoted (commandChange command d).device) :
    rowColumns (storeCalls device (commandChange command d).calls row) =
      deviceColumns (commandChange command d).device := by
  cases command with
  | setDeviceName deviceName =>
      have quotes : quote ∉ deviceName.text.text := unquoted.devicename
      change rowColumns (storeName deviceName.text.text row) = _
      rw [row_columns_name quotes, saved]
      rfl
  | setArm parsed =>
      rw [commandChange]
      have armed : OnlyBlob d ⟨armEndpoint parsed d,
          [.updateDeviceArm parsed.ieee parsed.endpoint parsed.arm]⟩ := only_blob_one rfl trivial
      split_ifs
      · exact armed.saved saved device
      · exact saved
  | levelCtrl levelCtrl =>
      rw [commandChange, level_columns]
      exact saved
  | _ => exact saved

theorem saved_znp (saved : rowColumns row = deviceColumns d) (device : Device) (host : ZnpHost)
    {message : ZnpMessage} (unquoted : Unquoted (znpChange host message d).device) :
    rowColumns (storeCalls device (znpChange host message d).calls row) =
      deviceColumns (znpChange host message d).device := by
  cases message with
  | zoneEnrollReq ieeeaddr => exact saved_report saved device host unquoted
  | zoneChangeNotification req =>
      exact (accept_zone_change_only_blob host.sign req d).saved saved device
  | genOnoffRsp response =>
      have stored : OnlyBlob d (znpChange host (.genOnoffRsp response) d) :=
        only_blob_one rfl trivial
      exact stored.saved saved device
  | genLevelCtlRsp response => exact (accept_level_rsp_only_blob response d).saved saved device
  | _ => exact saved

/-- Whatever changes a device writes its columns. -/
theorem saved_columns (saved : rowColumns row = deviceColumns d) (device : Device) {input : Input}
    {changed : DeviceChange} (changes : change input d = some changed)
    (unquoted : Unquoted changed.device) :
    rowColumns (storeCalls device changed.calls row) = deviceColumns changed.device := by
  cases input with
  | basicAttributes message =>
      rw [change, Option.map_eq_some_iff] at changes
      rcases changes with ⟨outcome, handled, rfl⟩
      exact saved_basic_attributes saved device handled unquoted
  | announce msg =>
      rw [change, Option.some.injEq] at changes
      rw [← changes, saved_announced saved, announced_eq]
      rfl
  | activeEpRsp msg =>
      rw [change, Option.some.injEq] at changes
      exact changes ▸ saved_active_ep saved device msg
  | simpleDescRsp msg =>
      rw [change, Option.some.injEq] at changes
      exact saved_described saved device (changes ▸ describes msg d)
  | leaveInd extAddr =>
      rw [change, Option.some.injEq] at changes
      exact changes ▸ saved_left saved device extAddr
  | enrollRequest srcAddr srcEndpoint zoneType =>
      rw [change, Option.some.injEq] at changes
      exact changes ▸ (set_zonetype_only_blob srcEndpoint zoneType d).saved saved device
  | znp host message =>
      rw [change, Option.some.injEq] at changes
      subst changes
      exact saved_znp saved device host unquoted
  | command host fd command =>
      rw [change, Option.some.injEq] at changes
      subst changes
      exact saved_command saved device unquoted

end Changes

section Loads

theorem new_row_columns (ieee : UInt64) (shortaddr : UInt16) :
    rowColumns (newRow shortaddr) = deviceColumns (deviceCreate ieee shortaddr) := by
  have address : (columnInt (newRow shortaddr).shortaddr).toUInt16 = shortaddr := by
    have column := column_word shortaddr
    rw [sql_literal_eq] at column
    exact column
  rw [rowColumns, address]
  rfl

theorem load_row_endpoints (row : Int × DeviceRow) :
    ∃ endpointZonetype activeep eplist,
      loadRow row = { loadColumns row with endpointZonetype, activeep, eplist } := by
  have added : ∀ (records : List Simpledesc) (d : Device), ∃ endpointZonetype eplist,
      records.foldl (fun d simpledesc => deviceAddendpoint d (endpointCreate simpledesc)) d =
        { d with endpointZonetype, eplist } := by
    intro records
    induction records with
    | nil => intro d; exact ⟨_, _, rfl⟩
    | cons record records induction =>
        intro d
        rcases induction (deviceAddendpoint d (endpointCreate record)) with ⟨slots, eps, later⟩
        rw [List.foldl_cons, later]
        exact ⟨slots, eps, rfl⟩
  unfold loadRow sqlite3LoadDevice
  split_ifs
  · exact ⟨_, _, _, rfl⟩
  · rcases added _ (deviceSetep (loadColumns row) (readActiveep row.2.endpoint)) with
      ⟨slots, eps, later⟩
    dsimp only
    rw [later]
    exact ⟨slots, _, eps, rfl⟩

/-- What a load finds in the columns; the status comes back through an `unsigned char`. -/
theorem load_row_columns (key : Int) (row : DeviceRow) :
    deviceColumns (loadRow (key, row)) = rowColumns row ∧
      (loadRow (key, row)).status = (rowColumns row).status.toUInt32 := by
  rcases load_row_endpoints (key, row) with ⟨slots, activeep, eplist, loaded⟩
  have status := UInt8.toUInt8_toUInt32 (columnInt row.status).toUInt8
  rw [loaded]
  refine ⟨?_, rfl⟩
  unfold rowColumns
  rw [← status]
  rfl

end Loads

end SmartHome.RowColumns
