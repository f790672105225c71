import SmartHome.Discovery
import SmartHome.RowColumns
import SmartHome.SameDevices

/-!
# The registry after a restart

The columns of a row hold what its device holds besides endpoints, and once the discovery
is complete its blob holds the endpoints. A load gives all of it back but one bit: the
status comes back through an `unsigned char`, and the bit of a device that has left the
network lies above it.
-/

namespace SmartHome.RegistryRestart

open SmartHome.Library.CTypes
open SmartHome.Library.Tables
open SmartHome.Library.Mirroring
open SmartHome.Library.Runs
open SmartHome.Registry
open SmartHome.PipeMessages
open SmartHome.Parse
open SmartHome.Effects
open SmartHome.EventRecvmsg
open SmartHome.EventRecvznp
open SmartHome.ZdoCallbacks
open SmartHome.DeviceNames
open SmartHome.BasicAttributes
open SmartHome.ZnpResponses
open SmartHome.EndpointBlob
open SmartHome.Sqlitedb
open SmartHome.BlobUpdates
open SmartHome.System
open SmartHome.Transitions
open SmartHome.StepCases
open SmartHome.EndpointChanges
open SmartHome.RowChanges
open SmartHome.RowColumns
open SmartHome.SameDevices
open SmartHome.ShortAddresses
open SmartHome.Discovery

set_option autoImplicit false

def kept (record : Simpledesc) : SimpleDescRspFormat × Arm := (record.simpledesc, record.arm)

/-- What of a device a restart is to give back; the endpoints only if the discovery is complete. -/
structure SameDevice (d loaded : Device) : Prop where
  ieeeaddr : loaded.ieeeaddr = d.ieeeaddr
  shortaddr : loaded.shortaddr = d.shortaddr
  devicename : loaded.devicename = d.devicename
  status : loaded.status = d.status
  zclversion : loaded.zclversion = d.zclversion
  applicationversion : loaded.applicationversion = d.applicationversion
  stackversion : loaded.stackversion = d.stackversion
  hwversion : loaded.hwversion = d.hwversion
  manufacturername : loaded.manufacturername = d.manufacturername
  modelidentifier : loaded.modelidentifier = d.modelidentifier
  datecode : loaded.datecode = d.datecode
  activeep : deviceCheckStatus d deviceActive = true → loaded.activeep = d.activeep
  endpoints : deviceCheckStatus d deviceActive = true →
    (records loaded).map kept = (records d).map kept

def shown (gw : Gateway) : List UInt64 := (gw.devices.filter isActive).map (·.ieeeaddr)

/-- A restart here gives back every device, and the next login shows the same ones. -/
structure Preserved (s : GatewayState) : Prop where
  devices : ∀ ieee, Option.Rel SameDevice (gatewayGetdevice s.gateway ieee)
    (gatewayGetdevice s.restarted.gateway ieee)
  login : ∀ ieee, ieee ∈ shown s.gateway ↔ ieee ∈ shown s.restarted.gateway

/-- What keeps the blob of a complete device up to date: a second list of endpoints is the one the
device has; a descriptor that is only added comes before the discovery is complete; the last one
makes as many endpoints as the list has, and the blob has room for them. -/
def InOrder : Input → Device → Prop
  | .activeEpRsp msg, d =>
      deviceCheckStatus d deviceSendSimpledesc = false →
        deviceCheckStatus d deviceActive = true → msg = d.activeep
  | .simpleDescRsp msg, d =>
      ((countEndpoint msg.endpoint d).epcursor < d.activeep.activeEPCount →
        deviceCheckStatus d deviceActive = false) ∧
      ((countEndpoint msg.endpoint d).epcursor = d.activeep.activeEPCount →
        d.eplist.length + 1 = d.activeep.activeEPCount.toNat ∧
          d.activeep.activeEPCount.toNat ≤ 77)
  | _, _ => True

def Faithful (s : GatewayState) : Event → Prop
  | .restart => True
  | .input input =>
      ∀ d, s.gateway.devices.find? (finds s.gateway.gatewayid input) = some d →
        InOrder input d ∧
          ∀ changed, change input d = some changed → Unquoted changed.device

/-- The bits of a status that no flag uses: all above the first byte but one. -/
def spareBits : UInt32 := 0xFFFFFB00

def Whole (d : Device) (row : DeviceRow) : Prop :=
  Carries kept d.activeep ((records d).map kept) row ∧
    d.eplist.length = d.activeep.activeEPCount.toNat

structure Saved (d : Device) (row : DeviceRow) : Prop where
  columns : rowColumns row = deviceColumns d
  size : row.endpoint.length = blobSize
  spare : deviceCheckStatus d spareBits = false
  blob : deviceCheckStatus d deviceActive = true → Whole d row

section Framed

variable {flag : UInt32} {d : Device}

/-- A flag that nothing but the last descriptor sets. -/
structure Apart (flag : UInt32) : Prop where
  appDel : deviceAppDel &&& flag = 0
  leaveNet : deviceLeaveNet &&& flag = 0
  sendActiveep : deviceSendActiveep &&& flag = 0
  sendSimpledesc : deviceSendSimpledesc &&& flag = 0
  getActiveep : deviceGetActiveep &&& flag = 0

theorem active_apart : Apart deviceActive := by
  constructor <;> decide

theorem spare_apart : Apart spareBits := by
  constructor <;> decide

structure Framed (flag : UInt32) (d after : Device) : Prop where
  flag : deviceCheckStatus d flag = false → deviceCheckStatus after flag = false
  activeep : after.activeep = d.activeep

theorem framed_same {after : Device} (status : after.status = d.status)
    (activeep : after.activeep = d.activeep) : Framed flag d after := by
  refine ⟨?_, activeep⟩
  intro clear
  rw [deviceCheckStatus, status]
  exact clear

theorem framed_refl (flag : UInt32) (d : Device) : Framed flag d d := framed_same rfl rfl

theorem announced_framed (apart : Apart flag) (msg : EndDeviceAnnceIndFormat) (d : Device) :
    Framed flag d (announced msg d).device := by
  rw [announced_eq]
  refine ⟨?_, rfl⟩
  intro clear
  rw [← clear]
  exact announced_status_flag d apart.appDel apart.leaveNet apart.sendActiveep apart.sendSimpledesc

theorem left_framed (apart : Apart flag) (d : Device) : Framed flag d (leaveDevice d) := by
  refine ⟨?_, rfl⟩
  intro clear
  exact (flag_set_or_other apart.leaveNet _).trans (flag_set_and clear _)

theorem set_zonetype_framed (endpoint : UInt8) (zonetype : UInt16) (d : Device) :
    Framed flag d (deviceSetZonetype endpoint zonetype d).device := by
  unfold deviceSetZonetype
  split
  · exact framed_same rfl rfl
  · split
    · exact framed_same rfl rfl
    · exact framed_same rfl rfl

theorem znp_framed (host : ZnpHost) (message : ZnpMessage) (d : Device) :
    Framed flag d (znpChange host message d).device := by
  cases message with
  | zoneEnrollReq ieeeaddr =>
      rw [znpChange, reportDevice]
      split_ifs
      · exact framed_refl flag d
      · rcases name_new_device_eq host.stale d with ⟨names, named⟩
        rw [named]
        exact framed_same rfl rfl
  | zoneChangeNotification req =>
      rw [znpChange, acceptZoneChange]
      split
      · exact framed_refl flag d
      · split
        · exact framed_refl flag d
        · split
          · exact framed_same rfl rfl
          · exact framed_refl flag d
  | genLevelCtlRsp response =>
      rw [znpChange, accept_level_rsp_device]
      exact framed_refl flag d
  | _ => exact framed_refl flag d

theorem command_framed (command : Command) (d : Device) :
    Framed flag d (commandChange command d).device := by
  cases command with
  | setDeviceName deviceName => exact framed_same rfl rfl
  | setArm parsed =>
      rw [commandChange]
      split_ifs
      · exact framed_same rfl rfl
      · exact framed_refl flag d
  | levelCtrl levelCtrl =>
      rw [commandChange, levelEndpoint]
      split_ifs
      · exact framed_refl flag d
      · exact framed_same rfl rfl
  | _ => exact framed_refl flag d

def Undiscovering : Input → Prop
  | .activeEpRsp _ => False
  | .simpleDescRsp _ => False
  | _ => True

theorem change_framed (apart : Apart flag) {input : Input} (undiscovering : Undiscovering input)
    {changed : DeviceChange} (changes : change input d = some changed) :
    Framed flag d changed.device := by
  cases input with
  | announce msg =>
      rw [change, Option.some.injEq] at changes
      exact changes ▸ announced_framed apart msg d
  | activeEpRsp msg => exact False.elim undiscovering
  | simpleDescRsp msg => exact False.elim undiscovering
  | leaveInd extAddr =>
      rw [change, Option.some.injEq] at changes
      exact changes ▸ left_framed apart d
  | enrollRequest srcAddr srcEndpoint zoneType =>
      rw [change, Option.some.injEq] at changes
      exact changes ▸ set_zonetype_framed srcEndpoint zoneType d
  | basicAttributes message =>
      rw [change, Option.map_eq_some_iff] at changes
      rcases changes with ⟨outcome, handled, rfl⟩
      rcases basic_attributes_eq handled with ⟨attributes, names, rfl⟩
      exact framed_same rfl rfl
  | znp host message =>
      rw [change, Option.some.injEq] at changes
      exact changes ▸ znp_framed host message d
  | command host fd command =>
      rw [change, Option.some.injEq] at changes
      exact changes ▸ command_framed command d

theorem active_ep_flag (apart : Apart flag) (msg : ActiveEpRspFormat) (d : Device) :
    deviceCheckStatus (activeEpRsp msg d).device flag = deviceCheckStatus d flag := by
  unfold activeEpRsp
  split_ifs
  · rfl
  · exact (flag_set_or_other apart.getActiveep _).trans
      (flag_set_or_other apart.sendSimpledesc d.status)

end Framed

section Blob

variable {d : Device} {row : DeviceRow}

theorem kept_endpoints (d : Device) :
    (records d).map kept = d.eplist.map (kept ∘ Endpoint.simpledesc) := List.map_map

theorem Whole.store_calls (whole : Whole d row) {after : Device}
    {calls : List DatabaseCall} (activeep : after.activeep = d.activeep)
    (same : (records after).map kept = (records d).map kept)
    (ignores : ∀ call ∈ calls, Ignores kept call) (device : Device) :
    Whole after (storeCalls device calls row) := by
  have length := congrArg List.length same
  rw [List.length_map, List.length_map, records, List.length_map, records, List.length_map] at length
  rw [Whole, activeep, same, length]
  exact ⟨whole.1.store_calls device ignores, whole.2⟩

theorem minor_ignores {call : DatabaseCall} (minor : Minor False call) : Ignores kept call := by
  cases call with
  | updateDeviceArm ieee endpoint arm => exact False.elim minor
  | updateDeviceEndpoint stored => exact False.elim minor
  | updateDeviceSeq ieee endpoint seq => exact fun _ => rfl
  | updateDeviceState ieee endpoint state => exact fun _ => rfl
  | updateDeviceEndpointZonetype ieee endpoint zonetype => exact fun _ => rfl
  | _ => exact trivial

theorem announced_ignores (msg : EndDeviceAnnceIndFormat) (d : Device) :
    ∀ call ∈ (changeOf (announced msg d)).calls, Ignores kept call := by
  intro call member
  rcases announced_call member with ⟨status, rfl⟩ | rfl | ⟨ep, inside, outlet, rfl⟩
  · exact trivial
  · exact trivial
  · exact fun _ => rfl

theorem plain_ignores {input : Input} (plain : Plain input) (unarmed : ¬Arms input)
    {changed : DeviceChange} (changes : change input d = some changed) :
    ∀ call ∈ changed.calls, Ignores kept call := by
  intro call member
  have minor := plain_minor plain changes call member
  rw [eq_false unarmed] at minor
  exact minor_ignores minor

theorem change_ignores {input : Input} (undiscovering : Undiscovering input)
    (unarmed : ¬Arms input) {changed : DeviceChange} (changes : change input d = some changed) :
    ∀ call ∈ changed.calls, Ignores kept call := by
  cases input with
  | announce msg =>
      rw [change, Option.some.injEq] at changes
      exact changes ▸ announced_ignores msg d
  | simpleDescRsp msg => exact False.elim undiscovering
  | _ =>
      apply plain_ignores _ unarmed changes
      exact trivial

theorem change_kept {input : Input} (undiscovering : Undiscovering input) (unarmed : ¬Arms input)
    {changed : DeviceChange} (changes : change input d = some changed) :
    (records changed.device).map kept = (records d).map kept := by
  rw [kept_endpoints, kept_endpoints]
  rcases quiet_or_loud input with quiet | loud
  · have untouched := @quiet_untouched _ (kept ∘ Endpoint.simpledesc) (fun _ _ => rfl) input
      (fun arms => absurd arms unarmed) quiet d changed changes
    exact untouched.endpoints
  · cases loud with
    | simpleDescRsp msg => exact False.elim undiscovering
    | enrollRequest srcAddr srcEndpoint zoneType =>
        rw [change, Option.some.injEq] at changes
        exact changes ▸ set_zonetype_map (fun _ _ => rfl) srcEndpoint zoneType d
    | report host ieeeaddr =>
        rw [change, Option.some.injEq] at changes
        exact changes ▸ report_map (fun _ _ => rfl) host d
    | levelCtrl host fd levelCtrl =>
        rw [change, Option.some.injEq] at changes
        exact changes ▸ level_map (fun _ _ => rfl) levelCtrl d

def rearm (arm : Arm) (value : SimpleDescRspFormat × Arm) : SimpleDescRspFormat × Arm :=
  (value.1, arm)

theorem Whole.arm (whole : Whole d row) (ieee : UInt64) (parsed : ParsedArm) :
    Whole (armEndpoint parsed d)
      (storeCalls (armEndpoint parsed d) [.updateDeviceArm ieee parsed.endpoint parsed.arm] row) := by
  have agree : ∀ record, kept ((RecordField.arm parsed.arm).store record) =
      rearm parsed.arm (kept record) := fun _ => rfl
  have same : numbers (armEndpoint parsed d) = numbers d :=
    numbers_in_memory ⟨parsed.endpoint, .arm parsed.arm⟩ d
  have position : deviceGetIndex (armEndpoint parsed d) parsed.endpoint =
      deviceGetIndex d parsed.endpoint := by
    rw [device_get_index_numbers, device_get_index_numbers, same]
  have memory := (kept_endpoints (armEndpoint parsed d)).trans
    (@map_modify_first _ _ (kept ∘ Endpoint.simpledesc) _ _ (rearm parsed.arm) (fun _ => rfl)
      d.eplist)
  rw [← kept_endpoints] at memory
  have length := congrArg List.length same
  rw [numbers, numbers, List.length_map, List.length_map] at length
  have stored := whole.1.store_change (armEndpoint parsed d) parsed.endpoint agree
  rw [position] at stored
  refine ⟨?_, length.trans whole.2⟩
  rw [memory]
  exact stored

theorem Whole.load (whole : Whole d row) :
    Whole (loadRow (deviceKey d, row)) row ∧
      (loadRow (deviceKey d, row)).activeep = d.activeep ∧
        (records (loadRow (deviceKey d, row))).map kept = (records d).map kept := by
  have length : ((records d).map kept).length = d.eplist.length := by
    rw [kept_endpoints, List.length_map]
  have counted : d.activeep.activeEPCount.toNat = ((records d).map kept).length :=
    whole.2.symm.trans length.symm
  have same := whole.1.load_records counted.le (deviceKey d)
  rw [counted, List.take_length] at same
  rcases whole.1.load counted.le (deviceKey d) with ⟨_, _, loaded⟩
  have activeep : (loadRow (deviceKey d, row)).activeep = d.activeep := by
    rw [loaded]
  exact ⟨whole.store_calls activeep same (fun _ member => absurd member List.not_mem_nil) d,
    activeep, same⟩

end Blob

section Steps

variable {d : Device} {row : DeviceRow}

theorem active_before {after : Device}
    (clear : deviceCheckStatus d deviceActive = false → deviceCheckStatus after deviceActive = false)
    (active : deviceCheckStatus after deviceActive = true) :
    deviceCheckStatus d deviceActive = true := by
  by_contra inactive
  rw [clear (Bool.eq_false_iff.mpr inactive)] at active
  cases active

theorem whole_command (whole : Whole d row) (command : Command)
    {host : Host} {fd : Int} {changed : DeviceChange}
    (changes : change (.command host fd command) d = some changed)
    (arms : Arms (.command host fd command)) :
    Whole changed.device (storeCalls changed.device changed.calls row) := by
  rw [change, Option.some.injEq] at changes
  subst changes
  cases command with
  | setArm parsed =>
      rw [commandChange]
      split_ifs
      · exact whole.arm parsed.ieee parsed
      · exact whole
  | _ => exact False.elim arms

theorem whole_changed (whole : Whole d row) {input : Input} (undiscovering : Undiscovering input)
    {changed : DeviceChange} (changes : change input d = some changed) :
    Whole changed.device (storeCalls changed.device changed.calls row) := by
  by_cases arms : Arms input
  · cases input with
    | command host fd command => exact whole_command whole command changes arms
    | _ => exact False.elim arms
  · have framed := change_framed active_apart undiscovering changes
    exact whole.store_calls framed.activeep (change_kept undiscovering arms changes)
      (change_ignores undiscovering arms changes) changed.device

theorem saved_undiscovering (saved : Saved d row) {input : Input}
    (undiscovering : Undiscovering input) {changed : DeviceChange}
    (changes : change input d = some changed) (unquoted : Unquoted changed.device) :
    Saved changed.device (storeCalls changed.device changed.calls row) where
  columns := saved_columns saved.columns changed.device changes unquoted
  size := (store_calls_length _ _ _).trans saved.size
  spare := (change_framed spare_apart undiscovering changes).flag saved.spare
  blob := by
    intro active
    have before := active_before (change_framed active_apart undiscovering changes).flag active
    exact whole_changed (saved.blob before) undiscovering changes

theorem saved_active_ep_rsp (saved : Saved d row) {msg : ActiveEpRspFormat}
    (inOrder : InOrder (.activeEpRsp msg) d) :
    Saved (activeEpRsp msg d).device
      (storeCalls (activeEpRsp msg d).device (changeOf (activeEpRsp msg d)).calls row) where
  columns := saved_active_ep saved.columns _ msg
  size := (store_calls_length _ _ _).trans saved.size
  spare := (active_ep_flag spare_apart msg d).trans saved.spare
  blob := by
    intro active
    rw [active_ep_flag active_apart msg d] at active
    have activeep : (activeEpRsp msg d).device.activeep = d.activeep := by
      unfold activeEpRsp
      split_ifs with taken
      · rfl
      · exact inOrder (Bool.eq_false_iff.mpr taken) active
    have same : (records (activeEpRsp msg d).device).map kept = (records d).map kept := by
      rw [kept_endpoints, kept_endpoints]
      exact (active_ep_untouched msg d).endpoints
    have ignores : ∀ call ∈ (changeOf (activeEpRsp msg d)).calls, Ignores kept call :=
      @plain_ignores d (.activeEpRsp msg) trivial not_false _ rfl
    exact (saved.blob active).store_calls activeep same ignores _

theorem whole_completed (size : row.endpoint.length = blobSize)
    (counted : d.eplist.length = d.activeep.activeEPCount.toNat)
    (room : d.activeep.activeEPCount.toNat ≤ 77) :
    Whole (completeDevice d).device
      (storeCalls (completeDevice d).device (changeOf (completeDevice d)).calls row) := by
  have written := (carries_store_endpoints kept d size).store_status d.ieeeaddr
    (completeDevice d).device (d.status ||| deviceGetSimpledesc)
    ((d.status ||| deviceGetSimpledesc) ||| deviceActive)
  rw [records_take d (counted ▸ room)] at written
  exact ⟨written, counted⟩

theorem saved_simple_desc_rsp (saved : Saved d row) {msg : SimpleDescRspFormat}
    {described : DeviceChange} (outcome : Describes msg d described)
    (inOrder : InOrder (.simpleDescRsp msg) d) :
    Saved described.device (storeCalls described.device described.calls row) where
  columns := saved_described saved.columns described.device outcome
  size := (store_calls_length _ _ _).trans saved.size
  spare := by
    have counted : (countEndpoint msg.endpoint d).status = d.status := by
      rw [count_endpoint_eq]
    cases outcome with
    | added room =>
        rw [deviceCheckStatus, deviceAddendpoint, counted]
        exact saved.spare
    | completed last =>
        rw [complete_device_change, deviceCheckStatus, deviceAddendpoint, counted]
        exact (flag_set_or_other (by decide) _).trans
          ((flag_set_or_other (by decide) _).trans saved.spare)
    | leftOut full =>
        rw [deviceCheckStatus, counted]
        exact saved.spare
  blob := by
    intro active
    have same := count_endpoint_eq msg.endpoint d
    cases outcome with
    | added room =>
        have inactive := inOrder.1 room
        rw [deviceCheckStatus, deviceAddendpoint, same] at active
        exact absurd active (Bool.eq_false_iff.mp inactive)
    | completed last =>
        rcases inOrder.2 last with ⟨listed, room⟩
        apply whole_completed saved.size
        · rw [deviceAddendpoint, List.length_append, List.length_singleton, same]
          exact listed
        · rw [deviceAddendpoint, same]
          exact room
    | leftOut full =>
        rw [deviceCheckStatus, same] at active
        have whole := saved.blob active
        rw [same]
        exact whole

theorem saved_changed (saved : Saved d row) {input : Input} {changed : DeviceChange}
    (changes : change input d = some changed) (inOrder : InOrder input d)
    (unquoted : Unquoted changed.device) :
    Saved changed.device (storeCalls changed.device changed.calls row) := by
  cases input with
  | activeEpRsp msg =>
      rw [change, Option.some.injEq] at changes
      exact changes ▸ saved_active_ep_rsp saved inOrder
  | simpleDescRsp msg =>
      rw [change, Option.some.injEq] at changes
      exact saved_simple_desc_rsp saved (changes ▸ describes msg d) inOrder
  | _ =>
      apply saved_undiscovering saved _ changes unquoted
      exact trivial

theorem saved_created (msg : EndDeviceAnnceIndFormat) :
    Saved (createdBy msg).device
      (storeCalls (createdBy msg).device (createdBy msg).calls (newRow msg.nwkAddr)) where
  columns := by
    have created := saved_announced (new_row_columns msg.ieeeAddr msg.nwkAddr)
      (createdBy msg).device msg
    rw [createdBy, changeOf, announced_eq] at created ⊢
    exact created
  size := (store_calls_length _ _ _).trans List.length_replicate
  spare := by
    have clear : flagSet deviceSendActiveep spareBits = false := by decide
    rw [created_by_eq]
    exact clear
  blob := by
    have inactive : flagSet deviceSendActiveep deviceActive = false := by decide
    intro active
    rw [created_by_eq] at active
    exact absurd active (Bool.eq_false_iff.mp inactive)

theorem loaded_status (saved : Saved d row) :
    (loadRow (deviceKey d, row)).status = d.status.toUInt8.toUInt32 := by
  rw [(load_row_columns (deviceKey d) row).2, saved.columns]
  rfl

/-- Only the bit of a device that has left is lost. -/
theorem loaded_status_eq_iff (saved : Saved d row) :
    (loadRow (deviceKey d, row)).status = d.status ↔
      deviceCheckStatus d deviceLeaveNet = false := by
  rw [loaded_status saved]
  exact low_byte_eq_iff (by decide) saved.spare

theorem loaded_active (saved : Saved d row) :
    deviceCheckStatus (loadRow (deviceKey d, row)) deviceActive =
      deviceCheckStatus d deviceActive := by
  have inByte : (0xFFFFFF00 : UInt32) &&& deviceActive = 0 := by decide
  rw [device_check_status_eq, loaded_status saved, low_byte_eq]
  exact flag_set_clear_other inByte d.status

/-- A restart keeps all of this, whatever bit it loses. -/
theorem saved_loaded (saved : Saved d row) : Saved (loadRow (deviceKey d, row)) row where
  columns := ((load_row_columns (deviceKey d) row).1).symm
  size := saved.size
  spare := by
    rw [device_check_status_eq, loaded_status saved, low_byte_eq]
    exact flag_set_and saved.spare 255
  blob := by
    intro active
    rw [loaded_active saved] at active
    exact (saved.blob active).load.1

end Steps

section Runs

variable {s : GatewayState}

theorem saved_step {next : GatewayState} {event : Event}
    (mirrored : Mirrors deviceKey Saved s.gateway.devices s.table) (faithful : Faithful s event)
    (stepped : step s event = some next) :
    Mirrors deviceKey Saved next.gateway.devices next.table := by
  apply step_mirrors_about mirrored stepped
  · intro d row _ saved
    exact saved
  · intro msg _ _
    exact saved_created msg
  · intro input d changed row same here _ changes saved
    subst same
    rcases faithful d here with ⟨inOrder, unquoted⟩
    exact saved_changed saved changes inOrder (unquoted changed changes)
  · intro _ d row saved
    exact saved_loaded saved

theorem reachable_saved (reachable : Reachable step Faithful Fresh s) :
    Mirrors deviceKey Saved s.gateway.devices s.table := by
  apply reachable.invariant
  · rintro start ⟨devices, table⟩
    rw [devices, table]
    exact Mirrors.empty
  · intro s event next mirrored faithful stepped
    exact saved_step mirrored faithful stepped

theorem restarted_mirrors (mirrored : Mirrors deviceKey Saved s.gateway.devices s.table) :
    Mirrors deviceKey (fun loaded row => loaded = loadRow (deviceKey loaded, row))
      s.restarted.gateway.devices s.table := by
  have devices : s.restarted.gateway.devices = s.table.rows.map loadRow := by
    rw [GatewayState.restarted, sqlitedb_load_device_eq]
    rfl
  have key : ∀ row ∈ s.table.rows, deviceKey (loadRow row) = row.1 := by
    intro row member
    exact load_row_key mirrored member
  rw [devices]
  apply Mirrors.load key
  intro row member
  rw [key row member]

theorem saved_same_device {d : Device} {row : DeviceRow} (saved : Saved d row)
    (here : deviceCheckStatus d deviceLeaveNet = false) :
    SameDevice d (loadRow (deviceKey d, row)) := by
  have columns : deviceColumns (loadRow (deviceKey d, row)) = deviceColumns d :=
    (load_row_columns (deviceKey d) row).1.trans saved.columns
  exact {
    ieeeaddr := (load_row_ieeeaddr _).trans (of_int_bind_key d.ieeeaddr)
    shortaddr := congrArg Columns.shortaddr columns
    devicename := congrArg Columns.devicename columns
    status := (loaded_status_eq_iff saved).mpr here
    zclversion := congrArg Columns.zclversion columns
    applicationversion := congrArg Columns.applicationversion columns
    stackversion := congrArg Columns.stackversion columns
    hwversion := congrArg Columns.hwversion columns
    manufacturername := congrArg Columns.manufacturername columns
    modelidentifier := congrArg Columns.modelidentifier columns
    datecode := congrArg Columns.datecode columns
    activeep := fun active => (saved.blob active).load.2.1
    endpoints := fun active => (saved.blob active).load.2.2 }

theorem restarted_pairs (mirrored : Mirrors deviceKey Saved s.gateway.devices s.table)
    (ieee : UInt64) :
    Option.Rel (fun d loaded => ∃ row, Saved d row ∧ loaded = loadRow (deviceKey d, row))
      (gatewayGetdevice s.gateway ieee) (gatewayGetdevice s.restarted.gateway ieee) := by
  have pair := mirrored.common (restarted_mirrors mirrored) (bindKey ieee)
  rw [find_device_key, find_device_key] at pair
  generalize found : gatewayGetdevice s.gateway ieee = before at pair ⊢
  generalize there : gatewayGetdevice s.restarted.gateway ieee = after at pair ⊢
  cases pair with
  | none => exact .none
  | @some d loaded both =>
      rcases both with ⟨row, saved, load⟩
      have same : deviceKey loaded = deviceKey d := by
        rw [deviceKey, gateway_getdevice_ieeeaddr there, deviceKey,
          gateway_getdevice_ieeeaddr found]
      rw [same] at load
      exact .some ⟨row, saved, load⟩

theorem mem_shown_iff {gw : Gateway} (distinct : (gw.devices.map deviceKey).Nodup)
    (ieee : UInt64) :
    ieee ∈ shown gw ↔ ∃ d, gatewayGetdevice gw ieee = some d ∧ isActive d = true := by
  rw [shown, List.mem_map]
  constructor
  · rintro ⟨d, member, rfl⟩
    rcases List.mem_filter.mp member with ⟨inside, active⟩
    exact ⟨d, getdevice_of_mem distinct inside, active⟩
  · rintro ⟨d, found, active⟩
    exact ⟨d, List.mem_filter.mpr ⟨List.mem_of_find?_eq_some found, active⟩,
      gateway_getdevice_ieeeaddr found⟩

theorem same_device_active {d loaded : Device} (same : SameDevice d loaded) :
    isActive loaded = isActive d := by
  rw [isActive, deviceCheckStatus, deviceCheckStatus, same.status]
  rfl

theorem shown_same (mirrored : Mirrors deviceKey Saved s.gateway.devices s.table)
    (same : ∀ ieee, Option.Rel SameDevice (gatewayGetdevice s.gateway ieee)
      (gatewayGetdevice s.restarted.gateway ieee)) (ieee : UInt64) :
    ieee ∈ shown s.gateway ↔ ieee ∈ shown s.restarted.gateway := by
  rw [mem_shown_iff mirrored.distinct, mem_shown_iff (restarted_mirrors mirrored).distinct]
  have pair := same ieee
  generalize gatewayGetdevice s.gateway ieee = before at pair ⊢
  generalize gatewayGetdevice s.restarted.gateway ieee = after at pair ⊢
  cases pair with
  | none => exact Iff.rfl
  | some both =>
      simp only [Option.some.injEq, exists_eq_left']
      rw [same_device_active both]

theorem present_same (mirrored : Mirrors deviceKey Saved s.gateway.devices s.table)
    (present : ∀ d ∈ s.gateway.devices, deviceCheckStatus d deviceLeaveNet = false)
    (ieee : UInt64) :
    Option.Rel SameDevice (gatewayGetdevice s.gateway ieee)
      (gatewayGetdevice s.restarted.gateway ieee) := by
  have pair := restarted_pairs mirrored ieee
  have member : ∀ d, gatewayGetdevice s.gateway ieee = some d → d ∈ s.gateway.devices :=
    fun _ found => List.mem_of_find?_eq_some found
  generalize gatewayGetdevice s.gateway ieee = before at pair member ⊢
  generalize gatewayGetdevice s.restarted.gateway ieee = after at pair ⊢
  cases pair with
  | none => exact .none
  | @some d loaded both =>
      rcases both with ⟨row, saved, rfl⟩
      exact .some (saved_same_device saved (present d (member d rfl)))

/-- After every run with unquoted texts and a discovery in order, restarts included, another restart
preserves the registry if and only if no device is marked as gone from the network. -/
theorem restart_preserves_registry_iff (reachable : Reachable step Faithful Fresh s) :
    Preserved s ↔ ∀ d ∈ s.gateway.devices, deviceCheckStatus d deviceLeaveNet = false := by
  have mirrored := reachable_saved reachable
  constructor
  · intro preserved d member
    have pair := restarted_pairs mirrored d.ieeeaddr
    have same := preserved.devices d.ieeeaddr
    rw [getdevice_of_mem mirrored.distinct member] at pair same
    generalize gatewayGetdevice s.restarted.gateway d.ieeeaddr = after at pair same
    cases pair with
    | some both =>
        rcases both with ⟨row, saved, rfl⟩
        cases same with
        | some equal => exact (loaded_status_eq_iff saved).mp equal.status
  · intro present
    have same := present_same mirrored present
    exact ⟨same, shown_same mirrored same⟩

end Runs

def switchJoins : List Event :=
  [.input (.announce firstAnnounce), .input (.activeEpRsp endpointsOneTwo),
    .input (.simpleDescRsp (descriptorOf 1)), .input (.simpleDescRsp (descriptorOf 2))]

theorem switch_joins_faithful : Meets step Faithful freshGateway switchJoins := by
  have unquoted : ∀ status epcursor slots activeep eplist,
      Unquoted { deviceCreate firstSwitch 1 with
        status, epcursor, endpointZonetype := slots, activeep, eplist } := by
    intro status epcursor slots activeep eplist
    constructor <;> exact List.not_mem_nil
  constructor
  · intro d found
    cases found
  intro announced stepped
  rw [← Option.some.inj stepped]
  refine ⟨?_, ?_⟩
  · intro d found
    rw [← Option.some.inj found]
    refine ⟨fun _ active => absurd active (by decide), ?_⟩
    intro changed changes
    rw [← Option.some.inj changes]
    exact unquoted _ _ _ _ _
  intro listed stepped
  rw [← Option.some.inj stepped]
  refine ⟨?_, ?_⟩
  · intro d found
    rw [← Option.some.inj found]
    refine ⟨⟨fun _ => by decide, fun full => absurd full (by decide)⟩, ?_⟩
    intro changed changes
    rw [← Option.some.inj changes]
    exact unquoted _ _ _ _ _
  intro described stepped
  rw [← Option.some.inj stepped]
  refine ⟨?_, fun _ _ => trivial⟩
  intro d found
  rw [← Option.some.inj found]
  refine ⟨⟨fun _ => by decide, fun _ => by decide⟩, ?_⟩
  intro changed changes
  rw [← Option.some.inj changes]
  exact unquoted _ _ _ _ _

/-- The switch is there after a restart, with both endpoints. -/
theorem restart_preserves_registry_iff_switch :
    ∃ s, run step freshGateway switchJoins = some s ∧ Preserved s := by
  have ran : ∃ s, run step freshGateway switchJoins = some s := ⟨_, rfl⟩
  rcases ran with ⟨s, ran⟩
  have fresh : Fresh freshGateway := ⟨rfl, rfl⟩
  have reachable := reachable_run (.start fresh) switch_joins_faithful ran
  refine ⟨s, ran, (restart_preserves_registry_iff reachable).mpr ?_⟩
  intro d member
  rw [← Option.some.inj ran] at member
  rw [List.mem_singleton.mp member]
  decide

/-- A device that has left the network is shown again after a restart. -/
theorem left_device_shown_after_restart :
    ∃ s, run step freshGateway
        [.input (.announce firstAnnounce), .input (.leaveInd firstSwitch)] = some s ∧
      ¬Preserved s ∧ firstSwitch ∉ shown s.gateway ∧ firstSwitch ∈ shown s.restarted.gateway := by
  have ran : ∃ s, run step freshGateway
      [.input (.announce firstAnnounce), .input (.leaveInd firstSwitch)] = some s := ⟨_, rfl⟩
  rcases ran with ⟨s, ran⟩
  have before : firstSwitch ∉ shown s.gateway := by
    rw [← Option.some.inj ran]
    decide
  have after : firstSwitch ∈ shown s.restarted.gateway := by
    rw [← Option.some.inj ran]
    decide +kernel
  refine ⟨s, ran, ?_, before, after⟩
  intro preserved
  exact before ((preserved.login firstSwitch).mpr after)

end SmartHome.RegistryRestart
