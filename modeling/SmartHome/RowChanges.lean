import SmartHome.BlobUpdates
import SmartHome.EndpointChanges

/-!
# What the calls of a step do to a row

A row keeps the short address in a column of its own and the endpoints in its blob. Few
calls write either as a whole; the others change one field of one record, and what does
not depend on that field stays as it is.
-/

namespace SmartHome.RowChanges

open SmartHome.Library.Blobs
open SmartHome.Library.CTypes
open SmartHome.Registry
open SmartHome.PipeMessages
open SmartHome.Effects
open SmartHome.EventRecvmsg
open SmartHome.ZdoCallbacks
open SmartHome.DeviceNames
open SmartHome.BasicAttributes
open SmartHome.ZnpResponses
open SmartHome.EndpointBlob
open SmartHome.Sqlitedb
open SmartHome.BlobUpdates
open SmartHome.System
open SmartHome.Transitions
open SmartHome.StepCases
open SmartHome.EndpointChanges

set_option autoImplicit false

section Blob

variable {Value : Type*} {value : Simpledesc → Value} {header : ActiveEpRspFormat}
  {values : List Value} {row : DeviceRow} {d : Device}

structure Carries (value : Simpledesc → Value) (header : ActiveEpRspFormat)
    (values : List Value) (row : DeviceRow) : Prop where
  size : row.endpoint.length = blobSize
  stored : ∃ records, Stores row.endpoint header records ∧ records.map value = values

def Ignores (value : Simpledesc → Value) : DatabaseCall → Prop
  | .updateDeviceArm _ _ arm => ∀ record, value ((RecordField.arm arm).store record) = value record
  | .updateDeviceSeq _ _ seq => ∀ record, value ((RecordField.seq seq).store record) = value record
  | .updateDeviceState _ _ state =>
      ∀ record, value ((RecordField.state state).store record) = value record
  | .updateDeviceEndpointZonetype _ _ zonetype =>
      ∀ record, value ((RecordField.zonetype zonetype).store record) = value record
  | .updateDeviceEndpoint _ => False
  | _ => True

theorem map_modify_unseen {change : Simpledesc → Simpledesc} {records : List Simpledesc}
    {index : Nat}
    (unseen : ∀ record, records[index]? = some record → value (change record) = value record) :
    (records.modify index change).map value = records.map value := by
  induction records generalizing index with
  | nil => simp
  | cons record records induction =>
      cases index with
      | zero => simp [unseen record rfl]
      | succ index =>
          have later : (records.modify index change).map value = records.map value := by
            apply induction
            intro other here
            exact unseen other here
          simp [later]

theorem map_modify_agree {change : Simpledesc → Simpledesc} {changeValue : Value → Value}
    (agree : ∀ record, value (change record) = changeValue (value record))
    (records : List Simpledesc) (index : Nat) :
    (records.modify index change).map value = (records.map value).modify index changeValue := by
  induction records generalizing index with
  | nil => simp
  | cons record records induction =>
      cases index with
      | zero => simp [agree]
      | succ index => simp [induction]

theorem carries_new (value : Simpledesc → Value) (shortaddr : UInt16) :
    Carries value noActiveep [] (newRow shortaddr) :=
  ⟨List.length_replicate, [], stores_zero, rfl⟩

theorem Carries.store_field (carries : Carries value header values row) (d : Device)
    (endpoint : UInt8) {field : RecordField}
    (unseen : ∀ index record, deviceGetIndex d endpoint = some index →
      values[index]? = some (value record) → value (field.store record) = value record) :
    Carries value header values (storeField d endpoint field row) := by
  unfold storeField
  cases position : deviceGetIndex d endpoint with
  | none => exact carries
  | some index =>
      rcases carries.stored with ⟨records, stores, same⟩
      constructor
      · exact (blob_write_length _ _ _).trans carries.size
      · refine ⟨_, stores.write_field index field, ?_⟩
        rw [← same]
        apply map_modify_unseen
        intro record here
        apply unseen index record position
        rw [← same, List.getElem?_map, here]
        rfl

theorem Carries.store_change (carries : Carries value header values row) (d : Device)
    (endpoint : UInt8) {field : RecordField} {changeValue : Value → Value}
    (agree : ∀ record, value (field.store record) = changeValue (value record)) :
    Carries value header
      (match deviceGetIndex d endpoint with
        | some index => values.modify index changeValue
        | none => values)
      (storeField d endpoint field row) := by
  unfold storeField
  cases deviceGetIndex d endpoint with
  | none => exact carries
  | some index =>
      rcases carries.stored with ⟨records, stores, same⟩
      constructor
      · exact (blob_write_length _ _ _).trans carries.size
      · refine ⟨_, stores.write_field index field, ?_⟩
        rw [← same]
        exact map_modify_agree agree records index

theorem Carries.store_call (carries : Carries value header values row) (d : Device)
    {call : DatabaseCall} (ignores : Ignores value call) :
    Carries value header values (storeCall d call row) := by
  have other : ∀ {after : DeviceRow}, after.endpoint = row.endpoint →
      Carries value header values after := by
    intro after same
    constructor
    · rw [same]
      exact carries.size
    · rw [same]
      exact carries.stored
  cases call with
  | updateDeviceArm ieee endpoint arm =>
      exact carries.store_field d endpoint fun _ record _ _ => ignores record
  | updateDeviceSeq ieee endpoint seq =>
      exact carries.store_field d endpoint fun _ record _ _ => ignores record
  | updateDeviceState ieee endpoint state =>
      exact carries.store_field d endpoint fun _ record _ _ => ignores record
  | updateDeviceEndpointZonetype ieee endpoint zonetype =>
      exact carries.store_field d endpoint fun _ record _ _ => ignores record
  | updateDeviceEndpoint stored => exact False.elim ignores
  | updateDevicename ieee name =>
      apply other
      rw [storeCall, storeName]
      split_ifs
      · rfl
      · rfl
  | updateDeviceAttr stored =>
      apply other
      rw [storeCall, storeAttr]
      split_ifs
      · rfl
      · rfl
  | _ => exact other rfl

theorem Carries.store_calls (carries : Carries value header values row) (d : Device)
    {calls : List DatabaseCall} (ignores : ∀ call ∈ calls, Ignores value call) :
    Carries value header values (storeCalls d calls row) := by
  induction calls generalizing row with
  | nil => exact carries
  | cons call calls induction =>
      rcases List.forall_mem_cons.mp ignores with ⟨first, later⟩
      exact induction (carries.store_call d first) later

/-- The two bits that a step sets one after the other are in another column. -/
theorem Carries.store_status (carries : Carries value header values row) (ieee : UInt64)
    (d : Device) (first second : UInt32) :
    Carries value header values
      (storeCalls d [.updateDeviceStatus ieee first, .updateDeviceStatus ieee second] row) := by
  apply carries.store_calls
  intro call member
  rcases List.mem_cons.mp member with here | later
  · rw [here]
    exact trivial
  · rw [List.mem_singleton.mp later]
    exact trivial

theorem carries_store_endpoints (value : Simpledesc → Value) (d : Device)
    (size : row.endpoint.length = blobSize) :
    Carries value d.activeep (((records d).take 77).map value) (storeEndpoints d row) :=
  ⟨(store_endpoints_length d row).trans size, _, stores_of_store_endpoints d size, rfl⟩

theorem Carries.load (carries : Carries value header values row)
    (counted : header.activeEPCount.toNat ≤ values.length) (key : Int) :
    ∃ records : List Simpledesc, records.map value = values.take header.activeEPCount.toNat ∧
      loadRow (key, row) =
        { loadColumns (key, row) with
          activeep := header
          eplist := records.map endpointCreate } := by
  rcases carries.stored with ⟨records, stores, same⟩
  refine ⟨records.take header.activeEPCount.toNat, ?_, ?_⟩
  · rw [← same, List.map_take]
  · apply load_row_eq stores
    rw [← same, List.length_map] at counted
    exact counted

theorem Carries.load_records (carries : Carries value header values row)
    (counted : header.activeEPCount.toNat ≤ values.length) (key : Int) :
    (records (loadRow (key, row))).map value = values.take header.activeEPCount.toNat := by
  rcases carries.load counted key with ⟨stored, same, loaded⟩
  have created : (stored.map endpointCreate).map (·.simpledesc) = stored := by
    rw [List.map_map]
    exact List.map_id stored
  rw [← same, loaded, records, created]

end Blob

section Columns

variable {d : Device} {row : DeviceRow} {arms : Prop}

/-- A call that writes neither an address nor a whole blob, and an arm record only if it may. -/
def Minor (arms : Prop) : DatabaseCall → Prop
  | .updateDeviceShortaddr _ _ => False
  | .updateDeviceEndpoint _ => False
  | .updateDeviceArm _ _ _ => arms
  | _ => True

theorem store_field_shortaddr (endpoint : UInt8) (field : RecordField) :
    (storeField d endpoint field row).shortaddr = row.shortaddr := by
  unfold storeField
  cases deviceGetIndex d endpoint with
  | none => rfl
  | some index => rfl

theorem store_call_shortaddr {call : DatabaseCall} (minor : Minor arms call) :
    (storeCall d call row).shortaddr = row.shortaddr := by
  cases call with
  | updateDeviceArm ieee endpoint arm => exact store_field_shortaddr endpoint _
  | updateDeviceSeq ieee endpoint seq => exact store_field_shortaddr endpoint _
  | updateDeviceState ieee endpoint state => exact store_field_shortaddr endpoint _
  | updateDeviceEndpointZonetype ieee endpoint zonetype => exact store_field_shortaddr endpoint _
  | updateDeviceShortaddr ieee shortaddr => exact False.elim minor
  | updateDevicename ieee name =>
      rw [storeCall, storeName]
      split_ifs
      · rfl
      · rfl
  | updateDeviceAttr stored =>
      rw [storeCall, storeAttr]
      split_ifs
      · rfl
      · rfl
  | _ => rfl

theorem store_calls_shortaddr {calls : List DatabaseCall}
    (minor : ∀ call ∈ calls, Minor arms call) :
    (storeCalls d calls row).shortaddr = row.shortaddr := by
  induction calls generalizing row with
  | nil => rfl
  | cons call calls induction =>
      rcases List.forall_mem_cons.mp minor with ⟨first, later⟩
      exact (induction later).trans (store_call_shortaddr first)

end Columns

section Calls

variable {d : Device} {row : DeviceRow} {arms : Prop}

theorem no_minor : ∀ call ∈ ([] : List DatabaseCall), Minor arms call :=
  fun _ member => absurd member List.not_mem_nil

theorem one_minor {call : DatabaseCall} (minor : Minor arms call) :
    ∀ other ∈ [call], Minor arms other := by
  intro other member
  rw [List.mem_singleton.mp member]
  exact minor

theorem renamed_minor (names : List (CString maxnamelen)) (d : Device) :
    ∀ call ∈ databaseCalls (renamed names d).effects, Minor arms call := by
  intro call member
  rw [renamed, databaseCalls, List.filterMap_map, List.mem_filterMap] at member
  rcases member with ⟨name, _, made⟩
  rw [← Option.some.inj made]
  exact trivial

theorem clear_device_state_minor (d : Device) :
    ∀ call ∈ databaseCalls (clearDeviceState d).effects, Minor arms call := by
  intro call member
  rw [clearDeviceState, databaseCalls, List.filterMap_map, List.mem_filterMap] at member
  rcases member with ⟨ep, _, made⟩
  rw [← Option.some.inj made]
  exact trivial

theorem announce_reaction_minor (msg : EndDeviceAnnceIndFormat) (d : Device) :
    ∀ call ∈ databaseCalls (announceReaction msg d), Minor arms call := by
  unfold announceReaction
  split_ifs
  · exact one_minor trivial
  · exact no_minor
  · exact no_minor

def moveCalls (nwkAddr : UInt16) (d : Device) : List DatabaseCall :=
  if d.shortaddr = nwkAddr then [] else [.updateDeviceShortaddr d.ieeeaddr nwkAddr]

theorem announced_calls (msg : EndDeviceAnnceIndFormat) (d : Device) :
    (changeOf (announced msg d)).calls =
      .updateDeviceStatus d.ieeeaddr (backStatus d) ::
        (moveCalls msg.nwkAddr d ++ (databaseCalls (announceReaction msg d) ++
          databaseCalls (clearDeviceState (announcedDevice msg.nwkAddr d)).effects)) := by
  have moves : databaseCalls (announceShortaddr msg.nwkAddr d).effects =
      moveCalls msg.nwkAddr d := by
    unfold announceShortaddr moveCalls
    by_cases same : d.shortaddr = msg.nwkAddr
    · rw [if_neg (not_not.mpr same), if_pos same]
      rfl
    · rw [if_pos same, if_neg same]
      rfl
  rw [← moves, ← database_calls_append, ← database_calls_append, announced_eq]
  rfl

theorem announced_endpoint {ep : Endpoint} (member : ep ∈ announcedEndpoints d) :
    ∃ before ∈ d.eplist, before.number = ep.number ∧ before.deviceID = ep.deviceID := by
  unfold announcedEndpoints at member
  split_ifs at member
  · rcases List.mem_map.mp member with ⟨before, inside, rfl⟩
    exact ⟨before, inside, rfl, rfl⟩
  · exact ⟨ep, member, rfl, rfl⟩

theorem announced_call {msg : EndDeviceAnnceIndFormat} {call : DatabaseCall}
    (member : call ∈ (changeOf (announced msg d)).calls) :
    (∃ status, call = .updateDeviceStatus d.ieeeaddr status) ∨
      call = .updateDeviceShortaddr d.ieeeaddr msg.nwkAddr ∨
        ∃ ep ∈ d.eplist, ep.deviceID = zclHaDeviceidMainsPowerOutlet ∧
          call = .updateDeviceState d.ieeeaddr ep.number 0 := by
  rw [announced_calls] at member
  rcases List.mem_cons.mp member with first | later
  · exact Or.inl ⟨_, first⟩
  rcases List.mem_append.mp later with moved | last
  · unfold moveCalls at moved
    split_ifs at moved
    · cases moved
    · exact Or.inr (Or.inl (List.mem_singleton.mp moved))
  rcases List.mem_append.mp last with reaction | cleared
  · unfold announceReaction at reaction
    split_ifs at reaction
    · exact Or.inl ⟨_, List.mem_singleton.mp reaction⟩
    · cases reaction
    · cases reaction
  · rw [clearDeviceState, databaseCalls, List.filterMap_map, List.mem_filterMap] at cleared
    rcases cleared with ⟨ep, outlet, made⟩
    rw [List.mem_filter] at outlet
    rcases announced_endpoint outlet.1 with ⟨before, inside, number, kind⟩
    have outlet_before := kind.trans (of_decide_eq_true outlet.2)
    rw [← Option.some.inj made, ← number]
    exact Or.inr (Or.inr ⟨before, inside, outlet_before, rfl⟩)

theorem announced_clears {ep : Endpoint} (member : ep ∈ d.eplist)
    (outlet : ep.deviceID = zclHaDeviceidMainsPowerOutlet) (msg : EndDeviceAnnceIndFormat) :
    .updateDeviceState d.ieeeaddr ep.number 0 ∈ (changeOf (announced msg d)).calls := by
  have after : ∃ later ∈ announcedEndpoints d, later.number = ep.number ∧
      later.deviceID = zclHaDeviceidMainsPowerOutlet := by
    unfold announcedEndpoints
    split_ifs
    · exact ⟨_, List.mem_map_of_mem member, rfl, outlet⟩
    · exact ⟨ep, member, rfl, outlet⟩
  rcases after with ⟨later, inside, number, kind⟩
  have cleared : .updateDeviceState d.ieeeaddr ep.number 0 ∈
      databaseCalls (clearDeviceState (announcedDevice msg.nwkAddr d)).effects := by
    rw [clearDeviceState, databaseCalls, List.filterMap_map, List.mem_filterMap, ← number]
    exact ⟨later, List.mem_filter.mpr ⟨inside, decide_eq_true kind⟩, rfl⟩
  rw [announced_calls]
  apply List.mem_cons_of_mem
  apply List.mem_append_right
  exact List.mem_append_right _ cleared

/-- The address column holds the address that was announced. -/
theorem announced_column (device : Device)
    (column : (columnInt row.shortaddr).toUInt16 = d.shortaddr) (msg : EndDeviceAnnceIndFormat) :
    (columnInt (storeCalls device (changeOf (announced msg d)).calls row).shortaddr).toUInt16 =
      msg.nwkAddr := by
  have minor : ∀ call ∈ databaseCalls (announceReaction msg d) ++
      databaseCalls (clearDeviceState (announcedDevice msg.nwkAddr d)).effects, Minor False call := by
    intro call member
    rcases List.mem_append.mp member with reaction | cleared
    · exact announce_reaction_minor msg d call reaction
    · exact clear_device_state_minor _ call cleared
  rw [announced_calls, moveCalls]
  generalize databaseCalls (announceReaction msg d) ++
    databaseCalls (clearDeviceState (announcedDevice msg.nwkAddr d)).effects = later at minor ⊢
  split_ifs with same
  · have all : ∀ call ∈ DatabaseCall.updateDeviceStatus d.ieeeaddr (backStatus d) :: later,
        Minor False call := List.forall_mem_cons.mpr ⟨trivial, minor⟩
    rw [List.nil_append, store_calls_shortaddr all, column, same]
  · have front : (storeCalls device [.updateDeviceStatus d.ieeeaddr (backStatus d),
        .updateDeviceShortaddr d.ieeeaddr msg.nwkAddr] row).shortaddr =
          some (sqlLiteral msg.nwkAddr.toNat) := rfl
    have split := store_calls_append device [.updateDeviceStatus d.ieeeaddr (backStatus d),
      .updateDeviceShortaddr d.ieeeaddr msg.nwkAddr] later row
    rw [List.cons_append, List.singleton_append] at split
    rw [List.singleton_append, split, store_calls_shortaddr minor, front, column_word]

theorem active_ep_calls_minor (msg : ActiveEpRspFormat) (d : Device) :
    ∀ call ∈ (changeOf (activeEpRsp msg d)).calls, Minor arms call := by
  unfold activeEpRsp
  split_ifs
  · exact no_minor
  · intro call member
    rcases List.mem_cons.mp member with first | later
    · rw [first]
      exact trivial
    · rw [List.mem_singleton.mp later]
      exact trivial

theorem set_zonetype_minor (endpoint : UInt8) (zonetype : UInt16) (d : Device) :
    ∀ call ∈ (changeOf (deviceSetZonetype endpoint zonetype d)).calls, Minor arms call := by
  unfold deviceSetZonetype
  split
  · apply one_minor
    exact trivial
  · split
    · exact no_minor
    · exact no_minor

theorem basic_attributes_minor {message : BasicMessage} {outcome : DeviceOutcome}
    (handled : BasicAttributes.basicAttributes message d = some outcome) :
    ∀ call ∈ databaseCalls outcome.effects, Minor arms call := by
  rcases basic_attributes_eq handled with ⟨attributes, names, rfl⟩
  intro call member
  rw [DeviceOutcome.andThen, database_calls_append] at member
  rcases List.mem_append.mp member with renames | last
  · exact renamed_minor names _ call renames
  · rw [List.mem_singleton.mp last]
    exact trivial

theorem report_minor (host : ZnpHost) (d : Device) :
    ∀ call ∈ (reportDevice host d).calls, Minor arms call := by
  unfold reportDevice
  split_ifs
  · exact no_minor
  · rcases name_new_device_eq host.stale d with ⟨names, named⟩
    rw [named]
    exact renamed_minor names d

theorem accept_zone_change_minor (sign : CharSign) (req : Zclzonechangenotification) (d : Device) :
    ∀ call ∈ (acceptZoneChange sign req d).calls, Minor arms call := by
  unfold acceptZoneChange
  split
  · exact no_minor
  · split
    · exact no_minor
    · split
      · exact one_minor trivial
      · exact no_minor

theorem accept_level_rsp_minor (response : Zcllevlctldefaultresponse) (d : Device) :
    ∀ call ∈ (acceptLevelRsp response d).calls, Minor arms call := by
  unfold acceptLevelRsp
  split
  · exact no_minor
  · split
    · exact one_minor trivial
    · exact no_minor

theorem znp_minor (host : ZnpHost) (message : ZnpMessage) (d : Device) :
    ∀ call ∈ (znpChange host message d).calls, Minor arms call := by
  cases message with
  | zoneEnrollReq ieeeaddr => exact report_minor host d
  | zoneChangeNotification req => exact accept_zone_change_minor host.sign req d
  | genOnoffRsp response => exact one_minor trivial
  | genLevelCtlRsp response => exact accept_level_rsp_minor response d
  | _ => exact no_minor

theorem command_minor (host : Host) (fd : Int) (command : Command) (d : Device) :
    ∀ call ∈ (commandChange command d).calls, Minor (Arms (.command host fd command)) call := by
  cases command with
  | setDeviceName deviceName => exact one_minor trivial
  | setArm parsed =>
      rw [commandChange]
      split
      · exact one_minor trivial
      · exact no_minor
  | _ => exact no_minor

/-- An input that announces no address and describes no endpoint. -/
def Plain : Input → Prop
  | .announce _ => False
  | .simpleDescRsp _ => False
  | _ => True

theorem plain_minor {input : Input} (plain : Plain input) {changed : DeviceChange}
    (changes : change input d = some changed) :
    ∀ call ∈ changed.calls, Minor (Arms input) call := by
  cases input with
  | announce msg => exact False.elim plain
  | simpleDescRsp msg => exact False.elim plain
  | activeEpRsp msg =>
      rw [change, Option.some.injEq] at changes
      exact changes ▸ active_ep_calls_minor msg d
  | leaveInd extAddr =>
      rw [change, Option.some.injEq] at changes
      rw [← changes, List.forall_mem_cons, List.forall_mem_map]
      exact ⟨trivial, fun _ _ => trivial⟩
  | enrollRequest srcAddr srcEndpoint zoneType =>
      rw [change, Option.some.injEq] at changes
      exact changes ▸ set_zonetype_minor srcEndpoint zoneType d
  | basicAttributes message =>
      rw [change, Option.map_eq_some_iff] at changes
      rcases changes with ⟨outcome, handled, rfl⟩
      exact basic_attributes_minor handled
  | znp host message =>
      rw [change, Option.some.injEq] at changes
      exact changes ▸ znp_minor host message d
  | command host fd command =>
      rw [change, Option.some.injEq] at changes
      exact changes ▸ command_minor host fd command d

/-- What a descriptor does: its endpoint is added, or added as the last one, or left out. -/
inductive Describes (msg : SimpleDescRspFormat) (d : Device) : DeviceChange → Prop
  | added (room : (countEndpoint msg.endpoint d).epcursor < d.activeep.activeEPCount) :
      Describes msg d ⟨deviceAddendpoint (countEndpoint msg.endpoint d) (describedEndpoint msg), []⟩
  | completed (last : (countEndpoint msg.endpoint d).epcursor = d.activeep.activeEPCount) :
      Describes msg d (changeOf (completeDevice
        (deviceAddendpoint (countEndpoint msg.endpoint d) (describedEndpoint msg))))
  | leftOut (full : d.activeep.activeEPCount < (countEndpoint msg.endpoint d).epcursor) :
      Describes msg d ⟨countEndpoint msg.endpoint d, []⟩

theorem count_endpoint_eq (endpoint : UInt8) (d : Device) :
    countEndpoint endpoint d = { d with epcursor := (countEndpoint endpoint d).epcursor } := by
  unfold countEndpoint deviceIncrease
  split_ifs
  · rfl
  · rfl

theorem describes (msg : SimpleDescRspFormat) (d : Device) :
    Describes msg d (changeOf (simpleDescRsp msg d)) := by
  have header : (countEndpoint msg.endpoint d).activeep = d.activeep := by
    rw [count_endpoint_eq]
  unfold simpleDescRsp
  dsimp only
  rw [header]
  split_ifs with room last
  · exact .added room
  · exact .completed last
  · rw [UInt8.not_lt] at room
    exact .leftOut (UInt8.lt_of_le_of_ne room (Ne.symm last))

theorem complete_device_change (d : Device) :
    changeOf (completeDevice d) =
      ⟨{ d with status := (d.status ||| deviceGetSimpledesc) ||| deviceActive },
        [.updateDeviceEndpoint d,
          .updateDeviceStatus d.ieeeaddr (d.status ||| deviceGetSimpledesc),
          .updateDeviceStatus d.ieeeaddr
            ((d.status ||| deviceGetSimpledesc) ||| deviceActive)]⟩ := rfl

end Calls

end SmartHome.RowChanges
