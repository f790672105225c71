import SmartHome.Transitions

/-!
# The cases of a step

A change keeps the address of its device, and its database calls are for that device
alone. So a step is one of five things: a restart, a new device with its row, a
device and its row gone, a device and its row changed, or nothing.
-/

namespace SmartHome.StepCases

open SmartHome.Library.CTypes
open SmartHome.Library.Tables
open SmartHome.Library.Mirroring
open SmartHome.Registry
open SmartHome.PipeMessages
open SmartHome.Effects
open SmartHome.EventRecvznp
open SmartHome.EventRecvmsg
open SmartHome.ZdoCallbacks
open SmartHome.DeviceNames
open SmartHome.BasicAttributes
open SmartHome.ZnpResponses
open SmartHome.Sqlitedb
open SmartHome.System
open SmartHome.Transitions

set_option autoImplicit false

def deviceKey (d : Device) : Int := bindKey d.ieeeaddr

theorem device_key_eq_iff (d : Device) (ieee : UInt64) :
    deviceKey d = bindKey ieee ↔ d.ieeeaddr = ieee := bind_key_inj

def Local (d : Device) (changed : DeviceChange) : Prop :=
  changed.device.ieeeaddr = d.ieeeaddr ∧ ∀ call ∈ changed.calls, target call = some d.ieeeaddr

section Locality

variable {d : Device}

theorem local_calls (device : Device) (kept : device.ieeeaddr = d.ieeeaddr)
    {calls : List DatabaseCall} (named : ∀ call ∈ calls, target call = some d.ieeeaddr) :
    Local d ⟨device, calls⟩ := ⟨kept, named⟩

theorem local_no_calls (device : Device) (kept : device.ieeeaddr = d.ieeeaddr) :
    Local d ⟨device, []⟩ := ⟨kept, fun _ member => absurd member List.not_mem_nil⟩

theorem local_one_call (device : Device) (kept : device.ieeeaddr = d.ieeeaddr)
    {call : DatabaseCall} (named : target call = some d.ieeeaddr) : Local d ⟨device, [call]⟩ := by
  refine ⟨kept, ?_⟩
  intro other member
  rw [List.mem_singleton.mp member]
  exact named

theorem local_and_then {first : DeviceOutcome} {next : Device → DeviceOutcome}
    (here : Local d (changeOf first)) (later : ∀ e, Local e (changeOf (next e))) :
    Local d (changeOf (first.andThen next)) := by
  have kept : first.device.ieeeaddr = d.ieeeaddr := here.1
  constructor
  · exact (later first.device).1.trans kept
  · intro call member
    have split : call ∈ databaseCalls first.effects ∨
        call ∈ databaseCalls (next first.device).effects := by
      have whole : call ∈ databaseCalls (first.effects ++ (next first.device).effects) := member
      rw [database_calls_append] at whole
      exact List.mem_append.mp whole
    rcases split with front | back
    · exact here.2 call front
    · exact ((later first.device).2 call back).trans (congrArg some kept)

theorem announce_status_local (d : Device) : Local d (changeOf (announceStatus d)) :=
  local_one_call _ rfl rfl

theorem announce_shortaddr_local (nwkAddr : UInt16) (d : Device) :
    Local d (changeOf (announceShortaddr nwkAddr d)) := by
  unfold announceShortaddr
  split
  · exact local_one_call _ rfl rfl
  · exact local_no_calls _ rfl

theorem announce_transnum_local (d : Device) : Local d (changeOf (announceTransnum d)) := by
  unfold announceTransnum
  split
  · exact local_no_calls _ rfl
  · exact local_no_calls _ rfl

theorem announce_discovery_local (msg : EndDeviceAnnceIndFormat) (d : Device) :
    Local d (changeOf (announceDiscovery msg d)) := by
  unfold announceDiscovery
  split
  · exact local_one_call _ rfl rfl
  · split
    · exact local_no_calls _ rfl
    · exact local_no_calls _ rfl

theorem clear_device_state_local (d : Device) : Local d (changeOf (clearDeviceState d)) := by
  apply local_calls _ rfl
  intro call member
  rw [clearDeviceState, databaseCalls, List.filterMap_map, List.mem_filterMap] at member
  rcases member with ⟨ep, _, made⟩
  have shape : call = .updateDeviceState d.ieeeaddr ep.number 0 := (Option.some.inj made).symm
  rw [shape]
  rfl

theorem announced_local (msg : EndDeviceAnnceIndFormat) (d : Device) :
    Local d (changeOf (announced msg d)) := by
  apply local_and_then (announce_status_local d)
  intro d
  apply local_and_then (announce_shortaddr_local msg.nwkAddr d)
  intro d
  apply local_and_then (announce_transnum_local d)
  intro d
  exact local_and_then (announce_discovery_local msg d) clear_device_state_local

theorem device_set_status_local (status : UInt32) (d : Device) :
    Local d (changeOf (deviceSetStatus status d)) := local_one_call _ rfl rfl

theorem active_ep_rsp_local (msg : ActiveEpRspFormat) (d : Device) :
    Local d (changeOf (activeEpRsp msg d)) := by
  unfold activeEpRsp
  split
  · exact local_no_calls _ rfl
  · apply local_and_then (device_set_status_local deviceSendSimpledesc d)
    intro d
    apply local_and_then (device_set_status_local deviceGetActiveep d)
    intro d
    exact local_no_calls _ rfl

theorem count_endpoint_ieeeaddr (endpoint : UInt8) (d : Device) :
    (countEndpoint endpoint d).ieeeaddr = d.ieeeaddr := by
  unfold countEndpoint
  split
  · rfl
  · rfl

theorem complete_device_local (d : Device) : Local d (changeOf (completeDevice d)) := by
  apply local_and_then (local_one_call _ rfl rfl)
  intro d
  apply local_and_then (device_set_status_local deviceGetSimpledesc d)
  intro d
  apply local_and_then (local_no_calls _ rfl)
  intro d
  apply local_and_then (device_set_status_local deviceActive d)
  intro d
  exact local_no_calls _ rfl

theorem simple_desc_rsp_local (msg : SimpleDescRspFormat) (d : Device) :
    Local d (changeOf (simpleDescRsp msg d)) := by
  have counted := count_endpoint_ieeeaddr msg.endpoint d
  unfold simpleDescRsp
  dsimp only
  split
  · exact local_no_calls _ counted
  · split
    · have completed := complete_device_local
        (deviceAddendpoint (countEndpoint msg.endpoint d) (describedEndpoint msg))
      exact ⟨completed.1.trans counted,
        fun call member => (completed.2 call member).trans (congrArg some counted)⟩
    · exact local_no_calls _ counted

theorem device_set_zonetype_local (endpoint : UInt8) (zonetype : UInt16) (d : Device) :
    Local d (changeOf (deviceSetZonetype endpoint zonetype d)) := by
  unfold deviceSetZonetype
  split
  · exact local_one_call _ rfl rfl
  · split
    · exact local_no_calls _ rfl
    · exact local_no_calls _ rfl

theorem renamed_local (names : List (CString maxnamelen)) (d : Device) :
    Local d (changeOf (renamed names d)) := by
  apply local_calls _ rfl
  intro call member
  rw [renamed, databaseCalls, List.filterMap_map, List.mem_filterMap] at member
  rcases member with ⟨name, _, made⟩
  have shape : call = .updateDevicename d.ieeeaddr name.text := (Option.some.inj made).symm
  rw [shape]
  rfl

theorem basic_attributes_local {message : BasicMessage} {d : Device} {outcome : DeviceOutcome}
    (handled : BasicAttributes.basicAttributes message d = some outcome) :
    Local d (changeOf outcome) := by
  rcases basic_attributes_eq handled with ⟨attributes, names, rfl⟩
  apply local_and_then
  · exact renamed_local names (withAttributes d attributes)
  · intro d
    exact local_one_call _ rfl rfl

theorem report_device_local (host : ZnpHost) (d : Device) : Local d (reportDevice host d) := by
  unfold reportDevice
  split
  · exact local_no_calls _ rfl
  · rcases name_new_device_eq host.stale d with ⟨names, named⟩
    rw [named]
    exact renamed_local names d

theorem accept_zone_change_local (sign : CharSign) {req : Zclzonechangenotification} {d : Device}
    (here : d.ieeeaddr = req.ieeeaddr) : Local d (acceptZoneChange sign req d) := by
  unfold acceptZoneChange
  split
  · exact local_no_calls _ rfl
  · split
    · exact local_no_calls _ rfl
    · split
      · exact local_one_call _ rfl (congrArg some here.symm)
      · exact local_no_calls _ rfl

theorem accept_level_rsp_local {response : Zcllevlctldefaultresponse} {d : Device}
    (here : d.ieeeaddr = response.ieeeaddr) : Local d (acceptLevelRsp response d) := by
  unfold acceptLevelRsp
  split
  · exact local_no_calls _ rfl
  · split
    · exact local_one_call _ rfl (congrArg some here.symm)
    · exact local_no_calls _ rfl

theorem leave_device_local {extAddr : UInt64} {d : Device} (here : d.ieeeaddr = extAddr) :
    Local d ⟨leaveDevice d, .updateDeviceStatus extAddr (leaveDevice d).status ::
      d.eplist.map fun ep => .updateDeviceSeq extAddr ep.number 0⟩ := by
  apply local_calls (leaveDevice d) rfl
  intro call member
  rcases List.mem_cons.mp member with first | later
  · rw [first]
    exact congrArg some here.symm
  · rcases List.mem_map.mp later with ⟨ep, _, rfl⟩
    exact congrArg some here.symm

theorem znp_change_local (host : ZnpHost) {message : ZnpMessage} {d : Device}
    (found : znpFinds message d = true) : Local d (znpChange host message d) := by
  cases message with
  | zoneEnrollReq ieeeaddr => exact report_device_local host d
  | zoneChangeNotification req => exact accept_zone_change_local host.sign (of_decide_eq_true found)
  | genOnoffRsp response =>
      exact local_one_call _ rfl (congrArg some (of_decide_eq_true found).symm)
  | genLevelCtlRsp response => exact accept_level_rsp_local (of_decide_eq_true found)
  | generalDefaultRsp response => cases found
  | readOnoffRsp response => cases found
  | warningRsp response => cases found
  | basicStatus status => cases found

theorem level_endpoint_ieeeaddr (levelCtrl : LevelCtrlIeee) (d : Device) :
    (levelEndpoint levelCtrl d).ieeeaddr = d.ieeeaddr := by
  unfold levelEndpoint
  split
  · rfl
  · rfl

theorem command_change_local {gatewayid : UInt64} {command : Command} {d : Device}
    (found : commandFinds gatewayid command d = true) : Local d (commandChange command d) := by
  cases command with
  | setDeviceName deviceName =>
      have here := (of_decide_eq_true found).1
      exact local_one_call _ rfl (congrArg some here.symm)
  | setArm parsed =>
      have here : d.ieeeaddr = parsed.ieee := of_decide_eq_true found
      rw [commandChange]
      split
      · exact local_one_call _ rfl (congrArg some here.symm)
      · exact local_no_calls _ rfl
  | levelCtrl levelCtrl => exact local_no_calls _ (level_endpoint_ieeeaddr levelCtrl d)
  | _ => cases found

/-- Every change stays with the device its input is about. -/
theorem change_local {gatewayid : UInt64} {input : Input} {d : Device} {changed : DeviceChange}
    (found : finds gatewayid input d = true) (changes : change input d = some changed) :
    Local d changed := by
  cases input with
  | announce msg =>
      rw [change, Option.some.injEq] at changes
      exact changes ▸ announced_local msg d
  | activeEpRsp msg =>
      rw [change, Option.some.injEq] at changes
      exact changes ▸ active_ep_rsp_local msg d
  | simpleDescRsp msg =>
      rw [change, Option.some.injEq] at changes
      exact changes ▸ simple_desc_rsp_local msg d
  | leaveInd extAddr =>
      rw [change, Option.some.injEq] at changes
      exact changes ▸ leave_device_local (of_decide_eq_true found)
  | enrollRequest srcAddr srcEndpoint zoneType =>
      rw [change, Option.some.injEq] at changes
      exact changes ▸ device_set_zonetype_local srcEndpoint zoneType d
  | basicAttributes message =>
      rw [change, Option.map_eq_some_iff] at changes
      rcases changes with ⟨outcome, handled, rfl⟩
      exact basic_attributes_local handled
  | znp host message =>
      rw [change, Option.some.injEq] at changes
      exact changes ▸ znp_change_local host found
  | command host fd command =>
      rw [change, Option.some.injEq] at changes
      exact changes ▸ command_change_local found

end Locality

def createdBy (msg : EndDeviceAnnceIndFormat) : DeviceChange :=
  changeOf (announced msg (deviceCreate msg.ieeeAddr msg.nwkAddr))

theorem created_by_eq (msg : EndDeviceAnnceIndFormat) :
    createdBy msg =
      ⟨{ deviceCreate msg.ieeeAddr msg.nwkAddr with status := deviceSendActiveep },
        [.updateDeviceStatus msg.ieeeAddr 0,
          .updateDeviceStatus msg.ieeeAddr deviceSendActiveep]⟩ := by
  have status : announceStatus (deviceCreate msg.ieeeAddr msg.nwkAddr) =
      ⟨deviceCreate msg.ieeeAddr msg.nwkAddr,
        [updateDeviceStatus (deviceCreate msg.ieeeAddr msg.nwkAddr)]⟩ := by
    have zero : ((0 : UInt32) &&& ~~~deviceAppDel) &&& ~~~deviceLeaveNet = 0 := by decide
    have cleared : ((deviceCreate msg.ieeeAddr msg.nwkAddr).status &&& ~~~deviceAppDel) &&&
        ~~~deviceLeaveNet = (deviceCreate msg.ieeeAddr msg.nwkAddr).status := zero
    rw [announceStatus, cleared]
  have shortaddr : announceShortaddr msg.nwkAddr (deviceCreate msg.ieeeAddr msg.nwkAddr) =
      .done (deviceCreate msg.ieeeAddr msg.nwkAddr) := if_neg (not_not.mpr rfl)
  have transnum : announceTransnum (deviceCreate msg.ieeeAddr msg.nwkAddr) =
      .done (deviceCreate msg.ieeeAddr msg.nwkAddr) := rfl
  have discovery : announceDiscovery msg (deviceCreate msg.ieeeAddr msg.nwkAddr) =
      ⟨{ deviceCreate msg.ieeeAddr msg.nwkAddr with status := deviceSendActiveep },
        [.database (.updateDeviceStatus msg.ieeeAddr deviceSendActiveep),
          .zdo (.activeEpReq msg.srcAddr msg.nwkAddr)]⟩ := by
    have sent : ((deviceCreate msg.ieeeAddr msg.nwkAddr).status ||| deviceSendActiveep) &&&
        ~~~deviceSendSimpledesc = deviceSendActiveep := by
      have bits : ((0 : UInt32) ||| deviceSendActiveep) &&& ~~~deviceSendSimpledesc =
          deviceSendActiveep := by decide
      exact bits
    have empty : (deviceCreate msg.ieeeAddr msg.nwkAddr).eplist = [] := rfl
    rw [announceDiscovery, if_pos (Or.inr empty), sent]
    rfl
  rw [createdBy, announced, status]
  simp only [DeviceOutcome.andThen, shortaddr, DeviceOutcome.done, transnum, discovery]
  rfl

/-- What a step does to the device list and to the table. -/
inductive Transition (s next : GatewayState) : Event → Prop
  | restarted (same : next = s.restarted) : Transition s next .restart
  | created {msg : EndDeviceAnnceIndFormat}
      (absent : gatewayGetdevice s.gateway msg.ieeeAddr = none)
      (devices : next.gateway.devices = s.gateway.devices ++ [(createdBy msg).device])
      (table : next.table = s.table.insert (bindKey msg.ieeeAddr)
        (storeCalls (createdBy msg).device (createdBy msg).calls (newRow msg.nwkAddr))) :
      Transition s next (.input (.announce msg))
  | deleted {host : Host} {fd : Int} {delDevice : DelDevice}
      (devices : next.gateway.devices =
        s.gateway.devices.eraseP (deviceKey · = bindKey delDevice.ieee))
      (table : next.table = s.table.delete (bindKey delDevice.ieee)) :
      Transition s next (.input (.command host fd (.delDevice delDevice)))
  | changed {input : Input} {d : Device} {changed : DeviceChange}
      (deletes : ¬Deletes s.gateway input)
      (here : s.gateway.devices.find? (finds s.gateway.gatewayid input) = some d)
      (changes : change input d = some changed)
      (devices : next.gateway.devices =
        modifyFirst (deviceKey · = deviceKey d) (fun _ => changed.device) s.gateway.devices)
      (table : next.table =
        s.table.update (deviceKey d) (storeCalls changed.device changed.calls)) :
      Transition s next (.input input)
  | kept {input : Input} (creates : ¬Creates s.gateway input)
      (deletes : ¬Deletes s.gateway input)
      (missing : s.gateway.devices.find? (finds s.gateway.gatewayid input) = none)
      (devices : next.gateway.devices = s.gateway.devices) (table : next.table = s.table) :
      Transition s next (.input input)

theorem modify_found {found : Device → Bool} {devices : List Device} {d : Device}
    (distinct : (devices.map deviceKey).Nodup) (here : devices.find? found = some d)
    (change : Device → Device) :
    modifyFirst found change devices = modifyFirst (deviceKey · = deviceKey d) change devices := by
  induction devices with
  | nil => rfl
  | cons head rest induction =>
      have split := List.nodup_cons.mp distinct
      unfold modifyFirst
      by_cases holds : found head = true
      · rw [List.find?_cons_of_pos holds, Option.some.injEq] at here
        subst here
        simp [holds]
      · rw [List.find?_cons_of_neg holds] at here
        have other : deviceKey head ≠ deviceKey d := by
          intro same
          exact split.1 (same ▸ List.mem_map_of_mem (List.mem_of_find?_eq_some here))
        simp [holds, other, induction split.2 here]

theorem find_device_key (gw : Gateway) (ieee : UInt64) :
    findKey deviceKey (bindKey ieee) gw.devices = gatewayGetdevice gw ieee := by
  have search : (fun d => decide (deviceKey d = bindKey ieee)) =
      fun d : Device => decide (d.ieeeaddr = ieee) := by
    funext d
    exact decide_eq_decide.mpr (device_key_eq_iff d ieee)
  rw [findKey, search]
  rfl

theorem getdevice_of_mem {gw : Gateway} (distinct : (gw.devices.map deviceKey).Nodup) {d : Device}
    (member : d ∈ gw.devices) : gatewayGetdevice gw d.ieeeaddr = some d := by
  rw [← find_device_key]
  exact find_key_of_mem distinct member

section Steps

variable {related : Device → DeviceRow → Prop} {s next : GatewayState}

theorem run_call_absent (gw : Gateway) {table : DeviceTable} {ieee : UInt64}
    (absent : table.lookup (bindKey ieee) = none) {call : DatabaseCall}
    (named : target call = some ieee) : runCall gw table call = table := by
  cases call <;> simp only [target, Option.some.injEq, reduceCtorEq] at named <;> subst named
  case updateDeviceEndpointZonetype ieee endpoint zonetype =>
      rw [runCall]
      cases here : gatewayGetdevice gw ieee with
      | none => rfl
      | some d =>
          rw [← gateway_getdevice_ieeeaddr here] at absent
          exact update_absent absent _
  case updateDevicename ieee name =>
      rw [← text_key_eq] at absent
      exact update_absent absent _
  case updateDeviceStatus ieee status =>
      rw [← text_key_eq] at absent
      exact update_absent absent _
  case updateDeviceShortaddr ieee shortaddr =>
      rw [← text_key_eq] at absent
      exact update_absent absent _
  case updateDeviceAttr d =>
      rw [← text_key_eq] at absent
      exact update_absent absent _
  all_goals exact update_absent absent _

theorem run_calls_idle (mirrored : Mirrors deviceKey related s.gateway.devices s.table)
    (gw : Gateway) {calls : List DatabaseCall} (idle : ∀ call ∈ calls, Idle s.gateway call) :
    runCalls gw calls s.table = s.table := by
  induction calls with
  | nil => rfl
  | cons call calls induction =>
      have first : runCall gw s.table call = s.table := by
        rcases idle call List.mem_cons_self with ⟨mac, name, rfl⟩ | ⟨ieee, named, missing⟩
        · rfl
        · apply run_call_absent gw _ named
          exact (mirrored.absent_iff _).mp ((find_device_key s.gateway ieee).trans missing)
      have later : ∀ other ∈ calls, Idle s.gateway other := by
        intro other member
        exact idle other (List.mem_cons_of_mem call member)
      have split : runCalls gw (call :: calls) s.table =
          runCalls gw calls (runCall gw s.table call) := rfl
      rw [split, first, induction later]

theorem getdevice_modified {gw : Gateway} (distinct : (gw.devices.map deviceKey).Nodup)
    {d changed : Device} (member : d ∈ gw.devices) (kept : changed.ieeeaddr = d.ieeeaddr)
    {after : Gateway}
    (devices : after.devices = modifyFirst (deviceKey · = deviceKey d) (fun _ => changed) gw.devices) :
    gatewayGetdevice after d.ieeeaddr = some changed := by
  have same : deviceKey changed = deviceKey d := congrArg bindKey kept
  rw [← find_device_key, devices]
  have here : findKey deviceKey (deviceKey d) gw.devices = some d :=
    find_key_of_mem distinct member
  have kept_key : ∀ other, deviceKey other = deviceKey d → deviceKey changed = deviceKey d :=
    fun _ _ => same
  change findKey deviceKey (deviceKey d) _ = _
  rw [find_key_modify (deviceKey d) (deviceKey d) _ kept_key, if_pos rfl, here]
  rfl

theorem created_step (mirrored : Mirrors deviceKey related s.gateway.devices s.table)
    {msg : EndDeviceAnnceIndFormat} (absent : gatewayGetdevice s.gateway msg.ieeeAddr = none) :
    let next := s.after (mtZdoEndDeviceAnnceIndCb s.gateway msg)
    next.gateway.devices = s.gateway.devices ++ [(createdBy msg).device] ∧
      gatewayGetdevice next.gateway msg.ieeeAddr = some (createdBy msg).device ∧
      next.table = s.table.insert (bindKey msg.ieeeAddr)
        (storeCalls (createdBy msg).device (createdBy msg).calls (newRow msg.nwkAddr)) := by
  intro next
  have outcome : mtZdoEndDeviceAnnceIndCb s.gateway msg =
      ⟨gatewayAdddevice s.gateway (createdBy msg).device,
        .database (.insertDeviceIeee msg.ieeeAddr msg.nwkAddr) ::
          (announced msg (deviceCreate msg.ieeeAddr msg.nwkAddr)).effects⟩ := by
    unfold mtZdoEndDeviceAnnceIndCb
    rw [absent]
    rfl
  have stays : Local (deviceCreate msg.ieeeAddr msg.nwkAddr) (createdBy msg) := announced_local msg _
  have here : gatewayGetdevice (gatewayAdddevice s.gateway (createdBy msg).device) msg.ieeeAddr =
      some (createdBy msg).device := by
    have last : [(createdBy msg).device].find? (·.ieeeaddr = msg.ieeeAddr) =
        some (createdBy msg).device := List.find?_cons_of_pos (decide_eq_true stays.1)
    unfold gatewayGetdevice at absent ⊢
    rw [gatewayAdddevice, List.find?_append, absent, last]
    rfl
  have noRow : s.table.lookup (bindKey msg.ieeeAddr) = none :=
    (mirrored.absent_iff _).mp ((find_device_key s.gateway msg.ieeeAddr).trans absent)
  have after : next = s.after _ := congrArg s.after outcome
  rw [after]
  refine ⟨rfl, here, ?_⟩
  change runCalls _ (createdBy msg).calls (s.table.insert _ _) = _
  rw [run_calls_eq here _ _ stays.2, insert_update noRow]

theorem deleted_transition {host : Host} {fd : Int} {delDevice : DelDevice}
    (present : gatewayGetdevice s.gateway delDevice.ieee ≠ none) :
    Transition s
      (s.after (outcomeOf (handleCommand (succeeding s.gateway host) fd (.delDevice delDevice)
        (stateOf s.gateway))))
      (.input (.command host fd (.delDevice delDevice))) := by
  rcases Option.ne_none_iff_exists'.mp present with ⟨d, here⟩
  have address := gateway_getdevice_ieeeaddr here
  have search : (fun d : Device => decide (d.ieeeaddr = delDevice.ieee)) =
      fun d => decide (deviceKey d = bindKey delDevice.ieee) := by
    funext other
    exact decide_eq_decide.mpr (device_key_eq_iff other delDevice.ieee).symm
  have deleted : handleCommand (succeeding s.gateway host) fd (.delDevice delDevice)
      (stateOf s.gateway) = handleDelDevice delDevice (stateOf s.gateway) := rfl
  rw [deleted, handleDelDevice, stateOf]
  simp only [here]
  apply Transition.deleted
  · exact congrArg (s.gateway.devices.eraseP ·) search
  · change sqlitedbDeleteDevice _ (sqlitedbUpdateDeviceStatus _ _ s.table) = _
    rw [sqlitedbDeleteDevice, sqlitedbUpdateDeviceStatus, text_key_eq, text_key_eq, address,
      update_delete]

/-- What a step can do, guards and database included. -/
theorem step_cases (mirrored : Mirrors deviceKey related s.gateway.devices s.table) {event : Event}
    (stepped : step s event = some next) : Transition s next event := by
  cases event with
  | restart => exact .restarted (Option.some.inj stepped).symm
  | input input =>
      rw [step, Option.map_eq_some_iff] at stepped
      rcases stepped with ⟨outcome, ran, rfl⟩
      by_cases creates : Creates s.gateway input
      · cases input <;> try exact False.elim creates
        rw [handle, Option.some.injEq] at ran
        rw [← ran]
        have created := created_step mirrored creates
        exact .created creates created.1 created.2.2
      by_cases deletes : Deletes s.gateway input
      · cases input <;> try exact False.elim deletes
        rename_i host fd command
        cases command <;> try exact False.elim deletes
        rw [handle, Option.some.injEq] at ran
        rw [← ran]
        exact deleted_transition deletes
      have handled := handle_cases ran creates deletes
      unfold Handled at handled
      cases here : s.gateway.devices.find? (finds s.gateway.gatewayid input) with
      | none =>
          rw [here] at handled
          exact .kept creates deletes here handled.1 (run_calls_idle mirrored _ handled.2)
      | some d =>
          rw [here] at handled
          rcases handled with ⟨changed, changes, devices, calls⟩
          have found := List.find?_some here
          have member := List.mem_of_find?_eq_some here
          have stays := change_local found changes
          have byKey := modify_found mirrored.distinct here fun _ => changed.device
          have after := getdevice_modified mirrored.distinct member stays.1 (devices.trans byKey)
          apply Transition.changed deletes here changes (devices.trans byKey)
          rw [GatewayState.after, calls, run_calls_eq after s.table changed.calls stays.2]
          rfl

theorem load_row_key (mirrored : Mirrors deviceKey related s.gateway.devices s.table)
    {row : Int × DeviceRow} (member : row ∈ s.table.rows) : deviceKey (loadRow row) = row.1 := by
  have key : row.1 ∈ s.gateway.devices.map deviceKey :=
    (mirrored.mem_keys_iff row.1).mpr (List.mem_map_of_mem member)
  rcases List.mem_map.mp key with ⟨d, _, same⟩
  rw [deviceKey, load_row_ieeeaddr, ← same, deviceKey, of_int_bind_key]

def subject (gw : Gateway) : Event → Option UInt64
  | .restart => none
  | .input (.announce msg) => some msg.ieeeAddr
  | .input (.command _ _ (.delDevice delDevice)) =>
      (gatewayGetdevice gw delDevice.ieee).map (·.ieeeaddr)
  | .input input => (gw.devices.find? (finds gw.gatewayid input)).map (·.ieeeaddr)

theorem subject_found {gw : Gateway} {input : Input} {d : Device}
    (here : gw.devices.find? (finds gw.gatewayid input) = some d) :
    subject gw (.input input) = some d.ieeeaddr := by
  have found := List.find?_some here
  cases input with
  | announce msg => exact congrArg some (of_decide_eq_true found).symm
  | command host fd command =>
      cases command with
      | delDevice delDevice => cases found
      | _ => exact congrArg (Option.map Device.ieeeaddr) here
  | _ => exact congrArg (Option.map Device.ieeeaddr) here

theorem subject_kept {gw : Gateway} {input : Input} (creates : ¬Creates gw input)
    (deletes : ¬Deletes gw input)
    (missing : gw.devices.find? (finds gw.gatewayid input) = none) :
    subject gw (.input input) = none := by
  cases input with
  | announce msg => exact absurd missing creates
  | command host fd command =>
      cases command with
      | delDevice delDevice => exact congrArg (Option.map Device.ieeeaddr) (not_not.mp deletes)
      | _ => exact congrArg (Option.map Device.ieeeaddr) missing
  | _ => exact congrArg (Option.map Device.ieeeaddr) missing

theorem found_shortaddr {gw : Gateway} {d : Device} {msg : SimpleDescRspFormat}
    (here : gw.devices.find? (finds gw.gatewayid (.simpleDescRsp msg)) = some d) :
    gatewayGetdeviceShortaddr gw msg.srcAddr = some d := by
  have found := List.find?_some here
  have success : msg.status = mtRpcSuccess := (of_decide_eq_true found).2
  have search : finds gw.gatewayid (.simpleDescRsp msg) =
      fun d => decide (d.shortaddr = msg.srcAddr) := by
    funext other
    exact decide_eq_decide.mpr ⟨And.left, fun address => ⟨address, success⟩⟩
  rw [search] at here
  exact here

/-- The rule for relations between a device and its row that may change with the device an event is
about: what a new device, a change and a restart keep for one device, a step keeps for all. -/
theorem step_mirrors_about {after : Device → DeviceRow → Prop}
    (mirrored : Mirrors deviceKey related s.gateway.devices s.table) {event : Event}
    (stepped : step s event = some next)
    (others : ∀ d row, subject s.gateway event ≠ some d.ieeeaddr → related d row → after d row)
    (created : ∀ msg, event = .input (.announce msg) →
      gatewayGetdevice s.gateway msg.ieeeAddr = none →
      after (createdBy msg).device
        (storeCalls (createdBy msg).device (createdBy msg).calls (newRow msg.nwkAddr)))
    (changed : ∀ input d changed row, event = .input input →
      s.gateway.devices.find? (finds s.gateway.gatewayid input) = some d →
      subject s.gateway event = some d.ieeeaddr → change input d = some changed → related d row →
      after changed.device (storeCalls changed.device changed.calls row))
    (loaded : event = .restart → ∀ d row, related d row → after (loadRow (deviceKey d, row)) row) :
    Mirrors deviceKey after next.gateway.devices next.table := by
  cases step_cases mirrored stepped with
  | restarted same =>
      subst same
      have devices : s.restarted.gateway.devices = s.table.rows.map loadRow := by
        rw [GatewayState.restarted, sqlitedb_load_device_eq]
        rfl
      rw [devices]
      apply Mirrors.load
      · intro row member
        exact load_row_key mirrored member
      · intro row member
        have pair := mirrored.paired row.1
        rw [(mem_rows_iff s.table row.1 row.2).mp member] at pair
        cases found : findKey deviceKey row.1 s.gateway.devices with
        | none =>
            rw [found] at pair
            cases pair
        | some d =>
            rw [found] at pair
            cases pair with
            | some holds =>
                have here := loaded rfl d row.2 holds
                rw [find_key_key found] at here
                exact here
  | @created msg absent devices table =>
      have stays : Local (deviceCreate msg.ieeeAddr msg.nwkAddr) (createdBy msg) :=
        announced_local msg _
      have key : deviceKey (createdBy msg).device = bindKey msg.ieeeAddr :=
        congrArg bindKey stays.1
      have nobody := (find_device_key s.gateway msg.ieeeAddr).trans absent
      rw [devices, table, ← key]
      apply Mirrors.append _ _ (created msg rfl absent)
      · apply mirrored.imp
        intro d row own
        apply others
        intro same
        rw [(device_key_eq_iff d msg.ieeeAddr).mpr (Option.some.inj same).symm, nobody] at own
        cases own
      · rw [key]
        exact nobody
  | @deleted host fd delDevice devices table =>
      rw [devices, table]
      apply (mirrored.erase _).imp
      intro d row own
      rw [find_key_erase mirrored.distinct] at own
      split_ifs at own with same
      apply others
      intro about
      have looked : (gatewayGetdevice s.gateway delDevice.ieee).map (·.ieeeaddr) =
          some d.ieeeaddr := about
      rcases Option.map_eq_some_iff.mp looked with ⟨other, found, equal⟩
      rw [gateway_getdevice_ieeeaddr found] at equal
      exact same ((device_key_eq_iff d delDevice.ieee).mpr equal.symm)
  | @changed input d moved deletes here changes devices table =>
      have found := List.find?_some here
      have member := List.mem_of_find?_eq_some here
      have about := subject_found here
      have stays := change_local found changes
      have key : deviceKey moved.device = deviceKey d := congrArg bindKey stays.1
      rw [devices, table]
      apply mirrored.modify (deviceKey d) (fun _ _ => key)
      · intro other row different
        apply others
        rw [about]
        intro same
        exact different (congrArg bindKey (Option.some.inj same).symm)
      · intro other row looked _ before
        rw [find_key_of_mem mirrored.distinct member, Option.some.injEq] at looked
        rw [← looked] at before
        exact changed input d moved row rfl here about changes before
  | kept creates deletes missing devices table =>
      rw [devices, table]
      apply mirrored.imp
      intro d row _
      apply others
      rw [subject_kept creates deletes missing]
      exact (Option.some_ne_none _).symm

theorem step_mirrors (mirrored : Mirrors deviceKey related s.gateway.devices s.table)
    {event : Event}
    (stepped : step s event = some next)
    (created : ∀ msg, event = .input (.announce msg) →
      gatewayGetdevice s.gateway msg.ieeeAddr = none →
      related (createdBy msg).device
        (storeCalls (createdBy msg).device (createdBy msg).calls (newRow msg.nwkAddr)))
    (changed : ∀ input d changed row, event = .input input → d ∈ s.gateway.devices →
      finds s.gateway.gatewayid input d = true → change input d = some changed → related d row →
      related changed.device (storeCalls changed.device changed.calls row))
    (loaded : event = .restart → ∀ d row, related d row → related (loadRow (deviceKey d, row)) row) :
    Mirrors deviceKey related next.gateway.devices next.table := by
  apply step_mirrors_about mirrored stepped _ created _ loaded
  · intro d row _ before
    exact before
  · intro input d after row same here _ changes before
    exact changed input d after row same (List.mem_of_find?_eq_some here) (List.find?_some here)
      changes before

end Steps

end SmartHome.StepCases
