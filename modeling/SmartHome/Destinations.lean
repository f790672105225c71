import SmartHome.DiscoveryRestart
import SmartHome.DownCommand
import SmartHome.RowChanges
import SmartHome.Watching

/-!
# Where commands are sent

A device's short address is kept twice: with the device, where an announcement replaces
it, and in the descriptor of each endpoint, where nothing does. A warning is sent to the
second, all other commands to the first. Commands go to the address that was announced
last as long as a device with endpoints announces the address it has, each descriptor
carries it, and no name or text of a device has a quote in it.
-/

namespace SmartHome.Destinations

open SmartHome.Library.Bytes
open SmartHome.Library.CTypes
open SmartHome.Library.Mirroring
open SmartHome.Library.Runs
open SmartHome.Bytebuffer
open SmartHome.Registry
open SmartHome.PipeMessages
open SmartHome.Effects
open SmartHome.Encode
open SmartHome.EventRecvmsg
open SmartHome.EventRecvznp
open SmartHome.Zcl
open SmartHome.Parse
open SmartHome.DownCommand
open SmartHome.ZdoCallbacks
open SmartHome.DeviceNames
open SmartHome.BasicAttributes
open SmartHome.ZnpResponses
open SmartHome.EndpointBlob
open SmartHome.Sqlitedb
open SmartHome.BlobUpdates
open SmartHome.System
open SmartHome.Transitions
open SmartHome.StepCases
open SmartHome.EndpointChanges
open SmartHome.RowChanges
open SmartHome.ShortAddresses
open SmartHome.Discovery
open SmartHome.DiscoveryRestart
open SmartHome.Watching

set_option autoImplicit false

def learnAddress (_ : Gateway) : Event → Option UInt16 → Option UInt16
  | .input (.announce msg), _ => some msg.nwkAddr
  | _, note => note

/-- The device that a command is for; joining is permitted at the coordinator. -/
def commandDevice : ZnpCommand → Option UInt64
  | .identify command => some command.ieee
  | .warning command => some command.ieee
  | .onoff command => some command.ieee
  | .levelCtrl command => some command.ieee
  | .permitJoing _ => none
  | .configReport command => some command.ieee
  | .readOnoff command => some command.ieee

/-- Whatever is sent for a device goes to the address in its most recent announcement. -/
def Delivered (s : Watched (Option UInt16)) : Prop :=
  ∀ heap command ieee request, commandDevice command = some ieee →
    .afDataRequest request ∈ appProcess heap s.state.gateway command →
      s.notes ieee = some request.dstAddr

/-- A device with endpoints announces the address it has, and a descriptor that is taken carries the
address of its device. When the last one is taken, no more endpoints are counted than there are
descriptors in the list and places in the blob. -/
def Consistent (gw : Gateway) : Event → Prop
  | .input (.announce msg) =>
      ∀ d, gatewayGetdevice gw msg.ieeeAddr = some d → d.eplist ≠ [] → msg.nwkAddr = d.shortaddr
  | .input (.simpleDescRsp msg) =>
      msg.status = mtRpcSuccess → ∀ d, gatewayGetdeviceShortaddr gw msg.srcAddr = some d →
        let cursor := (countEndpoint msg.endpoint d).epcursor
        (cursor ≤ d.activeep.activeEPCount → msg.nwkAddr = d.shortaddr) ∧
          (cursor = d.activeep.activeEPCount →
            d.activeep.activeEPCount.toNat ≤ 77 ∧
              d.activeep.activeEPCount.toNat ≤ d.eplist.length + 1)
  | _ => True

def copiedAddr (record : Simpledesc) : UInt16 := record.simpledesc.nwkAddr

def copiedAddrs (d : Device) : List UInt16 := d.eplist.map fun ep => copiedAddr ep.simpledesc

/-- The blob counts no more records than it holds, and those carry the address. -/
def StoredFor (shortaddr : UInt16) (d : Device) (row : DeviceRow) : Prop :=
  ∃ header addrs, Carries copiedAddr header addrs row ∧
    header.activeEPCount.toNat ≤ addrs.length ∧
      (∀ addr ∈ addrs.take header.activeEPCount.toNat, addr = shortaddr) ∧
        (d.eplist = [] → header.activeEPCount = 0)

structure Copies (note : Option UInt16) (d : Device) (row : DeviceRow) : Prop where
  latest : note = some d.shortaddr
  column : (columnInt row.shortaddr).toUInt16 = d.shortaddr
  endpoints : ∀ addr ∈ copiedAddrs d, addr = d.shortaddr
  stored : StoredFor d.shortaddr d row

section Requests

variable {gw : Gateway} {request : DataRequest}

theorem level_ctrl_request_dst_addr {addrtype : AfAddr} {levelCtrl : LevelCtrlIeee}
    (sent : levelCtrlRequest addrtype levelCtrl = some request) :
    request.dstAddr = addrtype.shortAddr := by
  rcases level_ctrl_request_eq sent with ⟨cmd, buf, _, rfl⟩
  rfl

theorem sent_one {requests : List RadioRequest} {only : DataRequest}
    (whole : requests = [.afDataRequest only]) (sent : .afDataRequest request ∈ requests) :
    request = only := by
  rw [whole, List.mem_singleton] at sent
  exact RadioRequest.afDataRequest.inj sent

/-- A request goes to the address of its device, or to the copy in a descriptor. -/
theorem request_destination {heap : Memory} {command : ZnpCommand} {ieee : UInt64}
    (about : commandDevice command = some ieee)
    (sent : .afDataRequest request ∈ appProcess heap gw command) :
    ∃ d, gatewayGetdevice gw ieee = some d ∧
      (request.dstAddr = d.shortaddr ∨ request.dstAddr ∈ copiedAddrs d) := by
  cases here : gatewayGetdevice gw ieee with
  | none =>
      cases command <;> simp only [commandDevice, Option.some.injEq, reduceCtorEq] at about <;>
        subst about
      case warning command =>
          simp [appProcess, zclDownCmdWarning, gatewayGetEndpoint, here] at sent
      all_goals
        simp [appProcess, zclDownCmdIdentify, zclDownCmdOnoff, zclDownCmdLevelCtrl,
          zclDownCmdConfigReporting, zclDownCmdGetOnoff, here] at sent
  | some d =>
      refine ⟨d, rfl, ?_⟩
      cases command <;> simp only [commandDevice, Option.some.injEq, reduceCtorEq] at about <;>
        subst about
      case identify command =>
          rw [appProcess, zclDownCmdIdentify, here] at sent
          rw [sent_one rfl sent]
          exact Or.inl rfl
      case warning command =>
          rw [appProcess, zclDownCmdWarning, gateway_get_endpoint_eq here] at sent
          cases known : deviceGetEndpoint d command.warning.endpoint with
          | none =>
              rw [known] at sent
              exact absurd sent List.not_mem_nil
          | some ep =>
              rw [known] at sent
              rw [sent_one rfl sent]
              have member : ep ∈ d.eplist := List.mem_of_find?_eq_some known
              exact Or.inr (List.mem_map_of_mem member)
      case onoff command =>
          rw [appProcess, zclDownCmdOnoff, here] at sent
          dsimp only at sent
          split_ifs at sent
          · rw [sent_one rfl sent]
            exact Or.inl rfl
          · rw [sent_one rfl sent]
            exact Or.inl rfl
      case levelCtrl command =>
          rw [appProcess, zclDownCmdLevelCtrl, here] at sent
          rcases List.mem_map.mp sent with ⟨other, made, same⟩
          rw [← RadioRequest.afDataRequest.inj same]
          exact Or.inl (level_ctrl_request_dst_addr (Option.mem_toList.mp made))
      case configReport command =>
          rw [appProcess, zclDownCmdConfigReporting, here] at sent
          rw [sent_one rfl sent]
          exact Or.inl rfl
      case readOnoff command =>
          rw [appProcess, zclDownCmdGetOnoff, here] at sent
          rw [sent_one rfl sent]
          exact Or.inl rfl

end Requests

section Changes

variable {note : Option UInt16} {d : Device} {row : DeviceRow} {input : Input}
  {changed : DeviceChange}

theorem basic_attributes_shortaddr {message : BasicMessage} {outcome : DeviceOutcome}
    (handled : BasicAttributes.basicAttributes message d = some outcome) :
    outcome.device.shortaddr = d.shortaddr := by
  rcases basic_attributes_eq handled with ⟨attributes, names, rfl⟩
  rfl

theorem report_shortaddr (host : ZnpHost) (d : Device) :
    (reportDevice host d).device.shortaddr = d.shortaddr := by
  unfold reportDevice
  split_ifs
  · rfl
  · rcases name_new_device_eq host.stale d with ⟨names, named⟩
    rw [named]
    rfl

theorem znp_shortaddr (host : ZnpHost) (message : ZnpMessage) (d : Device) :
    (znpChange host message d).device.shortaddr = d.shortaddr := by
  cases message with
  | zoneEnrollReq ieeeaddr => exact report_shortaddr host d
  | zoneChangeNotification req =>
      rw [znpChange, acceptZoneChange]
      split
      · rfl
      · split
        · rfl
        · split
          · rfl
          · rfl
  | genLevelCtlRsp response => exact congrArg Device.shortaddr (accept_level_rsp_device response d)
  | _ => rfl

theorem command_shortaddr (command : Command) (d : Device) :
    (commandChange command d).device.shortaddr = d.shortaddr := by
  cases command with
  | setArm parsed =>
      rw [commandChange]
      split
      · rfl
      · rfl
  | levelCtrl levelCtrl =>
      rw [commandChange, levelEndpoint]
      split
      · rfl
      · rfl
  | _ => rfl

/-- Only an announcement moves a device. -/
theorem plain_shortaddr (plain : Plain input) (changes : change input d = some changed) :
    changed.device.shortaddr = d.shortaddr := by
  cases input with
  | announce msg => exact False.elim plain
  | simpleDescRsp msg => exact False.elim plain
  | activeEpRsp msg =>
      rw [change, Option.some.injEq] at changes
      rw [← changes, activeEpRsp]
      split_ifs
      · rfl
      · rfl
  | leaveInd extAddr =>
      rw [change, Option.some.injEq] at changes
      rw [← changes]
      rfl
  | enrollRequest srcAddr srcEndpoint zoneType =>
      rw [change, Option.some.injEq] at changes
      rw [← changes, deviceSetZonetype]
      split
      · rfl
      · split
        · rfl
        · rfl
  | basicAttributes message =>
      rw [change, Option.map_eq_some_iff] at changes
      rcases changes with ⟨outcome, handled, rfl⟩
      exact basic_attributes_shortaddr handled
  | znp host message =>
      rw [change, Option.some.injEq] at changes
      exact changes ▸ znp_shortaddr host message d
  | command host fd command =>
      rw [change, Option.some.injEq] at changes
      exact changes ▸ command_shortaddr command d

/-- Nothing but a descriptor changes the copies. -/
theorem copies_kept (plain : ∀ msg, input ≠ .simpleDescRsp msg)
    (changes : change input d = some changed) : copiedAddrs changed.device = copiedAddrs d := by
  rcases quiet_or_loud input with quiet | loud
  · exact (quiet_untouched (fun _ _ => rfl) (fun _ _ _ => rfl) quiet changes).endpoints
  · rw [change.eq_def] at changes
    cases loud with
    | simpleDescRsp msg => exact absurd rfl (plain msg)
    | enrollRequest srcAddr srcEndpoint zoneType =>
        rw [← Option.some.inj changes]
        exact set_zonetype_map (fun _ _ => rfl) srcEndpoint zoneType d
    | report host ieeeaddr =>
        rw [← Option.some.inj changes]
        exact report_map (fun _ _ => rfl) host d
    | levelCtrl host fd levelCtrl =>
        rw [← Option.some.inj changes]
        exact level_map (fun _ _ => rfl) levelCtrl d

theorem copied_addrs_eq_nil {d : Device} : copiedAddrs d = [] ↔ d.eplist = [] := List.map_eq_nil_iff

theorem records_copied (d : Device) : (records d).map copiedAddr = copiedAddrs d := List.map_map

theorem ignores_copies {call : DatabaseCall}
    (whole : ∀ stored, call ≠ .updateDeviceEndpoint stored) :
    Ignores copiedAddr call := by
  cases call with
  | updateDeviceEndpoint stored => exact absurd rfl (whole stored)
  | updateDeviceArm ieee endpoint arm => exact fun _ => rfl
  | updateDeviceSeq ieee endpoint seq => exact fun _ => rfl
  | updateDeviceState ieee endpoint state => exact fun _ => rfl
  | updateDeviceEndpointZonetype ieee endpoint zonetype => exact fun _ => rfl
  | _ => exact trivial

theorem StoredFor.kept {shortaddr : UInt16} (stored : StoredFor shortaddr d row) (device : Device)
    {calls : List DatabaseCall}
    (partially : ∀ call ∈ calls, ∀ whole, call ≠ .updateDeviceEndpoint whole)
    {after : Device} (copied : copiedAddrs after = copiedAddrs d) :
    StoredFor shortaddr after (storeCalls device calls row) := by
  rcases stored with ⟨header, addrs, carries, room, own, empty⟩
  have ignores : ∀ call ∈ calls, Ignores copiedAddr call :=
    fun call member => ignores_copies (partially call member)
  refine ⟨header, addrs, carries.store_calls device ignores, room, own, ?_⟩
  rw [← copied_addrs_eq_nil, copied, copied_addrs_eq_nil]
  exact empty

theorem minor_not_whole {arms : Prop} {call : DatabaseCall} (minor : Minor arms call)
    (whole : Device) :
    call ≠ .updateDeviceEndpoint whole := by
  rintro rfl
  exact minor

theorem announced_partially (msg : EndDeviceAnnceIndFormat) (d : Device) :
    ∀ call ∈ (changeOf (announced msg d)).calls, ∀ whole, call ≠ .updateDeviceEndpoint whole := by
  intro call member whole
  rcases announced_call member with ⟨status, rfl⟩ | rfl | ⟨ep, _, _, rfl⟩
  · exact DatabaseCall.noConfusion
  · exact DatabaseCall.noConfusion
  · exact DatabaseCall.noConfusion

theorem Copies.plain (copies : Copies note d row) (plain : Plain input)
    (changes : change input d = some changed) :
    Copies note changed.device (storeCalls changed.device changed.calls row) := by
  have described : ∀ msg, input ≠ .simpleDescRsp msg := by
    rintro msg rfl
    exact plain
  have kept := copies_kept described changes
  have minor := plain_minor plain changes
  have shortaddr := plain_shortaddr plain changes
  constructor
  · rw [shortaddr]
    exact copies.latest
  · rw [store_calls_shortaddr minor, shortaddr]
    exact copies.column
  · rw [kept, shortaddr]
    exact copies.endpoints
  · rw [shortaddr]
    apply copies.stored.kept changed.device _ kept
    exact fun call member => minor_not_whole (minor call member)

theorem Copies.announce (copies : Copies note d row) (msg : EndDeviceAnnceIndFormat)
    (same : d.eplist ≠ [] → msg.nwkAddr = d.shortaddr) (device : Device) :
    Copies (some msg.nwkAddr) (announced msg d).device
      (storeCalls device (changeOf (announced msg d)).calls row) := by
  have kept : copiedAddrs (announced msg d).device = copiedAddrs d :=
    copies_kept (fun _ => Input.noConfusion) (rfl : change (.announce msg) d = some _)
  have shortaddr : (announced msg d).device.shortaddr = msg.nwkAddr := announced_shortaddr msg d
  have stored : StoredFor msg.nwkAddr d row := by
    by_cases empty : d.eplist = []
    · rcases copies.stored with ⟨header, addrs, carries, room, _, none⟩
      refine ⟨header, addrs, carries, room, ?_, none⟩
      rw [none empty, UInt8.toNat_zero, List.take_zero]
      intro addr member
      cases member
    · rw [same empty]
      exact copies.stored
  constructor
  · rw [shortaddr]
  · rw [shortaddr]
    exact announced_column device copies.column msg
  · rw [kept, shortaddr]
    intro addr member
    have endpoints : d.eplist ≠ [] := by
      rintro none
      rw [copied_addrs_eq_nil.mpr none] at member
      cases member
    rw [same endpoints]
    exact copies.endpoints addr member
  · rw [shortaddr]
    exact stored.kept device (announced_partially msg d) kept

theorem copied_addrs_added (d : Device) (msg : SimpleDescRspFormat) :
    copiedAddrs (deviceAddendpoint d (describedEndpoint msg)) = copiedAddrs d ++ [msg.nwkAddr] := by
  rw [copiedAddrs, deviceAddendpoint, List.map_append]
  rfl

theorem Copies.congr (copies : Copies note d row) {after : Device}
    (shortaddr : after.shortaddr = d.shortaddr) (eplist : after.eplist = d.eplist) :
    Copies note after row := by
  have kept : copiedAddrs after = copiedAddrs d := congrArg (List.map _) eplist
  constructor
  · rw [shortaddr]
    exact copies.latest
  · rw [shortaddr]
    exact copies.column
  · rw [kept, shortaddr]
    exact copies.endpoints
  · rw [StoredFor, eplist, shortaddr]
    exact copies.stored

theorem Copies.add (copies : Copies note d row) {msg : SimpleDescRspFormat}
    (same : msg.nwkAddr = d.shortaddr) :
    Copies note (deviceAddendpoint d (describedEndpoint msg)) row := by
  constructor
  · exact copies.latest
  · exact copies.column
  · rw [copied_addrs_added]
    intro addr member
    rcases List.mem_append.mp member with before | new
    · exact copies.endpoints addr before
    · rw [List.mem_singleton.mp new]
      exact same
  · rcases copies.stored with ⟨header, addrs, carries, room, own, _⟩
    refine ⟨header, addrs, carries, room, own, ?_⟩
    intro none
    exact absurd none (List.append_ne_nil_of_right_ne_nil d.eplist (List.cons_ne_nil _ _))

theorem Copies.complete (copies : Copies note d row)
    (places : d.activeep.activeEPCount.toNat ≤ 77)
    (counted : d.activeep.activeEPCount.toNat ≤ d.eplist.length) :
    let completed := changeOf (completeDevice d)
    Copies note completed.device (storeCalls completed.device completed.calls row) := by
  rcases copies.stored with ⟨header, addrs, carries, _, _, _⟩
  have written := carries_store_endpoints copiedAddr d carries.size
  have size : (((records d).take 77).map copiedAddr).length = min 77 d.eplist.length := by
    rw [List.length_map, List.length_take, records, List.length_map]
  intro completed
  have shortaddr : (storeCalls completed.device completed.calls row).shortaddr = row.shortaddr :=
    rfl
  constructor
  · exact copies.latest
  · rw [shortaddr]
    exact copies.column
  · exact copies.endpoints
  · refine ⟨d.activeep, _, written.store_status d.ieeeaddr completed.device _ _, ?_, ?_, ?_⟩
    · rw [size]
      omega
    · intro addr member
      have inside := List.mem_of_mem_take member
      rw [List.map_take, records_copied] at inside
      exact copies.endpoints addr (List.mem_of_mem_take inside)
    · intro none
      have empty : d.eplist = [] := none
      rw [empty] at counted
      exact UInt8.toNat_inj.mp (Nat.le_zero.mp counted)

theorem Copies.describe (copies : Copies note d row) {msg : SimpleDescRspFormat}
    {described : DeviceChange} (outcome : Describes msg d described)
    (taken : (countEndpoint msg.endpoint d).epcursor ≤ d.activeep.activeEPCount →
      msg.nwkAddr = d.shortaddr)
    (last : (countEndpoint msg.endpoint d).epcursor = d.activeep.activeEPCount →
      d.activeep.activeEPCount.toNat ≤ 77 ∧
        d.activeep.activeEPCount.toNat ≤ d.eplist.length + 1) :
    Copies note described.device (storeCalls described.device described.calls row) := by
  have same := count_endpoint_eq msg.endpoint d
  have counted : Copies note (countEndpoint msg.endpoint d) row := by
    rw [same]
    exact copies.congr rfl rfl
  have shortaddr : (countEndpoint msg.endpoint d).shortaddr = d.shortaddr := by
    rw [same]
  cases outcome with
  | added room =>
      have own := taken (UInt8.le_of_lt room)
      exact counted.add (own.trans shortaddr.symm)
  | completed full =>
      rcases last full with ⟨places, listed⟩
      have own := taken (UInt8.le_of_eq full)
      apply (counted.add (own.trans shortaddr.symm)).complete
      · rw [deviceAddendpoint, same]
        exact places
      · rw [deviceAddendpoint, List.length_append, List.length_singleton, same]
        exact listed
  | leftOut full => exact counted

theorem Copies.load (copies : Copies note d row) :
    Copies note (loadRow (deviceKey d, row)) row := by
  rcases copies.stored with ⟨header, addrs, carries, room, own, empty⟩
  have shortaddr : (loadRow (deviceKey d, row)).shortaddr = d.shortaddr := by
    rcases carries.load room (deviceKey d) with ⟨_, _, loaded⟩
    rw [loaded]
    exact copies.column
  have copied : copiedAddrs (loadRow (deviceKey d, row)) =
      addrs.take header.activeEPCount.toNat := by
    rw [← records_copied]
    exact carries.load_records room (deviceKey d)
  constructor
  · rw [shortaddr]
    exact copies.latest
  · rw [shortaddr]
    exact copies.column
  · rw [copied, shortaddr]
    exact own
  · refine ⟨header, addrs, carries, room, ?_, ?_⟩
    · rw [shortaddr]
      exact own
    · rw [← copied_addrs_eq_nil, copied, List.take_eq_nil_iff]
      rintro (none | nothing)
      · exact UInt8.toNat_inj.mp none
      · rw [nothing, List.length_nil] at room
        exact UInt8.toNat_inj.mp (Nat.le_zero.mp room)

end Changes

section Runs

variable {s : Watched (Option UInt16)}

theorem copies_created (msg : EndDeviceAnnceIndFormat) :
    Copies (some msg.nwkAddr) (createdBy msg).device
      (storeCalls (createdBy msg).device (createdBy msg).calls (newRow msg.nwkAddr)) := by
  have column : columnInt (newRow msg.nwkAddr).shortaddr =
      columnInt (some (sqlLiteral msg.nwkAddr.toNat)) := by
    rw [sql_literal_eq]
    rfl
  have blob := (carries_new copiedAddr msg.nwkAddr).store_status msg.ieeeAddr
    (createdBy msg).device 0 deviceSendActiveep
  rw [created_by_eq] at blob ⊢
  constructor
  · rfl
  · change (columnInt (newRow msg.nwkAddr).shortaddr).toUInt16 = msg.nwkAddr
    rw [column, column_word]
  · intro addr member
    cases member
  · refine ⟨noActiveep, [], blob, Nat.le_refl 0, ?_, fun _ => rfl⟩
    intro addr member
    cases member

theorem copies_changed {gw : Gateway} {note : Option UInt16} {d : Device} {row : DeviceRow}
    {input : Input} {changed : DeviceChange} (consistent : Consistent gw (.input input))
    (here : gw.devices.find? (finds gw.gatewayid input) = some d)
    (changes : change input d = some changed) (before : Copies note d row) :
    Copies (learnAddress gw (.input input) note) changed.device
      (storeCalls changed.device changed.calls row) := by
  cases input with
  | announce msg =>
      rw [change, Option.some.injEq] at changes
      exact changes ▸ before.announce msg (consistent d here) _
  | simpleDescRsp msg =>
      have found := List.find?_some here
      have success : msg.status = mtRpcSuccess := (of_decide_eq_true found).2
      rcases consistent success d (found_shortaddr here) with ⟨taken, last⟩
      rw [change, Option.some.injEq] at changes
      exact before.describe (changes ▸ describes msg d) taken last
  | _ =>
      apply before.plain _ changes
      exact trivial

theorem noted_delivered (noted : Noted Copies s) : Delivered s := by
  intro heap command ieee request about sent
  rcases request_destination about sent with ⟨d, found, address⟩
  rcases noted.device (List.mem_of_find?_eq_some found) with ⟨row, copies⟩
  rw [gateway_getdevice_ieeeaddr found] at copies
  rw [copies.latest]
  rcases address with own | copied
  · rw [own]
  · rw [copies.endpoints _ copied]

/-- In every run whose events are consistent and whose statements have no quotes in their texts,
through restarts as well, each command reaches the address that its device has announced last. -/
theorem commands_reach_announced_address
    (reachable : Reachable (watch learnAddress)
      (fun s event => Consistent s.state.gateway event ∧ QuoteFree s.state.gateway event)
      (fun s => Fresh s.state) s) : Delivered s := by
  apply noted_delivered
  apply reachable.invariant
  · rintro start ⟨devices, table⟩
    rw [Noted, devices, table]
    exact Mirrors.empty
  · intro s event next noted consistent watched
    apply watch_noted noted watched
    · rintro msg rfl _
      exact copies_created msg
    · rintro input d changed row rfl here changes before
      exact copies_changed consistent.1 here changes before
    · intro _ note d row before
      exact before.load

end Runs

def JoinEvent : Event → Prop
  | .input (.announce _) => True
  | .input (.activeEpRsp _) => True
  | .input (.simpleDescRsp _) => True
  | .restart => True
  | _ => False

def nobodyAnnounced : Watched (Option UInt16) := ⟨freshGateway, fun _ => none⟩

def sirenDescriptor : SimpleDescRspFormat :=
  { descriptorOf 1 with deviceID := zclHaDeviceidIasWarningDevice }

def sirenJoins : List Event :=
  [.input (.announce firstAnnounce), .input (.activeEpRsp (singleList 1 1)),
    .input (.simpleDescRsp sirenDescriptor)]

/-- After a restart the siren still gets its commands. -/
theorem commands_reach_announced_address_siren :
    ∃ s, run (watch learnAddress) nobodyAnnounced (sirenJoins ++ [.restart]) = some s ∧
      Delivered s := by
  have started : Reachable (watch learnAddress)
      (fun s event => Consistent s.state.gateway event ∧ QuoteFree s.state.gateway event)
      (fun s => Fresh s.state) nobodyAnnounced := .start ⟨rfl, rfl⟩
  have consistent : Meets (watch learnAddress) (fun s event => Consistent s.state.gateway event)
      nobodyAnnounced (sirenJoins ++ [.restart]) := by
    refine ⟨?_, fun joined first => ⟨trivial, fun listed second => ⟨?_, fun _ _ =>
      ⟨trivial, fun _ _ => trivial⟩⟩⟩⟩
    · intro d found
      cases found
    · rw [← Option.some.inj first] at second
      rw [← Option.some.inj second]
      intro _ d found
      rw [← Option.some.inj found]
      exact ⟨fun _ => rfl, fun _ => ⟨by decide, by decide⟩⟩
  have free : (run (guarded (watch learnAddress) fun s event => QuoteFree s.state.gateway event)
      nobodyAnnounced (sirenJoins ++ [.restart])).isSome := by
    decide +kernel
  rcases Option.isSome_iff_exists.mp free with ⟨s, ran⟩
  rcases run_of_run_guarded ran with ⟨unquoted, reached⟩
  exact ⟨s, reached, commands_reach_announced_address
    (reachable_run started (meets_and consistent unquoted) reached)⟩

def soundSiren : WarningIeee := ⟨firstSwitch, 7, 1, 1, 0, 3, 60, 0, 0⟩

/-- The siren comes back with the address 2, and the warning for it is sent to 1. -/
theorem warning_to_former_address :
    ¬∀ s, Reachable (watch learnAddress) (fun _ event => JoinEvent event)
      (fun s => Fresh s.state) s → Delivered s := by
  intro delivered
  have started : Reachable (watch learnAddress) (fun _ event => JoinEvent event)
      (fun s => Fresh s.state) nobodyAnnounced := .start ⟨rfl, rfl⟩
  have meets : Meets (watch learnAddress) (fun _ event => JoinEvent event) nobodyAnnounced
      (sirenJoins ++ [.input (.announce ⟨2, 2, firstSwitch⟩)]) := by
    apply meets_of_forall
    simp only [sirenJoins, List.cons_append, List.nil_append, List.forall_mem_cons, JoinEvent,
      implies_true, List.not_mem_nil, false_implies, and_self]
  have stale : (run (watch learnAddress) nobodyAnnounced
      (sirenJoins ++ [.input (.announce ⟨2, 2, firstSwitch⟩)])).map
        (fun s => (zclDownCmdWarning s.state.gateway firstSwitch soundSiren.warning,
          s.notes firstSwitch)) =
      some ([.afDataRequest (zclssSendIasWdStartWarningCmd appDevicetypeidSsEndpoint 1 1
        soundSiren.warning.startWarning 0 7)], some 2) := by
    decide +kernel
  rcases Option.map_eq_some_iff.mp stale with ⟨s, ran, outcome⟩
  rw [Prod.mk.injEq] at outcome
  rcases outcome with ⟨requests, announced⟩
  have sent : RadioRequest.afDataRequest (zclssSendIasWdStartWarningCmd appDevicetypeidSsEndpoint 1
      1 soundSiren.warning.startWarning 0 7) ∈
        appProcess (fun _ => 0) s.state.gateway (.warning soundSiren) := by
    rw [appProcess]
    exact requests ▸ List.mem_singleton_self _
  have reached := delivered s (reachable_run started meets ran) _ _ firstSwitch _ rfl sent
  rw [announced] at reached
  exact absurd reached (by decide)

end SmartHome.Destinations
