import SmartHome.DiscoveryRestart
import SmartHome.RowChanges
import SmartHome.Watching

/-!
# The state of outlets and shades

The state of an endpoint is kept in memory, where the login message takes it from, and
in the blob of its device. A level command writes the first before any answer, an on/off
response writes the second whatever its status, and an announcement clears the second
for outlets. The two agree with the state that was acknowledged last exactly as long as
every write finds the value that it writes.
-/

namespace SmartHome.DeviceStates

open SmartHome.Library.Blobs
open SmartHome.Library.CTypes
open SmartHome.Library.Mirroring
open SmartHome.Library.Runs
open SmartHome.Library.Tables
open SmartHome.Registry
open SmartHome.PipeMessages
open SmartHome.Effects
open SmartHome.Encode
open SmartHome.EventRecvmsg
open SmartHome.EventRecvznp
open SmartHome.Parse
open SmartHome.ZdoCallbacks
open SmartHome.ZnpResponses
open SmartHome.EndpointBlob
open SmartHome.Sqlitedb
open SmartHome.BlobUpdates
open SmartHome.System
open SmartHome.Transitions
open SmartHome.StepCases
open SmartHome.EndpointChanges
open SmartHome.RowChanges
open SmartHome.ShortAddresses
open SmartHome.Discovery
open SmartHome.DiscoveryRestart
open SmartHome.Watching

set_option autoImplicit false

/-- What is observed: a response to a level command together with the level it acknowledges, if the
command carried one. -/
inductive StateEvent
  | onoff (host : Host) (fd : Int) (command : OnoffIeee)
  | levelCtrl (host : Host) (fd : Int) (command : LevelCtrlIeee)
  | onoffRsp (host : ZnpHost) (response : Zclgeneraldefaultresponse)
  | levelRsp (host : ZnpHost) (response : Zcllevlctldefaultresponse) (answered : Option UInt8)
  | announce (msg : EndDeviceAnnceIndFormat)
  | restart

def StateEvent.event : StateEvent → Event
  | .onoff host fd command => .input (.command host fd (.onoff command))
  | .levelCtrl host fd command => .input (.command host fd (.levelCtrl command))
  | .onoffRsp host response => .input (.znp host (.genOnoffRsp response))
  | .levelRsp host response _ => .input (.znp host (.genLevelCtlRsp response))
  | .announce msg => .input (.announce msg)
  | .restart => .restart

/-- The state that each endpoint of a device has acknowledged last. -/
abbrev Acknowledged := UInt8 → UInt8

def acknowledge (acknowledged : Acknowledged) (endpoint state : UInt8) : Acknowledged :=
  fun other => if other = endpoint then state else acknowledged other

/-- A success acknowledges the command: off and on are the states 0 and 1, as their ids are. -/
def learnState (_ : Gateway) : StateEvent → Acknowledged → Acknowledged
  | .onoffRsp _ response, acknowledged =>
      if response.status = 0 then acknowledge acknowledged response.endpoint response.cmdInd
      else acknowledged
  | .levelRsp _ response (some level), acknowledged =>
      if response.status = 0 then acknowledge acknowledged response.endpoint level
      else acknowledged
  | _, acknowledged => acknowledged

def showsState (record : Simpledesc) : Bool :=
  record.simpledesc.deviceID = zclHaDeviceidMainsPowerOutlet ∨
    record.simpledesc.deviceID = zclHaDeviceidShade

/-- The state in memory, the byte in the database and the acknowledged state of each outlet and
shade of a device. -/
def Agree (acknowledged : Acknowledged) (d : Device) (row : DeviceRow) : Prop :=
  ∀ index record, (records d)[index]? = some record → showsState record = true →
    byteAt row.endpoint (fieldPosition index (.state 0)) = record.deviceState ∧
      acknowledged record.simpledesc.endpoint = record.deviceState

def Agreement (s : Watched Acknowledged) : Prop :=
  ∀ d ∈ s.state.gateway.devices, ∃ row, s.state.table.lookup (deviceKey d) = some row ∧
    Agree (s.notes d.ieeeaddr) d row

/-- A write of this state to an endpoint finds it there already, if it is an outlet or a shade. -/
def Stays (d : Device) (endpoint state : UInt8) : Prop :=
  ∀ ep, deviceGetEndpoint d endpoint = some ep → showsState ep.simpledesc = true →
    state = ep.simpledesc.deviceState

def Shown (d : Device) (endpoint state : UInt8) : Prop :=
  ∀ record ∈ records d, record.simpledesc.endpoint = endpoint → showsState record = true →
    state = record.deviceState

/-- A level command has the current state in its first byte; the command id of an on/off response,
and the level that is acknowledged, are the current state; and the outlets of a device that
announces itself are off. -/
def Harmless (s : Watched Acknowledged) : StateEvent → Prop
  | .onoff _ _ _ => True
  | .levelCtrl _ _ command =>
      ∀ d, gatewayGetdevice s.state.gateway command.ieee = some d →
        deviceCheckStatus d deviceAppDel = false →
          Stays d command.endpoint (move2levelLevel command.levelCtrlCmd)
  | .onoffRsp _ response =>
      ∀ d, gatewayGetdevice s.state.gateway response.ieeeaddr = some d →
        Stays d response.endpoint response.cmdInd ∧
          (response.status = 0 → Shown d response.endpoint response.cmdInd)
  | .levelRsp _ response answered =>
      ∀ d, gatewayGetdevice s.state.gateway response.ieeeaddr = some d → response.status = 0 →
        ∀ level, answered = some level → Shown d response.endpoint level
  | .announce msg =>
      ∀ d, gatewayGetdevice s.state.gateway msg.ieeeAddr = some d →
        ∀ ep ∈ d.eplist, ep.deviceID = zclHaDeviceidMainsPowerOutlet → Stays d ep.number 0
  | .restart => True

/-- What of a record matters: its endpoint, its type, and the state if it is shown. -/
def visible (record : Simpledesc) : UInt8 × UInt16 × Option UInt8 :=
  (record.simpledesc.endpoint, record.simpledesc.deviceID,
    if showsState record then some record.deviceState else none)

/-- The blob holds the endpoints of the device, and the states are the acknowledged ones. -/
structure InAgreement (acknowledged : Acknowledged) (d : Device) (row : DeviceRow) : Prop where
  blob : ∃ header, Carries visible header ((records d).map visible) row ∧
    header.activeEPCount.toNat = d.eplist.length
  states : ∀ shown ∈ (records d).map visible, ∀ state, shown.2.2 = some state →
    acknowledged shown.1 = state

section Positions

variable {d : Device} {endpoint : UInt8}

theorem endpoint_of_index {index : Nat} (position : deviceGetIndex d endpoint = some index) :
    ∃ ep, deviceGetEndpoint d endpoint = some ep ∧ (records d)[index]? = some ep.simpledesc := by
  rcases List.findIdx?_eq_some_iff_getElem.mp position with ⟨bound, own, first⟩
  refine ⟨d.eplist[index], ?_, ?_⟩
  · apply List.find?_eq_some_iff_getElem.mpr
    refine ⟨own, index, bound, rfl, ?_⟩
    intro earlier before
    simpa using first earlier before
  · rw [records, List.getElem?_map, List.getElem?_eq_getElem bound]
    rfl

theorem index_of_endpoint {ep : Endpoint} (known : deviceGetEndpoint d endpoint = some ep) :
    ∃ index, deviceGetIndex d endpoint = some index ∧
      (records d)[index]? = some ep.simpledesc := by
  cases position : deviceGetIndex d endpoint with
  | none =>
      have missing := List.findIdx?_eq_none_iff.mp position ep (List.mem_of_find?_eq_some known)
      have own := List.find?_some known
      exact absurd own (by simpa using missing)
  | some index =>
      rcases endpoint_of_index position with ⟨other, found, here⟩
      rw [known, Option.some.injEq] at found
      subst found
      exact ⟨index, rfl, here⟩

end Positions

section Agreed

variable {acknowledged : Acknowledged} {d : Device} {row : DeviceRow}

theorem visible_state {record : Simpledesc} (shows : showsState record = true) :
    (visible record).2.2 = some record.deviceState := if_pos shows

theorem visible_shows {record other : Simpledesc} (same : visible record = visible other) :
    showsState record = showsState other := by
  have kind : record.simpledesc.deviceID = other.simpledesc.deviceID := congrArg (·.2.1) same
  rw [showsState, showsState, kind]

theorem visible_eq {record other : Simpledesc} (same : visible record = visible other)
    (shows : showsState other = true) :
    record.simpledesc.endpoint = other.simpledesc.endpoint ∧
      record.deviceState = other.deviceState := by
  have number := congrArg Prod.fst same
  have state := congrArg (·.2.2) same
  refine ⟨number, ?_⟩
  simp only [visible, if_pos shows] at state
  split_ifs at state
  exact Option.some.inj state

/-- A state that a record shows, or that it does not show, is not seen when it is written. -/
theorem visible_store_state {record : Simpledesc} {state : UInt8}
    (same : showsState record = true → state = record.deviceState) :
    visible ((RecordField.state state).store record) = visible record := by
  have kind : showsState ((RecordField.state state).store record) = showsState record := rfl
  unfold visible
  rw [kind]
  split_ifs with shows
  · rw [same shows]
    rfl
  · rfl

theorem InAgreement.agree (agreed : InAgreement acknowledged d row) : Agree acknowledged d row := by
  rcases agreed.blob with ⟨header, carries, counted⟩
  rcases carries.stored with ⟨stored, stores, same⟩
  intro index record here shows
  have member : visible record ∈ (records d).map visible :=
    List.mem_map_of_mem (List.mem_of_getElem? here)
  have twin : (stored.map visible)[index]? = some (visible record) := by
    rw [same, List.getElem?_map, here]
    rfl
  rw [List.getElem?_map, Option.map_eq_some_iff] at twin
  rcases twin with ⟨copy, there, equal⟩
  constructor
  · rw [stores.state_byte there]
    exact (visible_eq equal shows).2
  · exact agreed.states _ member _ (visible_state shows)

theorem numbers_visible (d : Device) : ((records d).map visible).map (·.1) = numbers d := by
  rw [records, List.map_map, List.map_map]
  rfl

theorem stays_congr {after : Device} (same : (records after).map visible = (records d).map visible)
    {endpoint state : UInt8} (stays : Stays d endpoint state) : Stays after endpoint state := by
  intro ep known shows
  rcases index_of_endpoint known with ⟨index, position, here⟩
  have numbers_same : numbers after = numbers d := by
    rw [← numbers_visible, same, numbers_visible]
  rw [device_get_index_numbers, numbers_same, ← device_get_index_numbers] at position
  rcases endpoint_of_index position with ⟨before, found, there⟩
  have twins := congrArg (·[index]?) same
  simp only [List.getElem?_map, here, there, Option.map_some, Option.some.injEq] at twins
  have equal := visible_eq twins.symm shows
  have shows_before := (visible_shows twins).symm.trans shows
  rw [stays before found shows_before, equal.2]

def Unseen (d : Device) : DatabaseCall → Prop
  | .updateDeviceState _ endpoint state => Stays d endpoint state
  | call => Ignores visible call

theorem store_call_unseen {header : ActiveEpRspFormat} {call : DatabaseCall}
    (unseen : Unseen d call)
    (carries : Carries visible header ((records d).map visible) row) :
    Carries visible header ((records d).map visible) (storeCall d call row) := by
  cases call with
  | updateDeviceState ieee endpoint state =>
      apply carries.store_field
      intro index record position here
      rcases endpoint_of_index position with ⟨ep, known, there⟩
      rw [List.getElem?_map, there, Option.map_some, Option.some.injEq] at here
      apply visible_store_state
      intro shows
      have shows_here := (visible_shows here).trans shows
      rw [unseen ep known shows_here]
      exact (visible_eq here shows).2
  | _ => exact carries.store_call d unseen

theorem InAgreement.next (agreed : InAgreement acknowledged d row) {after : Device}
    {calls : List DatabaseCall} {later : Acknowledged}
    (kept : (records after).map visible = (records d).map visible)
    (unseen : ∀ call ∈ calls, Unseen after call)
    (learnt : ∀ shown ∈ (records d).map visible, ∀ state, shown.2.2 = some state →
      later shown.1 = state) :
    InAgreement later after (storeCalls after calls row) := by
  rcases agreed.blob with ⟨header, carries, counted⟩
  have length := congrArg List.length kept
  simp only [records, List.length_map] at length
  constructor
  · refine ⟨header, ?_, counted.trans length.symm⟩
    rw [← kept] at carries
    clear agreed counted
    induction calls generalizing row with
    | nil => exact carries
    | cons call calls induction =>
        rcases List.forall_mem_cons.mp unseen with ⟨first, others⟩
        exact induction others (store_call_unseen first carries)
  · rw [kept]
    exact learnt

end Agreed

section Events

variable {acknowledged : Acknowledged} {d : Device} {row : DeviceRow}

theorem acknowledge_shown {endpoint state : UInt8}
    (states : ∀ shown ∈ (records d).map visible, ∀ state, shown.2.2 = some state →
      acknowledged shown.1 = state) (same : Shown d endpoint state) :
    ∀ shown ∈ (records d).map visible, ∀ current, shown.2.2 = some current →
      acknowledge acknowledged endpoint state shown.1 = current := by
  intro shown member current holds
  rcases List.mem_map.mp member with ⟨record, inside, rfl⟩
  unfold acknowledge
  split_ifs with own
  · have shows : showsState record = true := by
      by_contra hidden
      rw [visible, if_neg hidden] at holds
      cases holds
    rw [visible_state shows, Option.some.injEq] at holds
    rw [same record inside own shows]
    exact holds
  · exact states _ member current holds

theorem level_visible {levelCtrl : LevelCtrlIeee}
    (stays : deviceCheckStatus d deviceAppDel = false →
      Stays d levelCtrl.endpoint (move2levelLevel levelCtrl.levelCtrlCmd)) :
    (records (levelEndpoint levelCtrl d)).map visible = (records d).map visible := by
  unfold levelEndpoint
  split_ifs with deleted
  · rfl
  · have present := stays (Bool.eq_false_iff.mpr deleted)
    rw [records, records, List.map_map, List.map_map]
    apply map_modify_found
    intro ep known
    exact visible_store_state (present ep known)

theorem announced_visible (msg : EndDeviceAnnceIndFormat) (d : Device) :
    (records (announced msg d).device).map visible = (records d).map visible := by
  have untouched := @announced_untouched _ (visible ∘ Endpoint.simpledesc) (fun _ _ => rfl) msg d
  rw [records, records, List.map_map, List.map_map]
  exact untouched.endpoints

/-- No call of an announcement is seen if the outlets are off. -/
theorem announced_unseen {msg : EndDeviceAnnceIndFormat}
    (off : ∀ ep ∈ d.eplist, ep.deviceID = zclHaDeviceidMainsPowerOutlet → Stays d ep.number 0) :
    ∀ call ∈ (changeOf (announced msg d)).calls, Unseen (announced msg d).device call := by
  intro call member
  rcases announced_call member with ⟨status, rfl⟩ | rfl | ⟨ep, inside, outlet, rfl⟩
  · exact trivial
  · exact trivial
  · exact stays_congr (announced_visible msg d) (off ep inside outlet)

theorem level_rsp_unseen (response : Zcllevlctldefaultresponse) (d : Device) :
    ∀ call ∈ (acceptLevelRsp response d).calls, Unseen d call := by
  unfold acceptLevelRsp
  cases known : deviceGetEndpoint d response.endpoint with
  | none =>
      intro call member
      cases member
  | some ep =>
      simp only
      split_ifs
      · intro call member
        rw [List.mem_singleton.mp member]
        intro other found _
        rw [known, Option.some.injEq] at found
        rw [found]
      · intro call member
        cases member

theorem agreed_changed {s : Watched Acknowledged} {seen : StateEvent} {input : Input}
    {changed : DeviceChange} (harmless : Harmless s seen) (same : seen.event = .input input)
    (here : s.state.gateway.devices.find? (finds s.state.gateway.gatewayid input) = some d)
    (changes : change input d = some changed) (agreed : InAgreement acknowledged d row) :
    InAgreement (learnState s.state.gateway seen acknowledged) changed.device
      (storeCalls changed.device changed.calls row) := by
  cases seen with
  | onoff host fd command =>
      rw [← Event.input.inj same] at here
      cases List.find?_some here
  | levelCtrl host fd command =>
      rw [← Event.input.inj same] at here changes
      rw [change, Option.some.injEq] at changes
      rw [← changes]
      apply agreed.next
      · exact level_visible (harmless d here)
      · intro call member
        cases member
      · exact agreed.states
  | onoffRsp host response =>
      rw [← Event.input.inj same] at here changes
      rw [change, Option.some.injEq] at changes
      rw [← changes]
      rcases harmless d here with ⟨stays, shown⟩
      apply agreed.next
      · rfl
      · intro call member
        rw [List.mem_singleton.mp member]
        exact stays
      · rw [learnState]
        split_ifs with success
        · exact acknowledge_shown agreed.states (shown success)
        · exact agreed.states
  | levelRsp host response answered =>
      rw [← Event.input.inj same] at here changes
      rw [change, Option.some.injEq] at changes
      have device := accept_level_rsp_device response d
      rw [← changes]
      apply agreed.next
      · exact congrArg (fun d => (records d).map visible) device
      · intro call member
        exact device.symm ▸ level_rsp_unseen response d call member
      · cases answered with
        | none => exact agreed.states
        | some level =>
            rw [learnState]
            split_ifs with success
            · exact acknowledge_shown agreed.states (harmless d here success level rfl)
            · exact agreed.states
  | announce msg =>
      rw [← Event.input.inj same] at here changes
      rw [change, Option.some.injEq] at changes
      rw [← changes]
      exact agreed.next (announced_visible msg d) (announced_unseen (harmless d here)) agreed.states
  | restart => cases same

theorem agreed_created (acknowledged : Acknowledged) (msg : EndDeviceAnnceIndFormat) :
    InAgreement acknowledged (createdBy msg).device
      (storeCalls (createdBy msg).device (createdBy msg).calls (newRow msg.nwkAddr)) := by
  have blob := (carries_new visible msg.nwkAddr).store_status msg.ieeeAddr
    (createdBy msg).device 0 deviceSendActiveep
  rw [created_by_eq] at blob ⊢
  constructor
  · exact ⟨noActiveep, blob, rfl⟩
  · intro shown member
    cases member

/-- A restart reads the states from the blob. -/
theorem agreed_loaded (agreed : InAgreement acknowledged d row) :
    InAgreement acknowledged (loadRow (deviceKey d, row)) row := by
  rcases agreed.blob with ⟨header, carries, counted⟩
  have length : ((records d).map visible).length = d.eplist.length := by
    rw [List.length_map, records, List.length_map]
  have whole := carries.load_records (counted.trans length.symm).le (deviceKey d)
  rw [counted, ← length, List.take_length] at whole
  have lengths := congrArg List.length whole
  simp only [records, List.length_map] at lengths
  constructor
  · rw [whole]
    exact ⟨header, carries, counted.trans lengths.symm⟩
  · rw [whole]
    exact agreed.states

end Events

section Disagreement

variable {acknowledged : Acknowledged} {d : Device} {row : DeviceRow}

theorem agreed_inside (agreed : InAgreement acknowledged d row) {index : Nat} {record : Simpledesc}
    (here : (records d)[index]? = some record) :
    fieldPosition index (.state 0) < row.endpoint.length := by
  rcases agreed.blob with ⟨header, carries, counted⟩
  rcases carries.stored with ⟨stored, stores, same⟩
  have length := congrArg List.length same
  rw [List.length_map, List.length_map] at length
  have bound : index < (records d).length := (List.getElem?_eq_some_iff.mp here).1
  exact stores.state_inside (length ▸ bound) 0

theorem level_disagrees (agreed : InAgreement acknowledged d row) {levelCtrl : LevelCtrlIeee}
    (present : deviceCheckStatus d deviceAppDel = false)
    (moves : ¬Stays d levelCtrl.endpoint (move2levelLevel levelCtrl.levelCtrlCmd))
    (later : Acknowledged) : ¬Agree later (levelEndpoint levelCtrl d) row := by
  intro agree
  apply moves
  intro ep known shows
  rcases index_of_endpoint known with ⟨index, position, here⟩
  have before := (agreed.agree index _ here shows).1
  have moved : levelEndpoint levelCtrl d =
      FieldUpdate.inMemory ⟨levelCtrl.endpoint, .state (move2levelLevel levelCtrl.levelCtrlCmd)⟩
        d := if_neg (Bool.eq_false_iff.mp present)
  have there : (records (levelEndpoint levelCtrl d))[index]? =
      some ((RecordField.state (move2levelLevel levelCtrl.levelCtrlCmd)).store ep.simpledesc) := by
    rw [moved, records_in_memory, position]
    simp only [List.getElem?_modify_eq, here]
    rfl
  have after := (agree index _ there shows).1
  rw [before] at after
  exact after.symm

theorem written_disagrees (agreed : InAgreement acknowledged d row) {endpoint state : UInt8}
    (moves : ¬Stays d endpoint state) (later : Acknowledged) :
    ¬Agree later d (storeField d endpoint (.state state) row) := by
  intro agree
  apply moves
  intro ep known shows
  rcases index_of_endpoint known with ⟨index, position, here⟩
  have after := (agree index _ here shows).1
  rw [storeField, position] at after
  rw [← after]
  exact (byte_at_written (agreed_inside agreed here) state).symm

theorem acknowledged_disagrees {endpoint state : UInt8} (moves : ¬Shown d endpoint state) :
    ¬Agree (acknowledge acknowledged endpoint state) d row := by
  intro agree
  apply moves
  intro record member own shows
  rcases List.mem_iff_getElem?.mp member with ⟨index, here⟩
  have after := (agree index record here shows).2
  rw [acknowledge, if_pos own] at after
  exact after

def Clears : DatabaseCall → Prop
  | .updateDeviceStatus _ _ => True
  | .updateDeviceShortaddr _ _ => True
  | .updateDeviceState _ _ state => state = 0
  | _ => False

theorem store_call_clears {call : DatabaseCall} (clears : Clears call) {place : Nat}
    (zero : byteAt row.endpoint place = 0) : byteAt (storeCall d call row).endpoint place = 0 := by
  cases call with
  | updateDeviceStatus ieee status => exact zero
  | updateDeviceShortaddr ieee shortaddr => exact zero
  | updateDeviceState ieee endpoint state =>
      have cleared : state = 0 := clears
      subst cleared
      rw [storeCall, storeField]
      cases deviceGetIndex d endpoint with
      | none => exact zero
      | some index => exact byte_at_kept zero _
  | _ => exact False.elim clears

theorem store_calls_clears {calls : List DatabaseCall} (clears : ∀ call ∈ calls, Clears call)
    {place : Nat} (zero : byteAt row.endpoint place = 0) :
    byteAt (storeCalls d calls row).endpoint place = 0 := by
  induction calls generalizing row with
  | nil => exact zero
  | cons call calls induction =>
      rcases List.forall_mem_cons.mp clears with ⟨first, later⟩
      exact induction later (store_call_clears first zero)

theorem cleared_byte {calls : List DatabaseCall} (clears : ∀ call ∈ calls, Clears call)
    {ieee : UInt64} {endpoint : UInt8} {index : Nat}
    (member : .updateDeviceState ieee endpoint 0 ∈ calls)
    (position : deviceGetIndex d endpoint = some index)
    (inside : fieldPosition index (.state 0) < row.endpoint.length) :
    byteAt (storeCalls d calls row).endpoint (fieldPosition index (.state 0)) = 0 := by
  induction calls generalizing row with
  | nil => cases member
  | cons call calls induction =>
      rcases List.forall_mem_cons.mp clears with ⟨first, later⟩
      rcases List.mem_cons.mp member with here | behind
      · have written : byteAt (storeCall d call row).endpoint (fieldPosition index (.state 0)) =
            0 := by
          rw [← here, storeCall, storeField, position]
          exact byte_at_written inside 0
        exact store_calls_clears later written
      · apply induction later behind
        rw [store_call_length]
        exact inside

theorem announced_disagrees (agreed : InAgreement acknowledged d row) {ep : Endpoint}
    (member : ep ∈ d.eplist) (outlet : ep.deviceID = zclHaDeviceidMainsPowerOutlet)
    (moves : ¬Stays d ep.number 0) (msg : EndDeviceAnnceIndFormat) (later : Acknowledged) :
    let changed := changeOf (announced msg d)
    ¬Agree later changed.device (storeCalls changed.device changed.calls row) := by
  intro changed agree
  have same := announced_visible msg d
  apply moves
  apply stays_congr same.symm
  intro first known shows
  rcases index_of_endpoint known with ⟨index, position, here⟩
  have clears : ∀ call ∈ changed.calls, Clears call := by
    intro call inside
    rcases announced_call inside with ⟨status, rfl⟩ | rfl | ⟨_, _, _, rfl⟩
    · exact trivial
    · exact trivial
    · exact rfl
  have inside : fieldPosition index (.state 0) < row.endpoint.length := by
    have twins := congrArg (·[index]?) same
    simp only [List.getElem?_map, here, Option.map_some] at twins
    rcases Option.map_eq_some_iff.mp twins.symm with ⟨record, there, _⟩
    exact agreed_inside agreed there
  rw [← (agree index _ here shows).1]
  exact (cleared_byte clears (announced_clears member outlet msg) position inside).symm

theorem disagreement {s next : Watched Acknowledged} {seen : StateEvent}
    (noted : Noted InAgreement s) (input : Input) (same : seen.event = .input input)
    {changed : DeviceChange}
    (here : s.state.gateway.devices.find? (finds s.state.gateway.gatewayid input) = some d)
    (changes : change input d = some changed)
    (followed : follow StateEvent.event learnState s seen = some next)
    (wrong : ∀ row, InAgreement (s.notes d.ieeeaddr) d row →
      ¬Agree (learnState s.state.gateway seen (s.notes d.ieeeaddr)) changed.device
        (storeCalls changed.device changed.calls row)) : ¬Agreement next := by
  intro agreement
  rcases noted.row_of_mem (List.mem_of_find?_eq_some here) with ⟨row, stored, agreed⟩
  rcases follow_changed noted same here changes stored followed with ⟨inside, later, note⟩
  rcases agreement _ inside with ⟨after, found, agree⟩
  rw [later, Option.some.injEq] at found
  rw [← found, note] at agree
  exact wrong row agreed agree

end Disagreement

section Runs

variable {s next : Watched Acknowledged} {seen : StateEvent}

theorem noted_agreement (noted : Noted InAgreement s) : Agreement s := by
  intro d member
  rcases noted.row_of_mem member with ⟨row, stored, agreed⟩
  exact ⟨row, stored, agreed.agree⟩

theorem harmless_kept (noted : Noted InAgreement s) (harmless : Harmless s seen)
    (followed : follow StateEvent.event learnState s seen = some next) :
    Noted InAgreement next := by
  apply follow_noted noted followed
  · intro msg _ _
    exact agreed_created _ msg
  · intro input d changed row same here changes agreed
    exact agreed_changed harmless same here changes agreed
  · intro _ acknowledged d row agreed
    exact agreed_loaded agreed

theorem harmful_breaks (noted : Noted InAgreement s) (harmful : ¬Harmless s seen) :
    ∃ next, follow StateEvent.event learnState s seen = some next ∧ ¬Agreement next := by
  cases seen with
  | onoff host fd command => exact absurd trivial harmful
  | levelCtrl host fd command =>
      simp only [Harmless, not_forall] at harmful
      rcases harmful with ⟨d, here, present, moves⟩
      have ran : ∃ next, follow StateEvent.event learnState s (.levelCtrl host fd command) =
          some next := ⟨_, rfl⟩
      rcases ran with ⟨next, followed⟩
      refine ⟨next, followed, disagreement noted (.command host fd (.levelCtrl command)) rfl here
        rfl followed ?_⟩
      intro row agreed
      exact level_disagrees agreed present moves _
  | onoffRsp host response =>
      simp only [Harmless, not_forall] at harmful
      rcases harmful with ⟨d, here, moves⟩
      have ran : (follow StateEvent.event learnState s (.onoffRsp host response)).isSome := by
        rw [follow, StateEvent.event, step, handle, eventRecvznp, genOnoffRsp, here]
        rfl
      rcases Option.isSome_iff_exists.mp ran with ⟨next, followed⟩
      refine ⟨next, followed, disagreement noted (.znp host (.genOnoffRsp response)) rfl here rfl
        followed ?_⟩
      intro row agreed
      by_cases stays : Stays d response.endpoint response.cmdInd
      · have unshown := not_and.mp moves stays
        rw [Classical.not_imp] at unshown
        rw [learnState, if_pos unshown.1]
        exact acknowledged_disagrees unshown.2
      · exact written_disagrees agreed stays _
  | levelRsp host response answered =>
      simp only [Harmless, not_forall] at harmful
      rcases harmful with ⟨d, here, success, level, carried, moves⟩
      have ran : ∃ next, follow StateEvent.event learnState s
          (.levelRsp host response answered) = some next := ⟨_, rfl⟩
      rcases ran with ⟨next, followed⟩
      refine ⟨next, followed, disagreement noted (.znp host (.genLevelCtlRsp response)) rfl here rfl
        followed ?_⟩
      intro row _
      rw [carried, learnState, if_pos success, znpChange, accept_level_rsp_device]
      exact acknowledged_disagrees moves
  | announce msg =>
      simp only [Harmless, not_forall] at harmful
      rcases harmful with ⟨d, here, ep, member, outlet, moves⟩
      have ran : ∃ next, follow StateEvent.event learnState s (.announce msg) = some next :=
        ⟨_, rfl⟩
      rcases ran with ⟨next, followed⟩
      refine ⟨next, followed, disagreement noted (.announce msg) rfl here rfl followed ?_⟩
      intro row agreed
      exact announced_disagrees agreed member outlet moves msg _
  | restart => exact absurd trivial harmful

/-- From a state in which they agree, memory, database and acknowledged states agree in every state
of a run exactly as long as every event is harmless. -/
theorem states_agree_iff (agreed : Noted InAgreement s) (events : List StateEvent) :
    Always (follow StateEvent.event learnState) Agreement s events ↔
      Meets (follow StateEvent.event learnState) Harmless s events := by
  apply always_iff_meets _ _ _ agreed
  · intro s noted
    exact noted_agreement noted
  · intro s seen next noted harmless followed
    exact harmless_kept noted harmless followed
  · intro s seen noted harmful
    exact harmful_breaks noted harmful

end Runs

def outlet : Device :=
  { deviceCreate firstSwitch 1 with
    status := deviceActive
    epcursor := 1
    activeep := singleList 1 1
    eplist :=
      [describedEndpoint { descriptorOf 1 with deviceID := zclHaDeviceidMainsPowerOutlet }] }

def oneOutlet : Watched Acknowledged where
  state :=
    ⟨{ twoContacts with devices := [outlet] },
      KeyedTable.empty.insert (deviceKey outlet) (storeEndpoints outlet (newRow 1))⟩
  notes := fun _ _ => 0

theorem one_outlet_agreed : Noted InAgreement oneOutlet := by
  have agreed : InAgreement (fun _ => 0) outlet (storeEndpoints outlet (newRow 1)) := by
    constructor
    · refine ⟨outlet.activeep, ?_, rfl⟩
      exact carries_store_endpoints visible outlet List.length_replicate
    · intro shown member state holds
      rw [List.mem_singleton.mp member] at holds
      exact Option.some.inj holds
  have nobody : Noted InAgreement ⟨freshGateway, fun _ _ => 0⟩ := Mirrors.empty
  exact nobody.append rfl agreed

def switchTo (onoff : UInt8) : OnoffIeee := ⟨firstSwitch, 7, 1, onoff⟩

def onoffResponse (cmdInd status : UInt8) : Zclgeneraldefaultresponse :=
  ⟨firstSwitch, 7, 6, 1, cmdInd, status⟩

def bareHost : ZnpHost := ⟨.signed, ⟨0, 0, 0⟩, []⟩

/-- The outlet is switched off once more, and the gateway restarts. -/
theorem states_agree_iff_off :
    Always (follow StateEvent.event learnState) Agreement oneOutlet
      [.onoff quietHost 4 (switchTo 0), .onoffRsp bareHost (onoffResponse 0 0), .restart] := by
  apply (states_agree_iff one_outlet_agreed _).mpr
  refine ⟨trivial, fun next stepped => ⟨?_, fun _ _ => ⟨trivial, fun _ _ => trivial⟩⟩⟩
  rw [← Option.some.inj stepped]
  intro d found
  rw [← Option.some.inj found]
  constructor
  · intro ep known _
    rw [← Option.some.inj known]
    rfl
  · intro _ record member _ _
    rw [List.mem_singleton.mp member]
    rfl

/-- The outlet is switched on, and says so: the login message still shows it off. -/
theorem acknowledged_on_shown_off :
    ¬∀ events, Always (follow StateEvent.event learnState) Agreement oneOutlet events := by
  intro always
  have both := always
    [.onoff quietHost 4 (switchTo 1), .onoffRsp bareHost (onoffResponse 1 0)]
  have on := ((both.2 _ rfl).2 _ rfl).first
  rcases on outlet (List.mem_singleton_self _) with ⟨row, _, agree⟩
  have shown := (agree 0 _ rfl (by decide)).2
  exact absurd shown (by decide)

end SmartHome.DeviceStates
