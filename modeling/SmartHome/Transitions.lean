import SmartHome.Library.Mirroring
import SmartHome.System

/-!
# What a step can do

Every input is about at most one device. It finds it by one of its two addresses and
changes it, and the database calls that go with this change the row of that device;
or it creates a device, or deletes one, or it changes nothing. `step_cases` says this
for every step, and the invariants of the following modules are derived from it.
-/

namespace SmartHome.Transitions

open SmartHome.Library.CTypes
open SmartHome.Library.Tables
open SmartHome.Library.Mirroring
open SmartHome.Registry
open SmartHome.PipeMessages
open SmartHome.Parse
open SmartHome.Effects
open SmartHome.Encode
open SmartHome.EventRecvznp
open SmartHome.EventRecvmsg
open SmartHome.ZdoCallbacks
open SmartHome.ZnpResponses
open SmartHome.Sqlitedb
open SmartHome.System

set_option autoImplicit false

/-- What an input does to its device, and the database calls that follow from it. -/
structure DeviceChange where
  device : Device
  calls : List DatabaseCall

def DeviceChange.keep (d : Device) : DeviceChange := ⟨d, []⟩

def changeOf (outcome : DeviceOutcome) : DeviceChange :=
  ⟨outcome.device, databaseCalls outcome.effects⟩

def znpFinds : ZnpMessage → Device → Bool
  | .zoneEnrollReq ieeeaddr, d => d.ieeeaddr = ieeeaddr
  | .zoneChangeNotification req, d => d.ieeeaddr = req.ieeeaddr
  | .genOnoffRsp response, d => d.ieeeaddr = response.ieeeaddr
  | .genLevelCtlRsp response, d => d.ieeeaddr = response.ieeeaddr
  | _, _ => false

def commandFinds (gatewayid : UInt64) : Command → Device → Bool
  | .setDeviceName deviceName, d => d.ieeeaddr = deviceName.ieee ∧ gatewayid ≠ deviceName.ieee
  | .setArm parsed, d => d.ieeeaddr = parsed.ieee
  | .levelCtrl levelCtrl, d => d.ieeeaddr = levelCtrl.ieee
  | _, _ => false

def finds (gatewayid : UInt64) : Input → Device → Bool
  | .announce msg, d => d.ieeeaddr = msg.ieeeAddr
  | .activeEpRsp msg, d => d.shortaddr = msg.srcAddr ∧ msg.status = mtRpcSuccess
  | .simpleDescRsp msg, d => d.shortaddr = msg.srcAddr ∧ msg.status = mtRpcSuccess
  | .leaveInd extAddr, d => d.ieeeaddr = extAddr
  | .enrollRequest srcAddr _ _, d => d.shortaddr = srcAddr
  | .basicAttributes message, d => d.shortaddr = message.srcAddr
  | .znp _ message, d => znpFinds message d
  | .command _ _ command, d => commandFinds gatewayid command d

def reportDevice (host : ZnpHost) (d : Device) : DeviceChange :=
  if deviceCheckStatus d deviceAppDel then .keep d
  else
    let named := nameNewDevice host.stale d
    ⟨takeOverZonetypes host.sign named.device, databaseCalls named.effects⟩

def acceptZoneChange (sign : CharSign) (req : Zclzonechangenotification) (d : Device) :
    DeviceChange :=
  if deviceCheckStatus d deviceAppDel then .keep d
  else
    match deviceGetEndpoint d req.endpoint with
    | none => .keep d
    | some ep =>
        if seqAfter sign req.transNum ep.simpledesc.zclTransnum then
          ⟨modifyEndpoint d req.endpoint (setTransnum · req.transNum),
            [.updateDeviceSeq req.ieeeaddr req.endpoint req.transNum]⟩
        else .keep d

def acceptLevelRsp (response : Zcllevlctldefaultresponse) (d : Device) : DeviceChange :=
  match deviceGetEndpoint d response.endpoint with
  | none => .keep d
  | some ep =>
      if response.status = 0 then
        ⟨d, [.updateDeviceState response.ieeeaddr response.endpoint ep.simpledesc.deviceState]⟩
      else .keep d

def znpChange (host : ZnpHost) : ZnpMessage → Device → DeviceChange
  | .zoneEnrollReq _, d => reportDevice host d
  | .zoneChangeNotification req, d => acceptZoneChange host.sign req d
  | .genOnoffRsp response, d =>
      ⟨d, [.updateDeviceState response.ieeeaddr response.endpoint response.cmdInd]⟩
  | .genLevelCtlRsp response, d => acceptLevelRsp response d
  | _, d => .keep d

def armEndpoint (parsed : ParsedArm) (d : Device) : Device :=
  modifyEndpoint d parsed.endpoint fun ep =>
    { ep with simpledesc := { ep.simpledesc with arm := parsed.arm } }

def validTimes (arm : Arm) : Prop :=
  arm.starthour < 24 ∧ arm.startminute < 60 ∧ arm.endhour < 24 ∧ arm.endminute < 60

instance (arm : Arm) : Decidable (validTimes arm) := inferInstanceAs (Decidable (_ ∧ _ ∧ _ ∧ _))

def levelEndpoint (levelCtrl : LevelCtrlIeee) (d : Device) : Device :=
  if deviceCheckStatus d deviceAppDel then d
  else
    modifyEndpoint d levelCtrl.endpoint (setDeviceState · (move2levelLevel levelCtrl.levelCtrlCmd))

def commandChange : Command → Device → DeviceChange
  | .setDeviceName deviceName, d =>
      ⟨{ d with devicename := deviceName.text },
        [.updateDevicename deviceName.ieee deviceName.text.text]⟩
  | .setArm parsed, d =>
      if validTimes parsed.arm then
        ⟨armEndpoint parsed d, [.updateDeviceArm parsed.ieee parsed.endpoint parsed.arm]⟩
      else .keep d
  | .levelCtrl levelCtrl, d => ⟨levelEndpoint levelCtrl d, []⟩
  | _, d => .keep d

def change : Input → Device → Option DeviceChange
  | .announce msg, d => some (changeOf (announced msg d))
  | .activeEpRsp msg, d => some (changeOf (activeEpRsp msg d))
  | .simpleDescRsp msg, d => some (changeOf (simpleDescRsp msg d))
  | .leaveInd extAddr, d =>
      some ⟨leaveDevice d, .updateDeviceStatus extAddr (leaveDevice d).status ::
        d.eplist.map fun ep => .updateDeviceSeq extAddr ep.number 0⟩
  | .enrollRequest _ srcEndpoint zoneType, d =>
      some (changeOf (deviceSetZonetype srcEndpoint zoneType d))
  | .basicAttributes message, d => (BasicAttributes.basicAttributes message d).map changeOf
  | .znp host message, d => some (znpChange host message d)
  | .command _ _ command, d => some (commandChange command d)

/-- A call that changes no row: it is for the other table, or for a device that is not there. -/
def Idle (gw : Gateway) (call : DatabaseCall) : Prop :=
  (∃ mac name, call = .updateGatewayname mac name) ∨
    ∃ ieee, target call = some ieee ∧ gatewayGetdevice gw ieee = none

/-- A handler that changes the device a search finds, and nothing without such a device. -/
def Handled (gw : Gateway) (found : Device → Bool) (change : Device → Option DeviceChange)
    (outcome : Outcome) : Prop :=
  match gw.devices.find? found with
  | some d => ∃ changed, change d = some changed ∧
      outcome.gateway.devices = modifyFirst found (fun _ => changed.device) gw.devices ∧
      databaseCalls outcome.effects = changed.calls
  | none => outcome.gateway.devices = gw.devices ∧
      ∀ call ∈ databaseCalls outcome.effects, Idle gw call

section Handlers

variable {gw : Gateway} {found : Device → Bool} {change : Device → Option DeviceChange}

theorem handled_none {outcome : Outcome} (missing : gw.devices.find? found = none)
    (kept : outcome.gateway.devices = gw.devices)
    (idle : ∀ call ∈ databaseCalls outcome.effects, Idle gw call) :
    Handled gw found change outcome := by
  unfold Handled
  rw [missing]
  exact ⟨kept, idle⟩

theorem handled_some {outcome : Outcome} {d : Device} {changed : DeviceChange}
    (here : gw.devices.find? found = some d) (changes : change d = some changed)
    (devices : outcome.gateway.devices = modifyFirst found (fun _ => changed.device) gw.devices)
    (calls : databaseCalls outcome.effects = changed.calls) : Handled gw found change outcome := by
  unfold Handled
  rw [here]
  exact ⟨changed, changes, devices, calls⟩

theorem modify_first_congr {Item : Type*} {found : Item → Bool} {item : Item} {items : List Item}
    (here : items.find? found = some item) {first second : Item → Item}
    (agree : first item = second item) :
    modifyFirst found first items = modifyFirst found second items := by
  induction items with
  | nil => rfl
  | cons head rest induction =>
      unfold modifyFirst
      split_ifs with holds
      · rw [List.find?_cons_of_pos holds, Option.some.injEq] at here
        rw [here, agree]
      · rw [List.find?_cons_of_neg holds] at here
        rw [induction here]

theorem modify_first_self {Item : Type*} {found : Item → Bool} {item : Item} {items : List Item}
    (here : items.find? found = some item) : modifyFirst found (fun _ => item) items = items := by
  induction items with
  | nil => rfl
  | cons head rest induction =>
      unfold modifyFirst
      split_ifs with holds
      · rw [List.find?_cons_of_pos holds, Option.some.injEq] at here
        rw [here]
      · rw [List.find?_cons_of_neg holds] at here
        rw [induction here]

theorem at_device_handled (handler : Device → DeviceOutcome) :
    Handled gw found (fun d => some (changeOf (handler d))) (atDevice gw found handler) := by
  unfold atDevice
  cases here : gw.devices.find? found with
  | none => exact handled_none here rfl (fun _ member => absurd member List.not_mem_nil)
  | some d => exact handled_some here rfl (modify_first_congr here rfl) rfl

theorem try_at_device_handled {handler : Device → Option DeviceOutcome} {outcome : Outcome}
    (ran : tryAtDevice gw found handler = some outcome) :
    Handled gw found (fun d => (handler d).map changeOf) outcome := by
  unfold tryAtDevice at ran
  cases here : gw.devices.find? found with
  | none =>
      rw [here, Option.some.injEq] at ran
      rw [← ran]
      exact handled_none here rfl (fun _ member => absurd member List.not_mem_nil)
  | some d =>
      rw [here, Option.map_eq_some_iff] at ran
      rcases ran with ⟨result, handled, rfl⟩
      have changes : (handler d).map changeOf = some (changeOf result) := by rw [handled]; rfl
      exact handled_some here changes rfl rfl

/-- A handler that leaves the registry alone and, for the device it finds, makes these calls. -/
theorem handled_calls {d : Device} {outcome : Outcome} {calls : List DatabaseCall}
    (here : gw.devices.find? found = some d) (changes : change d = some ⟨d, calls⟩)
    (kept : outcome.gateway.devices = gw.devices) (made : databaseCalls outcome.effects = calls) :
    Handled gw found change outcome :=
  handled_some here changes (kept.trans (modify_first_self here).symm) made

end Handlers

section Inputs

variable {gw : Gateway}

theorem if_success_handled (status : UInt8) (srcAddr : UInt16)
    (handler : Device → DeviceOutcome) :
    Handled gw (fun d => d.shortaddr = srcAddr ∧ status = mtRpcSuccess)
      (fun d => some (changeOf (handler d)))
      (if status = mtRpcSuccess then atDevice gw (·.shortaddr = srcAddr) handler
        else ⟨gw, []⟩) := by
  by_cases success : status = mtRpcSuccess
  · simp only [success, and_true, if_true]
    exact at_device_handled handler
  · have missing : gw.devices.find? (fun d => d.shortaddr = srcAddr ∧ status = mtRpcSuccess) =
        none := by
      simp [success]
    rw [if_neg success]
    exact handled_none missing rfl (fun _ member => absurd member List.not_mem_nil)

theorem leave_ind_handled (extAddr : UInt64) :
    Handled gw (·.ieeeaddr = extAddr) (change (.leaveInd extAddr)) (mtZdoLeaveIndCb gw extAddr) := by
  unfold mtZdoLeaveIndCb
  cases here : gatewayGetdevice gw extAddr with
  | none => exact handled_none here rfl (fun _ member => absurd member List.not_mem_nil)
  | some d =>
      apply handled_some here rfl
      · exact modify_first_congr here rfl
      · simp [databaseCalls, List.filterMap_map]

theorem modify_first_modify_first {Item : Type*} {found : Item → Bool} {item : Item}
    {items : List Item} (here : items.find? found = some item) {first second : Item → Item}
    (kept : found (first item) = true) :
    modifyFirst found second (modifyFirst found first items) =
      modifyFirst found (fun _ => second (first item)) items := by
  induction items with
  | nil => rfl
  | cons head rest induction =>
      unfold modifyFirst
      by_cases holds : found head = true
      · rw [List.find?_cons_of_pos holds, Option.some.injEq] at here
        subst here
        simp [holds, kept, modifyFirst]
      · rw [List.find?_cons_of_neg holds] at here
        simp [holds, modifyFirst, induction here]

theorem modify_device_congr {ieee : UInt64} {d : Device} (here : gatewayGetdevice gw ieee = some d)
    {first second : Device → Device} (agree : first d = second d) :
    modifyDevice gw ieee first = modifyDevice gw ieee second := by
  rw [modifyDevice, modify_first_congr here agree]
  rfl

theorem protocol_encode_add_del_device_eq {gw : Gateway} {ieeeaddr : UInt64} {d : Device}
    (here : gatewayGetdevice gw ieeeaddr = some d) (sign : CharSign) (add : UInt8) :
    ∃ frame, protocolEncodeAddDelDevice sign gw ieeeaddr add =
      some (frame, modifyDevice gw ieeeaddr fun _ => takeOverZonetypes sign d) := by
  unfold protocolEncodeAddDelDevice
  rw [here]
  refine ⟨_, congrArg some (congrArg _ ?_)⟩
  apply modify_device_congr here
  rfl

theorem getdevice_named {gw : Gateway} {ieeeaddr : UInt64} {d : Device}
    (here : gatewayGetdevice gw ieeeaddr = some d) (stale : List UInt8) :
    gatewayGetdevice (modifyDevice gw ieeeaddr fun _ => (nameNewDevice stale d).device) ieeeaddr =
      some (nameNewDevice stale d).device := by
  rcases name_new_device_eq stale d with ⟨names, named⟩
  have address : (nameNewDevice stale d).device.ieeeaddr = ieeeaddr := by
    rw [named, ← gateway_getdevice_ieeeaddr here]
    rfl
  have modified := find_modify_first (·.ieeeaddr = ieeeaddr)
    (fun _ : Device => (nameNewDevice stale d).device)
    (fun _ _ => decide_eq_true address) gw.devices
  exact modified.trans (congrArg (Option.map _) here)

/-- The frame is encoded from the device with its name, and the encoder writes to it once more. -/
theorem zone_enroll_req_handled (host : ZnpHost) (ieeeaddr : UInt64) :
    Handled gw (·.ieeeaddr = ieeeaddr) (fun d => some (reportDevice host d))
      (zoneEnrollReq host.sign host.stale gw ieeeaddr) := by
  unfold zoneEnrollReq
  cases here : gatewayGetdevice gw ieeeaddr with
  | none => exact handled_none here rfl (fun _ member => absurd member List.not_mem_nil)
  | some d =>
      by_cases deleted : deviceCheckStatus d deviceAppDel = true
      · simp only [deleted, if_true]
        apply handled_calls here _ rfl rfl
        rw [reportDevice, if_pos deleted]
        rfl
      · have again := getdevice_named here host.stale
        have address := gateway_getdevice_ieeeaddr again
        rcases protocol_encode_add_del_device_eq again host.sign 1 with ⟨frame, encoded⟩
        simp only [deleted, encoded]
        apply handled_some here rfl
        · rw [reportDevice, if_neg deleted]
          exact modify_first_modify_first here (decide_eq_true address)
        · rw [reportDevice, if_neg deleted]
          simp [databaseCalls]

theorem database_calls_alarm (clock : Clock) (gw : Gateway) (ep : Endpoint)
    (req : Zclzonechangenotification) : databaseCalls (alarmEffects clock gw ep req) = [] := by
  have frames : ∀ frame : Option (List UInt8),
      databaseCalls (frame.toList.map .broadcast) = [] := by
    intro frame
    cases frame <;> rfl
  unfold alarmEffects
  dsimp only
  split
  · rw [database_calls_append, frames, List.append_nil]
    split
    · split
      · split <;> rfl
      · rfl
    · rfl
  · rfl

theorem zone_change_notification_handled (host : ZnpHost) (req : Zclzonechangenotification) :
    Handled gw (·.ieeeaddr = req.ieeeaddr) (fun d => some (acceptZoneChange host.sign req d))
      (zoneChangeNotification host.sign host.clock gw req) := by
  unfold zoneChangeNotification
  cases here : gatewayGetdevice gw req.ieeeaddr with
  | none => exact handled_none here rfl (fun _ member => absurd member List.not_mem_nil)
  | some d =>
      have endpoint := gateway_get_endpoint_eq here req.endpoint
      by_cases deleted : deviceCheckStatus d deviceAppDel = true
      · simp only [deleted, if_true]
        apply handled_calls here _ rfl rfl
        rw [acceptZoneChange, if_pos deleted]
        rfl
      · simp only [deleted, endpoint]
        cases known : deviceGetEndpoint d req.endpoint with
        | none =>
            apply handled_calls here _ rfl rfl
            rw [acceptZoneChange, if_neg deleted, known]
            rfl
        | some ep =>
            by_cases later : seqAfter host.sign req.transNum ep.simpledesc.zclTransnum = true
            · simp only [later, if_true]
              have accepted : acceptZoneChange host.sign req d =
                  ⟨modifyEndpoint d req.endpoint (setTransnum · req.transNum),
                    [.updateDeviceSeq req.ieeeaddr req.endpoint req.transNum]⟩ := by
                rw [acceptZoneChange, if_neg deleted, known]
                exact if_pos later
              apply handled_some here (congrArg some accepted)
              · exact modify_first_congr here rfl
              · have calls := database_calls_append
                  (alarmEffects host.clock gw ep req)
                  [.database (.updateDeviceSeq req.ieeeaddr req.endpoint req.transNum)]
                rw [database_calls_alarm, List.nil_append] at calls
                exact calls
            · simp only [later]
              apply handled_calls here _ rfl rfl
              rw [acceptZoneChange, if_neg deleted, known]
              exact congrArg some (if_neg later)

theorem gen_onoff_rsp_handled (response : Zclgeneraldefaultresponse) {outcome : Outcome}
    (ran : genOnoffRsp gw response = some outcome) :
    Handled gw (·.ieeeaddr = response.ieeeaddr)
      (fun d => some
        ⟨d, [.updateDeviceState response.ieeeaddr response.endpoint response.cmdInd]⟩)
      outcome := by
  unfold genOnoffRsp at ran
  cases here : gatewayGetdevice gw response.ieeeaddr with
  | none =>
      rw [here] at ran
      cases ran
  | some d =>
      rw [here, Option.some.injEq] at ran
      rw [← ran]
      exact handled_calls here rfl rfl rfl

theorem gen_level_ctl_rsp_handled (response : Zcllevlctldefaultresponse) :
    Handled gw (·.ieeeaddr = response.ieeeaddr) (fun d => some (acceptLevelRsp response d))
      (genLevelCtlRsp gw response) := by
  unfold genLevelCtlRsp
  cases here : gatewayGetdevice gw response.ieeeaddr with
  | none =>
      have missing : gatewayGetEndpoint gw response.ieeeaddr response.endpoint = none := by
        rw [gatewayGetEndpoint, here]
        rfl
      rw [missing]
      exact handled_none here rfl (fun _ member => absurd member List.not_mem_nil)
  | some d =>
      rw [gateway_get_endpoint_eq here]
      cases known : deviceGetEndpoint d response.endpoint with
      | none =>
          apply handled_calls here _ rfl rfl
          rw [acceptLevelRsp, known]
          rfl
      | some ep =>
          by_cases success : response.status = 0
          · have accepted : acceptLevelRsp response d = ⟨d, [.updateDeviceState response.ieeeaddr
                response.endpoint ep.simpledesc.deviceState]⟩ := by
              rw [acceptLevelRsp, known]
              exact if_pos success
            apply handled_calls here (congrArg some accepted) rfl
            simp [success, databaseCalls]
          · have accepted : acceptLevelRsp response d = ⟨d, []⟩ := by
              rw [acceptLevelRsp, known]
              exact if_neg success
            apply handled_calls here (congrArg some accepted) rfl
            simp [success, databaseCalls]

theorem handled_idle {change : Device → Option DeviceChange} {outcome : Outcome}
    (kept : outcome.gateway.devices = gw.devices)
    (idle : ∀ call ∈ databaseCalls outcome.effects, Idle gw call) :
    Handled gw (fun _ => false) change outcome := by
  apply handled_none _ kept idle
  simp

theorem event_recvznp_handled (host : ZnpHost) (message : ZnpMessage) {outcome : Outcome}
    (ran : eventRecvznp host gw message = some outcome) :
    Handled gw (znpFinds message) (fun d => some (znpChange host message d)) outcome := by
  cases message <;> simp only [eventRecvznp, Option.some.injEq] at ran
  case zoneEnrollReq ieeeaddr =>
      rw [← ran]
      exact zone_enroll_req_handled host ieeeaddr
  case zoneChangeNotification req =>
      rw [← ran]
      exact zone_change_notification_handled host req
  case genOnoffRsp response => exact gen_onoff_rsp_handled response ran
  case genLevelCtlRsp response =>
      rw [← ran]
      exact gen_level_ctl_rsp_handled response
  all_goals
    rw [← ran]
    exact handled_idle rfl (fun _ member => absurd member List.not_mem_nil)

theorem modify_first_none {Item : Type*} {found : Item → Bool} {items : List Item}
    (missing : items.find? found = none) (change : Item → Item) :
    modifyFirst found change items = items := by
  induction items with
  | nil => rfl
  | cons head rest induction =>
      rw [List.find?_eq_none] at missing
      have first := missing head List.mem_cons_self
      have others : rest.find? found = none := by
        rw [List.find?_eq_none]
        intro item member
        exact missing item (List.mem_cons_of_mem head member)
      rw [modifyFirst, if_neg first, induction others]

def outcomeOf (state : MainState) : Outcome := ⟨state.gateway, state.effects⟩

theorem set_device_name_handled (host : Host) (deviceName : SetDeviceName) :
    Handled gw (commandFinds gw.gatewayid (.setDeviceName deviceName))
      (fun d => some (commandChange (.setDeviceName deviceName) d))
      (outcomeOf (handleSetDeviceName (succeeding gw host) deviceName (stateOf gw))) := by
  unfold handleSetDeviceName stateOf
  by_cases own : gw.gatewayid = deviceName.ieee
  · have search : commandFinds gw.gatewayid (.setDeviceName deviceName) = fun _ => false := by
      funext d
      simp [commandFinds, own]
    rw [search, if_pos own]
    apply handled_idle
    · exact apply_ite Gateway.devices _ _ _ |>.trans (ite_self _)
    intro call member
    have only : call = .updateGatewayname deviceName.ieee deviceName.text.text := by
      simpa [outcomeOf, MainState.act, MainState.withGateway, databaseCalls] using member
    exact Or.inl ⟨_, _, only⟩
  · have search : commandFinds gw.gatewayid (.setDeviceName deviceName) =
        fun d : Device => d.ieeeaddr = deviceName.ieee := by
      funext d
      simp [commandFinds, own]
    rw [search, if_neg own]
    cases here : gatewayGetdevice gw deviceName.ieee with
    | none =>
        apply handled_none here (modify_first_none here _)
        intro call member
        have only : call = .updateDevicename deviceName.ieee deviceName.text.text := by
          simpa [outcomeOf, MainState.act, MainState.withGateway, databaseCalls] using member
        exact Or.inr ⟨deviceName.ieee, only ▸ rfl, here⟩
    | some d =>
        apply handled_some here rfl
        · exact modify_first_congr here rfl
        · rfl

theorem device_get_index_is_some (d : Device) (endpoint : UInt8) :
    (deviceGetIndex d endpoint).isSome = (deviceGetEndpoint d endpoint).isSome := by
  rw [deviceGetIndex, deviceGetEndpoint, List.findIdx?_isSome, Bool.eq_iff_iff,
    List.find?_isSome, List.any_eq_true]

theorem arm_result {ieee : UInt64} {d : Device} (here : gatewayGetdevice gw ieee = some d)
    (endpoint : UInt8) :
    sqlitedbUpdateDeviceArmResult gw ieee endpoint =
      if (deviceGetEndpoint d endpoint).isSome then 0 else 1 := by
  rw [sqlitedbUpdateDeviceArmResult, here, ← device_get_index_is_some]

theorem arm_result_none {ieee : UInt64} (missing : gatewayGetdevice gw ieee = none)
    (endpoint : UInt8) : sqlitedbUpdateDeviceArmResult gw ieee endpoint = 5 := by
  rw [sqlitedbUpdateDeviceArmResult, missing]

theorem set_arm_handled (host : Host) (fd : Int) (parsed : ParsedArm) :
    Handled gw (·.ieeeaddr = parsed.ieee) (fun d => some (commandChange (.setArm parsed) d))
      (outcomeOf (handleSetArm (succeeding gw host) fd parsed (stateOf gw))) := by
  have result : (succeeding gw host).sqlitedbUpdateDeviceArm parsed.ieee parsed.endpoint
      parsed.arm = sqlitedbUpdateDeviceArmResult gw parsed.ieee parsed.endpoint := rfl
  unfold handleSetArm stateOf
  by_cases valid : validTimes parsed.arm
  · have accepted : ∀ d, commandChange (.setArm parsed) d = ⟨armEndpoint parsed d,
        [.updateDeviceArm parsed.ieee parsed.endpoint parsed.arm]⟩ := fun d => if_pos valid
    simp only [accepted]
    unfold validTimes at valid
    rw [if_pos valid, result]
    cases here : gatewayGetdevice gw parsed.ieee with
    | none =>
        rw [arm_result_none here]
        apply handled_none here rfl
        intro call member
        have only : call = .updateDeviceArm parsed.ieee parsed.endpoint parsed.arm := by
          simpa [outcomeOf, MainState.act, databaseCalls] using member
        exact Or.inr ⟨parsed.ieee, only ▸ rfl, here⟩
    | some d =>
        rw [arm_result here, gateway_get_endpoint_eq here]
        cases known : deviceGetEndpoint d parsed.endpoint with
        | none =>
            have kept : armEndpoint parsed d = d := by
              rw [armEndpoint, modifyEndpoint, modify_first_none known]
            apply handled_calls here (congrArg (fun d => some (DeviceChange.mk d _)) kept)
            · rfl
            · rfl
        | some ep =>
            apply handled_some here rfl
            · exact modify_first_congr here rfl
            · rfl
  · have refused : ∀ d, commandChange (.setArm parsed) d = ⟨d, []⟩ := fun d => if_neg valid
    simp only [refused]
    unfold validTimes at valid
    rw [if_neg valid]
    cases here : gatewayGetdevice gw parsed.ieee with
    | none => exact handled_none here rfl (fun _ member => absurd member List.not_mem_nil)
    | some d => exact handled_calls here rfl rfl rfl

theorem level_ctrl_handled (levelCtrl : LevelCtrlIeee) :
    Handled gw (·.ieeeaddr = levelCtrl.ieee) (fun d => some (commandChange (.levelCtrl levelCtrl) d))
      (outcomeOf (handleLevelCtrl levelCtrl (stateOf gw))) := by
  unfold handleLevelCtrl stateOf
  cases here : gatewayGetdevice gw levelCtrl.ieee with
  | none =>
      have deleted : isDeviceDeleted gw levelCtrl.ieee = true := by
        rw [isDeviceDeleted, here]
      rw [if_pos deleted]
      exact handled_none here rfl (fun _ member => absurd member List.not_mem_nil)
  | some d =>
      have status : isDeviceDeleted gw levelCtrl.ieee = deviceCheckStatus d deviceAppDel := by
        rw [isDeviceDeleted, here]
      rw [status, gateway_get_endpoint_eq here]
      by_cases deleted : deviceCheckStatus d deviceAppDel = true
      · have kept : levelEndpoint levelCtrl d = d := if_pos deleted
        rw [if_pos deleted]
        exact handled_calls here (congrArg (fun d => some (DeviceChange.mk d [])) kept) rfl rfl
      · have level : levelEndpoint levelCtrl d = modifyEndpoint d levelCtrl.endpoint
            (setDeviceState · (move2levelLevel levelCtrl.levelCtrlCmd)) := if_neg deleted
        rw [if_neg deleted]
        cases known : deviceGetEndpoint d levelCtrl.endpoint with
        | none =>
            have kept : levelEndpoint levelCtrl d = d := by
              rw [level, modifyEndpoint, modify_first_none known]
            exact handled_calls here (congrArg (fun d => some (DeviceChange.mk d [])) kept) rfl rfl
        | some ep =>
            apply handled_some here (congrArg (fun d => some (DeviceChange.mk d [])) level)
            · exact modify_first_congr here rfl
            · rfl

theorem pass_on_idle (ieee : UInt64) (command : ZnpCommand)
    {change : Device → Option DeviceChange} :
    Handled gw (fun _ => false) change (outcomeOf (passOn ieee command (stateOf gw))) := by
  unfold passOn
  split
  · exact handled_idle rfl (fun _ member => absurd member List.not_mem_nil)
  · exact handled_idle rfl (fun _ member => absurd member List.not_mem_nil)

theorem command_handled (host : Host) (fd : Int) {command : Command}
    (kept : ∀ delDevice, command ≠ .delDevice delDevice) :
    Handled gw (commandFinds gw.gatewayid command) (fun d => some (commandChange command d))
      (outcomeOf (handleCommand (succeeding gw host) fd command (stateOf gw))) := by
  cases command with
  | setDeviceName deviceName => exact set_device_name_handled host deviceName
  | delDevice delDevice => exact absurd rfl (kept delDevice)
  | setArm parsed => exact set_arm_handled host fd parsed
  | levelCtrl levelCtrl => exact level_ctrl_handled levelCtrl
  | identify identify => exact pass_on_idle identify.ieee _
  | onoff onoff => exact pass_on_idle onoff.ieee _
  | configReporting config => exact pass_on_idle config.ieee _
  | getOnoffState onoffState => exact pass_on_idle onoffState.ieee _
  | loginFeedback feedback =>
      change Handled gw _ _ (outcomeOf (handleLoginFeedback _ feedback (stateOf gw)))
      unfold handleLoginFeedback
      split
      · exact handled_idle rfl (fun _ member => absurd member List.not_mem_nil)
      · split <;> exact handled_idle rfl (fun _ member => absurd member List.not_mem_nil)
  | getDeviceAttr getAttr =>
      change Handled gw _ _ (outcomeOf (handleGetDeviceAttr fd getAttr (stateOf gw)))
      unfold handleGetDeviceAttr
      split <;> exact handled_idle rfl (fun _ member => absurd member List.not_mem_nil)
  | warning warning =>
      change Handled gw _ _ (outcomeOf (handleWarning fd warning (stateOf gw)))
      unfold handleWarning
      split <;> exact handled_idle rfl (fun _ member => absurd member List.not_mem_nil)
  | appLogin => exact handled_idle rfl (fun _ member => absurd member List.not_mem_nil)
  | permitJoining permitJoining =>
      exact handled_idle rfl (fun _ member => absurd member List.not_mem_nil)
  | nothing => exact handled_idle rfl (fun _ member => absurd member List.not_mem_nil)

def Creates (gw : Gateway) : Input → Prop
  | .announce msg => gatewayGetdevice gw msg.ieeeAddr = none
  | _ => False

def Deletes (gw : Gateway) : Input → Prop
  | .command _ _ (.delDevice delDevice) => gatewayGetdevice gw delDevice.ieee ≠ none
  | _ => False

/-- Every other input changes the device it finds, or nothing. -/
theorem handle_cases {input : Input} {outcome : Outcome} (ran : handle gw input = some outcome)
    (creates : ¬Creates gw input) (deletes : ¬Deletes gw input) :
    Handled gw (finds gw.gatewayid input) (change input) outcome := by
  cases input <;> simp only [handle, Option.some.injEq] at ran
  case announce msg =>
      rw [← ran]
      unfold mtZdoEndDeviceAnnceIndCb
      cases here : gatewayGetdevice gw msg.ieeeAddr with
      | none => exact absurd here creates
      | some d => exact at_device_handled (announced msg)
  case activeEpRsp msg =>
      rw [← ran]
      exact if_success_handled msg.status msg.srcAddr (activeEpRsp msg)
  case simpleDescRsp msg =>
      rw [← ran]
      exact if_success_handled msg.status msg.srcAddr (simpleDescRsp msg)
  case leaveInd extAddr =>
      rw [← ran]
      exact leave_ind_handled extAddr
  case enrollRequest srcAddr srcEndpoint zoneType =>
      rw [← ran]
      have calls : change (.enrollRequest srcAddr srcEndpoint zoneType) = fun d =>
          some (changeOf ((deviceSetZonetype srcEndpoint zoneType d).andThen reportNewDevice)) := by
        funext d
        have none : databaseCalls [.zoneEnrollReq
            (deviceSetZonetype srcEndpoint zoneType d).device.ieeeaddr] = [] := rfl
        simp [change, changeOf, DeviceOutcome.andThen, reportNewDevice, none]
      rw [calls]
      exact at_device_handled _
  case basicAttributes message => exact try_at_device_handled ran
  case znp host message => exact event_recvznp_handled host message ran
  case command host fd command =>
      rw [← ran]
      by_cases kept : ∀ delDevice, command ≠ .delDevice delDevice
      · exact command_handled host fd kept
      · rw [not_forall] at kept
        rcases kept with ⟨delDevice, deletion⟩
        rw [not_not] at deletion
        subst deletion
        have missing : gatewayGetdevice gw delDevice.ieee = none := not_not.mp deletes
        have answer : handleCommand (succeeding gw host) fd (.delDevice delDevice) (stateOf gw) =
            (stateOf gw).act [.broadcast (protocolEncodeDelDeviceFeedback delDevice 1)] := by
          simp only [handleCommand, handleDelDevice, stateOf, missing]
        rw [answer]
        exact handled_idle rfl (fun _ member => absurd member List.not_mem_nil)

end Inputs

end SmartHome.Transitions
