import SmartHome.Transitions

/-!
# Pointers into the registry

The handlers of `event_recvznp` and `event_recvmsg` with each use of a device or an
endpoint written out: a search gives a pointer that may be null, a test of it is a test,
and a use of a null pointer has no result. A handler that never comes to such a use is the
one of the modules before.
-/

namespace SmartHome.Pointers

open SmartHome.Library.CTypes
open SmartHome.Registry
open SmartHome.PipeMessages
open SmartHome.Effects
open SmartHome.Encode
open SmartHome.Parse
open SmartHome.EventRecvmsg
open SmartHome.System

set_option autoImplicit false

/-- What lies behind a pointer: nothing behind a null one. -/
def deref {Item : Type} (pointer : Option Item) : Option Item := pointer

/-! ## Functions of the database and the registry -/

def deviceGetIndex (d : Option Device) (endpoint : UInt8) : Option (Option Nat) := do
  let device ← deref d
  return Registry.deviceGetIndex device endpoint

/-- `sqlitedb_update_device_seq` and `sqlitedb_update_device_state` look the device up again and
hand the result on. -/
def sqlitedbUpdateDeviceField (gw : Gateway) (ieee : UInt64) (endpoint : UInt8)
    (call : DatabaseCall) : Option (List Effect) := do
  let d := gatewayGetdevice gw ieee
  let _ ← deviceGetIndex d endpoint
  return [.database call]

def sqlitedbUpdateDeviceSeq (gw : Gateway) (ieee : UInt64) (endpoint seq : UInt8) :
    Option (List Effect) :=
  sqlitedbUpdateDeviceField gw ieee endpoint (.updateDeviceSeq ieee endpoint seq)

def sqlitedbUpdateDeviceState (gw : Gateway) (ieee : UInt64) (endpoint state : UInt8) :
    Option (List Effect) :=
  sqlitedbUpdateDeviceField gw ieee endpoint (.updateDeviceState ieee endpoint state)

/-- Unlike its siblings it tests the device first. -/
def sqlitedbUpdateDeviceArm (host : Host) (gw : Gateway) (ieee : UInt64) (endpoint : UInt8)
    (arm : Arm) : Option UInt8 := do
  let d := gatewayGetdevice gw ieee
  if d.isSome then
    let _ ← deviceGetIndex d endpoint
    return host.sqlitedbUpdateDeviceArm ieee endpoint arm
  else return host.sqlitedbUpdateDeviceArm ieee endpoint arm

def isDeviceDeleted (gw : Gateway) (ieee : UInt64) : Option Bool := do
  let dev := gatewayGetdevice gw ieee
  if dev.isSome then
    let device ← deref dev
    return deviceCheckStatus device deviceAppDel
  else return true

/-! ## The cases of `event_recvznp` -/

def zoneEnrollReq (sign : CharSign) (stale : List UInt8) (gw : Gateway) (ieeeaddr : UInt64) :
    Option Outcome := do
  let d := gatewayGetdevice gw ieeeaddr
  if d.isNone then return ⟨gw, []⟩
  let device ← deref d
  if deviceCheckStatus device deviceAppDel then return ⟨gw, []⟩
  let named := ZnpResponses.nameNewDevice stale device
  let gw := modifyDevice gw ieeeaddr fun _ => named.device
  let encoded ← protocolEncodeAddDelDevice sign gw ieeeaddr 1
  return ⟨encoded.2, named.effects ++ [.broadcast encoded.1]⟩

/-- The siren: the device is tested, its endpoint is not. -/
def warnings (gw : Gateway) (mode : BitVec 4) : Option (List Effect) := do
  let wdEp := EventRecvznp.gatewayGetWarningDeviceEndpoint gw
  let wdDevice := EventRecvznp.gatewayGetWarningDevice gw
  if wdDevice.isNone then return []
  let device ← deref wdDevice
  if deviceCheckStatus device deviceAppDel then return []
  let ep ← deref wdEp
  return [EventRecvznp.eventSendWarning ep device.ieeeaddr mode]

def alarmEffects (clock : EventRecvznp.Clock) (gw : Gateway) (ep : Endpoint)
    (req : Zclzonechangenotification) : Option (List Effect) := do
  if EventRecvznp.endpointCheckArm ep clock.hour clock.minute ∧ ¬EventRecvznp.isHeartbeat req then
    let sent ← if EventRecvznp.alarmed req then
        warnings gw (EventRecvznp.warnMode ep.simpledesc.zonetype)
      else some []
    let frame ← protocolEncodeAlarm gw req clock.ctime
    return sent ++ [.broadcast frame]
  else return []

def zoneChangeNotification (sign : CharSign) (clock : EventRecvznp.Clock) (gw : Gateway)
    (req : Zclzonechangenotification) : Option Outcome := do
  let d := gatewayGetdevice gw req.ieeeaddr
  if d.isNone then return ⟨gw, []⟩
  let device ← deref d
  if deviceCheckStatus device deviceAppDel then return ⟨gw, []⟩
  let sensor := gatewayGetdevice gw req.ieeeaddr
  if sensor.isNone then return ⟨gw, []⟩
  let ep := gatewayGetEndpoint gw req.ieeeaddr req.endpoint
  if ep.isNone then return ⟨gw, []⟩
  let endpoint ← deref ep
  if EventRecvznp.seqAfter sign req.transNum endpoint.simpledesc.zclTransnum then
    let alarms ← alarmEffects clock gw endpoint req
    let gateway := modifyDevice gw req.ieeeaddr (modifyEndpoint · req.endpoint
      (EventRecvznp.setTransnum · req.transNum))
    let stored ← sqlitedbUpdateDeviceSeq gateway req.ieeeaddr req.endpoint req.transNum
    return ⟨gateway, alarms ++ stored⟩
  else return ⟨gw, []⟩

/-- `ZCLGENONOFFRSP` does not look for the device itself. -/
def genOnoffRsp (gw : Gateway) (response : Zclgeneraldefaultresponse) : Option Outcome := do
  let stored ← sqlitedbUpdateDeviceState gw response.ieeeaddr response.endpoint response.cmdInd
  return ⟨gw, stored ++ [.broadcast (protocolEncodeOnoffResponse response)]⟩

def genLevelCtlRsp (gw : Gateway) (response : Zcllevlctldefaultresponse) : Option Outcome := do
  let ep := gatewayGetEndpoint gw response.ieeeaddr response.endpoint
  if ep.isNone then return ⟨gw, []⟩
  let endpoint ← deref ep
  let response := { response with deviceState := endpoint.simpledesc.deviceState }
  let stored ← if response.status = 0 then
      sqlitedbUpdateDeviceState gw response.ieeeaddr response.endpoint response.deviceState
    else some []
  return ⟨gw, stored ++ [.broadcast (protocolEncodeLevelResponse response)]⟩

def eventRecvznp (host : ZnpHost) (gw : Gateway) : ZnpMessage → Option Outcome
  | .zoneEnrollReq ieeeaddr => zoneEnrollReq host.sign host.stale gw ieeeaddr
  | .zoneChangeNotification req => zoneChangeNotification host.sign host.clock gw req
  | .generalDefaultRsp response => some (ZnpResponses.generalDefaultRsp gw response)
  | .genOnoffRsp response => genOnoffRsp gw response
  | .readOnoffRsp response => some (ZnpResponses.readOnoffRspCase gw response)
  | .genLevelCtlRsp response => genLevelCtlRsp gw response
  | .warningRsp response => some (ZnpResponses.warningRsp gw response)
  | .basicStatus status => some (ZnpResponses.basicStatus gw status)

/-! ## The cases of `event_recvmsg` -/

def renameDevice (gw : Gateway) (ieee : UInt64) (name : CString maxnamelen) : Option Gateway := do
  let d := gatewayGetdevice gw ieee
  if d.isSome then
    let _ ← deref d
    return modifyDevice gw ieee fun d => { d with devicename := name }
  else return gw

def handleSetDeviceName (host : Host) (deviceName : SetDeviceName) (state : MainState) :
    Option MainState := do
  if state.gateway.gatewayid = deviceName.ieee then
    return EventRecvmsg.handleSetDeviceName host deviceName state
  else
    let name := deviceName.text
    let result := host.sqlitedbUpdateDevicename deviceName.ieee name.text
    let gateway ← if result = 0 then renameDevice state.gateway deviceName.ieee name
      else some state.gateway
    return (state.withGateway gateway).act
      [.database (.updateDevicename deviceName.ieee name.text),
        .broadcast (protocolEncodeSetNameFeedback deviceName result)]

/-- `DEVICE_DEL`: `device_set_status`, `gateway_deldevice` and the list they work on. -/
def handleDelDevice (delDevice : DelDevice) (state : MainState) : Option MainState := do
  let d := gatewayGetdevice state.gateway delDevice.ieee
  if d.isSome then
    let device ← deref d
    let devices := state.gateway.devices.eraseP (·.ieeeaddr = delDevice.ieee)
    return (state.withGateway { state.gateway with devices }).act
      [.database (.updateDeviceStatus device.ieeeaddr (device.status ||| deviceAppDel)),
        .database (.deleteDevice delDevice.ieee),
        .broadcast (protocolEncodeDelDeviceFeedback delDevice 0)]
  else return state.act [.broadcast (protocolEncodeDelDeviceFeedback delDevice 1)]

/-- `protocol_encode_deviceattr`, up to the fields it writes for device and endpoint. -/
def protocolEncodeDeviceattr (gw : Gateway) (getAttr : GetDeviceAttr) : Option (List UInt8) := do
  let d := gatewayGetdevice gw getAttr.ieee
  if d.isSome then
    let device ← deref d
    let ep := deviceGetEndpoint device getAttr.endpoint
    if ep.isSome then
      let _ ← deref ep
      return Encode.protocolEncodeDeviceattr gw getAttr
    else return Encode.protocolEncodeDeviceattr gw getAttr
  else return Encode.protocolEncodeDeviceattr gw getAttr

def handleGetDeviceAttr (fd : Int) (getAttr : GetDeviceAttr) (state : MainState) :
    Option MainState := do
  if ← isDeviceDeleted state.gateway getAttr.ieee then return state
  let frame ← protocolEncodeDeviceattr state.gateway getAttr
  return state.act [.send fd frame]

/-- `DEVICE_IDENTIFY`, `DEVICE_ONOFF`, `CONFIG_REPORT` and `READ_ONOFF_CMD` -/
def passOn (ieee : UInt64) (command : ZnpCommand) (state : MainState) : Option MainState := do
  if ← isDeviceDeleted state.gateway ieee then return state
  return state.act [.pipe command]

def handleWarning (fd : Int) (warning : WarningIeee) (state : MainState) : Option MainState := do
  if ← isDeviceDeleted state.gateway warning.ieee then return state
  return EventRecvmsg.handleWarning fd warning state

def handleSetArm (host : Host) (fd : Int) (parsed : ParsedArm) (state : MainState) :
    Option MainState := do
  let feedback (result : UInt8) : Effect :=
    .send fd (protocolEncodeArmFeedback parsed.serialnum parsed.ieee result)
  if parsed.arm.starthour < 24 ∧ parsed.arm.startminute < 60 ∧ parsed.arm.endhour < 24 ∧
      parsed.arm.endminute < 60 then
    let result ←
      sqlitedbUpdateDeviceArm host state.gateway parsed.ieee parsed.endpoint parsed.arm
    let call : Effect := .database (.updateDeviceArm parsed.ieee parsed.endpoint parsed.arm)
    if result = 0 then
      let ep := gatewayGetEndpoint state.gateway parsed.ieee parsed.endpoint
      if ep.isSome then
        let _ ← deref ep
        let gateway := modifyDevice state.gateway parsed.ieee (modifyEndpoint · parsed.endpoint
          fun ep => { ep with simpledesc := { ep.simpledesc with arm := parsed.arm } })
        return (state.withGateway gateway).act [call, feedback 0]
      else return state.act [call, feedback 1]
    else return state.act [call, feedback result]
  else return state.act [feedback 1]

def handleLevelCtrl (levelCtrl : LevelCtrlIeee) (state : MainState) : Option MainState := do
  if ← isDeviceDeleted state.gateway levelCtrl.ieee then return state
  let ep := gatewayGetEndpoint state.gateway levelCtrl.ieee levelCtrl.endpoint
  if ep.isNone then return state
  let _ ← deref ep
  let gateway := modifyDevice state.gateway levelCtrl.ieee (modifyEndpoint · levelCtrl.endpoint
    (setDeviceState · (move2levelLevel levelCtrl.levelCtrlCmd)))
  return (state.withGateway gateway).act [.pipe (.levelCtrl levelCtrl)]

def handleCommand (host : Host) (fd : Int) (command : Command) (state : MainState) :
    Option MainState :=
  match command with
  | .loginFeedback feedback => some (handleLoginFeedback host feedback state)
  | .setDeviceName deviceName => handleSetDeviceName host deviceName state
  | .delDevice delDevice => handleDelDevice delDevice state
  | .getDeviceAttr getAttr => handleGetDeviceAttr fd getAttr state
  | .identify identify => passOn identify.ieee (.identify identify) state
  | .warning warning => handleWarning fd warning state
  | .appLogin =>
      some { state.act [.send fd (protocolEncodeLogin state.gateway)] with loginTime := host.time }
  | .setArm parsed => handleSetArm host fd parsed state
  | .onoff onoff => passOn onoff.ieee (.onoff onoff) state
  | .levelCtrl levelCtrl => handleLevelCtrl levelCtrl state
  | .permitJoining permitJoining => some (state.act [.pipe (.permitJoing permitJoining)])
  | .configReporting config => passOn config.ieee (.configReport config) state
  | .getOnoffState onoffState => passOn onoffState.ieee (.readOnoff onoffState) state
  | .nothing => some state

/-! ## They are the handlers of the modules before -/

theorem zone_enroll_req_eq (sign : CharSign) (stale : List UInt8) (gw : Gateway)
    (ieeeaddr : UInt64) :
    zoneEnrollReq sign stale gw ieeeaddr =
      some (ZnpResponses.zoneEnrollReq sign stale gw ieeeaddr) := by
  unfold zoneEnrollReq ZnpResponses.zoneEnrollReq
  cases here : gatewayGetdevice gw ieeeaddr with
  | none => rfl
  | some d =>
      have again := Transitions.getdevice_named here stale
      rcases Transitions.protocol_encode_add_del_device_eq again sign 1 with ⟨frame, encoded⟩
      by_cases deleted : deviceCheckStatus d deviceAppDel = true
      · simp [deref, deleted]
      · simp [deref, deleted, encoded]

/-- Both searches for the siren stop at the same device. -/
theorem warning_endpoint_found {gw : Gateway} {wdDevice : Device}
    (found : EventRecvznp.gatewayGetWarningDevice gw = some wdDevice) :
    ∃ wdEp, EventRecvznp.gatewayGetWarningDeviceEndpoint gw = some wdEp := by
  have member := List.mem_of_find?_eq_some found
  have siren := List.find?_some found
  rw [← Option.isSome_iff_exists, EventRecvznp.gatewayGetWarningDeviceEndpoint,
    List.findSome?_isSome_iff]
  refine ⟨wdDevice, member, ?_⟩
  rw [List.find?_isSome]
  exact List.any_eq_true.mp siren

theorem warnings_eq (gw : Gateway) (mode : BitVec 4) :
    warnings gw mode = some
      (match EventRecvznp.gatewayGetWarningDeviceEndpoint gw,
          EventRecvznp.gatewayGetWarningDevice gw with
        | some wdEp, some wdDevice =>
            if deviceCheckStatus wdDevice deviceAppDel then []
            else [EventRecvznp.eventSendWarning wdEp wdDevice.ieeeaddr mode]
        | _, _ => []) := by
  unfold warnings
  cases found : EventRecvznp.gatewayGetWarningDevice gw with
  | none => cases EventRecvznp.gatewayGetWarningDeviceEndpoint gw <;> rfl
  | some wdDevice =>
      rcases warning_endpoint_found found with ⟨wdEp, endpoint⟩
      rw [endpoint]
      by_cases deleted : deviceCheckStatus wdDevice deviceAppDel = true
      · simp [deref, deleted]
      · simp [deref, deleted]

theorem alarm_effects_eq (clock : EventRecvznp.Clock) {gw : Gateway} {ep : Endpoint}
    {req : Zclzonechangenotification}
    (here : gatewayGetEndpoint gw req.ieeeaddr req.endpoint = some ep) :
    alarmEffects clock gw ep req = some (EventRecvznp.alarmEffects clock gw ep req) := by
  have exists_ : (gatewayGetEndpoint gw req.ieeeaddr req.endpoint).isSome = true :=
    Option.isSome_iff_exists.mpr ⟨ep, here⟩
  rcases Option.isSome_iff_exists.mp (protocol_encode_alarm_isSome gw req clock.ctime exists_)
    with ⟨frame, encoded⟩
  unfold alarmEffects EventRecvznp.alarmEffects
  by_cases armed : EventRecvznp.endpointCheckArm ep clock.hour clock.minute ∧
      ¬EventRecvznp.isHeartbeat req
  · rw [if_pos armed, if_pos armed, encoded]
    by_cases alarm : EventRecvznp.alarmed req = true
    · rw [if_pos alarm, warnings_eq]
      simp only [alarm]
      rfl
    · rw [if_neg alarm]
      simp only [alarm]
      rfl
  · rw [if_neg armed, if_neg armed]
    rfl

theorem update_device_field_eq {gw : Gateway} {ieee : UInt64} {d : Device}
    (here : gatewayGetdevice gw ieee = some d) (endpoint : UInt8) (call : DatabaseCall) :
    sqlitedbUpdateDeviceField gw ieee endpoint call = some [.database call] := by
  rw [sqlitedbUpdateDeviceField, here]
  rfl

theorem zone_change_notification_eq (sign : CharSign) (clock : EventRecvznp.Clock) (gw : Gateway)
    (req : Zclzonechangenotification) :
    zoneChangeNotification sign clock gw req =
      some (EventRecvznp.zoneChangeNotification sign clock gw req) := by
  unfold zoneChangeNotification EventRecvznp.zoneChangeNotification
  cases here : gatewayGetdevice gw req.ieeeaddr with
  | none => rfl
  | some d =>
      by_cases deleted : deviceCheckStatus d deviceAppDel = true
      · simp [deref, deleted]
      · cases known : gatewayGetEndpoint gw req.ieeeaddr req.endpoint with
        | none => simp [deref, deleted]
        | some ep =>
            have marked : gatewayGetdevice (modifyDevice gw req.ieeeaddr
                (modifyEndpoint · req.endpoint (EventRecvznp.setTransnum · req.transNum)))
                req.ieeeaddr =
              some (modifyEndpoint d req.endpoint (EventRecvznp.setTransnum · req.transNum)) := by
              rw [gateway_getdevice_modify gw req.ieeeaddr
                (modifyEndpoint · req.endpoint (EventRecvznp.setTransnum · req.transNum))
                (fun _ => rfl), here]
              rfl
            have stored := update_device_field_eq marked req.endpoint
              (.updateDeviceSeq req.ieeeaddr req.endpoint req.transNum)
            by_cases later : EventRecvznp.seqAfter sign req.transNum ep.simpledesc.zclTransnum = true
            · simp [deref, deleted, later, alarm_effects_eq clock known, sqlitedbUpdateDeviceSeq,
                stored]
            · simp [deref, deleted, later]

theorem gen_onoff_rsp_eq (gw : Gateway) (response : Zclgeneraldefaultresponse) :
    genOnoffRsp gw response = ZnpResponses.genOnoffRsp gw response := by
  unfold genOnoffRsp ZnpResponses.genOnoffRsp sqlitedbUpdateDeviceState
  cases here : gatewayGetdevice gw response.ieeeaddr with
  | none =>
      rw [sqlitedbUpdateDeviceField, here]
      rfl
  | some d =>
      rw [update_device_field_eq here]
      rfl

theorem getdevice_of_endpoint {gw : Gateway} {ieee : UInt64} {endpoint : UInt8} {ep : Endpoint}
    (known : gatewayGetEndpoint gw ieee endpoint = some ep) :
    ∃ d, gatewayGetdevice gw ieee = some d := by
  rw [gatewayGetEndpoint, Option.bind_eq_some_iff] at known
  rcases known with ⟨d, here, -⟩
  exact ⟨d, here⟩

theorem gen_level_ctl_rsp_eq (gw : Gateway) (response : Zcllevlctldefaultresponse) :
    genLevelCtlRsp gw response = some (ZnpResponses.genLevelCtlRsp gw response) := by
  unfold genLevelCtlRsp ZnpResponses.genLevelCtlRsp
  cases known : gatewayGetEndpoint gw response.ieeeaddr response.endpoint with
  | none => rfl
  | some ep =>
      rcases getdevice_of_endpoint known with ⟨d, here⟩
      by_cases success : response.status = 0
      · simp [deref, success, sqlitedbUpdateDeviceState, update_device_field_eq here]
      · simp [deref, success]

theorem event_recvznp_eq (host : ZnpHost) (gw : Gateway) (message : ZnpMessage) :
    eventRecvznp host gw message = System.eventRecvznp host gw message := by
  cases message with
  | zoneEnrollReq ieeeaddr => exact zone_enroll_req_eq host.sign host.stale gw ieeeaddr
  | zoneChangeNotification req =>
      exact zone_change_notification_eq host.sign host.clock gw req
  | genOnoffRsp response => exact gen_onoff_rsp_eq gw response
  | genLevelCtlRsp response => exact gen_level_ctl_rsp_eq gw response
  | _ => rfl

theorem is_device_deleted_eq (gw : Gateway) (ieee : UInt64) :
    isDeviceDeleted gw ieee = some (Registry.isDeviceDeleted gw ieee) := by
  unfold isDeviceDeleted Registry.isDeviceDeleted
  cases gatewayGetdevice gw ieee <;> rfl

theorem pass_on_eq (ieee : UInt64) (command : ZnpCommand) (state : MainState) :
    passOn ieee command state = some (EventRecvmsg.passOn ieee command state) := by
  unfold passOn EventRecvmsg.passOn
  rw [is_device_deleted_eq]
  cases Registry.isDeviceDeleted state.gateway ieee <;> rfl

theorem rename_device_eq (gw : Gateway) (ieee : UInt64) (name : CString maxnamelen) :
    renameDevice gw ieee name =
      some (modifyDevice gw ieee fun d => { d with devicename := name }) := by
  unfold renameDevice
  cases here : gatewayGetdevice gw ieee with
  | none =>
      have kept : modifyDevice gw ieee (fun d => { d with devicename := name }) = gw := by
        rw [modifyDevice, Transitions.modify_first_none here]
      rw [kept]
      rfl
  | some d => rfl

theorem handle_set_device_name_eq (host : Host) (deviceName : SetDeviceName) (state : MainState) :
    handleSetDeviceName host deviceName state =
      some (EventRecvmsg.handleSetDeviceName host deviceName state) := by
  unfold handleSetDeviceName EventRecvmsg.handleSetDeviceName
  by_cases own : state.gateway.gatewayid = deviceName.ieee
  · simp only [own, if_true]
    rfl
  · simp only [own, if_false, rename_device_eq]
    split_ifs <;> rfl

theorem handle_del_device_eq (delDevice : DelDevice) (state : MainState) :
    handleDelDevice delDevice state = some (EventRecvmsg.handleDelDevice delDevice state) := by
  unfold handleDelDevice EventRecvmsg.handleDelDevice
  cases gatewayGetdevice state.gateway delDevice.ieee <;> rfl

theorem protocol_encode_deviceattr_eq (gw : Gateway) (getAttr : GetDeviceAttr) :
    protocolEncodeDeviceattr gw getAttr = some (Encode.protocolEncodeDeviceattr gw getAttr) := by
  unfold protocolEncodeDeviceattr
  cases gatewayGetdevice gw getAttr.ieee with
  | none => rfl
  | some d =>
      cases known : deviceGetEndpoint d getAttr.endpoint <;> simp [deref, known]

theorem handle_get_device_attr_eq (fd : Int) (getAttr : GetDeviceAttr) (state : MainState) :
    handleGetDeviceAttr fd getAttr state =
      some (EventRecvmsg.handleGetDeviceAttr fd getAttr state) := by
  unfold handleGetDeviceAttr EventRecvmsg.handleGetDeviceAttr
  rw [is_device_deleted_eq, protocol_encode_deviceattr_eq]
  cases Registry.isDeviceDeleted state.gateway getAttr.ieee <;> rfl

theorem handle_warning_eq (fd : Int) (warning : WarningIeee) (state : MainState) :
    handleWarning fd warning state = some (EventRecvmsg.handleWarning fd warning state) := by
  unfold handleWarning EventRecvmsg.handleWarning
  rw [is_device_deleted_eq]
  cases Registry.isDeviceDeleted state.gateway warning.ieee <;> rfl

theorem update_device_arm_eq (host : Host) (gw : Gateway) (ieee : UInt64) (endpoint : UInt8)
    (arm : Arm) :
    sqlitedbUpdateDeviceArm host gw ieee endpoint arm =
      some (host.sqlitedbUpdateDeviceArm ieee endpoint arm) := by
  unfold sqlitedbUpdateDeviceArm
  cases gatewayGetdevice gw ieee <;> rfl

theorem handle_set_arm_eq (host : Host) (fd : Int) (parsed : ParsedArm) (state : MainState) :
    handleSetArm host fd parsed state = some (EventRecvmsg.handleSetArm host fd parsed state) := by
  unfold handleSetArm EventRecvmsg.handleSetArm
  rw [update_device_arm_eq]
  split_ifs with valid
  · by_cases stored :
      host.sqlitedbUpdateDeviceArm parsed.ieee parsed.endpoint parsed.arm = 0
    · cases known : gatewayGetEndpoint state.gateway parsed.ieee parsed.endpoint <;>
        simp [deref, stored]
    · simp [stored]
  · rfl

theorem handle_level_ctrl_eq (levelCtrl : LevelCtrlIeee) (state : MainState) :
    handleLevelCtrl levelCtrl state = some (EventRecvmsg.handleLevelCtrl levelCtrl state) := by
  unfold handleLevelCtrl EventRecvmsg.handleLevelCtrl
  rw [is_device_deleted_eq]
  cases Registry.isDeviceDeleted state.gateway levelCtrl.ieee with
  | true => rfl
  | false =>
      cases gatewayGetEndpoint state.gateway levelCtrl.ieee levelCtrl.endpoint <;> rfl

theorem handle_command_eq (host : Host) (fd : Int) (command : Command) (state : MainState) :
    handleCommand host fd command state =
      some (EventRecvmsg.handleCommand host fd command state) := by
  cases command with
  | setDeviceName deviceName => exact handle_set_device_name_eq host deviceName state
  | delDevice delDevice => exact handle_del_device_eq delDevice state
  | getDeviceAttr getAttr => exact handle_get_device_attr_eq fd getAttr state
  | identify identify => exact pass_on_eq identify.ieee (.identify identify) state
  | warning warning => exact handle_warning_eq fd warning state
  | setArm parsed => exact handle_set_arm_eq host fd parsed state
  | onoff onoff => exact pass_on_eq onoff.ieee (.onoff onoff) state
  | levelCtrl levelCtrl => exact handle_level_ctrl_eq levelCtrl state
  | configReporting config => exact pass_on_eq config.ieee (.configReport config) state
  | getOnoffState onoffState => exact pass_on_eq onoffState.ieee (.readOnoff onoffState) state
  | _ => rfl

end SmartHome.Pointers
