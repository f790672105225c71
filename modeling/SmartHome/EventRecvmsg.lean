import SmartHome.Effects
import SmartHome.Encode
import SmartHome.Parse
import SmartHome.Receive

/-!
# The command cases of `event_recvmsg`

The `switch` over the message id. Each case first runs its parser on the local
buffer, which gives a `Command`, and then acts on it; `parseCommand` and
`handleCommand` are those two halves.
-/

namespace SmartHome.EventRecvmsg

open SmartHome.Library.Bytes
open SmartHome.Library.Circular
open SmartHome.Library.CTypes
open SmartHome.Library.MemoryCursor
open SmartHome.Registry
open SmartHome.PipeMessages
open SmartHome.Effects
open SmartHome.Encode
open SmartHome.Parse
open SmartHome.Receive

set_option autoImplicit false

def loginfeedback : UInt16 := 0x8001
def heartfeedback : UInt16 := 0x8002
def reqdevicelist : UInt16 := 0x8003
def reqoperate : UInt16 := 0x8004
def deviceSetName : UInt16 := 0x8008
def deviceDel : UInt16 := 0x800A
def deviceAttr : UInt16 := 0x800B
def deviceIdentify : UInt16 := 0x800C
def deviceWarning : UInt16 := 0x800D
def appLogin : UInt16 := 0x800E
def deviceSetarm : UInt16 := 0x800F
def deviceOnoff : UInt16 := 0x8010
def deviceLevelCtrl : UInt16 := 0x8011
def permitJoining : UInt16 := 0x8012
def configReport : UInt16 := 0x8014
def readOnoffCmd : UInt16 := 0x8016

/-- The cases of the `switch`; `skip` are the ones that do nothing and the ids without a case. -/
inductive MessageCase
  | loginfeedback
  | deviceSetName
  | deviceDel
  | deviceAttr
  | deviceIdentify
  | deviceWarning
  | appLogin
  | deviceSetarm
  | deviceOnoff
  | deviceLevelCtrl
  | permitJoining
  | configReport
  | readOnoffCmd
  | skip
  deriving DecidableEq

def messageCase (messageid : UInt16) : MessageCase :=
  if messageid = loginfeedback then .loginfeedback
  else if messageid = heartfeedback then .skip
  else if messageid = reqdevicelist then .skip
  else if messageid = reqoperate then .skip
  else if messageid = deviceSetName then .deviceSetName
  else if messageid = deviceDel then .deviceDel
  else if messageid = deviceAttr then .deviceAttr
  else if messageid = deviceIdentify then .deviceIdentify
  else if messageid = deviceWarning then .deviceWarning
  else if messageid = appLogin then .appLogin
  else if messageid = deviceSetarm then .deviceSetarm
  else if messageid = deviceOnoff then .deviceOnoff
  else if messageid = deviceLevelCtrl then .deviceLevelCtrl
  else if messageid = permitJoining then .permitJoining
  else if messageid = configReport then .configReport
  else if messageid = readOnoffCmd then .readOnoffCmd
  else .skip

def commandIds : List UInt16 :=
  [loginfeedback, deviceSetName, deviceDel, deviceAttr, deviceIdentify, deviceWarning, appLogin,
    deviceSetarm, deviceOnoff, deviceLevelCtrl, permitJoining, configReport, readOnoffCmd]

/-- What a handler gets from elsewhere: the results of the database calls, the clock, and the
stack memory that is read before the handler has written it. -/
structure Host where
  sqlitedbUpdateGatewayname : UInt64 → List UInt8 → UInt8
  sqlitedbUpdateDevicename : UInt64 → List UInt8 → UInt8
  sqlitedbUpdateDeviceArm : UInt64 → UInt8 → Arm → UInt8
  gettimeofday : Option Int
  time : Int
  behindBuffer : Memory
  nameStack : Vector UInt8 256
  levelStack : LevelCtrlCmd

/-- The registry, the time of the last login, and what was done to the outside so far. -/
structure MainState where
  gateway : Gateway
  loginTime : Int
  effects : List Effect

inductive Command
  | loginFeedback (feedback : LoginFeedback)
  | setDeviceName (deviceName : SetDeviceName)
  | delDevice (delDevice : DelDevice)
  | getDeviceAttr (getAttr : GetDeviceAttr)
  | identify (identify : IdentifyIeee)
  | warning (warning : WarningIeee)
  | appLogin
  | setArm (parsed : ParsedArm)
  | onoff (onoff : OnoffIeee)
  | levelCtrl (levelCtrl : LevelCtrlIeee)
  | permitJoining (permitJoining : PermitJoining)
  | configReporting (config : ConfigReporting)
  | getOnoffState (onoffState : GetOnoffState)
  | nothing

def parseCommand (host : Host) (messageid : UInt16) (messagelen : UInt32) : Parser Command :=
  match messageCase messageid with
  | .loginfeedback => .loginFeedback <$> protocolParseLoginFeedback
  | .deviceSetName => .setDeviceName <$> protocolParseSetDeviceName host.nameStack
  | .deviceDel => .delDevice <$> protocolParseDelDevice
  | .deviceAttr => .getDeviceAttr <$> protocolParseGetDeviceAttr
  | .deviceIdentify => .identify <$> protocolParseIdentify
  | .deviceWarning => .warning <$> protocolParseWarning
  | .appLogin => return .appLogin
  | .deviceSetarm => .setArm <$> protocolParseArm
  | .deviceOnoff => .onoff <$> protocolParseOnoff
  | .deviceLevelCtrl => .levelCtrl <$> protocolParseLevelCtrl host.levelStack
  | .permitJoining => .permitJoining <$> protocolParsePermitJoining
  | .configReport => .configReporting <$> protocolParseConfigReporting messagelen.toUInt16
  | .readOnoffCmd => .getOnoffState <$> protocolParseGetOnoffState
  | .skip => return .nothing

def MainState.act (state : MainState) (effects : List Effect) : MainState :=
  { state with effects := state.effects ++ effects }

@[simp] theorem MainState.act_gateway (state : MainState) (effects : List Effect) :
    (state.act effects).gateway = state.gateway := rfl

def MainState.withGateway (state : MainState) (gateway : Gateway) : MainState :=
  { state with gateway }

def handleLoginFeedback (host : Host) (feedback : LoginFeedback) (state : MainState) : MainState :=
  match host.gettimeofday with
  | none => state
  | some now =>
      if now - state.loginTime < 60 ∧ feedback.result = 0 then
        state.act [.settimeofday feedback.timestamp]
      else state

/-- The name goes to the gateway or to a device, and there only once the database has it. -/
def handleSetDeviceName (host : Host) (deviceName : SetDeviceName) (state : MainState) :
    MainState :=
  let name := deviceName.text
  if state.gateway.gatewayid = deviceName.ieee then
    let result := host.sqlitedbUpdateGatewayname deviceName.ieee name.text
    let gateway :=
      if result = 0 then { state.gateway with gatewayname := name } else state.gateway
    (state.withGateway gateway).act
      [.database (.updateGatewayname deviceName.ieee name.text),
        .broadcast (protocolEncodeSetNameFeedback deviceName result)]
  else
    let result := host.sqlitedbUpdateDevicename deviceName.ieee name.text
    let gateway :=
      if result = 0 then
        modifyDevice state.gateway deviceName.ieee fun d => { d with devicename := name }
      else state.gateway
    (state.withGateway gateway).act
      [.database (.updateDevicename deviceName.ieee name.text),
        .broadcast (protocolEncodeSetNameFeedback deviceName result)]

/-- The device is marked deleted in the database, and then taken out of database and registry. -/
def handleDelDevice (delDevice : DelDevice) (state : MainState) : MainState :=
  match gatewayGetdevice state.gateway delDevice.ieee with
  | some d =>
      let devices := state.gateway.devices.eraseP (·.ieeeaddr = delDevice.ieee)
      (state.withGateway { state.gateway with devices }).act
        [.database (.updateDeviceStatus d.ieeeaddr (d.status ||| deviceAppDel)),
          .database (.deleteDevice delDevice.ieee),
          .broadcast (protocolEncodeDelDeviceFeedback delDevice 0)]
  | none => state.act [.broadcast (protocolEncodeDelDeviceFeedback delDevice 1)]

def handleGetDeviceAttr (fd : Int) (getAttr : GetDeviceAttr) (state : MainState) : MainState :=
  if isDeviceDeleted state.gateway getAttr.ieee then state
  else state.act [.send fd (protocolEncodeDeviceattr state.gateway getAttr)]

/-- The cases that pass their struct on unless the device has been deleted. -/
def passOn (ieee : UInt64) (command : ZnpCommand) (state : MainState) : MainState :=
  if isDeviceDeleted state.gateway ieee then state else state.act [.pipe command]

def handleWarning (fd : Int) (warning : WarningIeee) (state : MainState) : MainState :=
  if isDeviceDeleted state.gateway warning.ieee then state
  else
    state.act
      [.pipe (.warning warning),
        .send fd (protocolEncodeWarningResponse
          { ieeeaddr := warning.ieee
            serialnum := warning.warning.serialnum
            -- never set in the source, and not part of the frame
            clusterid := 0
            endpoint := warning.warning.endpoint
            cmdInd := 0
            status := 0 })]

def handleSetArm (host : Host) (fd : Int) (parsed : ParsedArm) (state : MainState) : MainState :=
  let feedback (result : UInt8) : Effect :=
    .send fd (protocolEncodeArmFeedback parsed.serialnum parsed.ieee result)
  if parsed.arm.starthour < 24 ∧ parsed.arm.startminute < 60 ∧ parsed.arm.endhour < 24 ∧
      parsed.arm.endminute < 60 then
    let result := host.sqlitedbUpdateDeviceArm parsed.ieee parsed.endpoint parsed.arm
    let call : Effect := .database (.updateDeviceArm parsed.ieee parsed.endpoint parsed.arm)
    if result = 0 then
      match gatewayGetEndpoint state.gateway parsed.ieee parsed.endpoint with
      | some _ =>
          let gateway := modifyDevice state.gateway parsed.ieee (modifyEndpoint · parsed.endpoint
            fun ep => { ep with simpledesc := { ep.simpledesc with arm := parsed.arm } })
          (state.withGateway gateway).act [call, feedback 0]
      | none => state.act [call, feedback 1]
    else state.act [call, feedback result]
  else state.act [feedback 1]

def setDeviceState (ep : Endpoint) (deviceState : UInt8) : Endpoint :=
  { ep with simpledesc := { ep.simpledesc with deviceState } }

/-- Whatever the level command, the state becomes the level of `move2level`. -/
def handleLevelCtrl (levelCtrl : LevelCtrlIeee) (state : MainState) : MainState :=
  if isDeviceDeleted state.gateway levelCtrl.ieee then state
  else
    match gatewayGetEndpoint state.gateway levelCtrl.ieee levelCtrl.endpoint with
    | none => state
    | some _ =>
        let gateway := modifyDevice state.gateway levelCtrl.ieee (modifyEndpoint · levelCtrl.endpoint
          (setDeviceState · (move2levelLevel levelCtrl.levelCtrlCmd)))
        (state.withGateway gateway).act [.pipe (.levelCtrl levelCtrl)]

def handleCommand (host : Host) (fd : Int) (command : Command) (state : MainState) : MainState :=
  match command with
  | .loginFeedback feedback => handleLoginFeedback host feedback state
  | .setDeviceName deviceName => handleSetDeviceName host deviceName state
  | .delDevice delDevice => handleDelDevice delDevice state
  | .getDeviceAttr getAttr => handleGetDeviceAttr fd getAttr state
  | .identify identify => passOn identify.ieee (.identify identify) state
  | .warning warning => handleWarning fd warning state
  | .appLogin =>
      { state.act [.send fd (protocolEncodeLogin state.gateway)] with loginTime := host.time }
  | .setArm parsed => handleSetArm host fd parsed state
  | .onoff onoff => passOn onoff.ieee (.onoff onoff) state
  | .levelCtrl levelCtrl => handleLevelCtrl levelCtrl state
  | .permitJoining permitJoining => state.act [.pipe (.permitJoing permitJoining)]
  | .configReporting config => passOn config.ieee (.configReport config) state
  | .getOnoffState onoffState => passOn onoffState.ieee (.readOnoff onoffState) state
  | .nothing => state

/-- The memory a parser reads: the local buffer and what the stack holds behind it. -/
def bufferMemory (host : Host) (buffer : List UInt8) : Memory := placed buffer host.behindBuffer

def eventSwitch (host : Host) (fd : Int) : Dispatch MainState :=
  fun messageid messagelen buffer state =>
    handleCommand host fd
      ((parseCommand host messageid messagelen).value (bufferMemory host buffer)) state

theorem local_buffer_eq (bytes : List UInt8) :
    localBuffer bytes = bytes ++ List.replicate (1024 - bytes.length) 0 := by
  rw [localBuffer, overwrite, List.take_zero, List.nil_append, Nat.zero_add, List.drop_replicate]

theorem buffer_memory_frame (host : Host) (frame : List UInt8) :
    Holds (bufferMemory host (localBuffer frame)) 0 frame := by
  have whole := holds_placed (localBuffer frame) host.behindBuffer
  rw [local_buffer_eq, holds_append, ← local_buffer_eq] at whole
  exact whole.1

theorem buffer_memory_get (host : Host) (frame : List UInt8) {address : Nat}
    (inside : address < frame.length) :
    bufferMemory host (localBuffer frame) address = frame.getD address 0 := by
  have cell := (buffer_memory_frame host frame).get inside
  rwa [Nat.zero_add] at cell

theorem message_case_unknown {messageid : UInt16} (unknown : messageid ∉ commandIds) :
    messageCase messageid = .skip := by
  simp only [commandIds, List.mem_cons, List.not_mem_nil, or_false, not_or] at unknown
  simp only [messageCase, unknown, if_false, ite_self]

theorem event_switch_unknown (host : Host) (fd : Int) {messageid : UInt16} (messagelen : UInt32)
    (buffer : List UInt8) (state : MainState) (unknown : messageid ∉ commandIds) :
    eventSwitch host fd messageid messagelen buffer state = state := by
  rw [eventSwitch, parseCommand, message_case_unknown unknown]
  rfl

def quietHost : Host where
  sqlitedbUpdateGatewayname _ _ := 0
  sqlitedbUpdateDevicename _ _ := 0
  sqlitedbUpdateDeviceArm _ _ _ := 0
  gettimeofday := some 0
  time := 0
  behindBuffer _ := 0
  nameStack := Vector.replicate 256 0
  levelStack := Vector.replicate 4 0

def stateOf (gateway : Gateway) : MainState := ⟨gateway, 0, []⟩

end SmartHome.EventRecvmsg
