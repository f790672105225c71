import SmartHome.Effects
import SmartHome.Encode

/-!
# Zone alarms and leave indications

The branch of `event_recvznp` for zone status change notifications, and
`mtZdoLeaveIndCb`. A notification carries the device's 8-bit transaction number;
the endpoint keeps the number it accepted last.
-/

namespace SmartHome.EventRecvznp

open SmartHome.Library.CTypes
open SmartHome.Registry
open SmartHome.PipeMessages
open SmartHome.Effects
open SmartHome.Encode

set_option autoImplicit false

def arm : UInt8 := 0
def armtime : UInt8 := 2

def deviceSendAttr : UInt32 := 2

def ssIasZoneTypeMotionSensor : UInt16 := 0x000D
def ssIasZoneTypeContactSwitch : UInt16 := 0x0015
def ssIasZoneTypeFireSensor : UInt16 := 0x0028
def ssIasZoneTypeGasSensor : UInt16 := 0x002B
def ssIasZoneTypeKeyFob : UInt16 := 0x0115

def ssIasStartWarningWarningModeStop : BitVec 4 := 0
def ssIasStartWarningWarningModeBurglar : BitVec 4 := 1
def ssIasStartWarningWarningModeFire : BitVec 4 := 2
def ssIasStartWarningWarningModeEmergency : BitVec 4 := 3

def ssIasStartWarningStrobeUseStpobeInParallelToWarning : BitVec 2 := 1
def ssIasSirenLevelLowLevelSound : BitVec 2 := 0
def ssIasStrobeLevelLowLevelStrobe : UInt8 := 0

structure Clock where
  hour : UInt8
  minute : UInt8
  ctime : UInt64

/-- The macro `seq_after`: two `char`s compared as `int`s. -/
def seqAfter (sign : CharSign) (a b : UInt8) : Bool :=
  charInt sign b - charInt sign a < 0 ∨ charInt sign b - charInt sign a > 64

/-- The minutes fit the source's `short`s for every value of its arguments. -/
def toolkitInPeriod (starthour startminute endhour endminute targethour targetminute : UInt8) :
    Bool :=
  let startMinutes : Int := starthour.toNat * 60 + startminute.toNat
  let endMinutes : Int := endhour.toNat * 60 + endminute.toNat
  let targetMinutes : Int := targethour.toNat * 60 + targetminute.toNat
  let endMinutes := endMinutes - startMinutes
  let endMinutes := if endMinutes < 0 then endMinutes + 24 * 60 else endMinutes
  let targetMinutes := targetMinutes - startMinutes
  let targetMinutes := if targetMinutes < 0 then targetMinutes + 24 * 60 else targetMinutes
  ¬targetMinutes > endMinutes

/-- `DISARM` and any other model but the two below are not armed. -/
def endpointCheckArm (ep : Endpoint) (hour minute : UInt8) : Bool :=
  let record := ep.simpledesc.arm
  if record.armmodel = arm then true
  else if record.armmodel = armtime then
    toolkitInPeriod record.starthour record.startminute record.endhour record.endminute hour minute
  else false

def isWarningDevice (ep : Endpoint) : Bool := ep.deviceID = zclHaDeviceidIasWarningDevice

def gatewayGetWarningDeviceEndpoint (gw : Gateway) : Option Endpoint :=
  gw.devices.findSome? fun d => d.eplist.find? isWarningDevice

def gatewayGetWarningDevice (gw : Gateway) : Option Device :=
  gw.devices.find? fun d => d.eplist.any isWarningDevice

def eventSendWarning (wdEp : Endpoint) (warningDeviceIeee : UInt64) (warningMode : BitVec 4) :
    Effect :=
  .pipe (.warning
    { ieee := warningDeviceIeee
      warning :=
        { serialnum := 0
          endpoint := wdEp.number
          startWarning :=
            { warnMode := warningMode
              warnStrobe := ssIasStartWarningStrobeUseStpobeInParallelToWarning
              warnSirenLevel := ssIasSirenLevelLowLevelSound
              warningDuration := 2
              strobeDutyCycle := 1
              strobeLevel := ssIasStrobeLevelLowLevelStrobe } } })

def warnMode (zonetype : UInt16) : BitVec 4 :=
  if zonetype = ssIasZoneTypeContactSwitch ∨ zonetype = ssIasZoneTypeMotionSensor then
    ssIasStartWarningWarningModeBurglar
  else if zonetype = ssIasZoneTypeGasSensor ∨ zonetype = ssIasZoneTypeFireSensor then
    ssIasStartWarningWarningModeFire
  else if zonetype = ssIasZoneTypeKeyFob then ssIasStartWarningWarningModeEmergency
  else ssIasStartWarningWarningModeStop

/-- The two low bits of the zone status. -/
def alarmed (req : Zclzonechangenotification) : Bool := req.uszonestatus &&& 3 ≠ 0

/-- Extended status with the top bit set marks a heartbeat. -/
def isHeartbeat (req : Zclzonechangenotification) : Bool := req.extStatus &&& 0x80 ≠ 0

/-- The siren and the alarm frame, when the endpoint is armed and this is no heartbeat. -/
def alarmEffects (clock : Clock) (gw : Gateway) (ep : Endpoint)
    (req : Zclzonechangenotification) : List Effect :=
  if endpointCheckArm ep clock.hour clock.minute ∧ ¬isHeartbeat req then
    let warnings :=
      if alarmed req then
        match gatewayGetWarningDeviceEndpoint gw, gatewayGetWarningDevice gw with
        | some wdEp, some wdDevice =>
            if deviceCheckStatus wdDevice deviceAppDel then []
            else [eventSendWarning wdEp wdDevice.ieeeaddr (warnMode ep.simpledesc.zonetype)]
        | _, _ => []
      else []
    warnings ++ (protocolEncodeAlarm gw req clock.ctime).toList.map .broadcast
  else []

def setTransnum (ep : Endpoint) (transNum : UInt8) : Endpoint :=
  { ep with simpledesc := { ep.simpledesc with zclTransnum := transNum } }

/-- `ZCLZONECHANGENOTIFICATION` -/
def zoneChangeNotification (sign : CharSign) (clock : Clock) (gw : Gateway)
    (req : Zclzonechangenotification) : Outcome :=
  match gatewayGetdevice gw req.ieeeaddr with
  | none => ⟨gw, []⟩
  | some d =>
      if deviceCheckStatus d deviceAppDel then ⟨gw, []⟩
      else
        match gatewayGetEndpoint gw req.ieeeaddr req.endpoint with
        | none => ⟨gw, []⟩
        | some ep =>
            if seqAfter sign req.transNum ep.simpledesc.zclTransnum then
              ⟨modifyDevice gw req.ieeeaddr (modifyEndpoint · req.endpoint
                  (setTransnum · req.transNum)),
                alarmEffects clock gw ep req ++
                  [.database (.updateDeviceSeq req.ieeeaddr req.endpoint req.transNum)]⟩
            else ⟨gw, []⟩

def leaveDevice (d : Device) : Device :=
  { d with
    status := (d.status &&& ~~~deviceSendAttr) ||| deviceLeaveNet
    eplist := d.eplist.map (setTransnum · 0) }

def mtZdoLeaveIndCb (gw : Gateway) (extAddr : UInt64) : Outcome :=
  match gatewayGetdevice gw extAddr with
  | none => ⟨gw, []⟩
  | some d =>
      ⟨modifyDevice gw extAddr leaveDevice,
        .database (.updateDeviceStatus extAddr (leaveDevice d).status) ::
          d.eplist.map fun ep => .database (.updateDeviceSeq extAddr ep.number 0)⟩

theorem leave_device_app_del (d : Device) :
    deviceCheckStatus (leaveDevice d) deviceAppDel = deviceCheckStatus d deviceAppDel := by
  have bit : ((d.status &&& ~~~deviceSendAttr) ||| deviceLeaveNet) &&& deviceAppDel =
      d.status &&& deviceAppDel := by
    apply UInt32.toBitVec_inj.mp
    ext index
    simp [deviceSendAttr, deviceLeaveNet, deviceAppDel]
    grind
  rw [deviceCheckStatus, leaveDevice, bit, deviceCheckStatus]

theorem set_transnum_find (gw : Gateway) (ieee : UInt64) (endpoint transNum : UInt8) :
    gatewayGetEndpoint (modifyDevice gw ieee (modifyEndpoint · endpoint (setTransnum · transNum)))
        ieee endpoint =
      (gatewayGetEndpoint gw ieee endpoint).map (setTransnum · transNum) :=
  gateway_get_endpoint_modify gw ieee endpoint _ fun _ => rfl

end SmartHome.EventRecvznp
