import SmartHome.EventRecvznp

/-!
# Announcement and discovery

The callbacks of `appinit.c` for end device announcements, active endpoint responses
and simple descriptor responses. An announcement starts the discovery of a device by
asking for its endpoints; each response asks for the next descriptor, and the last
descriptor completes the device.
-/

namespace SmartHome.ZdoCallbacks

open SmartHome.Library.CTypes
open SmartHome.Registry
open SmartHome.Effects
open SmartHome.EventRecvznp
open SmartHome.Zcl

set_option autoImplicit false

def mtRpcSuccess : UInt8 := 0

def attridBasicApplVersion : UInt16 := 0x0001
def attridBasicStackVersion : UInt16 := 0x0002
def attridBasicHwVersion : UInt16 := 0x0003
def attridBasicManufacturerName : UInt16 := 0x0004
def attridBasicModelId : UInt16 := 0x0005
def attridBasicDateCode : UInt16 := 0x0006
def attridBasicPowerSource : UInt16 := 0x0007

/-- `EndDeviceAnnceIndFormat_t` without the capabilities. -/
structure EndDeviceAnnceIndFormat where
  srcAddr : UInt16
  nwkAddr : UInt16
  ieeeAddr : UInt64
  deriving DecidableEq

def deviceIncrease (d : Device) : Device := { d with epcursor := d.epcursor + 1 }

def updateDeviceStatus (d : Device) : Effect := .database (.updateDeviceStatus d.ieeeaddr d.status)

def deviceSetStatus (status : UInt32) (d : Device) : DeviceOutcome :=
  let d := { d with status := d.status ||| status }
  ⟨d, [updateDeviceStatus d]⟩

def reportNewDevice (d : Device) : DeviceOutcome := ⟨d, [.zoneEnrollReq d.ieeeaddr]⟩

/-- A cluster id is passed where the direction belongs. -/
def sendReadAttrCmd (d : Device) : DeviceOutcome :=
  ⟨d, [.zclSendRead (zclSendRead 1 1 d.shortaddr zclClusterIdGenBasic
    [attridBasicZclVersion, attridBasicApplVersion, attridBasicStackVersion, attridBasicHwVersion,
      attridBasicManufacturerName, attridBasicModelId, attridBasicDateCode, attridBasicPowerSource]
    zclClusterIdGenBasic.toUInt8 0 0)]⟩

/-- "feibit" -/
def feibit : List UInt8 := [0x66, 0x65, 0x69, 0x62, 0x69, 0x74]

def announceStatus (d : Device) : DeviceOutcome :=
  let d := { d with status := (d.status &&& ~~~deviceAppDel) &&& ~~~deviceLeaveNet }
  ⟨d, [updateDeviceStatus d]⟩

/-- The copies of the address in the endpoints' descriptors stay as they are. -/
def announceShortaddr (nwkAddr : UInt16) (d : Device) : DeviceOutcome :=
  if d.shortaddr ≠ nwkAddr then
    ⟨{ d with shortaddr := nwkAddr }, [.database (.updateDeviceShortaddr d.ieeeaddr nwkAddr)]⟩
  else .done d

/-- The devices of this manufacturer start their numbers anew; the database is not told. -/
def announceTransnum (d : Device) : DeviceOutcome :=
  if sameCaseless d.manufacturername.text feibit 6 then
    .done { d with eplist := d.eplist.map (setTransnum · 0) }
  else .done d

/-- The discovery starts again if no endpoint is known; else a complete device is reported. -/
def announceDiscovery (msg : EndDeviceAnnceIndFormat) (d : Device) : DeviceOutcome :=
  if deviceCheckStatus d deviceSendActiveep = false ∨ d.eplist = [] then
    let d := { d with status := (d.status ||| deviceSendActiveep) &&& ~~~deviceSendSimpledesc }
    ⟨d, [updateDeviceStatus d, .zdo (.activeEpReq msg.srcAddr msg.nwkAddr)]⟩
  else if deviceCheckStatus d deviceActive then reportNewDevice d
  else .done d

/-- The outlets' states are cleared in the database only. -/
def clearDeviceState (d : Device) : DeviceOutcome :=
  ⟨d, (d.eplist.filter (·.deviceID = zclHaDeviceidMainsPowerOutlet)).map fun ep =>
    .database (.updateDeviceState d.ieeeaddr ep.number 0)⟩

/-- The part of `mtZdoEndDeviceAnnceIndCb` behind the search for the device. -/
def announced (msg : EndDeviceAnnceIndFormat) (d : Device) : DeviceOutcome :=
  (announceStatus d).andThen fun d =>
    (announceShortaddr msg.nwkAddr d).andThen fun d =>
      (announceTransnum d).andThen fun d =>
        (announceDiscovery msg d).andThen clearDeviceState

def mtZdoEndDeviceAnnceIndCb (gw : Gateway) (msg : EndDeviceAnnceIndFormat) : Outcome :=
  match gatewayGetdevice gw msg.ieeeAddr with
  | some _ => atDevice gw (·.ieeeaddr = msg.ieeeAddr) (announced msg)
  | none =>
      let created := announced msg (deviceCreate msg.ieeeAddr msg.nwkAddr)
      ⟨gatewayAdddevice gw created.device,
        .database (.insertDeviceIeee msg.ieeeAddr msg.nwkAddr) :: created.effects⟩

def AsksAgain (d : Device) : Prop := deviceCheckStatus d deviceSendActiveep = false ∨ d.eplist = []

instance (d : Device) : Decidable (AsksAgain d) :=
  inferInstanceAs (Decidable (deviceCheckStatus d deviceSendActiveep = false ∨ d.eplist = []))

def backStatus (d : Device) : UInt32 := (d.status &&& ~~~deviceAppDel) &&& ~~~deviceLeaveNet

def announcedStatus (d : Device) : UInt32 :=
  if AsksAgain d then (backStatus d ||| deviceSendActiveep) &&& ~~~deviceSendSimpledesc
  else backStatus d

def announcedEndpoints (d : Device) : List Endpoint :=
  if sameCaseless d.manufacturername.text feibit 6 then d.eplist.map (setTransnum · 0) else d.eplist

def announcedDevice (nwkAddr : UInt16) (d : Device) : Device :=
  { d with status := announcedStatus d, shortaddr := nwkAddr, eplist := announcedEndpoints d }

def announceReaction (msg : EndDeviceAnnceIndFormat) (d : Device) : List Effect :=
  if AsksAgain d then
    [.database (.updateDeviceStatus d.ieeeaddr (announcedStatus d)),
      .zdo (.activeEpReq msg.srcAddr msg.nwkAddr)]
  else if deviceCheckStatus d deviceActive then [.zoneEnrollReq d.ieeeaddr]
  else []

theorem announced_endpoints_eq_nil {d : Device} : announcedEndpoints d = [] ↔ d.eplist = [] := by
  unfold announcedEndpoints
  split_ifs
  · exact List.map_eq_nil_iff
  · exact Iff.rfl

theorem back_status_flag (d : Device) {flag : UInt32} (appDel : deviceAppDel &&& flag = 0)
    (leaveNet : deviceLeaveNet &&& flag = 0) :
    flagSet (backStatus d) flag = deviceCheckStatus d flag := by
  rw [backStatus, flag_set_clear_other leaveNet, flag_set_clear_other appDel,
    device_check_status_eq]

def readdressed (nwkAddr : UInt16) (d : Device) : Device :=
  { d with status := backStatus d, shortaddr := nwkAddr, eplist := announcedEndpoints d }

theorem announce_discovery_readdressed (msg : EndDeviceAnnceIndFormat) (d : Device) :
    announceDiscovery msg (readdressed msg.nwkAddr d) =
      ⟨announcedDevice msg.nwkAddr d, announceReaction msg d⟩ := by
  have sendActiveep : deviceCheckStatus (readdressed msg.nwkAddr d) deviceSendActiveep =
      deviceCheckStatus d deviceSendActiveep := back_status_flag d (by decide) (by decide)
  have active : deviceCheckStatus (readdressed msg.nwkAddr d) deviceActive =
      deviceCheckStatus d deviceActive := back_status_flag d (by decide) (by decide)
  have empty : (readdressed msg.nwkAddr d).eplist = [] ↔ d.eplist = [] :=
    announced_endpoints_eq_nil
  by_cases again : AsksAgain d
  · have asked : deviceCheckStatus (readdressed msg.nwkAddr d) deviceSendActiveep = false ∨
        (readdressed msg.nwkAddr d).eplist = [] := by
      rw [sendActiveep, empty]
      exact again
    have after : announcedStatus d =
        (backStatus d ||| deviceSendActiveep) &&& ~~~deviceSendSimpledesc := if_pos again
    rw [announceDiscovery, if_pos asked, announceReaction, if_pos again, announcedDevice, after]
    rfl
  · have asked : ¬(deviceCheckStatus (readdressed msg.nwkAddr d) deviceSendActiveep = false ∨
        (readdressed msg.nwkAddr d).eplist = []) := by
      rw [sendActiveep, empty]
      exact again
    have after : announcedStatus d = backStatus d := if_neg again
    rw [announceDiscovery, if_neg asked, active, announceReaction, if_neg again, announcedDevice,
      after]
    split_ifs
    · rfl
    · rfl

theorem announced_eq (msg : EndDeviceAnnceIndFormat) (d : Device) :
    announced msg d =
      ⟨announcedDevice msg.nwkAddr d,
        .database (.updateDeviceStatus d.ieeeaddr (backStatus d)) ::
          ((announceShortaddr msg.nwkAddr d).effects ++ (announceReaction msg d ++
            (clearDeviceState (announcedDevice msg.nwkAddr d)).effects))⟩ := by
  have moved : announceShortaddr msg.nwkAddr (announceStatus d).device =
      ⟨{ d with status := backStatus d, shortaddr := msg.nwkAddr },
        (announceShortaddr msg.nwkAddr d).effects⟩ := by
    rw [announceStatus, announceShortaddr, announceShortaddr]
    split_ifs with other
    · rfl
    · rw [DeviceOutcome.done, ← not_not.mp other]
      rfl
  have renumbered : announceTransnum { d with status := backStatus d, shortaddr := msg.nwkAddr } =
      .done (readdressed msg.nwkAddr d) := by
    unfold announceTransnum readdressed announcedEndpoints
    split_ifs
    · rfl
    · rfl
  have discovered := announce_discovery_readdressed msg d
  rw [announced, DeviceOutcome.andThen, moved]
  simp only [DeviceOutcome.andThen, renumbered, DeviceOutcome.done, discovered]
  rfl

/-- Only the first response after an announcement is taken. -/
def activeEpRsp (msg : ActiveEpRspFormat) (d : Device) : DeviceOutcome :=
  if deviceCheckStatus d deviceSendSimpledesc then .done d
  else
    (deviceSetStatus deviceSendSimpledesc d).andThen fun d =>
      (deviceSetStatus deviceGetActiveep d).andThen fun d =>
        ⟨deviceSetep d msg,
          [.zdo (.simpleDescReq msg.srcAddr msg.nwkAddr (msg.activeEPList.get 0))]⟩

def mtZdoActiveEpRspCb (gw : Gateway) (msg : ActiveEpRspFormat) : Outcome :=
  if msg.status = mtRpcSuccess then atDevice gw (·.shortaddr = msg.srcAddr) (activeEpRsp msg)
  else ⟨gw, []⟩

def describedEndpoint (msg : SimpleDescRspFormat) : Endpoint :=
  endpointCreate
    { simpledesc := msg
      zonetype := 0
      arm := ⟨0, 0, 0, 0, 0⟩
      zclTransnum := 0
      deviceState := 0 }

/-- A position behind the 77 places is outside the array. -/
def listedEndpoint (activeep : ActiveEpRspFormat) (position : UInt8) : UInt8 :=
  activeep.activeEPList.toList.getD position.toNat 0

/-- The cursor counts the endpoints that were new when they arrived; nothing sets it back. -/
def countEndpoint (endpoint : UInt8) (d : Device) : Device :=
  if deviceHasEnpoint d endpoint then d else deviceIncrease d

def completeDevice (d : Device) : DeviceOutcome :=
  (⟨d, [.database (.updateDeviceEndpoint d)]⟩ : DeviceOutcome).andThen fun d =>
    (deviceSetStatus deviceGetSimpledesc d).andThen fun d =>
      (reportNewDevice d).andThen fun d =>
        (deviceSetStatus deviceActive d).andThen sendReadAttrCmd

def simpleDescRsp (msg : SimpleDescRspFormat) (d : Device) : DeviceOutcome :=
  let d := countEndpoint msg.endpoint d
  if d.epcursor < d.activeep.activeEPCount then
    ⟨deviceAddendpoint d (describedEndpoint msg),
      [.zdo (.simpleDescReq msg.srcAddr msg.nwkAddr (listedEndpoint d.activeep d.epcursor))]⟩
  else if d.epcursor = d.activeep.activeEPCount then
    completeDevice (deviceAddendpoint d (describedEndpoint msg))
  else .done d

def mtZdoSimpleDescRspCb (gw : Gateway) (msg : SimpleDescRspFormat) : Outcome :=
  if msg.status = mtRpcSuccess then atDevice gw (·.shortaddr = msg.srcAddr) (simpleDescRsp msg)
  else ⟨gw, []⟩

/-- `device_set_zonetype`: to the endpoint if it is known, else to the first free slot, if any. -/
def deviceSetZonetype (endpoint : UInt8) (zonetype : UInt16) (d : Device) : DeviceOutcome :=
  match deviceGetEndpoint d endpoint with
  | some _ =>
      ⟨modifyEndpoint d endpoint fun ep => { ep with simpledesc := { ep.simpledesc with zonetype } },
        [.database (.updateDeviceEndpointZonetype d.ieeeaddr endpoint zonetype)]⟩
  | none =>
      match d.endpointZonetype.findFinIdx? (· = 0) with
      | some ⟨i, room⟩ =>
          let slot := (endpoint.toUInt32 <<< 16) + zonetype.toUInt32
          .done { d with endpointZonetype := d.endpointZonetype.set i slot room }
      | none => .done d

/-- `zclss_processincmd_zonestatus_enrollrequest`: whatever it answers to the zone, the zone type is
stored and the device reported. -/
def zonestatusEnrollrequest (gw : Gateway) (srcAddr : UInt16) (srcEndpoint : UInt8)
    (zoneType : UInt16) : Outcome :=
  atDevice gw (·.shortaddr = srcAddr) fun d =>
    (deviceSetZonetype srcEndpoint zoneType d).andThen reportNewDevice

end SmartHome.ZdoCallbacks
