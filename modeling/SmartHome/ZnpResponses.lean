import SmartHome.DeviceNames

/-!
# New devices and responses

The cases of `event_recvznp` next to the zone alarms: a device is reported to the
app, and a device has answered a command. Each runs to its end before the next
message is taken off the pipe.
-/

namespace SmartHome.ZnpResponses

open SmartHome.Library.CTypes
open SmartHome.Registry
open SmartHome.PipeMessages
open SmartHome.Effects
open SmartHome.Encode
open SmartHome.DeviceNames

set_option autoImplicit false

def nameNewDevice (stale : List UInt8) (d : Device) : DeviceOutcome :=
  if d.devicename.strlen = 0 then
    (initDevicename stale d).andThen fun d =>
      ⟨d, [.database (.updateDevicename d.ieeeaddr d.devicename.text)]⟩
  else .done d

/-- What the encoder does to the device: zone types move from its slots to its endpoints. -/
def takeOverZonetypes (sign : CharSign) (d : Device) : Device :=
  let encoded := addDelEndpoints sign d.eplist d.endpointZonetype
  { d with endpointZonetype := encoded.2.1, eplist := encoded.2.2 }

def zoneEnrollReq (sign : CharSign) (stale : List UInt8) (gw : Gateway) (ieeeaddr : UInt64) :
    Outcome :=
  match gatewayGetdevice gw ieeeaddr with
  | none => ⟨gw, []⟩
  | some d =>
      if deviceCheckStatus d deviceAppDel then ⟨gw, []⟩
      else
        let named := nameNewDevice stale d
        let gw := modifyDevice gw ieeeaddr fun _ => named.device
        match protocolEncodeAddDelDevice sign gw ieeeaddr 1 with
        | some (frame, gw) => ⟨gw, named.effects ++ [.broadcast frame]⟩
        | none => ⟨gw, named.effects⟩

def generalDefaultRsp (gw : Gateway) (response : Zclgeneraldefaultresponse) : Outcome :=
  ⟨gw, [.broadcast (protocolEncodeGeneralResponse response)]⟩

/-- `ZCLGENONOFFRSP`: the state in the database is the command's id, whatever the status. The
database function uses the device without a check: there is no result when it does not exist. -/
def genOnoffRsp (gw : Gateway) (response : Zclgeneraldefaultresponse) : Option Outcome :=
  match gatewayGetdevice gw response.ieeeaddr with
  | none => none
  | some _ =>
      some ⟨gw, [.database (.updateDeviceState response.ieeeaddr response.endpoint response.cmdInd),
        .broadcast (protocolEncodeOnoffResponse response)]⟩

def readOnoffRspCase (gw : Gateway) (response : Zclreadonoffrsp) : Outcome :=
  ⟨gw, [.broadcast (protocolEncodeReadonoffResponse response)]⟩

/-- `ZCLGENLEVELCTLRSP`: the state in memory, which the command has set already, goes to the
database and into the frame. -/
def genLevelCtlRsp (gw : Gateway) (response : Zcllevlctldefaultresponse) : Outcome :=
  match gatewayGetEndpoint gw response.ieeeaddr response.endpoint with
  | none => ⟨gw, []⟩
  | some ep =>
      let response := { response with deviceState := ep.simpledesc.deviceState }
      let stored : List Effect :=
        if response.status = 0 then
          [.database (.updateDeviceState response.ieeeaddr response.endpoint response.deviceState)]
        else []
      ⟨gw, stored ++ [.broadcast (protocolEncodeLevelResponse response)]⟩

def warningRsp (gw : Gateway) (response : Zclgeneraldefaultresponse) : Outcome :=
  ⟨gw, [.broadcast (protocolEncodeWarningResponse response)]⟩

def basicStatus (gw : Gateway) (status : Zclbasicstatus) : Outcome :=
  ⟨gw, [.broadcast (protocolEncodeReportStatus status)]⟩

theorem name_new_device_eq (stale : List UInt8) (d : Device) :
    ∃ names, nameNewDevice stale d = renamed names d := by
  unfold nameNewDevice
  split_ifs
  · rcases init_devicename_eq stale d with ⟨names, named⟩
    refine ⟨names ++ [names.getLastD d.devicename], ?_⟩
    rw [← renamed_and_then, named]
    rfl
  · exact ⟨[], rfl⟩

end SmartHome.ZnpResponses
