import SmartHome.Mt
import SmartHome.ZclIncoming
import SmartHome.Zones

/-!
# The callbacks of the radio thread

What `appinit.c`, `zcl.c` and `zcl_ss.c` do with the records that `mtProcess` hands them:
device object messages go to the registry, messages of the application framework through
their ZCL header to the handler of their cluster. A handler works on the registry itself,
or writes a message for the main thread.
-/

namespace SmartHome.RadioThread

open SmartHome.Library.Bytes
open SmartHome.Bytebuffer
open SmartHome.Registry
open SmartHome.PipeMessages
open SmartHome.Effects
open SmartHome.Zcl
open SmartHome.ZdoCallbacks
open SmartHome.BasicAttributes
open SmartHome.System
open SmartHome.ZclIncoming
open SmartHome.Zones
open SmartHome.Mt

set_option autoImplicit false

def commandSsIasZoneStatusChangeNotification : UInt8 := 0x00
def commandSsIasZoneStatusEnrollRequest : UInt8 := 0x01

/-- What the handlers find in memory beside the message: behind its data, in a struct that is not
filled as a whole, in the naming of an outlet, and where a zone enrols. -/
structure IncomingHost where
  behind : Memory
  deviceState : UInt8
  stale : List UInt8
  headDeviceID : UInt16
  enroll : EnrollHost

inductive Reaction
  | piped (message : ZnpMessage)
  | enroll (request : EnrollRequest)
  | basic (message : BasicMessage)

def zclssProcessincmdZonestatusChangenotification (d : Device) (message : IncomingMsgFormat)
    (hdr : Zclframehdr) (data : Memory) : ZnpMessage :=
  .zoneChangeNotification
    { ieeeaddr := d.ieeeaddr
      clusterid := message.clusterId
      zonetype := 0
      endpoint := message.srcEndpoint
      uszonestatus := buildUint16 (data 0) (data 1)
      extStatus := data 2
      transNum := hdr.transseqnum }

def enrollRequest (message : IncomingMsgFormat) (hdr : Zclframehdr) (data : Memory) :
    EnrollRequest where
  srcAddr := message.srcAddr
  srcEndpoint := message.srcEndpoint
  dstEndpoint := message.dstEndpoint
  groupId := message.groupId
  clusterId := message.clusterId
  transseqnum := hdr.transseqnum
  zoneType := buildUint16 (data 0) (data 1)

def zclssProcessinzonestatuscmdsclient (d : Device) (message : IncomingMsgFormat)
    (hdr : Zclframehdr) (data : Memory) : Option Reaction :=
  if hdr.commandid = commandSsIasZoneStatusChangeNotification then
    some (.piped (zclssProcessincmdZonestatusChangenotification d message hdr data))
  else if hdr.commandid = commandSsIasZoneStatusEnrollRequest then
    some (.enroll (enrollRequest message hdr data))
  else none

/-- Commands to a server are not for the gateway, nor is what a manufacturer has added. -/
def zclssHandleincoming (d : Device) (message : IncomingMsgFormat) (hdr : Zclframehdr)
    (data : Memory) : Option Reaction :=
  if bitField hdr.type = zclFrameTypeSpecificCmd ∧ hdr.manuspecific = 0 ∧
      bitField hdr.direction ≠ zclFrameClientServerDir then
    zclssProcessinzonestatuscmdsclient d message hdr data
  else none

/-- `IncomingMsgFormat_t` as the handlers of answers read it. -/
def asRead (message : IncomingMsgFormat) (data : Memory) : IncomingMsg where
  clusterId := message.clusterId
  srcAddr := message.srcAddr
  srcEndpoint := message.srcEndpoint
  len := message.len
  data

def zclProccessincomingmessage (host : IncomingHost) (gw : Gateway) (message : IncomingMsgFormat) :
    Option Reaction :=
  if message.len = 0 then none
  else
    let memory := placed message.data.toList host.behind
    let (hdr, data) := zclParsehdr memory
    match gatewayGetdeviceShortaddr gw message.srcAddr with
    | none => none
    | some d =>
        if message.clusterId = zclClusterIdSsIasZone then zclssHandleincoming d message hdr data
        else if message.clusterId = zclClusterIdGenBasic then
          some (.basic
            { srcAddr := message.srcAddr
              data
              datalen := message.len.toUInt16 - (zclCalcHdrSize hdr).toUInt16
              stale := host.stale
              headDeviceID := host.headDeviceID })
        else if message.clusterId = zclClusterIdGenOnOff then
          (handleOnoffState d (asRead message memory) hdr data).map .piped
        else if message.clusterId = zclClusterIdGenLevelControl then
          some (.piped (handleLevelctrRsp host.deviceState d (asRead message memory) hdr data))
        else none

/-- The registry with its database, the zone table, the state of the network processor, and what
was done to the outside: messages to the main thread, effects of the handlers, and answers to
zones that enrol. -/
structure RadioState where
  system : GatewayState
  zones : ZoneTable
  devState : UInt8
  piped : List ZnpMessage
  effects : List Effect
  responses : List DataRequest

def RadioState.handled (s : RadioState) (input : Input) : Option RadioState :=
  (handle s.system.gateway input).map fun outcome =>
    { s with system := s.system.after outcome, effects := s.effects ++ outcome.effects }

def RadioState.enrolled (s : RadioState) (host : EnrollHost) (request : EnrollRequest) :
    Option RadioState :=
  (zclssProcessincmdZonestatusEnrollrequest host s.system.gateway s.zones request).map
    fun enrolment =>
      { s with
        system := s.system.after enrolment.registry
        zones := enrolment.decision.zones
        effects := s.effects ++ enrolment.registry.effects
        responses := s.responses ++ [enrolment.response] }

def mtAfIncomingMsgCb (host : IncomingHost) (s : RadioState) (message : IncomingMsgFormat) :
    Option RadioState :=
  match zclProccessincomingmessage host s.system.gateway message with
  | none => some s
  | some (.piped message) => some { s with piped := s.piped ++ [message] }
  | some (.enroll request) => s.enrolled host.enroll request
  | some (.basic message) => s.handled (.basicAttributes message)

/-- A callback; there is no state after one that runs over memory or does not end. -/
def perform (host : IncomingHost) (s : RadioState) : Callback → Option RadioState
  | .srsp _ => some s
  | .stateChangeInd newDevState => some { s with devState := newDevState }
  | .simpleDescRsp msg => s.handled (.simpleDescRsp msg)
  | .activeEpRsp msg => s.handled (.activeEpRsp msg)
  | .endDeviceAnnceInd msg => s.handled (.announce msg)
  | .leaveInd msg => s.handled (.leaveInd msg.extAddr)
  | .dataConfirm _ => some s
  | .incomingMsg msg => mtAfIncomingMsgCb host s msg

end SmartHome.RadioThread
