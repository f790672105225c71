import SmartHome.BasicAttributes
import SmartHome.EventRecvmsg
import SmartHome.Library.Runs
import SmartHome.Sqlitedb
import SmartHome.ZnpResponses

/-!
# The gateway and its database

The registry in memory and the device table change together: a handler runs to its
end, its database calls act on the table in their order, all of them succeeding, and
a restart builds the registry from the table again. The gateway's own name lies in
another table, which is not described here.
-/

namespace SmartHome.System

open SmartHome.Library.CTypes
open SmartHome.Library.Tables
open SmartHome.Registry
open SmartHome.PipeMessages
open SmartHome.Effects
open SmartHome.EventRecvznp
open SmartHome.EventRecvmsg
open SmartHome.ZdoCallbacks
open SmartHome.BasicAttributes
open SmartHome.ZnpResponses
open SmartHome.Sqlitedb

set_option autoImplicit false

/-- What `event_recvznp` takes off the pipe. -/
inductive ZnpMessage
  | zoneEnrollReq (ieeeaddr : UInt64)
  | zoneChangeNotification (req : Zclzonechangenotification)
  | generalDefaultRsp (response : Zclgeneraldefaultresponse)
  | genOnoffRsp (response : Zclgeneraldefaultresponse)
  | readOnoffRsp (response : Zclreadonoffrsp)
  | genLevelCtlRsp (response : Zcllevlctldefaultresponse)
  | warningRsp (response : Zclgeneraldefaultresponse)
  | basicStatus (status : Zclbasicstatus)

/-- The platform's `char`, the clock, and the bytes behind the NUL of a device's name. -/
structure ZnpHost where
  sign : CharSign
  clock : Clock
  stale : List UInt8

def eventRecvznp (host : ZnpHost) (gw : Gateway) : ZnpMessage → Option Outcome
  | .zoneEnrollReq ieeeaddr => some (zoneEnrollReq host.sign host.stale gw ieeeaddr)
  | .zoneChangeNotification req => some (zoneChangeNotification host.sign host.clock gw req)
  | .generalDefaultRsp response => some (generalDefaultRsp gw response)
  | .genOnoffRsp response => genOnoffRsp gw response
  | .readOnoffRsp response => some (readOnoffRspCase gw response)
  | .genLevelCtlRsp response => some (genLevelCtlRsp gw response)
  | .warningRsp response => some (warningRsp gw response)
  | .basicStatus status => some (basicStatus gw status)

def succeeding (gw : Gateway) (host : Host) : Host :=
  { host with
    sqlitedbUpdateGatewayname := fun _ _ => 0
    sqlitedbUpdateDevicename := fun _ _ => 0
    sqlitedbUpdateDeviceArm := fun ieee endpoint _ =>
      sqlitedbUpdateDeviceArmResult gw ieee endpoint }

/-- One call of a handler: a callback of the radio thread, a message off its pipe, or an accepted
app frame. The time of the last login has no part in this. -/
inductive Input
  | announce (msg : EndDeviceAnnceIndFormat)
  | activeEpRsp (msg : ActiveEpRspFormat)
  | simpleDescRsp (msg : SimpleDescRspFormat)
  | leaveInd (extAddr : UInt64)
  | enrollRequest (srcAddr : UInt16) (srcEndpoint : UInt8) (zoneType : UInt16)
  | basicAttributes (message : BasicMessage)
  | znp (host : ZnpHost) (message : ZnpMessage)
  | command (host : Host) (fd : Int) (command : Command)

def handle (gw : Gateway) : Input → Option Outcome
  | .announce msg => some (mtZdoEndDeviceAnnceIndCb gw msg)
  | .activeEpRsp msg => some (mtZdoActiveEpRspCb gw msg)
  | .simpleDescRsp msg => some (mtZdoSimpleDescRspCb gw msg)
  | .leaveInd extAddr => some (mtZdoLeaveIndCb gw extAddr)
  | .enrollRequest srcAddr srcEndpoint zoneType =>
      some (zonestatusEnrollrequest gw srcAddr srcEndpoint zoneType)
  | .basicAttributes message =>
      tryAtDevice gw (·.shortaddr = message.srcAddr) (BasicAttributes.basicAttributes message)
  | .znp host message => eventRecvznp host gw message
  | .command host fd command =>
      let state := handleCommand (succeeding gw host) fd command (stateOf gw)
      some ⟨state.gateway, state.effects⟩

inductive Event
  | input (input : Input)
  | restart

structure GatewayState where
  gateway : Gateway
  table : DeviceTable

/-- No handler moves an endpoint behind a call that looks for its position, so all calls may use the
registry that the handler leaves. -/
def GatewayState.after (s : GatewayState) (outcome : Outcome) : GatewayState :=
  ⟨outcome.gateway, runCalls outcome.gateway (databaseCalls outcome.effects) s.table⟩

def GatewayState.restarted (s : GatewayState) : GatewayState :=
  ⟨sqlitedbLoadDevice s.table { s.gateway with devices := [] }, s.table⟩

def step (s : GatewayState) : Event → Option GatewayState
  | .input input => (handle s.gateway input).map s.after
  | .restart => some s.restarted

/-- No statement of the step has a quote in one of its texts. -/
def QuoteFree (gw : Gateway) : Event → Prop
  | .input input => ∀ outcome ∈ handle gw input, Unspliced (databaseCalls outcome.effects)
  | .restart => True

instance (gw : Gateway) (event : Event) : Decidable (QuoteFree gw event) :=
  match event with
  | .input input =>
      inferInstanceAs (Decidable (∀ outcome ∈ handle gw input,
        Unspliced (databaseCalls outcome.effects)))
  | .restart => inferInstanceAs (Decidable True)

def Fresh (s : GatewayState) : Prop := s.gateway.devices = [] ∧ s.table = .empty

end SmartHome.System
