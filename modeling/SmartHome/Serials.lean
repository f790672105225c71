import SmartHome.CommandTranslation
import SmartHome.Library.Runs
import SmartHome.ZclIncoming

/-!
# Serial numbers of commands and answers

An app puts 32 bits of serial number into a command. They go over the pipe as they are,
into the eight bits of a ZCL sequence number, and with the device's answer back into 32
bits and a frame for the app. Frames, both pipes and the radio take their turns in any
order; each item on its way remembers the serial number of the frame it goes back to.
-/

namespace SmartHome.Serials

open SmartHome.Library.Bytes
open SmartHome.Library.Runs
open SmartHome.Bytebuffer
open SmartHome.Registry
open SmartHome.PipeMessages
open SmartHome.Effects
open SmartHome.Encode
open SmartHome.Zcl
open SmartHome.Receive
open SmartHome.EventRecvmsg
open SmartHome.DownCommand
open SmartHome.System
open SmartHome.ZclIncoming

set_option autoImplicit false

/-- The frames whose answers are passed on to the app. -/
inductive Ask
  | onoff
  | readOnoff
  | levelCtrl

def Ask.messageid : Ask → UInt16
  | .onoff => deviceOnoff
  | .readOnoff => readOnoffCmd
  | .levelCtrl => deviceLevelCtrl

def askFrame (ask : Ask) (serialnum : UInt32) (rest : List UInt8) : List UInt8 :=
  encodeFrame ask.messageid (bytebufferWritedword serialnum ++ rest)

def frameSerial (frame : List UInt8) : UInt32 := bytebufferGetdword (frame.drop 5)

structure Caused (Item : Type) where
  serialnum : UInt32
  item : Item
  deriving DecidableEq

def causedBy {Item : Type} (serialnum : UInt32) (items : List Item) : List (Caused Item) :=
  items.map (Caused.mk serialnum)

/-- The registry, what lies in the two pipes, what the radio was asked to send, and the frames that
went out to the app. -/
structure Traffic where
  gateway : Gateway
  commands : List (Caused ZnpCommand)
  requests : List (Caused DataRequest)
  messages : List (Caused ZnpMessage)
  responses : List (Caused (List UInt8))

def quiet (gateway : Gateway) : Traffic := ⟨gateway, [], [], [], []⟩

/-- A frame arrives, the radio thread takes a command off its pipe, a device answers one of the
requests, the main thread takes a message off its pipe, or a handler that is not described here
leaves another registry. -/
inductive Event
  | frame (host : Host) (fd : Int) (ask : Ask) (serialnum : UInt32) (rest : List UInt8)
  | command (heap : Memory)
  | answer (index : Nat) (stack : UInt8) (message : IncomingMsg)
  | message (host : ZnpHost)
  | registry (gateway : Gateway)

def dataRequests (requests : List RadioRequest) : List DataRequest :=
  requests.filterMap fun request =>
    match request with
    | .afDataRequest request => some request
    | .zbPermitJoiningReq .. => none

def broadcasts (effects : List Effect) : List (List UInt8) :=
  effects.filterMap fun effect =>
    match effect with
    | .broadcast frame => some frame
    | _ => none

def sequenceNumber (data : Memory) : UInt8 := (zclParsehdr data).1.transseqnum

def requestSequence (request : DataRequest) : UInt8 :=
  sequenceNumber fun address => request.data.getD address 0

/-- A device answers with the sequence number of the request, in the request's cluster. -/
def Answers (message : IncomingMsg) (request : DataRequest) : Prop :=
  message.clusterId = request.clusterID ∧ sequenceNumber message.data = requestSequence request

instance (message : IncomingMsg) (request : DataRequest) : Decidable (Answers message request) :=
  inferInstanceAs (Decidable (_ ∧ _))

def step (s : Traffic) : Event → Option Traffic
  | .frame host fd ask serialnum rest =>
      let frame := askFrame ask serialnum rest
      let state := eventSwitch host fd ask.messageid (UInt32.ofNat frame.length) (localBuffer frame)
        (stateOf s.gateway)
      some { s with
        gateway := state.gateway
        commands := s.commands ++ causedBy serialnum (pipeCommands state.effects) }
  | .command heap =>
      match s.commands with
      | [] => some s
      | command :: commands =>
          some { s with
            commands
            requests := s.requests ++
              causedBy command.serialnum (dataRequests (appProcess heap s.gateway command.item)) }
  | .answer index stack message =>
      match s.requests[index]? with
      | none => some s
      | some request =>
          if Answers message request.item then
            some { s with
              messages := s.messages ++ causedBy request.serialnum
                (zclProccessincomingmessage stack s.gateway message).toList }
          else some s
  | .message host =>
      match s.messages with
      | [] => some s
      | message :: messages =>
          (eventRecvznp host s.gateway message.item).map fun outcome =>
            { s with
              gateway := outcome.gateway
              messages
              responses := s.responses ++
                causedBy message.serialnum (broadcasts outcome.effects) }
  | .registry gateway => some { s with gateway }

/-- Every frame to the app carries the serial number of the frame that caused it, so that frames
for different serial numbers differ in theirs. -/
def Correlated (s : Traffic) : Prop :=
  (∀ response ∈ s.responses, frameSerial response.item = response.serialnum) ∧
    ∀ first ∈ s.responses, ∀ second ∈ s.responses, first.serialnum ≠ second.serialnum →
      frameSerial first.item ≠ frameSerial second.item

def Sends (gw : Gateway) : ZnpMessage → Prop
  | .genOnoffRsp response => ∃ d, gatewayGetdevice gw response.ieeeaddr = some d
  | .genLevelCtlRsp response =>
      ∃ ep, gatewayGetEndpoint gw response.ieeeaddr response.endpoint = some ep
  | _ => True

def SmallSerial (s : Traffic) : Event → Prop
  | .message _ => ∀ message, s.messages.head? = some message → Sends s.gateway message.item →
      message.serialnum < 256
  | _ => True

end SmartHome.Serials
