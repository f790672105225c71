import SmartHome.Library.CriticalSections
import SmartHome.Library.Runs
import SmartHome.RpcStream

/-!
# Requests and responses

`rpcSendFrame` as any number of threads run it, `rpcProcess` as the one thread runs it that
reads, and the network processor at the other end of the line. A synchronous request holds
`rpcSem` until `srspSem` is posted or the wait for it runs out. Every step is an access to
something that the threads share.
-/

namespace SmartHome.RpcProtocol

open Function
open SmartHome.Library.Bytes
open SmartHome.Library.Runs
open SmartHome.Rpc
open SmartHome.RpcStream

set_option autoImplicit false

def mtRpcSuccess : UInt8 := 0
def mtRpcErrSubsystem : UInt8 := 1

structure Request where
  cmd0 : UInt8
  cmd1 : UInt8
  payload : List UInt8
  fits : payload.length ≤ 250

namespace Request

def Sreq (request : Request) : Prop := request.cmd0 &&& mtRpcCmdTypeMask = mtRpcCmdSreq

instance (request : Request) : Decidable request.Sreq := inferInstanceAs (Decidable (_ = _))

def subsystem (request : Request) : UInt8 := request.cmd0 &&& mtRpcSubsystemMask

def frame (request : Request) : List UInt8 := frameOf request.cmd0 request.cmd1 request.payload

end Request

/-- What `rpcProcess` has in `rpcBuff` behind the length, its checksum verified. -/
abbrev Message := List UInt8

def Srsp (message : Message) : Prop := message.headD 0 &&& mtRpcCmdTypeMask = mtRpcCmdSrsp

instance (message : Message) : Decidable (Srsp message) := inferInstanceAs (Decidable (_ = _))

def subsystemOf (message : Message) : UInt8 := message.headD 0 &&& mtRpcSubsystemMask

inductive Sending
  | idle
  /-- Before `sem_wait(&rpcSem)`. -/
  | blocked (request : Request)
  /-- Before `expectedSrspCmdId` is set. -/
  | entered (request : Request)
  | writing (request : Request) (pieces : List (List UInt8))
  /-- Before `sem_timedwait`. -/
  | awaiting (request : Request)
  /-- Before `expectedSrspCmdId` is made invalid. -/
  | clearing (request : Request) (status : UInt8)
  /-- Before `sem_post(&rpcSem)`. -/
  | posting (request : Request) (status : UInt8)
  | returning (request : Request) (status : UInt8)

inductive Receiving
  | idle
  | checking (message : Message)
  /-- Before `sem_post(&srspSem)`. -/
  | matched (message : Message)
  /-- Before `llq_add`. -/
  | passing (message : Message) (prio : Int)

structure State (Thread : Type*) where
  rpcSem : Nat
  srspSem : Nat
  expectedSrspCmdId : UInt8
  sending : Thread → Sending
  receiving : Receiving
  /-- All bytes that left the serial port. -/
  wire : List UInt8
  /-- The synchronous requests that are written and not answered. -/
  znp : List Request
  /-- The frames on their way back. -/
  line : List Message
  /-- The calls of `llq_add`. -/
  queued : List (Message × Int)

def rpcOpen {Thread : Type*} : State Thread where
  rpcSem := 1
  srspSem := 0
  expectedSrspCmdId := 0
  sending _ := .idle
  receiving := .idle
  wire := []
  znp := []
  line := []
  queued := []

inductive Event (Thread : Type*)
  | call (thread : Thread) (request : Request)
  | enter (thread : Thread)
  | expect (thread : Thread) (buf : Memory)
  /-- So many bytes of a piece leave the port before the rest is thrown away. -/
  | write (thread : Thread) (sent : Nat)
  | takeSrsp (thread : Thread)
  | timeout (thread : Thread)
  | clear (thread : Thread)
  | post (thread : Thread)
  | finish (thread : Thread)
  /-- The network processor answers the oldest request. -/
  | answer (message : Message)
  /-- A frame that answers nothing. -/
  | arrive (message : Message)
  | receive
  | check
  | postSrsp
  | pass

section Steps

variable {Thread : Type*} [DecidableEq Thread]

def State.moveTo (thread : Thread) (sending : Sending) (state : State Thread) : State Thread :=
  { state with sending := update state.sending thread sending }

@[simp] theorem State.move_to_sending (state : State Thread) (thread : Thread)
    (sending : Sending) :
    (state.moveTo thread sending).sending = update state.sending thread sending := rfl

/-- After the last piece a synchronous request waits, any other is done. -/
def afterFrame (request : Request) : Sending :=
  if request.Sreq then .awaiting request else .posting request mtRpcSuccess

def step (state : State Thread) : Event Thread → Option (State Thread)
  | .call thread request =>
      match state.sending thread with
      | .idle => some (state.moveTo thread (.blocked request))
      | _ => none
  | .enter thread =>
      match state.sending thread with
      | .blocked request =>
          if 0 < state.rpcSem then
            some ({ state with rpcSem := state.rpcSem - 1 }.moveTo thread (.entered request))
          else none
      | _ => none
  | .expect thread buf =>
      match state.sending thread with
      | .entered request =>
          (sentPieces buf request.cmd0 request.cmd1 request.payload).map fun pieces =>
            { state with
              expectedSrspCmdId :=
                if request.Sreq then request.subsystem else state.expectedSrspCmdId }.moveTo thread
              (.writing request pieces)
      | _ => none
  | .write thread sent =>
      match state.sending thread with
      | .writing request [piece] =>
          some ({ state with
            wire := state.wire ++ piece.take sent
            znp := if request.Sreq then state.znp ++ [request] else state.znp }.moveTo thread
            (afterFrame request))
      | .writing request (piece :: pieces) =>
          some ({ state with wire := state.wire ++ piece.take sent }.moveTo thread
            (.writing request pieces))
      | _ => none
  | .takeSrsp thread =>
      match state.sending thread with
      | .awaiting request =>
          if 0 < state.srspSem then
            some ({ state with srspSem := state.srspSem - 1 }.moveTo thread
              (.clearing request mtRpcSuccess))
          else none
      | _ => none
  | .timeout thread =>
      match state.sending thread with
      | .awaiting request => some (state.moveTo thread (.clearing request mtRpcErrSubsystem))
      | _ => none
  | .clear thread =>
      match state.sending thread with
      | .clearing request status =>
          some ({ state with expectedSrspCmdId := 0xFF }.moveTo thread (.posting request status))
      | _ => none
  | .post thread =>
      match state.sending thread with
      | .posting request status =>
          some ({ state with rpcSem := state.rpcSem + 1 }.moveTo thread (.returning request status))
      | _ => none
  | .finish thread =>
      match state.sending thread with
      | .returning _ _ => some (state.moveTo thread .idle)
      | _ => none
  | .answer message =>
      match state.znp with
      | request :: znp =>
          if Srsp message ∧ subsystemOf message = request.subsystem then
            some { state with znp, line := state.line ++ [message] }
          else none
      | [] => none
  | .arrive message => some { state with line := state.line ++ [message] }
  | .receive =>
      match state.receiving, state.line with
      | .idle, message :: line => some { state with receiving := .checking message, line }
      | _, _ => none
  | .check =>
      match state.receiving with
      | .checking message =>
          if Srsp message then
            if state.expectedSrspCmdId = subsystemOf message then
              some { state with receiving := .matched message }
            -- the warning about it crashes, no step comes after this one
            else none
          else some { state with receiving := .passing message 0 }
      | _ => none
  | .postSrsp =>
      match state.receiving with
      | .matched message =>
          some { state with srspSem := state.srspSem + 1, receiving := .passing message 1 }
      | _ => none
  | .pass =>
      match state.receiving with
      | .passing message prio =>
          some { state with receiving := .idle, queued := state.queued ++ [(message, prio)] }
      | _ => none

end Steps

end SmartHome.RpcProtocol
