import Mathlib.Data.List.ReduceOption
import SmartHome.MtOverruns
import SmartHome.QueueInterleavings
import SmartHome.RadioThread

/-!
# From the serial line to the registry

The receiving side as a whole. One thread reads the line and queues messages, any number of
threads take messages off the queue and process them, and whatever else runs in the gateway
runs in between; a thread that waits again within a callback counts as another one. Beside
it the same without line, queue and bytes: indications are there in the order in which the
network processor made them, a thread takes the first one and acts on it. Every run of the
first is one of the second.
-/

namespace SmartHome.RadioLine

open SmartHome.Library.Bytes
open SmartHome.Library.Runs
open SmartHome.System
open SmartHome.Rpc
open SmartHome.RpcStream
open SmartHome.Queue (Deque)
open SmartHome.Mt
open SmartHome.MtMessages
open SmartHome.MtOverruns
open SmartHome.RadioThread

set_option autoImplicit false

variable {Thread : Type}

def hold {α : Type} [DecidableEq Thread] (held : Thread → Option α) (thread : Thread) (item : Option α) :
    Thread → Option α := fun other => if other = thread then item else held other

section Acts

/-- What changes the state of the gateway: the callback for an indication, or a step of the rest. The
stack is what the records hold behind the lists. -/
inductive Act
  | indicated (indication : Indication) (host : IncomingHost) (stack : Stack)
  | other (event : System.Event)

def act (radio : RadioState) : Act → Option RadioState
  | .indicated indication host stack => perform host radio (indication.callback stack)
  | .other event => (System.step radio.system event).map fun system => { radio with system }

namespace Act

def indication : Act → Option Indication
  | indicated indication _ _ => some indication
  | other _ => none

def outer : Act → Option System.Event
  | indicated _ _ _ => none
  | other event => some event

end Act

end Acts

section Lines

/-- The queue is the deque that `llq_add` and `llq_timedreceive` make of it. -/
structure LineState (Thread : Type) where
  port : SerialPort
  queue : Deque Thread
  held : Thread → Option (List UInt8)
  radio : RadioState

/-- One call of `rpcProcess`, one message taken off the queue, one message processed, or a step of the
rest of the gateway. -/
inductive LineEvent (Thread : Type)
  | receive (around : Surroundings)
  | take (thread : Thread)
  | work (thread : Thread) (host : IncomingHost) (stack : Stack) (rpcFrame : Memory)
  | other (event : System.Event)

def queued (queue : Deque Thread) : Processed → Option (Deque Thread)
  | .failed => some queue
  | .queued message prio => queue.apply (.add message prio)
  | .outside => none
  | .endless => none
  | .crashed => none

def lineStep [DecidableEq Thread] (s : LineState Thread) : LineEvent Thread → Option (LineState Thread)
  | .receive around =>
      match rpcProcess around.expectedSrspCmdId around.rpcBuff s.port with
      | none => none
      | some (processed, port) =>
          (queued s.queue processed).map fun queue => { s with port, queue }
  | .take thread =>
      match s.held thread, s.queue.waiting with
      | none, message :: _ =>
          (s.queue.apply (.receive thread)).map fun queue =>
            { s with queue, held := hold s.held thread (some message) }
      | _, _ => none
  | .work thread host stack rpcFrame =>
      match s.held thread with
      | none => none
      | some message =>
          match processMqClientMsg stack rpcFrame message with
          | none => none
          | some none => some { s with held := hold s.held thread none }
          | some (some callback) =>
              (perform host s.radio callback).map fun radio =>
                { s with held := hold s.held thread none, radio }
  | .other event => (act s.radio (.other event)).map fun radio => { s with radio }

def LineEvent.outer : LineEvent Thread → Option System.Event
  | .other event => some event
  | _ => none

end Lines

section Indications

structure AirState (Thread : Type) where
  pending : List Indication
  held : Thread → Option Indication
  radio : RadioState

inductive AirEvent (Thread : Type)
  | take (thread : Thread)
  | work (thread : Thread) (host : IncomingHost) (stack : Stack)
  | other (event : System.Event)

def airStep [DecidableEq Thread] (s : AirState Thread) : AirEvent Thread → Option (AirState Thread)
  | .take thread =>
      match s.held thread, s.pending with
      | none, indication :: pending =>
          some { s with pending, held := hold s.held thread (some indication) }
      | _, _ => none
  | .work thread host stack =>
      match s.held thread with
      | none => none
      | some indication =>
          (act s.radio (.indicated indication host stack)).map fun radio =>
            { s with held := hold s.held thread none, radio }
  | .other event => (act s.radio (.other event)).map fun radio => { s with radio }

def AirEvent.outer : AirEvent Thread → Option System.Event
  | .other event => some event
  | _ => none

/-- The step that is left of a step when there are no bytes. -/
def LineEvent.erased : LineEvent Thread → Option (AirEvent Thread)
  | .receive _ => none
  | .take thread => some (.take thread)
  | .work thread host stack _ => some (.work thread host stack)
  | .other event => some (.other event)

end Indications

section Transmissions

/-- There is no callback, or it does no more than print. -/
def Idle : Option Callback → Prop
  | none => True
  | some (.srsp _) => True
  | some _ => False

def Quiet (message : List UInt8) : Prop :=
  ∀ stack rpcFrame, ∃ callback, processMqClientMsg stack rpcFrame message = some callback ∧
    Idle callback

theorem subsystem_process_idle {responses : Cases Unit} {cases : Cases (Option Callback)}
    {rpcBuff : Memory} (response : rpcBuff 0 &&& mtRpcCmdTypeMask = mtRpcCmdSrsp) (rpcLen : UInt8)
    {callback : Option Callback}
    (result : subsystemProcess responses cases rpcBuff rpcLen = some callback) : Idle callback := by
  rw [subsystemProcess, if_pos response, processSrsp] at result
  cases found : responses.lookup (rpcBuff 1) with
  | none =>
      rw [found] at result
      rw [← Option.some.inj result]
      exact trivial
  | some reader =>
      rw [found] at result
      rcases Option.map_eq_some_iff.mp result with ⟨read, _, rfl⟩
      exact trivial

theorem mt_process_idle {rpcBuff : Memory}
    (response : rpcBuff 0 &&& mtRpcCmdTypeMask = mtRpcCmdSrsp) (stack : Stack) (rpcLen : UInt8)
    {callback : Option Callback} (result : mtProcess stack rpcBuff rpcLen = some callback) :
    Idle callback := by
  simp only [mtProcess, zdoProcess, sysProcess, afProcess, sapiProcess] at result
  split_ifs at result
  · exact subsystem_process_idle response rpcLen result
  · exact subsystem_process_idle response rpcLen result
  · exact subsystem_process_idle response rpcLen result
  · exact subsystem_process_idle response rpcLen result
  · rw [← Option.some.inj result]
    exact trivial

theorem quiet_response {cmd0 cmd1 : UInt8} (response : cmd0 &&& mtRpcCmdTypeMask = mtRpcCmdSrsp)
    (plain : ofKind (countedLists cmd0) cmd1 = []) (payload : List UInt8) :
    Quiet (messageOf cmd0 cmd1 payload) := by
  intro stack rpcFrame
  have holds := holds_stored rpcFrame 0 (messageOf cmd0 cmd1 payload)
  have first : stored rpcFrame 0 (messageOf cmd0 cmd1 payload) 0 = cmd0 := holds.1
  have second : stored rpcFrame 0 (messageOf cmd0 cmd1 payload) 1 = cmd1 := holds.2.1
  have ends : processMqClientMsg stack rpcFrame (messageOf cmd0 cmd1 payload) ≠ none := by
    rw [processMqClientMsg, Ne, mt_process_overruns_iff, first, second, Overruns, plain]
    intro overruns
    rcases overruns with ⟨list, member, _⟩
    cases member
  rcases Option.ne_none_iff_exists'.mp ends with ⟨callback, result⟩
  exact ⟨callback, result, mt_process_idle (by rw [first, response]) stack _ result⟩

/-- What comes over the line: noise, a frame that nothing comes of, or an indication, behind which there
may be more in its frame. -/
inductive Sent
  | noise (byte : UInt8) (other : byte ≠ mtRpcSof)
  | quiet (cmd0 cmd1 : UInt8) (payload : List UInt8) (short : payload.length ≤ 250)
      (idle : Quiet (messageOf cmd0 cmd1 payload))
  | indicated (indication : Indication) (trailing : List UInt8) (fits : indication.Fits)
      (short : (indication.payload ++ trailing).length ≤ 250)

namespace Sent

def transmission : Sent → Transmission
  | noise byte other => .noise byte other
  | quiet cmd0 cmd1 payload short _ => .sent (fun _ => 0) cmd0 cmd1 payload short
  | indicated indication trailing _ short =>
      .sent (fun _ => 0) indication.cmd0 indication.cmd1 (indication.payload ++ trailing) short

def indication : Sent → Option Indication
  | noise _ _ => none
  | quiet _ _ _ _ _ => none
  | indicated indication _ _ _ => some indication

end Sent

def Carries (message : List UInt8) : Option Indication → Prop
  | none => Quiet message
  | some indication =>
      ∃ trailing, indication.Fits ∧ (indication.payload ++ trailing).length ≤ 250 ∧
        message = messageOf indication.cmd0 indication.cmd1 (indication.payload ++ trailing)

theorem Carries.process {message : List UInt8} {indication : Indication}
    (carries : Carries message (some indication)) (stack : Stack) (rpcFrame : Memory) :
    processMqClientMsg stack rpcFrame message = some (some (indication.callback stack)) := by
  rcases carries with ⟨trailing, fits, short, rfl⟩
  have split : ∃ fcs, messageOf indication.cmd0 indication.cmd1 (indication.payload ++ trailing) =
      (indication.cmd0 :: indication.cmd1 :: indication.payload) ++ (trailing ++ [fcs]) := by
    exact ⟨_, by rw [messageOf, List.append_assoc]; rfl⟩
  rcases split with ⟨fcs, split⟩
  rw [List.length_append] at short
  have holds := holds_stored rpcFrame 0
    ((indication.cmd0 :: indication.cmd1 :: indication.payload) ++ (trailing ++ [fcs]))
  rw [processMqClientMsg, split]
  apply mt_process_indication fits stack ((holds_append _ _ _ _).mp holds).1
  simp only [List.length_cons, List.length_append, List.length_nil]
  rw [byte_of_length (by omega)]
  omega

/-- An indication goes to the end of the queue. -/
theorem indication_received (indication : Indication) (expectedSrspCmdId : UInt8)
    (payload : List UInt8) :
    received expectedSrspCmdId indication.cmd0 indication.cmd1 payload =
      .queued (messageOf indication.cmd0 indication.cmd1 payload) 0 := by
  have request : indication.cmd0 &&& mtRpcCmdTypeMask ≠ mtRpcCmdSrsp := by
    have known : indication.subsystem = mtRpcSysAf ∨ indication.subsystem = mtRpcSysZdo := by
      cases indication <;> simp [Indication.subsystem]
    rw [Indication.cmd0]
    cases known with
    | inl af =>
        rw [af]
        decide
    | inr zdo =>
        rw [zdo]
        decide
  rw [received, if_neg request]

theorem add_front (queue : Deque Thread) (message : List UInt8) :
    queued queue (.queued message 1) = some { queue with waiting := message :: queue.waiting } := rfl

theorem add_back (queue : Deque Thread) (message : List UInt8) :
    queued queue (.queued message 0) =
      some { queue with waiting := queue.waiting ++ [message] } := rfl

theorem queued_carries {queue after : Deque Thread} {labels : List (Option Indication)}
    (carries : List.Forall₂ Carries queue.waiting labels) (sent : Sent) {expectedSrspCmdId : UInt8}
    (added : queued queue (sent.transmission.result expectedSrspCmdId) = some after) :
    ∃ behind, List.Forall₂ Carries after.waiting behind ∧
      behind.reduceOption = labels.reduceOption ++ sent.indication.toList := by
  have appended {message : List UInt8} {label : Option Indication} (last : Carries message label) :
      List.Forall₂ Carries (queue.waiting ++ [message]) (labels ++ [label]) :=
    List.rel_append carries (.cons last .nil)
  cases sent with
  | noise byte other =>
      rw [← Option.some.inj added]
      exact ⟨labels, carries, (List.append_nil _).symm⟩
  | quiet cmd0 cmd1 payload short idle =>
      rw [Sent.transmission, Transmission.result, received] at added
      by_cases response : cmd0 &&& mtRpcCmdTypeMask = mtRpcCmdSrsp
      · rw [if_pos response] at added
        by_cases awaited : expectedSrspCmdId = cmd0 &&& mtRpcSubsystemMask
        · rw [if_pos awaited, add_front] at added
          rw [← Option.some.inj added]
          exact ⟨none :: labels, .cons idle carries, (List.append_nil _).symm⟩
        · rw [if_neg awaited] at added
          cases added
      · rw [if_neg response, add_back] at added
        rw [← Option.some.inj added]
        refine ⟨labels ++ [none], appended idle, ?_⟩
        rw [List.reduceOption_append, List.reduceOption_singleton]
        rfl
  | indicated indication trailing fits short =>
      rw [Sent.transmission, Transmission.result, indication_received, add_back] at added
      rw [← Option.some.inj added]
      refine ⟨labels ++ [some indication], appended ⟨trailing, fits, short, rfl⟩, ?_⟩
      rw [List.reduceOption_append, List.reduceOption_singleton]
      rfl

end Transmissions

end SmartHome.RadioLine
