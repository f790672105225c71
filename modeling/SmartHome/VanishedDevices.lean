import SmartHome.Pointers

/-!
# Messages from devices that are gone

A ZigBee message lies in the pipe while the app deletes the device it is from. Handlers
take turns, each runs to its end, and each searches the registry for itself. One of them
uses what it may not have found: the answer to an on/off command goes to the database
through the device, whether there is one or not.
-/

namespace SmartHome.VanishedDevices

open SmartHome.Library.Runs
open SmartHome.Registry
open SmartHome.PipeMessages
open SmartHome.Effects
open SmartHome.EventRecvmsg
open SmartHome.System

set_option autoImplicit false

structure MainThread where
  gateway : Gateway
  queue : List ZnpMessage

/-- The callbacks of the radio thread write messages and may leave any registry; the main thread
handles a frame of the app or takes the next message off the pipe. -/
inductive Event
  | queued (message : ZnpMessage)
  | callback (gateway : Gateway)
  | command (host : Host) (fd : Int) (command : Command)
  | znp (host : ZnpHost)

/-- There is no next state when a handler uses a device or an endpoint that was not found. -/
def step (s : MainThread) : Event → Option MainThread
  | .queued message => some { s with queue := s.queue ++ [message] }
  | .callback gateway => some { s with gateway }
  | .command host fd command =>
      (Pointers.handleCommand host fd command (stateOf s.gateway)).map fun state =>
        { s with gateway := state.gateway }
  | .znp host =>
      match s.queue with
      | [] => some s
      | message :: queue =>
          (Pointers.eventRecvznp host s.gateway message).map fun outcome => ⟨outcome.gateway, queue⟩

def messageIeee : ZnpMessage → UInt64
  | .zoneEnrollReq ieeeaddr => ieeeaddr
  | .zoneChangeNotification req => req.ieeeaddr
  | .generalDefaultRsp response => response.ieeeaddr
  | .genOnoffRsp response => response.ieeeaddr
  | .readOnoffRsp response => response.ieeeaddr
  | .genLevelCtlRsp response => response.ieeeaddr
  | .warningRsp response => response.ieeeaddr
  | .basicStatus status => status.ieeeaddr

def commandIeee (gw : Gateway) : Command → Option UInt64
  | .setDeviceName deviceName => if gw.gatewayid = deviceName.ieee then none else deviceName.ieee
  | .delDevice delDevice => delDevice.ieee
  | .getDeviceAttr getAttr => getAttr.ieee
  | .identify identify => identify.ieee
  | .warning warning => warning.ieee
  | .setArm parsed => parsed.ieee
  | .onoff onoff => onoff.ieee
  | .levelCtrl levelCtrl => levelCtrl.ieee
  | .configReporting config => config.ieee
  | .getOnoffState onoffState => onoffState.ieee
  | _ => none

def eventIeee (s : MainThread) : Event → Option UInt64
  | .command _ _ command => commandIeee s.gateway command
  | .znp _ => s.queue.head?.map messageIeee
  | _ => none

def Vanished (s : MainThread) (event : Event) : Prop :=
  ∃ ieee, eventIeee s event = some ieee ∧ gatewayGetdevice s.gateway ieee = none

def Untouched (s : MainThread) (event : Event) (next : MainThread) : Prop :=
  Vanished s event → next.gateway = s.gateway

def OnoffFound (s : MainThread) : Event → Prop
  | .znp _ => ∀ response, s.queue.head? = some (.genOnoffRsp response) →
      ∃ d, gatewayGetdevice s.gateway response.ieeeaddr = some d
  | _ => True

theorem event_recvznp_isSome (host : ZnpHost) (gw : Gateway) (message : ZnpMessage) :
    (∃ outcome, eventRecvznp host gw message = some outcome) ↔
      ∀ response, message = .genOnoffRsp response →
        ∃ d, gatewayGetdevice gw response.ieeeaddr = some d := by
  cases message with
  | genOnoffRsp response =>
      simp only [eventRecvznp, ZnpResponses.genOnoffRsp, ZnpMessage.genOnoffRsp.injEq, forall_eq']
      cases gatewayGetdevice gw response.ieeeaddr <;> simp
  | _ => simp [eventRecvznp]

theorem step_succeeds {s : MainThread} {event : Event} (found : OnoffFound s event) :
    ∃ next, step s event = some next := by
  cases event with
  | znp host =>
      cases waiting : s.queue with
      | nil => exact ⟨s, by rw [step, waiting]⟩
      | cons message queue =>
          have head : ∀ response, message = .genOnoffRsp response →
              ∃ d, gatewayGetdevice s.gateway response.ieeeaddr = some d := by
            intro response same
            apply found response
            rw [waiting, List.head?_cons, same]
          rcases (event_recvznp_isSome host s.gateway message).mpr head with ⟨outcome, ran⟩
          refine ⟨⟨outcome.gateway, queue⟩, ?_⟩
          simp only [step, waiting, Pointers.event_recvznp_eq, ran, Option.map_some]
  | command host fd command =>
      refine ⟨{ s with
        gateway := (handleCommand host fd command (stateOf s.gateway)).gateway }, ?_⟩
      simp only [step, Pointers.handle_command_eq, Option.map_some]
  | queued message => exact ⟨_, rfl⟩
  | callback gateway => exact ⟨_, rfl⟩

theorem step_stops {s : MainThread} {event : Event} (missing : ¬OnoffFound s event) :
    step s event = none := by
  cases event with
  | znp host =>
      cases waiting : s.queue with
      | nil =>
          refine absurd ?_ missing
          intro response same
          rw [waiting] at same
          cases same
      | cons message queue =>
          have stuck : eventRecvznp host s.gateway message = none := by
            by_contra ran
            rcases Option.ne_none_iff_exists'.mp ran with ⟨outcome, ran⟩
            apply missing
            intro response same
            rw [waiting, List.head?_cons, Option.some.injEq] at same
            exact (event_recvznp_isSome host s.gateway message).mp ⟨outcome, ran⟩ response same
          simp only [step, waiting, Pointers.event_recvznp_eq, stuck, Option.map_none]
  | _ => exact absurd trivial missing

theorem znp_untouched {host : ZnpHost} {gw : Gateway} {message : ZnpMessage} {outcome : Outcome}
    (ran : eventRecvznp host gw message = some outcome)
    (missing : gatewayGetdevice gw (messageIeee message) = none) : outcome.gateway = gw := by
  cases message with
  | zoneEnrollReq ieeeaddr =>
      simp only [messageIeee] at missing
      simp only [eventRecvznp, ZnpResponses.zoneEnrollReq, missing, Option.some.injEq] at ran
      rw [← ran]
  | zoneChangeNotification req =>
      simp only [messageIeee] at missing
      simp only [eventRecvznp, EventRecvznp.zoneChangeNotification, missing,
        Option.some.injEq] at ran
      rw [← ran]
  | genOnoffRsp response =>
      simp only [messageIeee] at missing
      simp only [eventRecvznp, ZnpResponses.genOnoffRsp, missing] at ran
      cases ran
  | genLevelCtlRsp response =>
      have none : gatewayGetEndpoint gw response.ieeeaddr response.endpoint = none := by
        rw [gatewayGetEndpoint, show gatewayGetdevice gw response.ieeeaddr = none from missing]
        rfl
      simp only [eventRecvznp, ZnpResponses.genLevelCtlRsp, none, Option.some.injEq] at ran
      rw [← ran]
  | _ =>
      rw [eventRecvznp, Option.some.injEq] at ran
      rw [← ran]
      rfl

theorem set_device_name_untouched (host : Host) {gw : Gateway} {deviceName : SetDeviceName}
    (other : gw.gatewayid ≠ deviceName.ieee)
    (missing : gatewayGetdevice gw deviceName.ieee = none) :
    (handleSetDeviceName host deviceName (stateOf gw)).gateway = gw := by
  have kept : ∀ change, modifyDevice gw deviceName.ieee change = gw := by
    intro change
    rw [modifyDevice, Transitions.modify_first_none missing]
  simp only [handleSetDeviceName, stateOf, other, if_false, kept, ite_self]
  rfl

theorem set_arm_untouched (host : Host) (fd : Int) {gw : Gateway} {parsed : Parse.ParsedArm}
    (none : gatewayGetEndpoint gw parsed.ieee parsed.endpoint = none) :
    (handleSetArm host fd parsed (stateOf gw)).gateway = gw := by
  simp only [handleSetArm, stateOf, none]
  split_ifs <;> rfl

theorem command_untouched (host : Host) (fd : Int) {gw : Gateway} {command : Command}
    {ieee : UInt64} (about : commandIeee gw command = some ieee)
    (missing : gatewayGetdevice gw ieee = none) :
    (handleCommand host fd command (stateOf gw)).gateway = gw := by
  have deleted : isDeviceDeleted gw ieee = true := by
    rw [isDeviceDeleted, missing]
  have endpoints : ∀ endpoint, gatewayGetEndpoint gw ieee endpoint = none := by
    intro endpoint
    rw [gatewayGetEndpoint, missing]
    rfl
  have passed : ∀ command, (passOn ieee command (stateOf gw)).gateway = gw := by
    intro command
    simp only [passOn, stateOf, deleted, if_true]
  cases command with
  | setDeviceName deviceName =>
      rw [commandIeee] at about
      split_ifs at about with own
      rw [Option.some.injEq] at about
      subst about
      exact set_device_name_untouched host own missing
  | delDevice delDevice =>
      rw [commandIeee, Option.some.injEq] at about
      subst about
      simp only [handleCommand, handleDelDevice, stateOf, missing]
      rfl
  | getDeviceAttr getAttr =>
      rw [commandIeee, Option.some.injEq] at about
      subst about
      simp only [handleCommand, handleGetDeviceAttr, stateOf, deleted, if_true]
  | warning warning =>
      rw [commandIeee, Option.some.injEq] at about
      subst about
      simp only [handleCommand, handleWarning, stateOf, deleted, if_true]
  | setArm parsed =>
      rw [commandIeee, Option.some.injEq] at about
      subst about
      exact set_arm_untouched host fd (endpoints parsed.endpoint)
  | levelCtrl levelCtrl =>
      rw [commandIeee, Option.some.injEq] at about
      subst about
      simp only [handleCommand, handleLevelCtrl, stateOf, deleted, if_true]
  | identify identify =>
      rw [commandIeee, Option.some.injEq] at about
      subst about
      exact passed _
  | onoff onoff =>
      rw [commandIeee, Option.some.injEq] at about
      subst about
      exact passed _
  | configReporting config =>
      rw [commandIeee, Option.some.injEq] at about
      subst about
      exact passed _
  | getOnoffState onoffState =>
      rw [commandIeee, Option.some.injEq] at about
      subst about
      exact passed _
  | _ => cases about

theorem step_untouched {s next : MainThread} {event : Event} (stepped : step s event = some next) :
    Untouched s event next := by
  rintro ⟨ieee, about, missing⟩
  cases event with
  | znp host =>
      cases waiting : s.queue with
      | nil =>
          rw [eventIeee, waiting] at about
          cases about
      | cons message queue =>
          rw [eventIeee, waiting, List.head?_cons, Option.map_some, Option.some.injEq] at about
          simp only [step, waiting, Pointers.event_recvznp_eq, Option.map_eq_some_iff] at stepped
          rcases stepped with ⟨outcome, ran, rfl⟩
          exact znp_untouched ran (about ▸ missing)
  | command host fd command =>
      simp only [step, Pointers.handle_command_eq, Option.map_some, Option.some.injEq] at stepped
      rw [← stepped]
      exact command_untouched host fd about missing
  | queued message => cases about
  | callback gateway => cases about

/-- A run comes to its end, and leaves the registry alone at each event for a device that is gone,
exactly if no on/off answer is handled whose device is not in the registry. -/
theorem no_missing_device_used_iff (s : MainThread) (events : List Event) :
    Proceeds step Untouched s events ↔ Meets step OnoffFound s events :=
  proceeds_iff_meets (fun _ _ found => step_succeeds found) (fun _ _ missing => step_stops missing)
    (fun _ _ _ stepped => step_untouched stepped) s events

/-- The app deletes a device whose answer to an on/off command waits in the pipe. -/
theorem deleted_device_used :
    ¬Proceeds step Untouched
      ⟨{ gatewayid := 1, gatewayname := noName, boxversion := 0, protocolversion := 0,
          devices := [contactSwitch 7 0] },
        [.genOnoffRsp ⟨7, 1, 6, 1, 1, 0⟩]⟩
      [.command quietHost 5 (.delDevice ⟨7, 1⟩), .znp ⟨.signed, ⟨0, 0, 0⟩, []⟩] := by
  rintro ⟨next, deleted, -, later, answered, -⟩
  simp only [step, Pointers.handle_command_eq, Option.map_some, Option.some.injEq] at deleted
  subst deleted
  cases answered

end SmartHome.VanishedDevices
