import SmartHome.EventRecvznp

/-!
# Which siren an alarm sounds

The two searches for the siren stop at the first device in list order that has an
endpoint of a warning device, and at the first such endpoint of it. Only then does the
alarm ask whether the device has been deleted, and it never asks whether it has left.
-/

namespace SmartHome.Sirens

open SmartHome.Library.CTypes
open SmartHome.Registry
open SmartHome.PipeMessages
open SmartHome.Effects
open SmartHome.Encode
open SmartHome.EventRecvznp

set_option autoImplicit false

def HasSiren (d : Device) : Prop := ∃ ep ∈ d.eplist, isWarningDevice ep = true

def LiveSiren (gw : Gateway) : Prop := ∃ d ∈ gw.devices, isActive d = true ∧ HasSiren d

def queuedWarnings (effects : List Effect) : List WarningIeee :=
  effects.filterMap fun
    | .pipe (.warning warning) => some warning
    | _ => none

/-- A siren that can sound is told to, once and in this mode; without one there is no command. -/
structure RightSiren (gw : Gateway) (mode : BitVec 4) (warnings : List WarningIeee) : Prop where
  live : LiveSiren gw → ∃ d ∈ gw.devices, isActive d = true ∧
    ∃ ep ∈ d.eplist, isWarningDevice ep = true ∧
      ∃ command, warnings = [command] ∧ command.ieee = d.ieeeaddr ∧
        command.warning.endpoint = ep.number ∧ command.warning.startWarning.warnMode = mode
  silent : ¬LiveSiren gw → warnings = []

structure FirstSiren (gw : Gateway) (wdDevice : Device) (wdEp : Endpoint) : Prop where
  device : ∃ front back, gw.devices = front ++ wdDevice :: back ∧ ∀ d ∈ front, ¬HasSiren d
  endpoint : ∃ front back, wdDevice.eplist = front ++ wdEp :: back ∧
    ∀ ep ∈ front, isWarningDevice ep = false
  siren : isWarningDevice wdEp = true

/-- If the first device with a siren has been deleted no other device has a live one, and if it has
not been, a live device has its address and a siren under the endpoint's number. -/
def FirstWillDo (gw : Gateway) : Prop :=
  ∀ wdDevice wdEp, FirstSiren gw wdDevice wdEp →
    if deviceCheckStatus wdDevice deviceAppDel then ¬LiveSiren gw
    else ∃ d ∈ gw.devices, isActive d = true ∧ d.ieeeaddr = wdDevice.ieeeaddr ∧
      ∃ ep ∈ d.eplist, isWarningDevice ep = true ∧ ep.number = wdEp.number

section Searches

variable {gw : Gateway} {wdDevice : Device} {wdEp : Endpoint}

theorem has_siren_iff (d : Device) : HasSiren d ↔ d.eplist.any isWarningDevice = true :=
  List.any_eq_true.symm

theorem FirstSiren.has_siren (first : FirstSiren gw wdDevice wdEp) : HasSiren wdDevice := by
  rcases first.endpoint with ⟨front, back, split, -⟩
  refine ⟨wdEp, ?_, first.siren⟩
  rw [split]
  exact List.mem_append_right front List.mem_cons_self

theorem FirstSiren.mem_devices (first : FirstSiren gw wdDevice wdEp) : wdDevice ∈ gw.devices := by
  rcases first.device with ⟨front, back, split, -⟩
  rw [split]
  exact List.mem_append_right front List.mem_cons_self

theorem FirstSiren.find_endpoint (first : FirstSiren gw wdDevice wdEp) :
    wdDevice.eplist.find? isWarningDevice = some wdEp := by
  rcases first.endpoint with ⟨front, back, split, others⟩
  rw [split]
  apply List.find?_eq_some_iff_append.mpr
  refine ⟨first.siren, front, back, rfl, ?_⟩
  intro ep member
  rw [others ep member]
  rfl

theorem FirstSiren.found (first : FirstSiren gw wdDevice wdEp) :
    gatewayGetWarningDeviceEndpoint gw = some wdEp ∧
      gatewayGetWarningDevice gw = some wdDevice := by
  rcases first.device with ⟨front, back, split, others⟩
  have passed : ∀ d ∈ front, d.eplist.any isWarningDevice = false := by
    intro d member
    rw [← Bool.not_eq_true, ← has_siren_iff]
    exact others d member
  constructor
  · rw [gatewayGetWarningDeviceEndpoint, split, List.findSome?_append]
    have none : front.findSome? (fun d => d.eplist.find? isWarningDevice) = none := by
      apply List.findSome?_eq_none_iff.mpr
      intro d member
      apply List.find?_eq_none.mpr
      intro ep here siren
      exact others d member ⟨ep, here, siren⟩
    rw [none, Option.none_or, List.findSome?_cons, first.find_endpoint]
  · rw [gatewayGetWarningDevice, split]
    apply List.find?_eq_some_iff_append.mpr
    refine ⟨(has_siren_iff wdDevice).mp first.has_siren, front, back, rfl, ?_⟩
    intro d member
    rw [passed d member]
    rfl

theorem first_siren_or_none (gw : Gateway) :
    (∃ wdDevice wdEp, FirstSiren gw wdDevice wdEp) ∨ ∀ d ∈ gw.devices, ¬HasSiren d := by
  cases found : gatewayGetWarningDevice gw with
  | none =>
      right
      intro d member
      rw [has_siren_iff]
      exact List.find?_eq_none.mp found d member
  | some wdDevice =>
      left
      rcases List.find?_eq_some_iff_append.mp found with ⟨any, front, back, split, others⟩
      have siren : (wdDevice.eplist.find? isWarningDevice).isSome = true := by
        rw [List.find?_isSome]
        exact (has_siren_iff wdDevice).mpr any
      rcases Option.isSome_iff_exists.mp siren with ⟨wdEp, here⟩
      rcases List.find?_eq_some_iff_append.mp here with ⟨holds, eps, later, epSplit, epOthers⟩
      refine ⟨wdDevice, wdEp, ⟨front, back, split, ?_⟩, ⟨eps, later, epSplit, ?_⟩, holds⟩
      · intro d member
        rw [has_siren_iff, Bool.not_eq_true]
        exact (Bool.not_eq_true' _).mp (others d member)
      · intro ep member
        exact (Bool.not_eq_true' _).mp (epOthers ep member)

end Searches

section Alarms

variable {sign : CharSign} {clock : Clock} {gw : Gateway} {req : Zclzonechangenotification}
  {d : Device} {ep : Endpoint}

/-- The notification is taken up: its sensor is known and not deleted, its number is new. -/
structure Accepted (sign : CharSign) (gw : Gateway) (req : Zclzonechangenotification) (d : Device)
    (ep : Endpoint) : Prop where
  sensor : gatewayGetdevice gw req.ieeeaddr = some d
  kept : deviceCheckStatus d deviceAppDel = false
  endpoint : deviceGetEndpoint d req.endpoint = some ep
  newer : seqAfter sign req.transNum ep.simpledesc.zclTransnum = true

structure Alarm (clock : Clock) (req : Zclzonechangenotification) (ep : Endpoint) : Prop where
  armed : endpointCheckArm ep clock.hour clock.minute = true
  alarmed : alarmed req = true
  noHeartbeat : isHeartbeat req = false

theorem queued_by_alarm (accepted : Accepted sign gw req d ep) (alarm : Alarm clock req ep) :
    queuedWarnings (zoneChangeNotification sign clock gw req).effects =
      queuedWarnings
        (match gatewayGetWarningDeviceEndpoint gw, gatewayGetWarningDevice gw with
          | some wdEp, some wdDevice =>
              if deviceCheckStatus wdDevice deviceAppDel then []
              else [eventSendWarning wdEp wdDevice.ieeeaddr (warnMode ep.simpledesc.zonetype)]
          | _, _ => []) := by
  have frames : ∀ frame : Option (List UInt8),
      queuedWarnings (frame.toList.map .broadcast) = [] := by
    intro frame
    cases frame <;> rfl
  have appended : ∀ first second : List Effect,
      queuedWarnings (first ++ second) = queuedWarnings first ++ queuedWarnings second :=
    fun first second => List.filterMap_append
  have loud : endpointCheckArm ep clock.hour clock.minute = true ∧ ¬isHeartbeat req = true :=
    ⟨alarm.armed, Bool.not_eq_true _ ▸ alarm.noHeartbeat⟩
  rw [zoneChangeNotification, accepted.sensor]
  simp only
  rw [if_neg (Bool.not_eq_true _ ▸ accepted.kept), gateway_get_endpoint_eq accepted.sensor,
    accepted.endpoint]
  simp only
  rw [if_pos accepted.newer, appended, alarmEffects, if_pos loud, appended, frames,
    if_pos alarm.alarmed]
  exact (List.append_nil _).trans (List.append_nil _)

theorem queued_deleted {wdDevice : Device} {wdEp : Endpoint} (accepted : Accepted sign gw req d ep)
    (alarm : Alarm clock req ep) (first : FirstSiren gw wdDevice wdEp)
    (deleted : deviceCheckStatus wdDevice deviceAppDel = true) :
    queuedWarnings (zoneChangeNotification sign clock gw req).effects = [] := by
  rw [queued_by_alarm accepted alarm, first.found.1, first.found.2]
  simp only
  rw [if_pos deleted]
  rfl

theorem queued_first {wdDevice : Device} {wdEp : Endpoint} (accepted : Accepted sign gw req d ep)
    (alarm : Alarm clock req ep) (first : FirstSiren gw wdDevice wdEp)
    (kept : deviceCheckStatus wdDevice deviceAppDel = false) :
    ∃ command, queuedWarnings (zoneChangeNotification sign clock gw req).effects = [command] ∧
      command.ieee = wdDevice.ieeeaddr ∧ command.warning.endpoint = wdEp.number ∧
      command.warning.startWarning.warnMode = warnMode ep.simpledesc.zonetype := by
  rw [queued_by_alarm accepted alarm, first.found.1, first.found.2]
  simp only
  rw [if_neg (Bool.not_eq_true _ ▸ kept)]
  exact ⟨_, rfl, rfl, rfl, rfl⟩

theorem queued_without_siren (accepted : Accepted sign gw req d ep) (alarm : Alarm clock req ep)
    (none : ∀ d ∈ gw.devices, ¬HasSiren d) :
    queuedWarnings (zoneChangeNotification sign clock gw req).effects = [] := by
  have search : gatewayGetWarningDevice gw = Option.none := by
    apply List.find?_eq_none.mpr
    intro d member
    rw [← has_siren_iff]
    exact none d member
  rw [queued_by_alarm accepted alarm, search]
  cases gatewayGetWarningDeviceEndpoint gw <;> rfl

/-- An accepted alarm sounds the right siren exactly if the first one in the list will do. -/
theorem right_siren_iff (accepted : Accepted sign gw req d ep) (alarm : Alarm clock req ep) :
    RightSiren gw (warnMode ep.simpledesc.zonetype)
        (queuedWarnings (zoneChangeNotification sign clock gw req).effects) ↔
      FirstWillDo gw := by
  constructor
  · intro right wdDevice wdEp first
    cases deleted : deviceCheckStatus wdDevice deviceAppDel with
    | true =>
        rw [if_pos rfl]
        intro live
        rcases right.live live with ⟨_, _, _, _, _, _, command, queued, -⟩
        rw [queued_deleted accepted alarm first deleted] at queued
        cases queued
    | false =>
        rw [if_neg Bool.false_ne_true]
        rcases queued_first accepted alarm first deleted with ⟨sent, queued, ieee, endpoint, -⟩
        by_cases live : LiveSiren gw
        · rcases right.live live with
            ⟨other, member, active, ep, here, siren, command, only, toDevice, toEndpoint, -⟩
          obtain rfl : sent = command := (List.cons.inj (queued.symm.trans only)).1
          exact ⟨other, member, active, toDevice.symm.trans ieee, ep, here, siren,
            toEndpoint.symm.trans endpoint⟩
        · have silent := right.silent live
          rw [queued] at silent
          cases silent
  · intro willDo
    rcases first_siren_or_none gw with ⟨wdDevice, wdEp, first⟩ | none
    · have this := willDo wdDevice wdEp first
      cases deleted : deviceCheckStatus wdDevice deviceAppDel with
      | true =>
          rw [deleted, if_pos rfl] at this
          exact ⟨fun live => absurd live this, fun _ => queued_deleted accepted alarm first deleted⟩
      | false =>
          rw [deleted, if_neg Bool.false_ne_true] at this
          rcases this with ⟨other, member, active, address, ep, here, siren, number⟩
          rcases queued_first accepted alarm first deleted with
            ⟨command, queued, ieee, endpoint, mode⟩
          constructor
          · intro _
            exact ⟨other, member, active, ep, here, siren, command, queued,
              ieee.trans address.symm, endpoint.trans number.symm, mode⟩
          · intro dead
            exact absurd ⟨other, member, active, ep, here, siren⟩ dead
    · constructor
      · rintro ⟨other, member, -, siren⟩
        exact absurd siren (none other member)
      · intro _
        exact queued_without_siren accepted alarm none

/-- Where no two devices have one address: the first siren is active, or it has been deleted and no
other is active. -/
theorem first_will_do_iff (distinct : (gw.devices.map (·.ieeeaddr)).Nodup) :
    FirstWillDo gw ↔ ∀ wdDevice wdEp, FirstSiren gw wdDevice wdEp →
      isActive wdDevice = true ∨
        (deviceCheckStatus wdDevice deviceAppDel = true ∧ ¬LiveSiren gw) := by
  apply forall_congr'
  intro wdDevice
  apply forall_congr'
  intro wdEp
  apply imp_congr_right
  intro first
  cases deleted : deviceCheckStatus wdDevice deviceAppDel with
  | true =>
      have dead : isActive wdDevice = false := by rw [isActive, deleted]; rfl
      rw [if_pos rfl, dead]
      simp
  | false =>
      rw [if_neg Bool.false_ne_true]
      constructor
      · rintro ⟨other, member, active, address, -⟩
        have same : other = wdDevice :=
          List.inj_on_of_nodup_map distinct member first.mem_devices address
        exact .inl (same ▸ active)
      · rintro (active | ⟨impossible, -⟩)
        · rcases first.endpoint with ⟨front, back, split, -⟩
          refine ⟨wdDevice, first.mem_devices, active, rfl, wdEp, ?_, first.siren, rfl⟩
          rw [split]
          exact List.mem_append_right front List.mem_cons_self
        · cases impossible

end Alarms

def sirenEndpoint : Endpoint :=
  { contactEndpoint with
    simpledesc :=
      { contactEndpoint.simpledesc with
        zonetype := 0
        simpledesc :=
          { contactEndpoint.simpledesc.simpledesc with
            deviceID := zclHaDeviceidIasWarningDevice } } }

def siren (ieeeaddr : UInt64) (status : UInt32) : Device :=
  { contactSwitch ieeeaddr status with eplist := [sirenEndpoint] }

def twoSirens (status : UInt32) : Gateway :=
  { twoContacts with devices := [contactSwitch 1 0, siren 2 status, siren 3 0] }

def opened : Zclzonechangenotification where
  ieeeaddr := 1
  clusterid := 0x0500
  zonetype := 0
  endpoint := 2
  uszonestatus := 1
  extStatus := 0
  transNum := 1

theorem accepted_two_sirens (status : UInt32) :
    Accepted .signed (twoSirens status) opened (contactSwitch 1 0) contactEndpoint :=
  ⟨rfl, rfl, rfl, rfl⟩

theorem alarm_opened : Alarm ⟨12, 0, 0⟩ opened contactEndpoint := ⟨rfl, rfl, rfl⟩

theorem first_two_sirens (status : UInt32) :
    FirstSiren (twoSirens status) (siren 2 status) sirenEndpoint := by
  refine ⟨⟨[contactSwitch 1 0], [siren 3 0], rfl, ?_⟩, ⟨[], [], rfl, ?_⟩, rfl⟩
  · intro d member
    rw [List.mem_singleton.mp member, has_siren_iff]
    decide
  · intro ep member
    exact absurd member List.not_mem_nil

theorem right_siren_iff_active :
    RightSiren (twoSirens 0) ssIasStartWarningWarningModeBurglar
      (queuedWarnings
        (zoneChangeNotification .signed ⟨12, 0, 0⟩ (twoSirens 0) opened).effects) := by
  apply (right_siren_iff (accepted_two_sirens 0) alarm_opened).mpr
  apply (first_will_do_iff (by decide)).mpr
  intro wdDevice wdEp first
  have same : wdDevice = siren 2 0 := Option.some.inj (first.found.2.symm.trans rfl)
  rw [same]
  exact .inl rfl

/-- The siren that has left is told to sound; the one that is there is not. -/
theorem departed_siren_told :
    ∃ gw req d ep, Accepted .signed gw req d ep ∧ Alarm ⟨12, 0, 0⟩ req ep ∧ LiveSiren gw ∧
      ¬RightSiren gw (warnMode ep.simpledesc.zonetype)
        (queuedWarnings (zoneChangeNotification .signed ⟨12, 0, 0⟩ gw req).effects) := by
  have accepted := accepted_two_sirens deviceLeaveNet
  have live : LiveSiren (twoSirens deviceLeaveNet) :=
    ⟨siren 3 0, by simp [twoSirens], rfl, sirenEndpoint, List.mem_singleton.mpr rfl, rfl⟩
  refine ⟨twoSirens deviceLeaveNet, opened, _, _, accepted, alarm_opened, live, ?_⟩
  intro right
  rcases queued_first accepted alarm_opened (first_two_sirens deviceLeaveNet) rfl with
    ⟨sent, queued, ieee, -⟩
  rcases right.live live with ⟨d, member, active, _, _, _, command, only, toDevice, -⟩
  obtain rfl : sent = command := (List.cons.inj (queued.symm.trans only)).1
  have departed : ∀ d ∈ (twoSirens deviceLeaveNet).devices, d.ieeeaddr = 2 →
      isActive d = false := by
    decide
  have gone := departed d member (toDevice.symm.trans ieee)
  rw [active] at gone
  cases gone

end SmartHome.Sirens
