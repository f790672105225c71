import SmartHome.Enrolments

/-!
# Rejected enrolments

The handler of an enroll request decides first, and then stores the zone type and reports
the device whatever it has decided. A rejection that changes nothing does not exist; only
an admission keeps what is asked of it, and only there both fields of the response that is
sent were assigned. Without memory, and to a device it does not know, it sends none.
-/

namespace SmartHome.RejectedEnrolments

open SmartHome.Registry
open SmartHome.Effects
open SmartHome.ZdoCallbacks
open SmartHome.Zones
open SmartHome.Enrolments

set_option autoImplicit false

/-- No zone type, pending slot, blob or zone item has changed, and no device is reported. -/
structure Unchanged (gw : Gateway) (zones : ZoneTable) (enrolment : Enrolment) : Prop where
  registry : enrolment.registry.gateway = gw
  blob : databaseCalls enrolment.registry.effects = []
  items : enrolment.decision.zones.items = zones.items
  unreported : ∀ ieeeaddr, .zoneEnrollReq ieeeaddr ∉ enrolment.registry.effects

/-- Whatever the stack holds where the handler has its variables, the message that it sends carries the
same code and the same zone id, and a rejection leaves the state. -/
def RejectsCleanly (memory : Bool) (gw : Gateway) (zones : ZoneTable) (request : EnrollRequest) :
    Prop :=
  ∃ code zoneID, ∀ stack, ∃ enrolment,
    zclssProcessincmdZonestatusEnrollrequest ⟨memory, stack⟩ gw zones request = some enrolment ∧
      readEnrollResponse enrolment.response = some ⟨code, zoneID⟩ ∧
      (code ≠ enrollResponseCodeSuccess → Unchanged gw zones enrolment)

section Handler

variable {host : EnrollHost} {gw : Gateway} {zones : ZoneTable} {request : EnrollRequest}
  {enrolment : Enrolment}

theorem answered_reported
    (handled : zclssProcessincmdZonestatusEnrollrequest host gw zones request = some enrolment) :
    ∃ ieeeaddr, .zoneEnrollReq ieeeaddr ∈ enrolment.registry.effects := by
  unfold zclssProcessincmdZonestatusEnrollrequest at handled
  split at handled
  · rename_i decided d decides found
    rw [← Option.some.inj handled]
    refine ⟨(deviceSetZonetype request.srcEndpoint request.zoneType d).device.ieeeaddr, ?_⟩
    have search : gw.devices.find? (fun d => decide (d.shortaddr = request.srcAddr)) = some d :=
      found
    simp only [zonestatusEnrollrequest, atDevice, search, DeviceOutcome.andThen, reportNewDevice]
    exact List.mem_append_right _ (List.mem_singleton_self _)
  · cases handled

/-- Where there is room for the zone, the new item is cleared before there is a test. -/
theorem decision_no_memory (supported : zclSSZoneTypeSupported request.zoneType = true)
    (room : HasRoom zones.items) :
    decision false zones request.dstEndpoint request.zoneType = none := by
  rw [decision, if_pos supported, if_pos room.1]
  rcases Option.isSome_iff_exists.mp (next_free_total le_rfl zones) with ⟨⟨zoneID, after⟩, found⟩
  rw [found]
  rcases next_free_spec found with ⟨_, free | ⟨_, _, noneFree⟩⟩
  · have inside : zoneID ≤ zclSsMaxZoneId := UInt8.le_of_lt (zone_id_available_iff.mp free).1
    simp only [if_pos inside, zclSSAddZone, Bool.false_eq_true, if_false, Option.map_none]
  · rcases room.2 with ⟨other, available⟩
    rw [noneFree other] at available
    cases available

theorem clean_admits {code zoneID : UInt8}
    (handled : zclssProcessincmdZonestatusEnrollrequest host gw zones request = some enrolment)
    (read : readEnrollResponse enrolment.response = some ⟨code, zoneID⟩)
    (clean : code ≠ enrollResponseCodeSuccess → Unchanged gw zones enrolment) :
    host.memory = true ∧ (gatewayGetdeviceShortaddr gw request.srcAddr).isSome ∧
      zclSSZoneTypeSupported request.zoneType = true ∧ HasRoom zones.items := by
  rcases handler_answers handled with ⟨d, found, decides, _, _, same⟩
  rcases answered_reported handled with ⟨ieeeaddr, reported⟩
  rw [read, Option.some.injEq, EnrollResponse.mk.injEq] at same
  rcases same with ⟨code_eq, _⟩
  have dirty (rejected : code ≠ enrollResponseCodeSuccess) : False :=
    (clean rejected).unreported ieeeaddr reported
  have cases := decision_cases decides
  rw [code_eq] at dirty
  generalize enrolment.decision = decided at decides cases dirty
  cases cases with
  | admitted id after known room free items =>
      refine ⟨?_, by rw [found]; rfl, known, room⟩
      by_contra memory
      rw [Bool.not_eq_true] at memory
      rw [memory, decision_no_memory known room] at decides
      cases decides
  | refused id known full => exact (dirty (of_decide_eq_false rfl)).elim
  | unsupported unknown => exact (dirty (of_decide_eq_false rfl)).elim

end Handler

/-- The handler does what is asked of it exactly when it admits the zone. -/
theorem rejects_cleanly_iff (memory : Bool) (gw : Gateway) (zones : ZoneTable)
    (request : EnrollRequest) :
    RejectsCleanly memory gw zones request ↔
      memory = true ∧ (gatewayGetdeviceShortaddr gw request.srcAddr).isSome ∧
        zclSSZoneTypeSupported request.zoneType = true ∧ HasRoom zones.items := by
  constructor
  · rintro ⟨code, zoneID, always⟩
    rcases always 0 with ⟨enrolment, handled, read, clean⟩
    exact clean_admits handled read clean
  · rintro ⟨rfl, known, supported, room⟩
    rcases Option.isSome_iff_exists.mp known with ⟨d, found⟩
    have total : (decision true zones request.dstEndpoint request.zoneType).isSome :=
      decision_total fun _ => rfl
    rcases Option.isSome_iff_exists.mp total with ⟨decided, decides⟩
    have handled (stack : UInt8) : ∃ enrolment,
        zclssProcessincmdZonestatusEnrollrequest ⟨true, stack⟩ gw zones request = some enrolment ∧
          enrolment.decision = decided := by
      rw [zclssProcessincmdZonestatusEnrollrequest, decides, found]
      exact ⟨_, rfl, rfl⟩
    have admission := decision_cases decides
    cases admission with
    | admitted zoneID after _ _ _ _ =>
        refine ⟨enrollResponseCodeSuccess, zoneID, ?_⟩
        intro stack
        rcases handled stack with ⟨enrolment, answers, same⟩
        rcases handler_answers answers with ⟨_, _, _, _, _, read⟩
        rw [same] at read
        exact ⟨enrolment, answers, read, fun rejected => absurd rfl rejected⟩
    | refused _ _ full => exact absurd room full
    | unsupported unknown =>
        rw [supported] at unknown
        cases unknown

def unknownTypeRequest : EnrollRequest := { contactRequest with zoneType := 0xFFFF }

/-- The id that is sent is what the stack held. -/
theorem unknown_type_stored :
    ¬∀ memory gw zones request, RejectsCleanly memory gw zones request := by
  intro clean
  rcases clean true contactUnused.system.gateway noZones unknownTypeRequest with
    ⟨code, zoneID, always⟩
  have sent : ∀ stack ∈ [(0xAB : UInt8), 0xCD],
      (zclssProcessincmdZonestatusEnrollrequest ⟨true, stack⟩ contactUnused.system.gateway noZones
        unknownTypeRequest).bind (fun enrolment => readEnrollResponse enrolment.response) =
      some ⟨enrollResponseCodeNotSupported, stack⟩ := by
    decide +kernel
  have answered (stack : UInt8) :
      (zclssProcessincmdZonestatusEnrollrequest ⟨true, stack⟩ contactUnused.system.gateway noZones
        unknownTypeRequest).bind (fun enrolment => readEnrollResponse enrolment.response) =
      some ⟨code, zoneID⟩ := by
    rcases always stack with ⟨enrolment, handled, read, _⟩
    rw [handled, Option.bind_some, read]
  have one := (sent 0xAB (by decide)).symm.trans (answered 0xAB)
  have two := (sent 0xCD (by decide)).symm.trans (answered 0xCD)
  rw [← two] at one
  exact absurd one (by decide)

end SmartHome.RejectedEnrolments
