import SmartHome.System
import SmartHome.Zones

/-!
# Runs of zones that enrol

The gateway, its zone table, and beside them the answers that zones have got so far. All
that happens to devices between two requests, their deletion and return included, leaves
the table alone: the answers alone say what it holds.
-/

namespace SmartHome.Enrolments

open SmartHome.Library.Runs
open SmartHome.Registry
open SmartHome.Zcl
open SmartHome.Effects
open SmartHome.EventRecvmsg
open SmartHome.ZdoCallbacks
open SmartHome.System
open SmartHome.Zones

set_option autoImplicit false

structure EnrollResponse where
  responseCode : UInt8
  zoneID : UInt8
  deriving DecidableEq

/-- A command of its cluster to the server, without a default response, and its two bytes. -/
def enrollResponseControl : UInt8 := 0x11

/-- What a zone reads of a message that is sent to it. -/
def readEnrollResponse (message : DataRequest) : Option EnrollResponse :=
  if message.clusterID = zclClusterIdSsIasZone ∧ message.data.length = message.len.toNat then
    match message.data with
    | [control, _, commandid, responseCode, zoneID] =>
        if control = enrollResponseControl ∧ commandid = commandSsIasZoneStatusEnrollResponse then
          some ⟨responseCode, zoneID⟩
        else none
    | _ => none
  else none

/-- The response goes back where the request came from, and has its number. -/
structure Addressed (request : EnrollRequest) (response : DataRequest) : Prop where
  dstAddr : response.dstAddr = request.srcAddr
  dstEndpoint : response.dstEndpoint = request.srcEndpoint
  srcEndpoint : response.srcEndpoint = request.dstEndpoint
  transseqnum : response.data[1]? = some request.transseqnum

/-- A request, the device and the endpoint that sent it, and the message that answers it. -/
structure Answer where
  owner : UInt64 × UInt8
  request : EnrollRequest
  response : DataRequest

namespace Answer

def tells (answer : Answer) : Option EnrollResponse := readEnrollResponse answer.response

def code (answer : Answer) : Option UInt8 := answer.tells.map (·.responseCode)

def granted (answer : Answer) : Option UInt8 :=
  answer.tells.bind fun tells =>
    if tells.responseCode = enrollResponseCodeSuccess then some tells.zoneID else none

end Answer

structure EnrolState where
  system : GatewayState
  zones : ZoneTable
  answers : List Answer

/-- `malloc` succeeds; `zoneID` is what the stack holds. -/
inductive ZoneEvent
  | enroll (zoneID : UInt8) (request : EnrollRequest)
  | other (input : Input)
      (foreign : ∀ srcAddr srcEndpoint zoneType, input ≠ .enrollRequest srcAddr srcEndpoint zoneType)

def answerTo (request : EnrollRequest) (enrolment : Enrolment) : Answer where
  owner := (enrolment.report.ieeeaddr, enrolment.report.endpoint)
  request := request
  response := enrolment.response

def enrolStep (s : EnrolState) : ZoneEvent → Option EnrolState
  | .enroll zoneID request =>
      (zclssProcessincmdZonestatusEnrollrequest ⟨true, zoneID⟩ s.system.gateway s.zones request).map
        fun enrolment =>
          ⟨s.system.after enrolment.registry, enrolment.decision.zones,
            s.answers ++ [answerTo request enrolment]⟩
  | .other input _ => (step s.system (.input input)).map fun system => { s with system }

/-- The program has just started; its registry and database are as they are. -/
def Unused (s : EnrolState) : Prop := s.zones = noZones ∧ s.answers = []

def supported (answers : List Answer) : List Answer :=
  answers.filter fun answer => zclSSZoneTypeSupported answer.request.zoneType

/-- The ids of the successful answers; each of them has added the item at its place in the table. -/
def grantedIDs (answers : List Answer) : List UInt8 := answers.filterMap Answer.granted

section Steps

variable {s next : EnrolState} {zoneID : UInt8} {request : EnrollRequest}

def sender (s : EnrolState) (request : EnrollRequest) : Option Device :=
  gatewayGetdeviceShortaddr s.system.gateway request.srcAddr

theorem enroll_response_eq (srcEP dstEp : UInt8) (dstaddr : UInt16)
    (responseCode zoneID seqNum : UInt8) :
    zclSSIASSendZoneStatusEnrollResponseCmd srcEP dstEp dstaddr responseCode zoneID 1 seqNum =
      { dstAddr := dstaddr
        dstEndpoint := dstEp
        srcEndpoint := srcEP
        clusterID := zclClusterIdSsIasZone
        transID := 0
        options := 0
        radius := 0
        len := 5
        data := [enrollResponseControl, seqNum, commandSsIasZoneStatusEnrollResponse, responseCode,
          zoneID] } := by
  have control : bitField (zclFrameTypeSpecificCmd.toBitVec.setWidth 2) |||
      bitField (0 : BitVec 1) <<< 2 ||| bitField ((0 : UInt8).toBitVec.setWidth 1) <<< 3 |||
      bitField (1 : BitVec 1) <<< 4 = enrollResponseControl := by decide
  have direction : zclFrameClientServerDir = 0 := rfl
  have disabled : ¬(1 : UInt8) = 0 := by decide
  simp only [zclSSIASSendZoneStatusEnrollResponseCmd, zclSendcommand, if_true, zclCalcHdrSize,
    ne_eq, not_true_eq_false, if_false, zclBuildHdr, direction, disabled, not_false_eq_true,
    control, List.append_nil, List.length_cons, List.length_nil]
  rfl

theorem read_enroll_response (srcEP dstEp : UInt8) (dstaddr : UInt16)
    (responseCode zoneID seqNum : UInt8) :
    readEnrollResponse (zclSSIASSendZoneStatusEnrollResponseCmd srcEP dstEp dstaddr responseCode
      zoneID 1 seqNum) = some ⟨responseCode, zoneID⟩ := by
  rw [enroll_response_eq]
  rfl

theorem enroll_response_addressed (request : EnrollRequest) (responseCode zoneID : UInt8) :
    Addressed request (zclSSIASSendZoneStatusEnrollResponseCmd request.dstEndpoint
      request.srcEndpoint request.srcAddr responseCode zoneID 1 request.transseqnum) := by
  rw [enroll_response_eq]
  exact ⟨rfl, rfl, rfl, rfl⟩

/-- What the handler makes of a request when there is a decision and a device. -/
theorem handler_answers {host : EnrollHost} {gw : Gateway} {zones : ZoneTable}
    {enrolment : Enrolment}
    (handled : zclssProcessincmdZonestatusEnrollrequest host gw zones request = some enrolment) :
    ∃ d, gatewayGetdeviceShortaddr gw request.srcAddr = some d ∧
      decision host.memory zones request.dstEndpoint request.zoneType = some enrolment.decision ∧
      (answerTo request enrolment).owner = (d.ieeeaddr, request.srcEndpoint) ∧
      Addressed request enrolment.response ∧
      readEnrollResponse enrolment.response = some ⟨enrolment.decision.responseCode,
        enrolment.decision.zoneID.getD host.zoneID⟩ := by
  unfold zclssProcessincmdZonestatusEnrollrequest at handled
  split at handled
  · rename_i decided d decides found
    rw [← Option.some.inj handled]
    exact ⟨d, found, decides, rfl, enroll_response_addressed request _ _,
      read_enroll_response _ _ _ _ _ _⟩
  · cases handled

theorem enroll_step (stepped : enrolStep s (.enroll zoneID request) = some next) :
    ∃ d decided response, sender s request = some d ∧
      Decides s.zones request.dstEndpoint request.zoneType decided ∧ next.zones = decided.zones ∧
      next.answers = s.answers ++ [⟨(d.ieeeaddr, request.srcEndpoint), request, response⟩] ∧
      Addressed request response ∧
      readEnrollResponse response = some ⟨decided.responseCode, decided.zoneID.getD zoneID⟩ := by
  rw [enrolStep, Option.map_eq_some_iff] at stepped
  rcases stepped with ⟨enrolment, handled, rfl⟩
  rcases handler_answers handled with ⟨d, found, decides, owner, addressed, read⟩
  refine ⟨d, enrolment.decision, enrolment.response, found, decision_cases decides, rfl, ?_,
    addressed, read⟩
  rw [← owner]
  rfl

theorem enroll_total (zoneID : UInt8) (known : (sender s request).isSome) :
    (enrolStep s (.enroll zoneID request)).isSome := by
  rcases Option.isSome_iff_exists.mp known with ⟨d, found⟩
  have total : (decision true s.zones request.dstEndpoint request.zoneType).isSome :=
    decision_total fun _ => rfl
  rcases Option.isSome_iff_exists.mp total with ⟨decided, decides⟩
  rw [sender] at found
  rw [enrolStep, Option.isSome_map, zclssProcessincmdZonestatusEnrollrequest, decides, found]
  rfl

theorem other_step {input : Input}
    {foreign : ∀ srcAddr srcEndpoint zoneType, input ≠ .enrollRequest srcAddr srcEndpoint zoneType}
    (stepped : enrolStep s (.other input foreign) = some next) :
    next.zones = s.zones ∧ next.answers = s.answers := by
  rw [enrolStep, Option.map_eq_some_iff] at stepped
  rcases stepped with ⟨system, _, rfl⟩
  exact ⟨rfl, rfl⟩

end Steps

/-- The table as the answers describe it. -/
structure Described (zones : ZoneTable) (answers : List Answer) : Prop where
  listed : zoneIDs zones.items = grantedIDs answers
  distinct : (zoneIDs zones.items).Nodup
  inside : ∀ zoneID ∈ zoneIDs zones.items, zoneID < zclSsMaxZoneId
  counted : zones.items.length = min (supported answers).length 254
  codes : ∀ index answer, (supported answers)[index]? = some answer →
    answer.code = some
      (if index < 254 then enrollResponseCodeSuccess else enrollResponseCodeTooManyZones)

theorem nodup_append_singleton {Item : Type*} {items : List Item} {new : Item}
    (distinct : items.Nodup) (absent : new ∉ items) : (items ++ [new]).Nodup := by
  rw [← List.concat_eq_append]
  exact distinct.concat absent

section Table

variable {zones : ZoneTable} {answers : List Answer} {dstEndpoint : UInt8} {zoneType : UInt16}
  {decided : Decision}

theorem Described.length_le (described : Described zones answers) : zones.items.length ≤ 254 :=
  zone_ids_length_le described.distinct described.inside

theorem Described.count (described : Described zones answers) :
    (zclSSCountAllZones zones.items).toNat = zones.items.length := by
  have bound := described.length_le
  rw [count_all_zones_eq, UInt8.toNat_ofNat']
  omega

/-- The table is full exactly when it has 254 items. -/
theorem Described.room_iff (described : Described zones answers) :
    HasRoom zones.items ↔ zones.items.length < 254 := by
  constructor
  · rintro ⟨_, zoneID, free⟩
    rcases zone_id_available_iff.mp free with ⟨below, absent⟩
    have more : (zoneIDs (zones.items ++ [⟨0, zoneID, 0, zclSSUknownIeeeAddress⟩])).Nodup := by
      rw [zoneIDs, List.map_append]
      exact nodup_append_singleton described.distinct absent
    have inside : ∀ other ∈ zoneIDs (zones.items ++ [⟨0, zoneID, 0, zclSSUknownIeeeAddress⟩]),
        other < zclSsMaxZoneId := by
      intro other member
      rw [zoneIDs, List.map_append] at member
      rcases List.mem_append.mp member with before | last
      · exact described.inside other before
      · exact List.mem_singleton.mp last ▸ below
    have bound := zone_ids_length_le more inside
    rw [List.length_append, List.length_singleton] at bound
    omega
  · intro room
    refine ⟨?_, available_of_room room⟩
    rw [described.count]
    exact room.trans (by decide)

theorem supported_append (answer : Answer) :
    supported (answers ++ [answer]) =
      supported answers ++
        if zclSSZoneTypeSupported answer.request.zoneType then [answer] else [] := by
  rw [supported, List.filter_append, List.filter_singleton, Bool.cond_eq_ite]
  rfl

theorem granted_append {answer : Answer} {code zoneID : UInt8}
    (tells : answer.tells = some ⟨code, zoneID⟩) :
    grantedIDs (answers ++ [answer]) =
      grantedIDs answers ++ if code = enrollResponseCodeSuccess then [zoneID] else [] := by
  have mine : answer.granted = if code = enrollResponseCodeSuccess then some zoneID else none := by
    rw [Answer.granted, tells, Option.bind_some]
  rw [grantedIDs, List.filterMap_append, grantedIDs]
  congr 1
  rw [List.filterMap_cons, mine]
  split_ifs <;> rfl

theorem codes_append
    (codes : ∀ index answer, (supported answers)[index]? = some answer → answer.code = some
      (if index < 254 then enrollResponseCodeSuccess else enrollResponseCodeTooManyZones))
    {last : Answer}
    (code : last.code = some (if (supported answers).length < 254 then enrollResponseCodeSuccess
      else enrollResponseCodeTooManyZones))
    (index : Nat) (answer : Answer)
    (place : (supported answers ++ [last])[index]? = some answer) :
    answer.code = some
      (if index < 254 then enrollResponseCodeSuccess else enrollResponseCodeTooManyZones) := by
  rcases lt_or_ge index (supported answers).length with before | behind
  · rw [List.getElem?_append_left before] at place
    exact codes index answer place
  · rw [List.getElem?_append_right behind, List.getElem?_singleton] at place
    split_ifs at place with ends
    rw [← Option.some.inj place]
    have here : index = (supported answers).length := by omega
    rw [here]
    exact code

theorem Described.answer (described : Described zones answers) {answer : Answer} {zoneID : UInt8}
    (decides : Decides zones dstEndpoint answer.request.zoneType decided)
    (tells : answer.tells = some ⟨decided.responseCode, decided.zoneID.getD zoneID⟩) :
    Described decided.zones (answers ++ [answer]) := by
  have counted := described.counted
  have code : answer.code = some decided.responseCode := by rw [Answer.code, tells, Option.map_some]
  cases decides with
  | admitted zoneID after known room free items =>
      have few := described.room_iff.mp room
      rcases zone_id_available_iff.mp free with ⟨below, absent⟩
      have ids : zoneIDs after.items = zoneIDs zones.items ++ [zoneID] := by
        rw [zoneIDs, items, List.map_append]
        rfl
      constructor
      · rw [ids, described.listed, granted_append tells, if_pos rfl]
        rfl
      · rw [ids]
        exact nodup_append_singleton described.distinct absent
      · intro other member
        rw [ids] at member
        rcases List.mem_append.mp member with before | last
        · exact described.inside other before
        · exact List.mem_singleton.mp last ▸ below
      · rw [supported_append, if_pos known, items, List.length_append, List.length_append,
          List.length_singleton, List.length_singleton]
        omega
      · rw [supported_append, if_pos known]
        apply codes_append described.codes
        rw [code, if_pos (by omega)]
  | refused zoneID known full =>
      have many : ¬zones.items.length < 254 := fun few => full (described.room_iff.mpr few)
      constructor
      · rw [granted_append tells, if_neg (of_decide_eq_false rfl), List.append_nil]
        exact described.listed
      · exact described.distinct
      · exact described.inside
      · rw [supported_append, if_pos known, List.length_append, List.length_singleton]
        change zones.items.length = _
        omega
      · rw [supported_append, if_pos known]
        apply codes_append described.codes
        rw [code, if_neg (by omega)]
  | unsupported unknown =>
      have same : supported (answers ++ [answer]) = supported answers := by
        rw [supported_append, if_neg (by rw [unknown]; exact Bool.false_ne_true), List.append_nil]
      constructor
      · rw [granted_append tells, if_neg (of_decide_eq_false rfl), List.append_nil]
        exact described.listed
      · exact described.distinct
      · exact described.inside
      · rw [same]
        exact counted
      · rw [same]
        exact described.codes

theorem described_unused {s : EnrolState} (unused : Unused s) : Described s.zones s.answers := by
  rw [unused.1, unused.2]
  refine ⟨rfl, List.nodup_nil, ?_, rfl, ?_⟩
  · intro zoneID member
    cases member
  · intro index answer place
    cases place

theorem described_step {s next : EnrolState} {event : ZoneEvent}
    (described : Described s.zones s.answers) (stepped : enrolStep s event = some next) :
    Described next.zones next.answers := by
  cases event with
  | enroll zoneID request =>
      rcases enroll_step stepped with ⟨d, decided, response, _, decides, zones, answered, _, read⟩
      rw [zones, answered]
      exact described.answer decides read
  | other input foreign =>
      rcases other_step stepped with ⟨zones, answered⟩
      rw [zones, answered]
      exact described

end Table

def Responds (answers : List Answer) : Prop :=
  ∀ answer ∈ answers, Addressed answer.request answer.response ∧ answer.tells.isSome

theorem responds_step {s next : EnrolState} {event : ZoneEvent} (responds : Responds s.answers)
    (stepped : enrolStep s event = some next) : Responds next.answers := by
  cases event with
  | enroll zoneID request =>
      rcases enroll_step stepped with ⟨d, decided, response, _, _, _, answered, addressed, read⟩
      rw [answered]
      intro answer member
      rcases List.mem_append.mp member with before | last
      · exact responds answer before
      · rw [List.mem_singleton.mp last]
        exact ⟨addressed, by rw [Answer.tells, read]; rfl⟩
  | other input foreign =>
      rw [(other_step stepped).2]
      exact responds

/-- How ids are handed out, as the responses say it: the search for one ends, every request of a
device gets one response, no id is given twice, the first 254 supported requests succeed and every
later one finds the table full and leaves it as it is. -/
structure Allocated (s : EnrolState) : Prop where
  terminates : ∀ fuel, searchFuel ≤ fuel → (zclSSGetNextFreeZoneID fuel s.zones).isSome
  distinct : (grantedIDs s.answers).Nodup
  inside : ∀ zoneID ∈ grantedIDs s.answers, zoneID.toNat ≤ 253
  codes : ∀ index answer, (supported s.answers)[index]? = some answer →
    answer.code = some
      (if index < 254 then enrollResponseCodeSuccess else enrollResponseCodeTooManyZones)
  responds : Responds s.answers
  answered : ∀ zoneID request d, sender s request = some d →
    ∃ next response, enrolStep s (.enroll zoneID request) = some next ∧
      next.answers = s.answers ++ [⟨(d.ieeeaddr, request.srcEndpoint), request, response⟩]
  kept : ∀ zoneID request next, enrolStep s (.enroll zoneID request) = some next →
    254 ≤ (supported s.answers).length → next.zones = s.zones
  counted : (zclSSCountAllZones s.zones.items).toNat = s.zones.items.length

theorem zone_ids_allocated {s : EnrolState}
    (reachable : Reachable enrolStep (fun _ _ => True) Unused s) : Allocated s := by
  have described : Described s.zones s.answers :=
    reachable.invariant (fun _ => described_unused) fun _ _ _ holds _ => described_step holds
  have responds : Responds s.answers := by
    apply reachable.invariant
    · intro s unused
      rw [unused.2]
      exact fun _ member => absurd member List.not_mem_nil
    · exact fun _ _ _ holds _ => responds_step holds
  constructor
  · intro fuel enough
    exact next_free_total enough s.zones
  · rw [← described.listed]
    exact described.distinct
  · intro zoneID member
    rw [← described.listed] at member
    have below : zoneID.toNat < 254 := described.inside zoneID member
    exact Nat.le_of_lt_succ below
  · exact described.codes
  · exact responds
  · intro zoneID request d found
    have answers := @enroll_total s request zoneID (by rw [found]; rfl)
    rcases Option.isSome_iff_exists.mp answers with ⟨next, stepped⟩
    rcases enroll_step stepped with ⟨other, _, response, same, _, _, answered, _, _⟩
    rw [found, Option.some.injEq] at same
    rw [same]
    exact ⟨next, response, stepped, answered⟩
  · intro zoneID request next stepped many
    rcases enroll_step stepped with ⟨d, decided, _, _, decides, zones, _⟩
    have full : ¬HasRoom s.zones.items := by
      rw [described.room_iff, described.counted]
      omega
    rw [zones]
    cases decides with
    | admitted _ _ _ room => exact absurd room full
    | refused => rfl
    | unsupported => rfl
  · exact described.count

def contactIeee : UInt64 := 0x00137A00000156D3

def contactUnused : EnrolState :=
  ⟨⟨{ twoContacts with devices := [contactSwitch contactIeee 0] }, .empty⟩, noZones, []⟩

def contactRequest : EnrollRequest where
  srcAddr := 1
  srcEndpoint := 2
  dstEndpoint := 1
  groupId := 0
  clusterId := zclClusterIdSsIasZone
  transseqnum := 1
  zoneType := 0x0015

def otherIeee : UInt64 := 0x00137A00000156D4

def ZoneEvent.joins (msg : EndDeviceAnnceIndFormat) : ZoneEvent :=
  .other (.announce msg) fun _ _ _ same => by cases same

def ZoneEvent.deletes (ieee : UInt64) : ZoneEvent :=
  .other (.command quietHost 5 (.delDevice ⟨ieee, 1⟩)) fun _ _ _ same => by cases same

/-- A contact switch and a second one that joins; both enrol, the first one again after it was deleted,
and one asks with a type that does not exist. -/
def contactsEnrol : List ZoneEvent :=
  [.enroll 0 contactRequest,
    .joins ⟨2, 2, otherIeee⟩,
    .enroll 7 { contactRequest with srcAddr := 2, transseqnum := 5 },
    .deletes contactIeee,
    .joins ⟨1, 1, contactIeee⟩,
    .enroll 9 { contactRequest with transseqnum := 2, zoneType := 0xFFFF },
    .enroll 9 { contactRequest with transseqnum := 3 }]

theorem zone_ids_allocated_contact :
    ∃ s, run enrolStep contactUnused contactsEnrol = some s ∧ Allocated s ∧
      grantedIDs s.answers = [0, 1, 2] := by
  have ids : (run enrolStep contactUnused contactsEnrol).map (fun s => grantedIDs s.answers) =
      some [0, 1, 2] := by
    decide +kernel
  rcases Option.map_eq_some_iff.mp ids with ⟨s, ran, granted⟩
  have started : Reachable enrolStep (fun _ _ => True) Unused contactUnused := .start ⟨rfl, rfl⟩
  have meets : Meets enrolStep (fun _ _ => True) contactUnused contactsEnrol :=
    meets_of_forall (fun _ _ _ => trivial) _
  exact ⟨s, ran, zone_ids_allocated (reachable_run started meets ran), granted⟩

end SmartHome.Enrolments
