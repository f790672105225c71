import SmartHome.Discovery
import SmartHome.Library.Mirroring

/-!
# Discovery after a lost exchange

A device whose discovery was cut short announces itself again. Whether that leads on
depends on what the gateway has kept: with one endpoint recorded the list is not asked
for again, and nothing but a restart of the gateway sets the cursor back.
-/

namespace SmartHome.DiscoveryRestart

open SmartHome.Library.CTypes
open SmartHome.Library.Mirroring
open SmartHome.Library.AddressBook
open SmartHome.Library.Runs
open SmartHome.Registry
open SmartHome.Effects
open SmartHome.ZdoCallbacks
open SmartHome.System
open SmartHome.ShortAddresses
open SmartHome.Discovery

set_option autoImplicit false

def respondAll (gw : Gateway) (responses : List Response) : Gateway :=
  responses.foldl (fun gw response => (respond gw response).gateway) gw

def respondAllDevice (d : Device) (responses : List Response) : Device :=
  responses.foldl (fun d response => (respondDevice d response).device) d

/-- The list of endpoints and then one descriptor for each of them, in any order. -/
structure Complete (endpoints : List UInt8) (shortaddr : UInt16) (list : ActiveEpRspFormat)
    (descriptors : List SimpleDescRspFormat) : Prop where
  listed : Answers endpoints shortaddr (.activeEp list)
  described : ∀ msg ∈ descriptors, Answers endpoints shortaddr (.simpleDesc msg)
  each : (descriptors.map (·.endpoint)).Perm endpoints

def responsesOf (list : ActiveEpRspFormat) (descriptors : List SimpleDescRspFormat) :
    List Response :=
  .activeEp list :: descriptors.map .simpleDesc

structure FullyDiscovered (endpoints : List UInt8) (d : Device) : Prop where
  once : ∀ endpoint ∈ endpoints, (numbers d).count endpoint = 1
  active : deviceCheckStatus d deviceActive = true

/-- The announcement asks for the endpoints, and whatever they are, a complete sequence of responses
then finishes the discovery. -/
structure LeadsOn (gw : Gateway) (msg : EndDeviceAnnceIndFormat) : Prop where
  asks : .zdo (.activeEpReq msg.srcAddr msg.nwkAddr) ∈ (mtZdoEndDeviceAnnceIndCb gw msg).effects
  finishes : ∀ endpoints list descriptors, endpoints.Nodup → endpoints ≠ [] →
    Complete endpoints msg.nwkAddr list descriptors →
      ∃ d, gatewayGetdevice (respondAll (mtZdoEndDeviceAnnceIndCb gw msg).gateway
          (responsesOf list descriptors)) msg.ieeeAddr = some d ∧
        FullyDiscovered endpoints d

section Device

variable {endpoints : List UInt8} {d : Device}

def ActiveWhenAll (endpoints : List UInt8) (d : Device) : Prop :=
  (numbers d).length = endpoints.length → deviceCheckStatus d deviceActive = true

theorem active_when_all_simple_desc (recorded : Recorded endpoints d) {msg : SimpleDescRspFormat}
    (member : msg.endpoint ∈ endpoints) (new : msg.endpoint ∉ numbers d) :
    ActiveWhenAll endpoints (simpleDescRsp msg d).device := by
  intro all
  have next := recorded_simple_desc recorded member new
  rw [next.1, List.length_append, List.length_singleton] at all
  rw [(simple_desc_in_step recorded member new).2, if_pos all]
  exact complete_device_active _

/-- Descriptors that have not come yet are recorded one after the other. -/
theorem descriptors_recorded {descriptors : List SimpleDescRspFormat}
    (recorded : Recorded endpoints d) (active : ActiveWhenAll endpoints d)
    (member : ∀ msg ∈ descriptors, msg.endpoint ∈ endpoints)
    (new : (numbers d ++ descriptors.map (·.endpoint)).Nodup) :
    numbers (respondAllDevice d (descriptors.map .simpleDesc)) =
        numbers d ++ descriptors.map (·.endpoint) ∧
      ActiveWhenAll endpoints (respondAllDevice d (descriptors.map .simpleDesc)) := by
  induction descriptors generalizing d with
  | nil =>
      exact ⟨(List.append_nil _).symm, active⟩
  | cons msg descriptors induction =>
      rcases List.forall_mem_cons.mp member with ⟨first, later⟩
      have unseen : msg.endpoint ∉ numbers d := by
        intro seen
        exact List.disjoint_of_nodup_append new seen List.mem_cons_self
      have next := recorded_simple_desc recorded first unseen
      have shifted : numbers d ++ (msg :: descriptors).map (·.endpoint) =
          numbers (simpleDescRsp msg d).device ++ descriptors.map (·.endpoint) := by
        rw [next.1, List.append_assoc]
        rfl
      rw [shifted] at new ⊢
      exact induction next.2 (active_when_all_simple_desc recorded first unseen) later new

/-- A complete sequence finishes the discovery of a device that waits for it. -/
theorem waiting_finishes (waiting : Waiting d) (distinct : endpoints.Nodup)
    (positive : endpoints ≠ []) {shortaddr : UInt16} {list : ActiveEpRspFormat}
    {descriptors : List SimpleDescRspFormat}
    (complete : Complete endpoints shortaddr list descriptors) :
    FullyDiscovered endpoints (respondAllDevice d (responsesOf list descriptors)) := by
  have recorded := waiting_active_ep waiting complete.listed.content
  have none := active_ep_none waiting list
  have inactive : ActiveWhenAll endpoints (activeEpRsp list d).device := by
    intro all
    rw [none] at all
    exact absurd (List.eq_nil_of_length_eq_zero all.symm) positive
  have new : (numbers (activeEpRsp list d).device ++ descriptors.map (·.endpoint)).Nodup := by
    rw [none, List.nil_append]
    exact complete.each.nodup_iff.mpr distinct
  have all := descriptors_recorded recorded inactive
    (fun msg member => (complete.described msg member).content) new
  rw [none, List.nil_append] at all
  constructor
  · intro endpoint member
    have count := all.1 ▸ complete.each.count_eq endpoint
    exact count.trans (List.count_eq_one_of_mem distinct member)
  · apply all.2
    rw [all.1]
    exact complete.each.length_eq

theorem count_endpoint_fields (endpoint : UInt8) (d : Device) :
    (countEndpoint endpoint d).status = d.status ∧
      numbers (countEndpoint endpoint d) = numbers d ∧
      (countEndpoint endpoint d).activeep = d.activeep := by
  unfold countEndpoint
  split_ifs
  · exact ⟨rfl, rfl, rfl⟩
  · exact ⟨rfl, rfl, rfl⟩

/-- A descriptor that completes the device is the one that the cursor says is the last. -/
theorem simple_desc_completes {msg : SimpleDescRspFormat}
    (unfinished : deviceCheckStatus d deviceActive = false)
    (active : deviceCheckStatus (simpleDescRsp msg d).device deviceActive = true) :
    (countEndpoint msg.endpoint d).epcursor = d.activeep.activeEPCount ∧
      numbers (simpleDescRsp msg d).device = numbers d ++ [msg.endpoint] := by
  rcases count_endpoint_fields msg.endpoint d with ⟨status, same, header⟩
  have still : flagSet (countEndpoint msg.endpoint d).status deviceActive = false := by
    rw [status]
    exact unfinished
  unfold simpleDescRsp at active ⊢
  dsimp only at active ⊢
  split_ifs at active ⊢ with more last
  · exact absurd (still.symm.trans active) Bool.false_ne_true
  · rw [header] at last
    have added := numbers_addendpoint (countEndpoint msg.endpoint d) (describedEndpoint msg)
    rw [same] at added
    exact ⟨last, added⟩
  · exact absurd (still.symm.trans active) Bool.false_ne_true

/-- One endpoint is enough to see what is left of an earlier discovery. -/
theorem single_descriptor_finishes {endpoint : UInt8} {list : ActiveEpRspFormat}
    {msg : SimpleDescRspFormat} (asked : deviceCheckStatus d deviceSendSimpledesc = false)
    (unfinished : deviceCheckStatus d deviceActive = false) (lists : Lists [endpoint] list)
    (describes : msg.endpoint = endpoint)
    (finished : FullyDiscovered [endpoint] (respondAllDevice d (responsesOf list [msg]))) :
    endpoint ∉ numbers d ∧ d.epcursor = 0 := by
  have front : ¬deviceCheckStatus d deviceSendSimpledesc = true := by
    rw [asked]
    exact Bool.false_ne_true
  have taken : deviceCheckStatus (activeEpRsp list d).device deviceActive = false := by
    rw [activeEpRsp, if_neg front]
    change flagSet ((d.status ||| deviceSendSimpledesc) ||| deviceGetActiveep) _ = false
    rw [flag_set_or_other (by decide), flag_set_or_other (by decide)]
    exact unfinished
  have count : (activeEpRsp list d).device.activeep.activeEPCount = 1 := by
    rw [activeEpRsp, if_neg front]
    exact UInt8.toNat_inj.mp lists.counted
  have cursor : (activeEpRsp list d).device.epcursor = d.epcursor := by
    rw [activeEpRsp, if_neg front]
    rfl
  rcases simple_desc_completes taken finished.active with ⟨last, recorded⟩
  have once := finished.once endpoint List.mem_cons_self
  change (numbers (simpleDescRsp msg (activeEpRsp list d).device).device).count endpoint = 1 at once
  rw [recorded, describes, active_ep_numbers, List.count_append, List.count_singleton_self] at once
  have new : endpoint ∉ numbers d := List.count_eq_zero.mp (Nat.succ.inj once)
  have unseen : ¬deviceHasEnpoint (activeEpRsp list d).device msg.endpoint = true := by
    rw [device_has_enpoint_iff, active_ep_numbers, describes]
    exact new
  rw [countEndpoint, if_neg unseen, count] at last
  change (activeEpRsp list d).device.epcursor + 1 = 1 at last
  rw [cursor] at last
  have zero : d.epcursor + 1 = 0 + 1 := last
  exact ⟨new, (UInt8.add_left_inj 1).mp zero⟩

end Device

def bothAddresses (d : Device) : UInt64 × UInt16 := (d.ieeeaddr, d.shortaddr)

structure Shadowed (gw : Gateway) (front : List Device) (d : Device) (rest : List Device)
    (shortaddr : UInt16) : Prop where
  devices : gw.devices = front ++ d :: rest
  ieeeaddr : ∀ other ∈ front, other.ieeeaddr ≠ d.ieeeaddr
  shortaddr : ∃ other ∈ front, other.shortaddr = shortaddr

section Gateway

variable {gw : Gateway} {front rest : List Device} {d : Device} {shortaddr : UInt16}

theorem respond_all_stands (stands : Stands gw front d rest) {responses : List Response}
    (answers : ∀ response ∈ responses,
      response.status = mtRpcSuccess ∧ response.srcAddr = d.shortaddr) :
    Stands (respondAll gw responses) front (respondAllDevice d responses) rest := by
  induction responses generalizing gw d with
  | nil => exact stands
  | cons response responses induction =>
      rcases List.forall_mem_cons.mp answers with ⟨first, later⟩
      have next := (respond_stands stands first.1 first.2).1
      have same := (respond_device_addresses d response).2
      rw [← same] at later
      exact induction next later

theorem respond_all_device_ieeeaddr (d : Device) (responses : List Response) :
    (respondAllDevice d responses).ieeeaddr = d.ieeeaddr := by
  induction responses generalizing d with
  | nil => rfl
  | cons response responses induction =>
      exact (induction _).trans (respond_device_addresses d response).1

theorem respond_shadowed (shadowed : Shadowed gw front d rest shortaddr) {response : Response}
    (success : response.status = mtRpcSuccess) (sender : response.srcAddr = shortaddr) :
    ∃ changed, Shadowed (respond gw response).gateway changed d rest shortaddr := by
  rcases shadowed.shortaddr with ⟨other, member, taken⟩
  have search : (front.find? (·.shortaddr = response.srcAddr)).isSome = true := by
    rw [List.find?_isSome]
    exact ⟨other, member, decide_eq_true (taken.trans sender.symm)⟩
  rcases Option.isSome_iff_exists.mp search with ⟨first, here⟩
  have whole : gw.devices.find? (·.shortaddr = response.srcAddr) = some first := by
    rw [shadowed.devices, List.find?_append, here]
    rfl
  have kept : ∀ device : Device, decide (device.shortaddr = response.srcAddr) = true →
      bothAddresses (respondDevice device response).device = bothAddresses device := by
    intro device _
    have addresses := respond_device_addresses device response
    exact Prod.ext addresses.1 addresses.2
  have entries := map_key_modify (fun d => (respondDevice d response).device) _ kept front
  have moved : (respond gw response).gateway.devices =
      modifyFirst (·.shortaddr = response.srcAddr) (fun d => (respondDevice d response).device)
        front ++ d :: rest := by
    rw [respond_eq success, atDevice, whole]
    rw [← modify_first_append_of_find here, ← shadowed.devices]
  refine ⟨_, moved, ?_, ?_⟩
  · intro device inside same
    have entry : bothAddresses device ∈ front.map bothAddresses :=
      entries ▸ List.mem_map_of_mem inside
    rcases List.mem_map.mp entry with ⟨before, member, equal⟩
    exact shadowed.ieeeaddr before member ((congrArg Prod.fst equal).trans same)
  · have entry : bothAddresses other ∈ front.map bothAddresses := List.mem_map_of_mem member
    rw [← entries] at entry
    rcases List.mem_map.mp entry with ⟨after, inside, equal⟩
    exact ⟨after, inside, (congrArg Prod.snd equal).trans taken⟩

theorem respond_all_shadowed (shadowed : Shadowed gw front d rest shortaddr)
    {responses : List Response}
    (answers : ∀ response ∈ responses,
      response.status = mtRpcSuccess ∧ response.srcAddr = shortaddr) :
    ∃ changed, Shadowed (respondAll gw responses) changed d rest shortaddr := by
  induction responses generalizing gw front with
  | nil => exact ⟨front, shadowed⟩
  | cons response responses induction =>
      rcases List.forall_mem_cons.mp answers with ⟨first, later⟩
      rcases respond_shadowed shadowed first.1 first.2 with ⟨changed, next⟩
      exact induction next later

end Gateway

section Announcement

variable {gw : Gateway} {msg : EndDeviceAnnceIndFormat} {d : Device}

/-- Nothing else in an announcement asks for the endpoints. -/
theorem asks_only_again
    (asked : .zdo (.activeEpReq msg.srcAddr msg.nwkAddr) ∈ (announced msg d).effects) :
    AsksAgain d := by
  by_contra complete
  rw [announced_eq, announceReaction, if_neg complete, announceShortaddr, clearDeviceState] at asked
  split_ifs at asked <;> simp [DeviceOutcome.done] at asked

theorem announced_inactive (unfinished : deviceCheckStatus d deviceActive = false) :
    deviceCheckStatus (announced msg d).device deviceActive = false := by
  rw [announced_eq]
  exact (announced_status_flag d (by decide) (by decide) (by decide) (by decide)).trans unfinished

def singleList (shortaddr : UInt16) (endpoint : UInt8) : ActiveEpRspFormat :=
  ⟨shortaddr, mtRpcSuccess, shortaddr, 1, Vector.replicate 77 endpoint⟩

def singleDescriptor (shortaddr : UInt16) (endpoint : UInt8) : SimpleDescRspFormat :=
  { descriptorOf endpoint with srcAddr := shortaddr }

theorem single_complete (shortaddr : UInt16) (endpoint : UInt8) :
    Complete [endpoint] shortaddr (singleList shortaddr endpoint)
      [singleDescriptor shortaddr endpoint] := by
  have listed : Lists [endpoint] (singleList shortaddr endpoint) := by
    refine ⟨rfl, ?_⟩
    rw [singleList, Vector.toList_replicate]
    rfl
  refine ⟨⟨rfl, rfl, listed⟩, ?_, List.Perm.refl _⟩
  intro descriptor member
  rw [List.mem_singleton.mp member]
  exact ⟨rfl, rfl, List.mem_cons_self⟩

theorem complete_answers {endpoints : List UInt8} {shortaddr : UInt16} {list : ActiveEpRspFormat}
    {descriptors : List SimpleDescRspFormat}
    (complete : Complete endpoints shortaddr list descriptors) :
    ∀ response ∈ responsesOf list descriptors,
      response.status = mtRpcSuccess ∧ response.srcAddr = shortaddr := by
  rw [responsesOf, List.forall_mem_cons]
  refine ⟨⟨complete.listed.success, complete.listed.sender⟩, ?_⟩
  intro response member
  rcases List.mem_map.mp member with ⟨descriptor, inside, rfl⟩
  have answers := complete.described descriptor inside
  exact ⟨answers.success, answers.sender⟩

theorem shadowed_leads_nowhere {front rest : List Device}
    (found : gatewayGetdevice gw msg.ieeeAddr = some d) (devices : gw.devices = front ++ d :: rest)
    (ieeeaddr : ∀ other ∈ front, other.ieeeaddr ≠ d.ieeeaddr)
    (unfinished : deviceCheckStatus d deviceActive = false)
    (taken : ∃ other ∈ front, other.shortaddr = msg.nwkAddr) : ¬LeadsOn gw msg := by
  intro leads
  have outcome := announce_known_eq found devices ieeeaddr
  have own := gateway_getdevice_ieeeaddr found
  have kept : (announced msg d).device.ieeeaddr = d.ieeeaddr := by
    rw [announced_eq]
    rfl
  have shadowed : Shadowed (mtZdoEndDeviceAnnceIndCb gw msg).gateway front
      (announced msg d).device rest msg.nwkAddr := by
    rw [outcome]
    refine ⟨rfl, ?_, taken⟩
    rw [kept]
    exact ieeeaddr
  have complete := single_complete msg.nwkAddr 1
  rcases respond_all_shadowed shadowed (complete_answers complete) with ⟨changed, after⟩
  rcases leads.finishes [1] _ _ (List.nodup_singleton 1) (List.cons_ne_nil 1 []) complete with
    ⟨final, here, finished⟩
  have unchanged := getdevice_of_split after.devices after.ieeeaddr
  rw [kept, own, here, Option.some.injEq] at unchanged
  have active := finished.active
  rw [unchanged, announced_inactive unfinished] at active
  cases active

theorem announced_reaches {front rest : List Device}
    (found : gatewayGetdevice gw msg.ieeeAddr = some d) (devices : gw.devices = front ++ d :: rest)
    (ieeeaddr : ∀ other ∈ front, other.ieeeaddr ≠ d.ieeeaddr)
    (unshadowed : ∀ other ∈ front, other.shortaddr ≠ msg.nwkAddr) {responses : List Response}
    (answers : ∀ response ∈ responses,
      response.status = mtRpcSuccess ∧ response.srcAddr = msg.nwkAddr) :
    gatewayGetdevice (respondAll (mtZdoEndDeviceAnnceIndCb gw msg).gateway responses)
      msg.ieeeAddr = some (respondAllDevice (announced msg d).device responses) := by
  have own := gateway_getdevice_ieeeaddr found
  have kept : (announced msg d).device.ieeeaddr = msg.ieeeAddr := by
    rw [announced_eq]
    exact own
  have moved : (announced msg d).device.shortaddr = msg.nwkAddr := by
    rw [announced_eq]
    rfl
  have stands : Stands (mtZdoEndDeviceAnnceIndCb gw msg).gateway front (announced msg d).device
      rest := by
    rw [announce_known_eq found devices ieeeaddr]
    refine ⟨rfl, ?_, ?_⟩
    · rw [kept, ← own]
      exact ieeeaddr
    · rw [moved]
      exact unshadowed
  rw [← moved] at answers
  have after := respond_all_stands stands answers
  have here := getdevice_of_split after.devices after.ieeeaddr
  rw [respond_all_device_ieeeaddr, kept] at here
  exact here

theorem leads_on_undiscovered {front rest : List Device}
    (found : gatewayGetdevice gw msg.ieeeAddr = some d) (devices : gw.devices = front ++ d :: rest)
    (ieeeaddr : ∀ other ∈ front, other.ieeeaddr ≠ d.ieeeaddr)
    (unshadowed : ∀ other ∈ front, other.shortaddr ≠ msg.nwkAddr)
    (unfinished : deviceCheckStatus d deviceActive = false) (leads : LeadsOn gw msg) :
    d.eplist = [] ∧ d.epcursor = 0 := by
  have asks := leads.asks
  rw [announce_known_eq found devices ieeeaddr] at asks
  have again : AsksAgain d := asks_only_again asks
  have asked : deviceCheckStatus (announced msg d).device deviceSendSimpledesc = false := by
    rw [announced_eq]
    exact announced_status_asked again
  have nothing : ∀ endpoint, endpoint ∉ numbers (announced msg d).device ∧
      (announced msg d).device.epcursor = 0 := by
    intro endpoint
    have complete := single_complete msg.nwkAddr endpoint
    rcases leads.finishes [endpoint] _ _ (List.nodup_singleton endpoint)
      (List.cons_ne_nil endpoint []) complete with ⟨final, here, finished⟩
    rw [announced_reaches found devices ieeeaddr unshadowed (complete_answers complete),
      Option.some.injEq] at here
    rw [← here] at finished
    exact single_descriptor_finishes asked (announced_inactive unfinished)
      complete.listed.content rfl finished
  have empty : numbers (announced msg d).device = [] :=
    List.eq_nil_iff_forall_not_mem.mpr fun endpoint => (nothing endpoint).1
  have cursor := (nothing 0).2
  rw [announced_eq] at empty cursor
  exact ⟨announced_endpoints_eq_nil.mp (List.map_eq_nil_iff.mp empty), cursor⟩

/-- An announcement leads on from an unfinished discovery exactly if nothing of it is left and no
device in front has the announced address. -/
theorem announcement_leads_on_iff (found : gatewayGetdevice gw msg.ieeeAddr = some d)
    (unfinished : deviceCheckStatus d deviceActive = false) :
    LeadsOn gw msg ↔
      d.eplist = [] ∧ d.epcursor = 0 ∧ Unshadowed msg.ieeeAddr msg.nwkAddr (addresses gw) := by
  rcases getdevice_split found with ⟨front, rest, devices, ieeeaddr⟩
  have front_iff := unshadowed_iff devices ieeeaddr msg.nwkAddr
  rw [gateway_getdevice_ieeeaddr found] at front_iff
  rw [front_iff]
  constructor
  · intro leads
    have unshadowed : ∀ other ∈ front, other.shortaddr ≠ msg.nwkAddr := by
      intro other member taken
      exact shadowed_leads_nowhere found devices ieeeaddr unfinished ⟨other, member, taken⟩ leads
    have left := leads_on_undiscovered found devices ieeeaddr unshadowed unfinished leads
    exact ⟨left.1, left.2, unshadowed⟩
  · rintro ⟨empty, cursor, unshadowed⟩
    constructor
    · rw [announce_known_eq found devices ieeeaddr]
      exact asks_again_sends (Or.inr empty) msg
    · intro endpoints list descriptors distinct positive complete
      refine ⟨_, announced_reaches found devices ieeeaddr unshadowed (complete_answers complete), ?_⟩
      exact waiting_finishes (announced_waiting empty cursor msg) distinct positive complete

end Announcement

/-- The list of endpoints got lost, and the next announcement asks for it again. -/
theorem announcement_leads_on_iff_lost_list : LeadsOn firstAnnounced.gateway firstAnnounce := by
  apply (announcement_leads_on_iff rfl (by decide)).mpr
  refine ⟨rfl, rfl, ?_⟩
  intro entry member
  cases member

/-- The second descriptor got lost, and the next announcement asks for nothing. -/
theorem announcement_after_first_descriptor :
    ¬∀ s msg d, Reachable step (fun _ _ => True) Fresh s →
      gatewayGetdevice s.gateway msg.ieeeAddr = some d →
        deviceCheckStatus d deviceActive = false → LeadsOn s.gateway msg := by
  intro leads
  have started : Reachable step (fun _ _ => True) Fresh freshGateway := .start ⟨rfl, rfl⟩
  have meets : Meets step (fun _ _ => True) freshGateway
      [.input (.announce firstAnnounce), .input (.activeEpRsp endpointsOneTwo),
        .input (.simpleDescRsp (descriptorOf 1))] :=
    meets_of_forall (fun _ _ _ => trivial) freshGateway
  have described := reachable_run started meets rfl
  have asks := (leads _ firstAnnounce _ described rfl (by decide)).asks
  revert asks
  decide

end SmartHome.DiscoveryRestart
