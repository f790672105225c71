import Mathlib.Data.FinEnum
import Mathlib.Data.List.Perm.Subperm
import SmartHome.ShortAddresses

/-!
# Discovery

After an announcement the coordinator is asked for the endpoints of the device, and
then for one descriptor after the other. A cursor counts the descriptors that were new
when they came, and only the count guards the list: a descriptor that comes twice, or
before the list of endpoints, breaks the step between the two.
-/

namespace SmartHome.Discovery

open SmartHome.Library.CTypes
open SmartHome.Library.AddressBook
open SmartHome.Library.Runs
open SmartHome.Registry
open SmartHome.Effects
open SmartHome.ZdoCallbacks
open SmartHome.System
open SmartHome.StepCases
open SmartHome.ShortAddresses

set_option autoImplicit false

inductive Response
  | activeEp (msg : ActiveEpRspFormat)
  | simpleDesc (msg : SimpleDescRspFormat)

namespace Response

def status : Response → UInt8
  | .activeEp msg => msg.status
  | .simpleDesc msg => msg.status

def srcAddr : Response → UInt16
  | .activeEp msg => msg.srcAddr
  | .simpleDesc msg => msg.srcAddr

end Response

def respond (gw : Gateway) : Response → Outcome
  | .activeEp msg => mtZdoActiveEpRspCb gw msg
  | .simpleDesc msg => mtZdoSimpleDescRspCb gw msg

/-- What a successful response does to the device that sent it. -/
def respondDevice (d : Device) : Response → DeviceOutcome
  | .activeEp msg => activeEpRsp msg d
  | .simpleDesc msg => simpleDescRsp msg d

structure Lists (endpoints : List UInt8) (msg : ActiveEpRspFormat) : Prop where
  counted : msg.activeEPCount.toNat = endpoints.length
  listed : msg.activeEPList.toList.take endpoints.length = endpoints

/-- What a device with these endpoints answers. -/
def Content (endpoints : List UInt8) : Response → Prop
  | .activeEp msg => Lists endpoints msg
  | .simpleDesc msg => msg.endpoint ∈ endpoints

structure Answers (endpoints : List UInt8) (shortaddr : UInt16) (response : Response) : Prop where
  success : response.status = mtRpcSuccess
  sender : response.srcAddr = shortaddr
  content : Content endpoints response

/-- The list of endpoints has come, and the descriptor is not yet recorded. -/
def InStep (d : Device) : Response → Prop
  | .activeEp _ => True
  | .simpleDesc msg =>
      deviceCheckStatus d deviceSendSimpledesc = true ∧ msg.endpoint ∉ numbers d

def isBlobWrite : Effect → Bool
  | .database (.updateDeviceEndpoint _) => true
  | _ => false

def isReport : Effect → Bool
  | .zoneEnrollReq _ => true
  | _ => false

/-- Whether the last descriptor has been recorded shows in the flags, the blob and the reports. -/
structure Completed (all : Bool) (d : Device) (effects : List Effect) : Prop where
  getSimpledesc : deviceCheckStatus d deviceGetSimpledesc = all
  active : deviceCheckStatus d deviceActive = all
  written : effects.countP isBlobWrite = if all then 1 else 0
  reported : effects.countP isReport = if all then 1 else 0

/-- What is to hold of a device at every point of its discovery. -/
structure DiscoveredOnce (endpoints : List UInt8) (d : Device) (effects : List Effect) :
    Prop where
  once : (numbers d).Nodup
  bounded : d.eplist.length ≤ endpoints.length
  completed : Completed (decide (∀ endpoint ∈ endpoints, endpoint ∈ numbers d)) d effects

structure Undiscovered (d : Device) : Prop where
  empty : d.eplist = []
  cursor : d.epcursor = 0
  getSimpledesc : deviceCheckStatus d deviceGetSimpledesc = false
  active : deviceCheckStatus d deviceActive = false

/-- The cursor, the list of endpoints and the flag are in step. -/
structure Recorded (endpoints : List UInt8) (d : Device) : Prop where
  asked : deviceCheckStatus d deviceSendSimpledesc = true
  counted : d.activeep.activeEPCount.toNat = endpoints.length
  cursor : d.epcursor.toNat = (numbers d).length
  once : (numbers d).Nodup
  fromList : ∀ endpoint ∈ numbers d, endpoint ∈ endpoints

/-- The list of endpoints has not come yet. -/
structure Waiting (d : Device) : Prop where
  asked : deviceCheckStatus d deviceSendSimpledesc = false
  empty : d.eplist = []
  cursor : d.epcursor = 0

section Device

variable {endpoints : List UInt8} {d : Device} {effects : List Effect}

theorem numbers_length (d : Device) : (numbers d).length = d.eplist.length := List.length_map _

theorem all_recorded_iff (distinct : endpoints.Nodup) (recorded : Recorded endpoints d) :
    (∀ endpoint ∈ endpoints, endpoint ∈ numbers d) ↔
      (numbers d).length = endpoints.length := by
  have within := List.subperm_of_subset recorded.once recorded.fromList
  constructor
  · intro all
    have back := List.subperm_of_subset distinct all
    exact le_antisymm within.length_le back.length_le
  · intro many endpoint member
    have same := within.perm_of_length_le many.ge
    exact same.symm.subset member

theorem recorded_length_le (recorded : Recorded endpoints d) :
    (numbers d).length ≤ endpoints.length :=
  (List.subperm_of_subset recorded.once recorded.fromList).length_le

theorem active_ep_numbers (d : Device) (msg : ActiveEpRspFormat) :
    numbers (activeEpRsp msg d).device = numbers d := by
  unfold activeEpRsp
  split_ifs
  · rfl
  · rfl

theorem active_ep_none (waiting : Waiting d) (msg : ActiveEpRspFormat) :
    numbers (activeEpRsp msg d).device = [] := by
  rw [active_ep_numbers]
  exact congrArg (List.map Endpoint.number) waiting.empty

theorem waiting_active_ep (waiting : Waiting d) {msg : ActiveEpRspFormat}
    (lists : Lists endpoints msg) : Recorded endpoints (activeEpRsp msg d).device := by
  have front : ¬deviceCheckStatus d deviceSendSimpledesc = true := by
    rw [waiting.asked]
    exact Bool.false_ne_true
  have none := active_ep_none waiting msg
  constructor
  · rw [activeEpRsp, if_neg front]
    change flagSet ((d.status ||| deviceSendSimpledesc) ||| deviceGetActiveep) _ = true
    rw [flag_set_or_other (by decide)]
    exact flag_set_or_self (by decide) d.status
  · rw [activeEpRsp, if_neg front]
    exact lists.counted
  · rw [none, activeEpRsp, if_neg front]
    exact congrArg UInt8.toNat waiting.cursor
  · rw [none]
    exact List.nodup_nil
  · rw [none]
    intro endpoint member
    cases member

theorem recorded_active_ep (recorded : Recorded endpoints d) (msg : ActiveEpRspFormat) :
    activeEpRsp msg d = .done d := by
  rw [activeEpRsp, if_pos recorded.asked]

theorem simple_desc_in_step (recorded : Recorded endpoints d) {msg : SimpleDescRspFormat}
    (member : msg.endpoint ∈ endpoints) (new : msg.endpoint ∉ numbers d) :
    (numbers d).length < endpoints.length ∧
      simpleDescRsp msg d =
        if (numbers d).length + 1 = endpoints.length then
          completeDevice (deviceAddendpoint (deviceIncrease d) (describedEndpoint msg))
        else
          ⟨deviceAddendpoint (deviceIncrease d) (describedEndpoint msg),
            [.zdo (.simpleDescReq msg.srcAddr msg.nwkAddr
              (listedEndpoint d.activeep (d.epcursor + 1)))]⟩ := by
  have room : (numbers d).length < endpoints.length := by
    have larger : ((msg.endpoint :: numbers d)).Nodup := List.nodup_cons.mpr ⟨new, recorded.once⟩
    have within : ∀ endpoint ∈ msg.endpoint :: numbers d, endpoint ∈ endpoints :=
      List.forall_mem_cons.mpr ⟨member, recorded.fromList⟩
    exact (List.subperm_of_subset larger within).length_le
  have unseen : ¬deviceHasEnpoint d msg.endpoint = true :=
    fun seen => new ((device_has_enpoint_iff d msg.endpoint).mp seen)
  have counted : countEndpoint msg.endpoint d = deviceIncrease d := by
    rw [countEndpoint, if_neg unseen]
  have count := recorded.counted
  have bound : d.activeep.activeEPCount.toNat < 256 := d.activeep.activeEPCount.toNat_lt
  have next : (deviceIncrease d).epcursor.toNat = (numbers d).length + 1 := by
    change (d.epcursor + 1).toNat = _
    rw [UInt8.toNat_add, recorded.cursor]
    exact Nat.mod_eq_of_lt (by rw [UInt8.toNat_one]; omega)
  refine ⟨room, ?_⟩
  unfold simpleDescRsp
  rw [counted]
  dsimp only
  by_cases last : (numbers d).length + 1 = endpoints.length
  · have equal : (deviceIncrease d).epcursor = (deviceIncrease d).activeep.activeEPCount := by
      rw [← UInt8.toNat_inj, next, last]
      exact count.symm
    have notLess : ¬(deviceIncrease d).epcursor < (deviceIncrease d).activeep.activeEPCount := by
      rw [equal]
      exact UInt8.lt_irrefl _
    rw [if_pos last, if_neg notLess, if_pos equal]
  · have less : (deviceIncrease d).epcursor < (deviceIncrease d).activeep.activeEPCount := by
      rw [UInt8.lt_iff_toNat_lt, next]
      change _ < d.activeep.activeEPCount.toNat
      omega
    rw [if_neg last, if_pos less]
    rfl

theorem added_numbers (d : Device) (msg : SimpleDescRspFormat) :
    numbers (deviceAddendpoint (deviceIncrease d) (describedEndpoint msg)) =
      numbers d ++ [msg.endpoint] :=
  numbers_addendpoint (deviceIncrease d) (describedEndpoint msg)

theorem complete_device_flag (d : Device) {flag : UInt32} (get : deviceGetSimpledesc &&& flag = 0)
    (active : deviceActive &&& flag = 0) :
    deviceCheckStatus (completeDevice d).device flag = deviceCheckStatus d flag := by
  change flagSet ((d.status ||| deviceGetSimpledesc) ||| deviceActive) flag = _
  rw [flag_set_or_other active, flag_set_or_other get, device_check_status_eq]

theorem complete_device_get_simpledesc (d : Device) :
    deviceCheckStatus (completeDevice d).device deviceGetSimpledesc = true := by
  change flagSet ((d.status ||| deviceGetSimpledesc) ||| deviceActive) _ = true
  rw [flag_set_or_other (by decide)]
  exact flag_set_or_self (by decide) d.status

theorem complete_device_active (d : Device) :
    deviceCheckStatus (completeDevice d).device deviceActive = true :=
  flag_set_or_self (by decide) (d.status ||| deviceGetSimpledesc)

theorem recorded_simple_desc (recorded : Recorded endpoints d) {msg : SimpleDescRspFormat}
    (member : msg.endpoint ∈ endpoints) (new : msg.endpoint ∉ numbers d) :
    numbers (simpleDescRsp msg d).device = numbers d ++ [msg.endpoint] ∧
      Recorded endpoints (simpleDescRsp msg d).device := by
  rcases simple_desc_in_step recorded member new with ⟨room, outcome⟩
  have cursor : (d.epcursor + 1).toNat = (numbers d ++ [msg.endpoint]).length := by
    have bound : d.activeep.activeEPCount.toNat < 256 := d.activeep.activeEPCount.toNat_lt
    have count := recorded.counted
    rw [UInt8.toNat_add, recorded.cursor, List.length_append, List.length_singleton]
    exact Nat.mod_eq_of_lt (by rw [UInt8.toNat_one]; omega)
  have once : (numbers d ++ [msg.endpoint]).Nodup := by
    rw [← List.concat_eq_append]
    exact recorded.once.concat new
  have fromList : ∀ endpoint ∈ numbers d ++ [msg.endpoint], endpoint ∈ endpoints := by
    intro endpoint inside
    rcases List.mem_append.mp inside with before | last
    · exact recorded.fromList endpoint before
    · rw [List.mem_singleton.mp last]
      exact member
  have added := added_numbers d msg
  by_cases last : (numbers d).length + 1 = endpoints.length
  · rw [outcome, if_pos last]
    have same : numbers (completeDevice
        (deviceAddendpoint (deviceIncrease d) (describedEndpoint msg))).device =
        numbers d ++ [msg.endpoint] := added
    refine ⟨same, ?_, recorded.counted, ?_, ?_, ?_⟩
    · rw [complete_device_flag _ (by decide) (by decide)]
      exact recorded.asked
    · rw [same]
      exact cursor
    · rw [same]
      exact once
    · rw [same]
      exact fromList
  · rw [outcome, if_neg last]
    refine ⟨added, recorded.asked, recorded.counted, ?_, ?_, ?_⟩
    · rw [added]
      exact cursor
    · rw [added]
      exact once
    · rw [added]
      exact fromList

theorem completed_simple_desc (recorded : Recorded endpoints d)
    (completed : Completed (decide ((numbers d).length = endpoints.length)) d effects)
    {msg : SimpleDescRspFormat} (member : msg.endpoint ∈ endpoints)
    (new : msg.endpoint ∉ numbers d) :
    Completed (decide ((numbers d).length + 1 = endpoints.length)) (simpleDescRsp msg d).device
      (effects ++ (simpleDescRsp msg d).effects) := by
  rcases simple_desc_in_step recorded member new with ⟨room, outcome⟩
  rw [decide_eq_false room.ne] at completed
  rw [outcome]
  by_cases last : (numbers d).length + 1 = endpoints.length
  · rw [decide_eq_true last, if_pos last]
    constructor
    · exact complete_device_get_simpledesc _
    · exact complete_device_active _
    · rw [List.countP_append, completed.written]
      rfl
    · rw [List.countP_append, completed.reported]
      rfl
  · rw [decide_eq_false last, if_neg last]
    constructor
    · exact completed.getSimpledesc
    · exact completed.active
    · rw [List.countP_append, completed.written]
      rfl
    · rw [List.countP_append, completed.reported]
      rfl

theorem asks_again_sends {d : Device} (again : AsksAgain d) (msg : EndDeviceAnnceIndFormat) :
    .zdo (.activeEpReq msg.srcAddr msg.nwkAddr) ∈ (announced msg d).effects := by
  rw [announced_eq, announceReaction, if_pos again]
  simp

theorem announced_status_asked {d : Device} (again : AsksAgain d) :
    flagSet (announcedStatus d) deviceSendSimpledesc = false := by
  rw [announcedStatus, if_pos again]
  exact flag_set_clear_self _ deviceSendSimpledesc

theorem announced_status_flag (d : Device) {flag : UInt32} (appDel : deviceAppDel &&& flag = 0)
    (leaveNet : deviceLeaveNet &&& flag = 0) (activeep : deviceSendActiveep &&& flag = 0)
    (simpledesc : deviceSendSimpledesc &&& flag = 0) :
    flagSet (announcedStatus d) flag = deviceCheckStatus d flag := by
  unfold announcedStatus
  split_ifs
  · rw [flag_set_clear_other simpledesc, flag_set_or_other activeep,
      back_status_flag d appDel leaveNet]
  · exact back_status_flag d appDel leaveNet

theorem announced_waiting {d : Device} (empty : d.eplist = []) (cursor : d.epcursor = 0)
    (msg : EndDeviceAnnceIndFormat) : Waiting (announced msg d).device := by
  rw [announced_eq]
  exact ⟨announced_status_asked (Or.inr empty), announced_endpoints_eq_nil.mpr empty, cursor⟩

theorem announced_completed {d : Device} (undiscovered : Undiscovered d)
    (msg : EndDeviceAnnceIndFormat) :
    Completed false (announced msg d).device (announced msg d).effects := by
  have none := announced_endpoints_eq_nil.mpr undiscovered.empty
  have again : AsksAgain d := Or.inr undiscovered.empty
  have moved : ∀ found : Effect → Bool,
      (∀ call, (∀ d, call ≠ .updateDeviceEndpoint d) → found (.database call) = false) →
      (∀ request, found (.zdo request) = false) →
      (announced msg d).effects.countP found = 0 := by
    intro found database zdo
    rw [announced_eq, announceReaction, if_pos again, announceShortaddr,
      clearDeviceState, announcedDevice, none, List.countP_eq_zero]
    split_ifs
    · simp [database, zdo]
    · simp [DeviceOutcome.done, database, zdo]
  constructor
  · rw [announced_eq]
    exact (announced_status_flag d (by decide) (by decide) (by decide) (by decide)).trans
      undiscovered.getSimpledesc
  · rw [announced_eq]
    exact (announced_status_flag d (by decide) (by decide) (by decide) (by decide)).trans
      undiscovered.active
  · apply moved
    · intro call other
      cases call with
      | updateDeviceEndpoint d => exact absurd rfl (other d)
      | _ => rfl
    · intro request
      rfl
  · apply moved
    · intro call other
      rfl
    · intro request
      rfl

theorem completed_active_ep (waiting : Waiting d) (completed : Completed false d effects)
    (msg : ActiveEpRspFormat) :
    Completed false (activeEpRsp msg d).device (effects ++ (activeEpRsp msg d).effects) := by
  have front : ¬deviceCheckStatus d deviceSendSimpledesc = true := by
    rw [waiting.asked]
    exact Bool.false_ne_true
  have kept : ∀ flag, deviceSendSimpledesc &&& flag = 0 → deviceGetActiveep &&& flag = 0 →
      flagSet ((d.status ||| deviceSendSimpledesc) ||| deviceGetActiveep) flag =
        deviceCheckStatus d flag := by
    intro flag simpledesc activeep
    rw [flag_set_or_other activeep, flag_set_or_other simpledesc, device_check_status_eq]
  rw [activeEpRsp, if_neg front]
  constructor
  · exact (kept deviceGetSimpledesc (by decide) (by decide)).trans completed.getSimpledesc
  · exact (kept deviceActive (by decide) (by decide)).trans completed.active
  · rw [List.countP_append, completed.written]
    rfl
  · rw [List.countP_append, completed.reported]
    rfl

/-- How far the discovery of a device has come. -/
def Progress (endpoints : List UInt8) (d : Device) (effects : List Effect) : Prop :=
  Waiting d ∧ Completed false d effects ∨
    Recorded endpoints d ∧ Completed (decide ((numbers d).length = endpoints.length)) d effects

theorem progress_respond (positive : endpoints ≠ []) (progress : Progress endpoints d effects)
    {response : Response} (content : Content endpoints response) (inStep : InStep d response) :
    Progress endpoints (respondDevice d response).device
      (effects ++ (respondDevice d response).effects) := by
  rcases progress with ⟨waiting, completed⟩ | ⟨recorded, completed⟩
  · cases response with
    | activeEp msg =>
        have none := active_ep_none waiting msg
        have missing : ¬(numbers (activeEpRsp msg d).device).length = endpoints.length := by
          rw [none]
          exact fun same => positive (List.eq_nil_of_length_eq_zero same.symm)
        apply Or.inr
        rw [respondDevice, decide_eq_false missing]
        exact ⟨waiting_active_ep waiting content, completed_active_ep waiting completed msg⟩
    | simpleDesc msg => exact absurd (waiting.asked.symm.trans inStep.1) Bool.false_ne_true
  · apply Or.inr
    cases response with
    | activeEp msg =>
        rw [respondDevice, recorded_active_ep recorded msg, DeviceOutcome.done, List.append_nil]
        exact ⟨recorded, completed⟩
    | simpleDesc msg =>
        have next := recorded_simple_desc recorded content inStep.2
        rw [respondDevice, next.1, List.length_append, List.length_singleton]
        exact ⟨next.2, completed_simple_desc recorded completed content inStep.2⟩

theorem progress_discovered_once (distinct : endpoints.Nodup) (positive : endpoints ≠ [])
    (progress : Progress endpoints d effects) : DiscoveredOnce endpoints d effects := by
  rcases progress with ⟨waiting, completed⟩ | ⟨recorded, completed⟩
  · have none : numbers d = [] := congrArg (List.map Endpoint.number) waiting.empty
    have missing : ¬∀ endpoint ∈ endpoints, endpoint ∈ numbers d := by
      intro all
      rcases List.exists_mem_of_ne_nil endpoints positive with ⟨endpoint, member⟩
      have recorded := all endpoint member
      rw [none] at recorded
      cases recorded
    constructor
    · rw [none]
      exact List.nodup_nil
    · rw [waiting.empty]
      exact Nat.zero_le _
    · rw [decide_eq_false missing]
      exact completed
  · constructor
    · exact recorded.once
    · rw [← numbers_length]
      exact recorded_length_le recorded
    · rw [decide_eq_decide.mpr (all_recorded_iff distinct recorded)]
      exact completed

end Device

/-- The devices in front of this one have other addresses, of both kinds. -/
structure Stands (gw : Gateway) (front : List Device) (d : Device) (rest : List Device) : Prop where
  devices : gw.devices = front ++ d :: rest
  ieeeaddr : ∀ other ∈ front, other.ieeeaddr ≠ d.ieeeaddr
  shortaddr : ∀ other ∈ front, other.shortaddr ≠ d.shortaddr

theorem respond_device_addresses (d : Device) (response : Response) :
    (respondDevice d response).device.ieeeaddr = d.ieeeaddr ∧
      (respondDevice d response).device.shortaddr = d.shortaddr := by
  cases response with
  | activeEp msg =>
      rw [respondDevice, activeEpRsp]
      split_ifs
      · exact ⟨rfl, rfl⟩
      · exact ⟨rfl, rfl⟩
  | simpleDesc msg =>
      have counted : ∀ endpoint, (countEndpoint endpoint d).ieeeaddr = d.ieeeaddr ∧
          (countEndpoint endpoint d).shortaddr = d.shortaddr := by
        intro endpoint
        unfold countEndpoint
        split_ifs
        · exact ⟨rfl, rfl⟩
        · exact ⟨rfl, rfl⟩
      unfold respondDevice simpleDescRsp
      dsimp only
      split_ifs
      · exact counted msg.endpoint
      · exact counted msg.endpoint
      · exact counted msg.endpoint

section Gateway

variable {gw : Gateway} {front rest : List Device} {d : Device}

theorem respond_eq {response : Response} (success : response.status = mtRpcSuccess) :
    respond gw response =
      atDevice gw (·.shortaddr = response.srcAddr) fun d => respondDevice d response := by
  cases response with
  | activeEp msg => exact if_pos success
  | simpleDesc msg => exact if_pos success

theorem getdevice_of_split (devices : gw.devices = front ++ d :: rest)
    (ieeeaddr : ∀ other ∈ front, other.ieeeaddr ≠ d.ieeeaddr) :
    gatewayGetdevice gw d.ieeeaddr = some d := by
  have none : front.find? (·.ieeeaddr = d.ieeeaddr) = none := by
    rw [List.find?_eq_none]
    intro other member
    rw [decide_eq_true_eq]
    exact ieeeaddr other member
  rw [gatewayGetdevice, devices, List.find?_append, none]
  simp

/-- The response of a device goes to the device. -/
theorem respond_stands (stands : Stands gw front d rest) {response : Response}
    (success : response.status = mtRpcSuccess) (sender : response.srcAddr = d.shortaddr) :
    Stands (respond gw response).gateway front (respondDevice d response).device rest ∧
      (respond gw response).effects = (respondDevice d response).effects := by
  have addresses := respond_device_addresses d response
  have missed : ∀ other ∈ front, decide (other.shortaddr = response.srcAddr) = false := by
    intro other member
    rw [sender]
    exact decide_eq_false (stands.shortaddr other member)
  have outcome := at_device_split stands.devices missed (decide_eq_true sender.symm)
    fun d => respondDevice d response
  rw [respond_eq success, outcome]
  refine ⟨⟨rfl, ?_, ?_⟩, rfl⟩
  · rw [addresses.1]
    exact stands.ieeeaddr
  · rw [addresses.2]
    exact stands.shortaddr

theorem getdevice_split {ieee : UInt64} (found : gatewayGetdevice gw ieee = some d) :
    ∃ front rest, gw.devices = front ++ d :: rest ∧
      ∀ other ∈ front, other.ieeeaddr ≠ d.ieeeaddr := by
  rcases List.find?_eq_some_iff_append.mp found with ⟨own, front, rest, devices, missed⟩
  refine ⟨front, rest, devices, ?_⟩
  intro other member
  have address : d.ieeeaddr = ieee := of_decide_eq_true own
  have different := missed other member
  rw [address]
  simpa using different

theorem unshadowed_iff (devices : gw.devices = front ++ d :: rest)
    (ieeeaddr : ∀ other ∈ front, other.ieeeaddr ≠ d.ieeeaddr) (shortaddr : UInt16) :
    Unshadowed d.ieeeaddr shortaddr (addresses gw) ↔
      ∀ other ∈ front, other.shortaddr ≠ shortaddr := by
  have absent : d.ieeeaddr ∉ (front.map fun d => (d.ieeeaddr, d.shortaddr)).map (·.1) := by
    rw [List.map_map, List.mem_map]
    rintro ⟨other, member, same⟩
    exact ieeeaddr other member same
  have split := @unshadowed_split UInt64 UInt16 _ (front.map fun d => (d.ieeeaddr, d.shortaddr))
    (rest.map fun d => (d.ieeeaddr, d.shortaddr)) (d.ieeeaddr, d.shortaddr) absent shortaddr
  rw [addresses, devices, List.map_append, List.map_cons, split, List.map_map, List.mem_map]
  constructor
  · intro nobody other member same
    exact nobody ⟨other, member, same⟩
  · rintro nobody ⟨other, member, same⟩
    exact nobody other member same

theorem announce_known_eq {msg : EndDeviceAnnceIndFormat}
    (found : gatewayGetdevice gw msg.ieeeAddr = some d) (devices : gw.devices = front ++ d :: rest)
    (ieeeaddr : ∀ other ∈ front, other.ieeeaddr ≠ d.ieeeaddr) :
    mtZdoEndDeviceAnnceIndCb gw msg =
      ⟨{ gw with devices := front ++ (announced msg d).device :: rest },
        (announced msg d).effects⟩ := by
  have own := gateway_getdevice_ieeeaddr found
  have missed : ∀ other ∈ front, decide (other.ieeeaddr = msg.ieeeAddr) = false := by
    intro other member
    rw [← own]
    exact decide_eq_false (ieeeaddr other member)
  unfold mtZdoEndDeviceAnnceIndCb
  rw [found]
  exact at_device_split devices missed (decide_eq_true own) (announced msg)

/-- A known device announces an address that nobody in front of it has. -/
theorem announce_known {msg : EndDeviceAnnceIndFormat}
    (found : gatewayGetdevice gw msg.ieeeAddr = some d)
    (unshadowed : Unshadowed msg.ieeeAddr msg.nwkAddr (addresses gw)) :
    ∃ front rest,
      Stands (mtZdoEndDeviceAnnceIndCb gw msg).gateway front (announced msg d).device rest ∧
        (mtZdoEndDeviceAnnceIndCb gw msg).effects = (announced msg d).effects := by
  rcases getdevice_split found with ⟨front, rest, devices, ieeeaddr⟩
  rw [← gateway_getdevice_ieeeaddr found, unshadowed_iff devices ieeeaddr] at unshadowed
  refine ⟨front, rest, ?_⟩
  rw [announce_known_eq found devices ieeeaddr, announced_eq]
  exact ⟨⟨rfl, ieeeaddr, unshadowed⟩, rfl⟩

theorem announce_new {msg : EndDeviceAnnceIndFormat}
    (absent : gatewayGetdevice gw msg.ieeeAddr = none)
    (unshadowed : Unshadowed msg.ieeeAddr msg.nwkAddr (addresses gw)) :
    Stands (mtZdoEndDeviceAnnceIndCb gw msg).gateway gw.devices
        (announced msg (deviceCreate msg.ieeeAddr msg.nwkAddr)).device [] ∧
      (mtZdoEndDeviceAnnceIndCb gw msg).effects =
        .database (.insertDeviceIeee msg.ieeeAddr msg.nwkAddr) ::
          (announced msg (deviceCreate msg.ieeeAddr msg.nwkAddr)).effects := by
  have nobody := (unshadowed_absent (mem_addresses_none absent) msg.nwkAddr).mp unshadowed
  have outcome : mtZdoEndDeviceAnnceIndCb gw msg =
      ⟨gatewayAdddevice gw (announced msg (deviceCreate msg.ieeeAddr msg.nwkAddr)).device,
        .database (.insertDeviceIeee msg.ieeeAddr msg.nwkAddr) ::
          (announced msg (deviceCreate msg.ieeeAddr msg.nwkAddr)).effects⟩ := by
    unfold mtZdoEndDeviceAnnceIndCb
    rw [absent]
  rw [outcome]
  refine ⟨⟨rfl, ?_, ?_⟩, rfl⟩
  · intro other member same
    have entry : msg.ieeeAddr ∈ (addresses gw).map (·.1) := by
      rw [addresses, List.map_map, List.mem_map]
      exact ⟨other, member, by rw [announced_eq] at same; exact same⟩
    exact mem_addresses_none absent entry
  · intro other member same
    have entry : msg.nwkAddr ∈ (addresses gw).map (·.2) := by
      rw [addresses, List.map_map, List.mem_map]
      exact ⟨other, member, by rw [announced_eq] at same; exact same⟩
    exact nobody entry

end Gateway

def discover (s : Outcome) (response : Response) : Option Outcome :=
  let outcome := respond s.gateway response
  some ⟨outcome.gateway, s.effects ++ outcome.effects⟩

def Announced (gw : Gateway) (msg : EndDeviceAnnceIndFormat) (s : Outcome) : Prop :=
  s = mtZdoEndDeviceAnnceIndCb gw msg

/-- Nothing of an earlier discovery is left, and no device in front has the announced address. -/
structure Startable (gw : Gateway) (msg : EndDeviceAnnceIndFormat) : Prop where
  undiscovered : ∀ d, gatewayGetdevice gw msg.ieeeAddr = some d → Undiscovered d
  unshadowed : Unshadowed msg.ieeeAddr msg.nwkAddr (addresses gw)

structure AnswersInStep (endpoints : List UInt8) (msg : EndDeviceAnnceIndFormat) (s : Outcome)
    (response : Response) : Prop where
  answers : Answers endpoints msg.nwkAddr response
  inStep : ∀ d, gatewayGetdevice s.gateway msg.ieeeAddr = some d → InStep d response

structure UnderWay (endpoints : List UInt8) (msg : EndDeviceAnnceIndFormat) (s : Outcome)
    (front : List Device) (d : Device) (rest : List Device) : Prop where
  stands : Stands s.gateway front d rest
  ieeeaddr : d.ieeeaddr = msg.ieeeAddr
  shortaddr : d.shortaddr = msg.nwkAddr
  progress : Progress endpoints d s.effects

section Discovery

variable {endpoints : List UInt8} {msg : EndDeviceAnnceIndFormat}

theorem created_undiscovered (msg : EndDeviceAnnceIndFormat) :
    Undiscovered (deviceCreate msg.ieeeAddr msg.nwkAddr) :=
  ⟨rfl, rfl, flag_set_zero deviceGetSimpledesc, flag_set_zero deviceActive⟩

theorem announced_under_way {gw : Gateway} (endpoints : List UInt8)
    (startable : Startable gw msg) :
    ∃ front d rest, UnderWay endpoints msg (mtZdoEndDeviceAnnceIndCb gw msg) front d rest := by
  cases found : gatewayGetdevice gw msg.ieeeAddr with
  | some d =>
      have undiscovered := startable.undiscovered d found
      have own := gateway_getdevice_ieeeaddr found
      rcases announce_known found startable.unshadowed with ⟨front, rest, stands, effects⟩
      refine ⟨front, _, rest, stands, ?_, ?_, Or.inl ⟨?_, ?_⟩⟩
      · rw [announced_eq]
        exact own
      · rw [announced_eq]
        rfl
      · exact announced_waiting undiscovered.empty undiscovered.cursor msg
      · rw [effects]
        exact announced_completed undiscovered msg
  | none =>
      have undiscovered := created_undiscovered msg
      have completed := announced_completed undiscovered msg
      rcases announce_new found startable.unshadowed with ⟨stands, effects⟩
      refine ⟨gw.devices, _, [], stands, ?_, ?_, Or.inl ⟨?_, ?_⟩⟩
      · rw [announced_eq]
        rfl
      · rw [announced_eq]
        rfl
      · exact announced_waiting undiscovered.empty undiscovered.cursor msg
      · rw [effects]
        exact ⟨completed.getSimpledesc, completed.active, completed.written, completed.reported⟩

theorem respond_under_way (positive : endpoints ≠ []) {s next : Outcome} {front rest : List Device}
    {d : Device} (underWay : UnderWay endpoints msg s front d rest) {response : Response}
    (answers : AnswersInStep endpoints msg s response) (stepped : discover s response = some next) :
    UnderWay endpoints msg next front (respondDevice d response).device rest := by
  have sender : response.srcAddr = d.shortaddr := by
    rw [answers.answers.sender, underWay.shortaddr]
  have found : gatewayGetdevice s.gateway msg.ieeeAddr = some d := by
    rw [← underWay.ieeeaddr]
    exact getdevice_of_split underWay.stands.devices underWay.stands.ieeeaddr
  have moved := respond_stands underWay.stands answers.answers.success sender
  have addresses := respond_device_addresses d response
  rw [discover, Option.some.injEq] at stepped
  rw [← stepped]
  refine ⟨moved.1, addresses.1.trans underWay.ieeeaddr, addresses.2.trans underWay.shortaddr, ?_⟩
  simp only [moved.2]
  exact progress_respond positive underWay.progress answers.answers.content
    (answers.inStep d found)

/-- Whatever the order of the responses that come in step, each endpoint of the list is recorded
once, and the last one, and only it, completes the device. -/
theorem discovery_records_each_endpoint_once (distinct : endpoints.Nodup)
    (positive : endpoints ≠ []) {gw : Gateway} (startable : Startable gw msg) {s : Outcome}
    (reachable : Reachable discover (AnswersInStep endpoints msg) (Announced gw msg) s) :
    ∃ d, gatewayGetdevice s.gateway msg.ieeeAddr = some d ∧
      DiscoveredOnce endpoints d s.effects := by
  have invariant : ∃ front d rest, UnderWay endpoints msg s front d rest := by
    apply reachable.invariant
    · intro start announced
      rw [announced]
      exact announced_under_way endpoints startable
    · rintro s response next ⟨front, d, rest, underWay⟩ answers stepped
      exact ⟨front, _, rest, respond_under_way positive underWay answers stepped⟩
  rcases invariant with ⟨front, d, rest, underWay⟩
  have found := getdevice_of_split underWay.stands.devices underWay.stands.ieeeaddr
  rw [underWay.ieeeaddr] at found
  exact ⟨d, found, progress_discovered_once distinct positive underWay.progress⟩

end Discovery

def endpointsOneTwo : ActiveEpRspFormat :=
  ⟨1, mtRpcSuccess, 1, 2, Vector.ofFn fun i => if i.val = 0 then 1 else if i.val = 1 then 2 else 0⟩

def descriptorOf (endpoint : UInt8) : SimpleDescRspFormat :=
  { contactEndpoint.simpledesc.simpledesc with endpoint }

theorem answers_list : Answers [1, 2] 1 (.activeEp endpointsOneTwo) :=
  ⟨rfl, rfl, ⟨rfl, by decide⟩⟩

theorem answers_descriptor {endpoint : UInt8} (member : endpoint ∈ ([1, 2] : List UInt8)) :
    Answers [1, 2] 1 (.simpleDesc (descriptorOf endpoint)) := ⟨rfl, rfl, member⟩

theorem fresh_startable : Startable freshGateway.gateway ⟨1, 1, firstSwitch⟩ := by
  constructor
  · intro d found
    cases found
  · intro entry member
    cases member

def firstAnnounce : EndDeviceAnnceIndFormat := ⟨1, 1, firstSwitch⟩

def firstAnnounced : Outcome := mtZdoEndDeviceAnnceIndCb freshGateway.gateway firstAnnounce

/-- The list and the second descriptor come in step. -/
theorem discovery_records_each_endpoint_once_second :
    ∃ s, run discover firstAnnounced
        [.activeEp endpointsOneTwo, .simpleDesc (descriptorOf 2)] = some s ∧
      ∃ d, gatewayGetdevice s.gateway firstSwitch = some d ∧
        DiscoveredOnce [1, 2] d s.effects := by
  have started : Reachable discover (AnswersInStep [1, 2] firstAnnounce)
      (Announced freshGateway.gateway firstAnnounce) firstAnnounced := .start rfl
  have meets : Meets discover (AnswersInStep [1, 2] firstAnnounce) firstAnnounced
      [.activeEp endpointsOneTwo, .simpleDesc (descriptorOf 2)] := by
    refine ⟨⟨answers_list, fun _ _ => trivial⟩, ?_⟩
    intro listed stepped
    refine ⟨⟨answers_descriptor (by decide), ?_⟩, fun _ _ => trivial⟩
    rw [← Option.some.inj stepped]
    intro d found
    rw [← Option.some.inj found]
    exact ⟨by decide, by decide⟩
  refine ⟨_, rfl, ?_⟩
  exact discovery_records_each_endpoint_once (by decide) (by decide) fresh_startable
    (reachable_run started meets rfl)

/-- The first descriptor comes twice and is recorded twice. -/
theorem first_descriptor_twice :
    ¬∀ s, Reachable discover (fun _ => Answers [1, 2] 1)
        (Announced freshGateway.gateway firstAnnounce) s →
      ∃ d, gatewayGetdevice s.gateway firstSwitch = some d ∧
        DiscoveredOnce [1, 2] d s.effects := by
  intro once
  have started : Reachable discover (fun _ => Answers [1, 2] 1)
      (Announced freshGateway.gateway firstAnnounce) firstAnnounced := .start rfl
  have member : (1 : UInt8) ∈ ([1, 2] : List UInt8) := by decide
  have meets : Meets discover (fun _ => Answers [1, 2] 1) firstAnnounced
      [.activeEp endpointsOneTwo, .simpleDesc (descriptorOf 1), .simpleDesc (descriptorOf 1)] := by
    apply meets_of_forall
    simp only [List.forall_mem_cons]
    refine ⟨fun _ => answers_list, fun _ => answers_descriptor member,
      fun _ => answers_descriptor member, ?_⟩
    intro response none
    cases none
  have recorded : (run discover firstAnnounced
      [.activeEp endpointsOneTwo, .simpleDesc (descriptorOf 1),
        .simpleDesc (descriptorOf 1)]).map
      (fun s => (gatewayGetdevice s.gateway firstSwitch).map numbers) = some (some [1, 1]) := by
    decide
  rcases Option.map_eq_some_iff.mp recorded with ⟨s, ran, twice⟩
  rcases once s (reachable_run started meets ran) with ⟨d, found, discovered⟩
  rw [found, Option.map_some, Option.some.injEq] at twice
  have distinct := discovered.once
  rw [twice] at distinct
  exact absurd distinct (by decide)

end SmartHome.Discovery
