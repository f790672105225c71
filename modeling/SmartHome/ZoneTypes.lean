import SmartHome.DiscoveryRestart
import SmartHome.EndpointChanges
import SmartHome.Library.Slots
import SmartHome.Watching

/-!
# Zone types in any order

A zone may ask for enrolment before its endpoint is described. Its type then waits in
one of eight slots of the device until the descriptor arrives. The type that is recorded
at last is the one asked for most recently as long as every early request finds a slot
that keeps the whole type and is not overruled by an older one behind it.
-/

namespace SmartHome.ZoneTypes

open SmartHome.Library.CTypes
open SmartHome.Library.Mirroring
open SmartHome.Library.Runs
open SmartHome.Library.Slots
open SmartHome.Registry
open SmartHome.PipeMessages
open SmartHome.Effects
open SmartHome.Encode
open SmartHome.EventRecvmsg
open SmartHome.EventRecvznp
open SmartHome.ZdoCallbacks
open SmartHome.DeviceNames
open SmartHome.BasicAttributes
open SmartHome.ZnpResponses
open SmartHome.Sqlitedb
open SmartHome.System
open SmartHome.Transitions
open SmartHome.StepCases
open SmartHome.EndpointChanges
open SmartHome.ShortAddresses
open SmartHome.Discovery
open SmartHome.DiscoveryRestart
open SmartHome.Watching

set_option autoImplicit false

/-- The type that each endpoint of a device has asked for most recently. -/
abbrev Requests := UInt8 → Option UInt16

def learnType (gw : Gateway) : Event → Requests → Requests
  | .input (.announce msg), requests =>
      if (gatewayGetdevice gw msg.ieeeAddr).isNone then fun _ => none else requests
  | .input (.enrollRequest _ srcEndpoint zoneType), requests =>
      fun endpoint => if endpoint = srcEndpoint then some zoneType else requests endpoint
  | _, requests => requests

def zones (d : Device) : List (UInt8 × UInt16) :=
  d.eplist.map fun ep => (ep.number, ep.simpledesc.zonetype)

def Typed (requests : Requests) (d : Device) : Prop :=
  ∀ zone ∈ zones d, ∀ zonetype, requests zone.1 = some zonetype → zone.2 = zonetype

def parked (endpoint : UInt8) (zonetype : UInt16) : UInt32 :=
  (endpoint.toUInt32 <<< 16) + zonetype.toUInt32

/-- An early request finds a slot: the type fits the mask, the slot is not zero with it, and the
slots behind hold no other type for the endpoint. -/
structure Parks (slots : List UInt32) (endpoint : UInt8) (zonetype : UInt16) : Prop where
  fits : zonetype < 256
  visible : parked endpoint zonetype ≠ 0
  free : ∃ front rest, slots = front ++ 0 :: rest ∧ 0 ∉ front ∧
    ∀ slot ∈ rest, pendingFor endpoint slot = true → slot = parked endpoint zonetype

/-- A request is for an endpoint that is known, or it finds a slot; a descriptor is for an endpoint
that is not known. The slots do not outlive a restart. -/
def Orderly (gw : Gateway) : Event → Prop
  | .restart => False
  | .input (.enrollRequest srcAddr srcEndpoint zoneType) =>
      ∀ d, gatewayGetdeviceShortaddr gw srcAddr = some d → srcEndpoint ∉ numbers d →
        Parks d.endpointZonetype.toList srcEndpoint zoneType
  | .input (.simpleDescRsp msg) =>
      ∀ d, gatewayGetdeviceShortaddr gw msg.srcAddr = some d → msg.endpoint ∉ numbers d
  | _ => True

/-- What is kept for the endpoints that are not known yet, and for them only. -/
structure Parking (requests : Requests) (zones : List (UInt8 × UInt16)) (slots : List UInt32) :
    Prop where
  typed : ∀ zone ∈ zones, ∀ zonetype, requests zone.1 = some zonetype → zone.2 = zonetype
  once : (zones.map (·.1)).Nodup
  settled : ∀ zone ∈ zones, ∀ slot ∈ slots, pendingFor zone.1 slot = false
  packed : ∀ slot ∈ slots, slot = 0 ∨ ∃ endpoint zonetype, slot = parked endpoint zonetype
  waiting : ∀ endpoint, endpoint ∉ zones.map (·.1) → ∀ zonetype,
    requests endpoint = some zonetype → zonetype < 256 ∧
      lastMine (pendingFor endpoint) slots = some (parked endpoint zonetype)

section Packing

theorem parked_to_nat (endpoint : UInt8) (zonetype : UInt16) :
    (parked endpoint zonetype).toNat = endpoint.toNat * 65536 + zonetype.toNat := by
  have small : endpoint.toNat < 256 := endpoint.toNat_lt
  have low : zonetype.toNat < 65536 := zonetype.toNat_lt
  have shift : (2 : Nat) ^ (16 % 2 ^ 32 % 32) = 65536 := rfl
  rw [parked, UInt32.toNat_add, UInt32.toNat_shiftLeft]
  simp only [UInt8.toNat_toUInt32, UInt16.toNat_toUInt32, UInt32.toNat_ofNat, Nat.shiftLeft_eq]
  rw [shift]
  omega

theorem parked_shift (endpoint : UInt8) (zonetype : UInt16) :
    parked endpoint zonetype >>> 16 = endpoint.toUInt32 := by
  have low : zonetype.toNat < 65536 := zonetype.toNat_lt
  have shift : (2 : Nat) ^ (16 % 2 ^ 32 % 32) = 65536 := rfl
  apply UInt32.toNat_inj.mp
  rw [UInt32.toNat_shiftRight, parked_to_nat]
  simp only [UInt8.toNat_toUInt32, UInt32.toNat_ofNat, Nat.shiftRight_eq_div_pow]
  rw [shift]
  omega

theorem pending_for_parked {endpoint : UInt8} {zonetype : UInt16}
    (visible : parked endpoint zonetype ≠ 0) (other : UInt8) :
    pendingFor other (parked endpoint zonetype) = decide (other = endpoint) := by
  rw [pendingFor, parked_shift]
  apply decide_eq_decide.mpr
  constructor
  · rintro ⟨_, same⟩
    apply UInt8.toNat_inj.mp
    have equal := congrArg UInt32.toNat same
    simpa using equal.symm
  · rintro rfl
    exact ⟨visible, rfl⟩

theorem parked_low {endpoint : UInt8} {zonetype : UInt16} (fits : zonetype < 256) :
    (parked endpoint zonetype &&& 0x00FF).toUInt16 = zonetype := by
  have small : zonetype.toNat < 256 := fits
  apply UInt16.toNat_inj.mp
  have masked : (parked endpoint zonetype &&& 0x00FF).toNat = zonetype.toNat := by
    rw [UInt32.toNat_and, parked_to_nat]
    have mask : (0x00FF : UInt32).toNat = 2 ^ 8 - 1 := rfl
    rw [mask, Nat.and_two_pow_sub_one_eq_mod]
    omega
  rw [UInt32.toNat_toUInt16, masked]
  omega

theorem pending_for_zero (endpoint : UInt8) : pendingFor endpoint 0 = false := by
  simp [pendingFor]

end Packing

section Steps

variable {requests : Requests} {known : List (UInt8 × UInt16)} {slots front rest : List UInt32}
  {endpoint : UInt8} {zonetype : UInt16}

def Requests.ask (requests : Requests) (endpoint : UInt8) (zonetype : UInt16) : Requests :=
  fun other => if other = endpoint then some zonetype else requests other

def retype (endpoint : UInt8) (zonetype : UInt16) (zone : UInt8 × UInt16) : UInt8 × UInt16 :=
  if zone.1 = endpoint then (zone.1, zonetype) else zone

theorem retype_fst (zone : UInt8 × UInt16) : (retype endpoint zonetype zone).1 = zone.1 := by
  unfold retype
  split_ifs
  · rfl
  · rfl

theorem retype_endpoints (known : List (UInt8 × UInt16)) :
    (known.map (retype endpoint zonetype)).map (·.1) = known.map (·.1) := by
  rw [List.map_map]
  exact List.map_congr_left fun zone _ => retype_fst zone

theorem parking_empty : Parking (fun _ => none) [] noPending.toList := by
  have zero : ∀ slot ∈ noPending.toList, slot = 0 := by
    intro slot member
    rw [noPending, Vector.toList_replicate] at member
    exact List.eq_of_mem_replicate member
  constructor
  · intro zone member
    cases member
  · exact List.nodup_nil
  · intro zone member
    cases member
  · intro slot member
    exact Or.inl (zero slot member)
  · intro other _ asked requested
    cases requested

theorem Parking.settle (parking : Parking requests known slots)
    (member : endpoint ∈ known.map (·.1)) :
    Parking (requests.ask endpoint zonetype) (known.map (retype endpoint zonetype)) slots := by
  constructor
  · intro zone inside asked requested
    rcases List.mem_map.mp inside with ⟨before, there, rfl⟩
    rw [retype_fst, Requests.ask] at requested
    rw [retype]
    split_ifs at requested ⊢
    · exact Option.some.inj requested
    · exact parking.typed before there asked requested
  · rw [retype_endpoints]
    exact parking.once
  · intro zone inside slot there
    rcases List.mem_map.mp inside with ⟨before, member, rfl⟩
    rw [retype_fst]
    exact parking.settled before member slot there
  · exact parking.packed
  · intro other absent asked requested
    rw [retype_endpoints] at absent
    have different : other ≠ endpoint := by
      rintro rfl
      exact absent member
    rw [Requests.ask, if_neg different] at requested
    exact parking.waiting other absent asked requested

theorem Parking.park (parking : Parking requests known (front ++ 0 :: rest))
    (absent : endpoint ∉ known.map (·.1)) (fits : zonetype < 256)
    (visible : parked endpoint zonetype ≠ 0)
    (behind : ∀ slot ∈ rest, pendingFor endpoint slot = true → slot = parked endpoint zonetype) :
    Parking (requests.ask endpoint zonetype) known (front ++ parked endpoint zonetype :: rest) := by
  have others : ∀ slot ∈ front ++ parked endpoint zonetype :: rest,
      slot = parked endpoint zonetype ∨ slot ∈ front ++ 0 :: rest := by
    intro slot member
    rcases List.mem_append.mp member with before | later
    · exact Or.inr (List.mem_append_left _ before)
    · rcases List.mem_cons.mp later with here | last
      · exact Or.inl here
      · exact Or.inr (List.mem_append_right _ (List.mem_cons_of_mem _ last))
  constructor
  · intro zone member asked requested
    have different : zone.1 ≠ endpoint := by
      rintro rfl
      exact absent (List.mem_map_of_mem member)
    rw [Requests.ask, if_neg different] at requested
    exact parking.typed zone member asked requested
  · exact parking.once
  · intro zone member slot there
    rcases others slot there with here | before
    · rw [here, pending_for_parked visible]
      apply decide_eq_false
      rintro rfl
      exact absent (List.mem_map_of_mem member)
    · exact parking.settled zone member slot before
  · intro slot there
    rcases others slot there with here | before
    · exact Or.inr ⟨endpoint, zonetype, here⟩
    · exact parking.packed slot before
  · intro other unknown asked requested
    rw [Requests.ask] at requested
    by_cases same : other = endpoint
    · subst same
      rw [if_pos rfl, Option.some.injEq] at requested
      subst requested
      have own : pendingFor other (parked other zonetype) = true := by
        rw [pending_for_parked visible]
        exact decide_eq_true rfl
      exact ⟨fits, last_mine_put own behind⟩
    · rw [if_neg same] at requested
      have unseen : pendingFor other (parked endpoint zonetype) = false := by
        rw [pending_for_parked visible]
        exact decide_eq_false same
      rw [last_mine_put_other unseen (pending_for_zero other)]
      exact parking.waiting other unknown asked requested

def takenType (endpoint : UInt8) (slots : List UInt32) : UInt16 :=
  ((lastMine (pendingFor endpoint) slots).map fun slot => (slot &&& 0x00FF).toUInt16).getD 0

def clearSlots (endpoint : UInt8) (slots : List UInt32) : List UInt32 :=
  slots.map fun slot => if pendingFor endpoint slot then 0 else slot

theorem pending_for_apart {other : UInt8} (different : other ≠ endpoint) (slot : UInt32)
    (theirs : pendingFor endpoint slot = true) : pendingFor other slot = false := by
  have own := of_decide_eq_true theirs
  apply decide_eq_false
  rintro ⟨_, same⟩
  apply different
  apply UInt8.toNat_inj.mp
  have equal := congrArg UInt32.toNat (same.symm.trans own.2)
  simpa using equal

theorem Parking.describe (parking : Parking requests known slots)
    (absent : endpoint ∉ known.map (·.1)) :
    Parking requests (known ++ [(endpoint, takenType endpoint slots)])
      (clearSlots endpoint slots) := by
  have cleared : ∀ slot ∈ clearSlots endpoint slots,
      slot = 0 ∨ slot ∈ slots ∧ pendingFor endpoint slot = false := by
    intro slot member
    rcases List.mem_map.mp member with ⟨before, there, same⟩
    split_ifs at same with taken
    · exact Or.inl same.symm
    · subst same
      exact Or.inr ⟨there, Bool.eq_false_iff.mpr taken⟩
  constructor
  · intro zone member asked requested
    rcases List.mem_append.mp member with before | last
    · exact parking.typed zone before asked requested
    · rw [List.mem_singleton.mp last] at requested ⊢
      rcases parking.waiting endpoint absent asked requested with ⟨fits, waits⟩
      rw [takenType, waits, Option.map_some, Option.getD_some]
      exact parked_low fits
  · rw [List.map_append, List.map_singleton, ← List.concat_eq_append]
    exact parking.once.concat absent
  · intro zone member slot there
    rcases cleared slot there with zero | ⟨inside, free⟩
    · rw [zero]
      exact pending_for_zero zone.1
    · rcases List.mem_append.mp member with before | last
      · exact parking.settled zone before slot inside
      · rw [List.mem_singleton.mp last]
        exact free
  · intro slot there
    rcases cleared slot there with zero | ⟨inside, _⟩
    · exact Or.inl zero
    · exact parking.packed slot inside
  · intro other unknown asked requested
    rw [List.map_append, List.mem_append, not_or] at unknown
    have different : other ≠ endpoint := fun same => unknown.2 (List.mem_singleton.mpr same)
    have kept := last_mine_clear (pending_for_zero other)
      fun slot (_ : slot ∈ slots) theirs => pending_for_apart different slot theirs
    rw [clearSlots, kept]
    exact parking.waiting other unknown.1 asked requested

end Steps

def Parked (requests : Requests) (d : Device) : Prop :=
  Parking requests (zones d) d.endpointZonetype.toList

section Device

variable {requests : Requests} {d : Device}

def zoneOf (ep : Endpoint) : UInt8 × UInt16 := (ep.number, ep.simpledesc.zonetype)

theorem zone_endpoints (d : Device) : (zones d).map (·.1) = numbers d := by
  rw [zones, List.map_map]
  rfl

theorem parked_of_untouched {after : Device} (parked : Parked requests d)
    (untouched : Untouched zoneOf d after) : Parked requests after := by
  have same : zones after = zones d := untouched.endpoints
  rw [Parked, same, untouched.slots]
  exact parked

theorem modify_first_retype (endpoint : UInt8) (zonetype : UInt16) {eps : List Endpoint}
    (distinct : (eps.map (·.number)).Nodup) :
    (modifyFirst (·.number = endpoint)
        (fun ep => { ep with simpledesc := { ep.simpledesc with zonetype } }) eps).map zoneOf =
      (eps.map zoneOf).map (retype endpoint zonetype) := by
  induction eps with
  | nil => rfl
  | cons ep eps induction =>
      rcases List.nodup_cons.mp distinct with ⟨unique, later⟩
      rw [modifyFirst]
      split_ifs with here
      · have own : ep.number = endpoint := of_decide_eq_true here
        have rest : (eps.map zoneOf).map (retype endpoint zonetype) = eps.map zoneOf := by
          rw [List.map_map]
          apply List.map_congr_left
          intro other member
          have different : other.number ≠ endpoint := by
            intro same
            exact unique (List.mem_map.mpr ⟨other, member, same.trans own.symm⟩)
          exact if_neg different
        rw [List.map_cons, List.map_cons, List.map_cons, rest]
        exact congrArg (· :: eps.map zoneOf) (if_pos own).symm
      · have other : ep.number ≠ endpoint := fun same => here (decide_eq_true same)
        rw [List.map_cons, List.map_cons, List.map_cons, induction later]
        exact congrArg (· :: (eps.map zoneOf).map (retype endpoint zonetype)) (if_neg other).symm

theorem device_get_endpoint_eq_none {endpoint : UInt8} :
    deviceGetEndpoint d endpoint = none ↔ endpoint ∉ numbers d := by
  rw [deviceGetEndpoint, List.find?_eq_none, numbers, List.mem_map]
  constructor
  · rintro missed ⟨ep, member, same⟩
    exact missed ep member (decide_eq_true same)
  · intro absent ep member same
    exact absent ⟨ep, member, of_decide_eq_true same⟩

theorem parked_enroll (before : Parked requests d) {endpoint : UInt8} {zonetype : UInt16}
    (parks : endpoint ∉ numbers d → Parks d.endpointZonetype.toList endpoint zonetype) :
    Parked (requests.ask endpoint zonetype) (deviceSetZonetype endpoint zonetype d).device := by
  by_cases known : endpoint ∈ numbers d
  · have member : endpoint ∈ (zones d).map (·.1) := by
      rw [zone_endpoints]
      exact known
    have distinct : (d.eplist.map (·.number)).Nodup := by
      have once := before.once
      rwa [zone_endpoints] at once
    have found : deviceGetEndpoint d endpoint ≠ none :=
      fun none => device_get_endpoint_eq_none.mp none known
    rcases Option.ne_none_iff_exists'.mp found with ⟨ep, here⟩
    have retyped : zones (deviceSetZonetype endpoint zonetype d).device =
        (zones d).map (retype endpoint zonetype) := by
      unfold deviceSetZonetype
      rw [here]
      exact modify_first_retype endpoint zonetype distinct
    have slots : (deviceSetZonetype endpoint zonetype d).device.endpointZonetype =
        d.endpointZonetype := by
      unfold deviceSetZonetype
      rw [here]
      rfl
    rw [Parked, retyped, slots]
    exact before.settle member
  · have absent : endpoint ∉ (zones d).map (·.1) := by
      rw [zone_endpoints]
      exact known
    rcases parks known with ⟨fits, visible, front, rest, slots, taken, behind⟩
    have passed : ∀ slot ∈ front, decide (slot = 0) = false := by
      intro slot member
      exact decide_eq_false fun zero => taken (zero ▸ member)
    rcases set_first slots passed (decide_eq_true rfl) (parked endpoint zonetype) with
      ⟨i, search, written⟩
    rw [Parked, slots] at before
    have after := before.park absent fits visible behind
    have missing := device_get_endpoint_eq_none.mpr known
    have outcome : deviceSetZonetype endpoint zonetype d =
        .done { d with endpointZonetype := d.endpointZonetype.set i (parked endpoint zonetype) } := by
      unfold deviceSetZonetype
      rw [missing, search]
      rfl
    rw [← written] at after
    rw [outcome]
    exact after

theorem parked_describe (before : Parked requests d) {msg : SimpleDescRspFormat}
    (new : msg.endpoint ∉ numbers d) : Parked requests (simpleDescRsp msg d).device := by
  have absent : msg.endpoint ∉ (zones d).map (·.1) := by
    rw [zone_endpoints]
    exact new
  rcases simple_desc_endpoints msg d with added | same
  · rcases Prod.ext_iff.mp added with ⟨eplist, slots⟩
    have after := before.describe absent
    have zones_after : zones (simpleDescRsp msg d).device =
        zones d ++ [(msg.endpoint, takenType msg.endpoint d.endpointZonetype.toList)] := by
      have taken : takenType msg.endpoint d.endpointZonetype.toList =
          d.endpointZonetype.toList.foldl (fun zonetype slot =>
            if pendingFor msg.endpoint slot then (slot &&& 0x00FF).toUInt16 else zonetype) 0 := by
        rw [foldl_last_mine, takenType]
      rw [taken, Vector.foldl_toList]
      change (simpleDescRsp msg d).device.eplist.map zoneOf = _
      have list : (simpleDescRsp msg d).device.eplist =
          (deviceAddendpoint d (describedEndpoint msg)).eplist := eplist
      rw [list, deviceAddendpoint, List.map_append]
      rfl
    have slots_after : (simpleDescRsp msg d).device.endpointZonetype.toList =
        clearSlots msg.endpoint d.endpointZonetype.toList := by
      have list : (simpleDescRsp msg d).device.endpointZonetype =
          (deviceAddendpoint d (describedEndpoint msg)).endpointZonetype := slots
      rw [list, deviceAddendpoint, Vector.toList_map]
      rfl
    rw [Parked, zones_after, slots_after]
    exact after
  · rcases Prod.ext_iff.mp same with ⟨eplist, slots⟩
    apply parked_of_untouched before
    exact ⟨congrArg (List.map zoneOf) eplist, slots⟩

/-- A `char` that has become an `unsigned int` is an endpoint only if it was that one. -/
theorem char_unsigned_eq {sign : CharSign} {c endpoint : UInt8}
    (same : UInt32.ofInt (charInt sign c) = endpoint.toUInt32) : c = endpoint := by
  have bound : c.toNat < 256 := c.toNat_lt
  have small : endpoint.toNat < 256 := endpoint.toNat_lt
  have equal := congrArg UInt32.toNat same
  rw [UInt32.ofInt, UInt32.toNat_ofNat', UInt8.toNat_toUInt32] at equal
  apply UInt8.toNat_inj.mp
  cases sign with
  | unsigned =>
      rw [charInt] at equal
      omega
  | signed =>
      rw [charInt] at equal
      split at equal
      · omega
      · omega

theorem parked_masked (endpoint : UInt8) (zonetype : UInt16) :
    (parked endpoint zonetype &&& epmask) >>> 16 = endpoint.toUInt32 := by
  have mask : epmask >>> 16 = 0xff := by decide
  have small : endpoint.toNat < 256 := endpoint.toNat_lt
  rw [UInt32.shiftRight_and, parked_shift, mask]
  apply UInt32.toNat_inj.mp
  rw [UInt32.toNat_and, UInt8.toNat_toUInt32]
  have low : (0xff : UInt32).toNat = 2 ^ 8 - 1 := rfl
  rw [low, Nat.and_two_pow_sub_one_eq_mod]
  exact Nat.mod_eq_of_lt small

theorem find_zonetye_settled (sign : CharSign) {slots : Vector UInt32 8} {endpoint : UInt8}
    (packed : ∀ slot ∈ slots.toList, slot = 0 ∨ ∃ endpoint zonetype, slot = parked endpoint zonetype)
    (settled : ∀ slot ∈ slots.toList, pendingFor endpoint slot = false) :
    findZonetyeFromDevice sign slots endpoint = (0, slots) := by
  unfold findZonetyeFromDevice
  cases search : slots.findFinIdx? fun slot =>
      (slot &&& epmask) >>> 16 = UInt32.ofInt (charInt sign endpoint) with
  | none => rfl
  | some i =>
      have found := Vector.find?_some (Vector.find?_eq_map_findFinIdx?_getElem.trans
        (congrArg (Option.map (slots[·])) search))
      have matched : (slots[i] &&& epmask) >>> 16 = UInt32.ofInt (charInt sign endpoint) :=
        of_decide_eq_true found
      have member : slots[i] ∈ slots.toList := Vector.mem_toList_iff.mpr (Vector.getElem_mem i.isLt)
      have zero : slots[i] = 0 := by
        rcases packed _ member with zero | ⟨other, zonetype, taken⟩
        · exact zero
        · by_contra nonzero
          rw [taken] at nonzero
          rw [taken, parked_masked] at matched
          have free := settled _ member
          rw [taken, pending_for_parked nonzero, char_unsigned_eq matched.symm] at free
          exact absurd rfl (of_decide_eq_false free)
      have kept : slots.set i 0 = slots := by
        rw [← zero]
        exact Vector.set_getElem_self i.isLt
      simp only [zero, kept]
      rfl

/-- The report of a device whose endpoints are settled changes none of its types. -/
theorem add_del_endpoints_settled (sign : CharSign) {slots : Vector UInt32 8}
    (packed : ∀ slot ∈ slots.toList, slot = 0 ∨ ∃ endpoint zonetype, slot = parked endpoint zonetype)
    {eps : List Endpoint}
    (settled : ∀ ep ∈ eps, ∀ slot ∈ slots.toList, pendingFor ep.number slot = false) :
    (addDelEndpoints sign eps slots).2 = (slots, eps) := by
  induction eps with
  | nil => rfl
  | cons ep eps induction =>
      rcases List.forall_mem_cons.mp settled with ⟨first, later⟩
      rcases Prod.ext_iff.mp (induction later) with ⟨slots_kept, eps_kept⟩
      have nothing := find_zonetye_settled sign packed first
      unfold addDelEndpoints
      by_cases zone : ep.deviceID = zclHaDeviceidIasZone
      · by_cases unset : ep.simpledesc.zonetype = 0
        · simp only [if_pos zone, if_pos unset, nothing, slots_kept, eps_kept]
          rw [← unset]
        · simp only [if_pos zone, if_neg unset, slots_kept, eps_kept]
      · simp only [if_neg zone, slots_kept, eps_kept]

theorem parked_report (before : Parked requests d) (host : ZnpHost) :
    Parked requests (reportDevice host d).device := by
  unfold reportDevice
  split_ifs
  · exact before
  · rcases name_new_device_eq host.stale d with ⟨names, named⟩
    have settled : ∀ ep ∈ d.eplist, ∀ slot ∈ d.endpointZonetype.toList,
        pendingFor ep.number slot = false :=
      fun ep member => before.settled (zoneOf ep) (List.mem_map_of_mem member)
    have kept := add_del_endpoints_settled host.sign before.packed settled
    rcases Prod.ext_iff.mp kept with ⟨slots, eps⟩
    simp only [named]
    change Parking requests (List.map zoneOf (addDelEndpoints host.sign d.eplist
      d.endpointZonetype).2.2) (addDelEndpoints host.sign d.eplist
      d.endpointZonetype).2.1.toList
    rw [slots, eps]
    exact before

theorem parked_level (before : Parked requests d) (levelCtrl : LevelCtrlIeee) :
    Parked requests (levelEndpoint levelCtrl d) := by
  unfold levelEndpoint
  split_ifs
  · exact before
  · have kept : ∀ ep, zoneOf (setDeviceState ep (move2levelLevel levelCtrl.levelCtrlCmd)) =
        zoneOf ep := fun _ => rfl
    exact parked_of_untouched before ⟨modified_map kept d levelCtrl.endpoint, rfl⟩

end Device

section Runs

variable {gw : Gateway} {requests : Requests} {d : Device}

theorem learn_quiet {input : Input} (quiet : Quiet input)
    (here : gw.devices.find? (finds gw.gatewayid input) = some d) :
    learnType gw (.input input) requests = requests := by
  cases input with
  | announce msg =>
      have known : ¬(gatewayGetdevice gw msg.ieeeAddr).isNone = true := by
        change gatewayGetdevice gw msg.ieeeAddr = some d at here
        rw [here]
        exact Bool.false_ne_true
      exact if_neg known
  | enrollRequest srcAddr srcEndpoint zoneType => exact False.elim quiet
  | _ => rfl

theorem parked_change {input : Input} {changed : DeviceChange}
    (orderly : Orderly gw (.input input))
    (here : gw.devices.find? (finds gw.gatewayid input) = some d)
    (changes : change input d = some changed) (before : Parked requests d) :
    Parked (learnType gw (.input input) requests) changed.device := by
  rcases quiet_or_loud input with quiet | loud
  · rw [learn_quiet quiet here]
    exact parked_of_untouched before
      (quiet_untouched (fun _ _ => rfl) (fun _ _ _ => rfl) quiet changes)
  · cases loud with
    | simpleDescRsp msg =>
        rw [change, Option.some.injEq] at changes
        exact changes ▸ parked_describe before (orderly d (found_shortaddr here))
    | enrollRequest srcAddr srcEndpoint zoneType =>
        rw [change, Option.some.injEq] at changes
        exact changes ▸ parked_enroll before (orderly d here)
    | report host ieeeaddr =>
        rw [change, Option.some.injEq] at changes
        exact changes ▸ parked_report before host
    | levelCtrl host fd levelCtrl =>
        rw [change, Option.some.injEq] at changes
        exact changes ▸ parked_level before levelCtrl

/-- Whatever the order of requests and descriptors, the type recorded for an endpoint is the one it
has asked for last. -/
theorem recorded_type_is_last_request {s : Watched Requests}
    (reachable : Reachable (watch learnType) (fun s event => Orderly s.state.gateway event)
      (fun s => Fresh s.state) s) :
    ∀ d ∈ s.state.gateway.devices, Typed (s.notes d.ieeeaddr) d := by
  have noted : Noted (fun requests d _ => Parked requests d) s := by
    apply reachable.invariant
    · rintro start ⟨devices, table⟩
      rw [Noted, devices, table]
      exact Mirrors.empty
    · intro s event next noted orderly watched
      apply watch_noted noted watched
      · intro msg same absent
        have forgotten : learnType s.state.gateway event (s.notes msg.ieeeAddr) =
            fun _ => none := by
          rw [same, learnType, absent]
          rfl
        rw [forgotten, created_by_eq]
        exact parking_empty
      · intro input d changed row same here changes before
        rw [same] at orderly ⊢
        exact parked_change orderly here changes before
      · intro restarts
        rw [restarts] at orderly
        exact False.elim orderly
  intro d member
  rcases noted.device member with ⟨_, parked⟩
  exact parked.typed

end Runs

def ZoneEvent : Event → Prop
  | .input (.announce _) => True
  | .input (.activeEpRsp _) => True
  | .input (.simpleDescRsp _) => True
  | .input (.enrollRequest _ _ _) => True
  | _ => False

def nobodyAsked : Watched Requests := ⟨freshGateway, fun _ _ => none⟩

/-- A switch with one endpoint joins, its zone asks for enrolment, and then the descriptor comes. -/
def earlyRequest (zoneType : UInt16) : List Event :=
  [.input (.announce firstAnnounce), .input (.activeEpRsp (singleList 1 1)),
    .input (.enrollRequest 1 1 zoneType), .input (.simpleDescRsp (descriptorOf 1))]

theorem orderly_describe {gw : Gateway} {msg : SimpleDescRspFormat} {known : List UInt8}
    (found : (gatewayGetdeviceShortaddr gw msg.srcAddr).map numbers = some known)
    (new : msg.endpoint ∉ known) : Orderly gw (.input (.simpleDescRsp msg)) := by
  intro d here
  rw [here, Option.map_some, Option.some.injEq] at found
  rw [found]
  exact new

/-- A contact switch keeps its type. -/
theorem recorded_type_is_last_request_contact :
    ∃ s, run (watch learnType) nobodyAsked (earlyRequest 0x0015) = some s ∧
      ∀ d ∈ s.state.gateway.devices, Typed (s.notes d.ieeeaddr) d := by
  have started : Reachable (watch learnType) (fun s event => Orderly s.state.gateway event)
      (fun s => Fresh s.state) nobodyAsked := .start ⟨rfl, rfl⟩
  have meets : Meets (watch learnType) (fun s event => Orderly s.state.gateway event)
      nobodyAsked (earlyRequest 0x0015) := by
    refine ⟨trivial, fun joined first => ⟨trivial, fun listed second => ⟨?_, ?_⟩⟩⟩
    · rw [← Option.some.inj first] at second
      rw [← Option.some.inj second]
      intro d found _
      rw [← Option.some.inj found]
      refine ⟨by decide, by decide, [], List.replicate 7 0, rfl, List.not_mem_nil, ?_⟩
      intro slot member pending
      rw [List.eq_of_mem_replicate member, pending_for_zero] at pending
      exact absurd pending Bool.false_ne_true
    · intro asked third
      refine ⟨?_, fun _ _ => trivial⟩
      rw [← Option.some.inj first] at second
      rw [← Option.some.inj second] at third
      rw [← Option.some.inj third]
      apply @orderly_describe _ _ []
      · decide +kernel
      · exact List.not_mem_nil
  have total : (run (watch learnType) nobodyAsked (earlyRequest 0x0015)).isSome := by
    decide +kernel
  rcases Option.isSome_iff_exists.mp total with ⟨s, ran⟩
  exact ⟨s, ran, recorded_type_is_last_request (reachable_run started meets ran)⟩

/-- A key fob is recorded as a contact switch: only the low byte of its type is left. -/
theorem key_fob_recorded_as_contact :
    ¬∀ s, Reachable (watch learnType) (fun _ event => ZoneEvent event) (fun s => Fresh s.state) s →
      ∀ d ∈ s.state.gateway.devices, Typed (s.notes d.ieeeaddr) d := by
  intro typed
  have started : Reachable (watch learnType) (fun _ event => ZoneEvent event)
      (fun s => Fresh s.state) nobodyAsked := .start ⟨rfl, rfl⟩
  have meets : Meets (watch learnType) (fun _ event => ZoneEvent event) nobodyAsked
      (earlyRequest 0x0115) := by
    apply meets_of_forall
    simp only [earlyRequest, List.forall_mem_cons, ZoneEvent, implies_true, List.not_mem_nil,
      false_implies, and_self]
  have wrong : (run (watch learnType) nobodyAsked (earlyRequest 0x0115)).map
      (fun s => (s.state.gateway.devices.map fun d => (d.ieeeaddr, zones d),
        s.notes firstSwitch 1)) = some ([(firstSwitch, [(1, 0x0015)])], some 0x0115) := by
    decide +kernel
  rcases Option.map_eq_some_iff.mp wrong with ⟨s, ran, recorded⟩
  rw [Prod.mk.injEq] at recorded
  rcases recorded with ⟨kept, asked⟩
  rcases List.map_eq_singleton_iff.mp kept with ⟨d, devices, seen⟩
  rw [Prod.mk.injEq] at seen
  rcases seen with ⟨ieeeaddr, known⟩
  have member : d ∈ s.state.gateway.devices := by
    rw [devices]
    exact List.mem_singleton_self d
  have zone : (1, 0x0015) ∈ zones d := by
    rw [known]
    exact List.mem_singleton_self _
  have request : s.notes d.ieeeaddr 1 = some 0x0115 := by
    rw [ieeeaddr]
    exact asked
  have same := typed s (reachable_run started meets ran) d member _ zone _ request
  exact absurd same (by decide)

end SmartHome.ZoneTypes
