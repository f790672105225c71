import Mathlib.Data.List.Perm.Subperm
import Mathlib.Data.List.Range
import SmartHome.Library.OrbitSearch
import SmartHome.ZdoCallbacks

/-!
# The zone table of `zcl_ss.c`

A zone that asks to enrol gets an id and an entry in a list that only grows. The id is
the last one handed out if that is free again, or the next free one behind it. What the
handler does to the device and reports comes after the decision and does not depend on it.
-/

namespace SmartHome.Zones

open SmartHome.Library.OrbitSearch
open SmartHome.Bytebuffer
open SmartHome.Registry
open SmartHome.PipeMessages
open SmartHome.Zcl
open SmartHome.Effects
open SmartHome.ZdoCallbacks

set_option autoImplicit false

def zclSsMaxZones : Nat := 256
def zclSsMaxZoneId : UInt8 := 254

def zsuccess : UInt8 := 0x00

def enrollResponseCodeSuccess : UInt8 := 0x00
def enrollResponseCodeNotSupported : UInt8 := 0x01
def enrollResponseCodeNoEnrollPermit : UInt8 := 0x02
def enrollResponseCodeTooManyZones : UInt8 := 0x03

def zclClusterIdSsIasZone : UInt16 := 0x0500
def commandSsIasZoneStatusEnrollResponse : UInt8 := 0x00

def supportedZoneTypes : List UInt16 :=
  [0x0000, 0x000D, 0x0015, 0x0028, 0x002A, 0x002B, 0x002C, 0x002D, 0x010F, 0x0115, 0x021D, 0x0225,
    0x0226, 0x0229]

def zclSSZoneTypeSupported (zoneType : UInt16) : Bool := zoneType ∈ supportedZoneTypes

structure IasAceZoneTable where
  zoneID : UInt8
  zoneType : UInt16
  zoneAddress : Vector UInt8 8
  deriving DecidableEq

def zclSSUknownIeeeAddress : Vector UInt8 8 := Vector.replicate 8 0xFF

/-- `zclSS_ZoneItem_t`; `next` is the order of the list. -/
structure ZoneItem where
  endpoint : UInt8
  zone : IasAceZoneTable
  deriving DecidableEq

/-- `zclSS_ZoneTable` and the variable that `zclSS_GetNextFreeZoneID` keeps between its calls. -/
structure ZoneTable where
  items : List ZoneItem
  nextAvailZoneID : UInt8
  inRange : nextAvailZoneID ≤ zclSsMaxZoneId

def noZones : ZoneTable := ⟨[], 0, by decide⟩

/-- The count is a `uint8`. -/
def zclSSCountAllZones (items : List ZoneItem) : UInt8 := items.foldl (fun cnt _ => cnt + 1) 0

def zclSSZoneIDAvailable (items : List ZoneItem) (zoneID : UInt8) : Bool :=
  if zoneID < zclSsMaxZoneId then !items.any (·.zone.zoneID = zoneID) else false

def rollOver (zoneID : UInt8) : UInt8 := if zoneID + 1 > zclSsMaxZoneId then 0 else zoneID + 1

theorem roll_over_le (zoneID : UInt8) : rollOver zoneID ≤ zclSsMaxZoneId := by
  unfold rollOver
  split_ifs with beyond
  · decide
  · exact UInt8.not_lt.mp beyond

theorem searched_in_range {stop : UInt8 → Bool} {fuel : Nat} {start zoneID : UInt8}
    (found : firstAlong rollOver stop fuel start = some zoneID) : zoneID ≤ zclSsMaxZoneId := by
  rcases first_along_spec found with ⟨count, _, place, _, _⟩
  rw [place, Function.iterate_succ_apply']
  exact roll_over_le _

/-- The id, or one more than the largest when none is free. The loop over the ids may not end
within the fuel. -/
def zclSSGetNextFreeZoneID (fuel : Nat) (zones : ZoneTable) : Option (UInt8 × ZoneTable) :=
  let start := zones.nextAvailZoneID
  if zclSSZoneIDAvailable zones.items start then some (start, zones)
  else
    match found : firstAlong rollOver
        (fun zoneID => zoneID = start || zclSSZoneIDAvailable zones.items zoneID) fuel start with
    | none => none
    | some zoneID =>
        if zoneID ≠ start then
          some (zoneID, ⟨zones.items, zoneID, searched_in_range found⟩)
        else some (zclSsMaxZoneId + 1, zones)

def searchFuel : Nat := 255

/-- The new item is cleared before the pointer is tested: without memory there is no result. -/
def zclSSAddZone (memory : Bool) (endpoint : UInt8) (zone : IasAceZoneTable)
    (items : List ZoneItem) : Option (UInt8 × List ZoneItem) :=
  if memory then some (zsuccess, items ++ [⟨endpoint, zone⟩]) else none

/-- What the handler has decided: the table and the two variables it answers with, of which it may
leave one unassigned. -/
structure Decision where
  zones : ZoneTable
  responseCode : UInt8
  zoneID : Option UInt8

def decision (memory : Bool) (zones : ZoneTable) (dstEndpoint : UInt8) (zoneType : UInt16) :
    Option Decision :=
  if zclSSZoneTypeSupported zoneType then
    if (zclSSCountAllZones zones.items).toNat < zclSsMaxZones - 1 then
      match zclSSGetNextFreeZoneID searchFuel zones with
      | none => none
      | some (zoneID, zones) =>
          if zoneID ≤ zclSsMaxZoneId then
            let zone : IasAceZoneTable := ⟨zoneID, zoneType, zclSSUknownIeeeAddress⟩
            (zclSSAddZone memory dstEndpoint zone zones.items).map fun (status, items) =>
              { zones := { zones with items }
                responseCode :=
                  if status = zsuccess then enrollResponseCodeSuccess
                  else enrollResponseCodeNoEnrollPermit
                zoneID := some zoneID }
          else some ⟨zones, enrollResponseCodeTooManyZones, some zoneID⟩
    else some ⟨zones, enrollResponseCodeTooManyZones, none⟩
  else some ⟨zones, enrollResponseCodeNotSupported, none⟩

/-- What the handler reads of `struct zclincomingmsg`; the type is the first word of its data. -/
structure EnrollRequest where
  srcAddr : UInt16
  srcEndpoint : UInt8
  dstEndpoint : UInt8
  groupId : UInt16
  clusterId : UInt16
  transseqnum : UInt8
  zoneType : UInt16

def zclSSIASSendZoneStatusEnrollResponseCmd (srcEP dstEp : UInt8) (dstaddr : UInt16)
    (responseCode zoneID disableDefaultRsp seqNum : UInt8) : DataRequest :=
  zclSendcommand srcEP dstEp dstaddr zclClusterIdSsIasZone commandSsIasZoneStatusEnrollResponse true
    zclFrameClientServerDir disableDefaultRsp 0 seqNum [responseCode, zoneID]

/-- The heap, and what the stack holds where `zoneID` lies. -/
structure EnrollHost where
  memory : Bool
  zoneID : UInt8

structure Enrolment where
  decision : Decision
  registry : Outcome
  report : Zclzoneenrollreq
  response : DataRequest

/-- `zclss_processincmd_zonestatus_enrollrequest`; it asserts that the device exists. -/
def zclssProcessincmdZonestatusEnrollrequest (host : EnrollHost) (gw : Gateway) (zones : ZoneTable)
    (request : EnrollRequest) : Option Enrolment :=
  match decision host.memory zones request.dstEndpoint request.zoneType,
    gatewayGetdeviceShortaddr gw request.srcAddr with
  | some decided, some d =>
      let zoneID := decided.zoneID.getD host.zoneID
      some
        { decision := decided
          registry := zonestatusEnrollrequest gw request.srcAddr request.srcEndpoint request.zoneType
          report :=
            { ieeeaddr := d.ieeeaddr
              groupid := request.groupId
              clusterid := request.clusterId
              zonetype := request.zoneType
              endpoint := request.srcEndpoint
              zoneid := zoneID }
          response := zclSSIASSendZoneStatusEnrollResponseCmd request.dstEndpoint
            request.srcEndpoint request.srcAddr decided.responseCode zoneID 1 request.transseqnum }
  | _, _ => none

section Search

variable {items : List ZoneItem} {zones : ZoneTable} {zoneID : UInt8}

def zoneIDs (items : List ZoneItem) : List UInt8 := items.map (·.zone.zoneID)

theorem count_all_zones_eq (items : List ZoneItem) :
    zclSSCountAllZones items = UInt8.ofNat items.length := by
  have counted : ∀ (items : List ZoneItem) (cnt : UInt8),
      items.foldl (fun cnt _ => cnt + 1) cnt = cnt + UInt8.ofNat items.length := by
    intro items
    induction items with
    | nil => simp
    | cons item items induction =>
        intro cnt
        rw [List.foldl_cons, induction, List.length_cons, UInt8.ofNat_add, UInt8.add_assoc,
          UInt8.add_comm 1]
        rfl
  rw [zclSSCountAllZones, counted, UInt8.zero_add]

theorem zone_id_available_iff :
    zclSSZoneIDAvailable items zoneID = true ↔
      zoneID < zclSsMaxZoneId ∧ zoneID ∉ zoneIDs items := by
  unfold zclSSZoneIDAvailable zoneIDs
  split_ifs with inside <;> simp [inside]

theorem roll_over_to_nat (inRange : zoneID ≤ zclSsMaxZoneId) :
    (rollOver zoneID).toNat = (zoneID.toNat + 1) % 255 := by
  have bound : zoneID.toNat ≤ 254 := inRange
  have sum : (zoneID + 1).toNat = zoneID.toNat + 1 := by
    rw [UInt8.toNat_add, UInt8.toNat_one, Nat.mod_eq_of_lt (by omega)]
  unfold rollOver
  split_ifs with beyond
  · have above : 254 < (zoneID + 1).toNat := beyond
    rw [UInt8.toNat_zero]
    omega
  · have below : (zoneID + 1).toNat ≤ 254 := UInt8.not_lt.mp beyond
    omega

theorem iterate_roll_over (inRange : zoneID ≤ zclSsMaxZoneId) (count : Nat) :
    (rollOver^[count] zoneID).toNat = (zoneID.toNat + count) % 255 := by
  have bound : zoneID.toNat ≤ 254 := inRange
  induction count with
  | zero =>
      rw [Function.iterate_zero_apply]
      omega
  | succ count induction =>
      have reached : rollOver^[count] zoneID ≤ zclSsMaxZoneId := by
        change (rollOver^[count] zoneID).toNat ≤ 254
        omega
      rw [Function.iterate_succ_apply', roll_over_to_nat reached, induction]
      omega

theorem reached_behind {start : UInt8} (inRange : start ≤ zclSsMaxZoneId)
    (inside : zoneID ≤ zclSsMaxZoneId) :
    ∃ count < searchFuel, rollOver^[count + 1] start = zoneID := by
  have first : start.toNat ≤ 254 := inRange
  have last : zoneID.toNat ≤ 254 := inside
  refine ⟨(zoneID.toNat + 254 - start.toNat) % 255, Nat.mod_lt _ (by decide), ?_⟩
  rw [← UInt8.toNat_inj, iterate_roll_over inRange]
  omega

theorem next_free_total {fuel : Nat} (enough : searchFuel ≤ fuel) (zones : ZoneTable) :
    (zclSSGetNextFreeZoneID fuel zones).isSome := by
  rcases reached_behind zones.inRange zones.inRange with ⟨count, inside, back⟩
  have ends : (firstAlong rollOver (fun zoneID => zoneID = zones.nextAvailZoneID ||
      zclSSZoneIDAvailable zones.items zoneID) fuel zones.nextAvailZoneID).isSome := by
    apply first_along_terminates (inside.trans_le enough)
    rw [back, decide_eq_true rfl, Bool.true_or]
  unfold zclSSGetNextFreeZoneID
  dsimp only
  split
  · rfl
  · split
    · rename_i missing
      rw [missing] at ends
      cases ends
    · split <;> rfl

/-- The id is free, or no id is. -/
theorem next_free_spec {fuel : Nat} {after : ZoneTable}
    (found : zclSSGetNextFreeZoneID fuel zones = some (zoneID, after)) :
    after.items = zones.items ∧
      (zclSSZoneIDAvailable zones.items zoneID = true ∨
        zoneID = zclSsMaxZoneId + 1 ∧ after = zones ∧
          ∀ other, zclSSZoneIDAvailable zones.items other = false) := by
  unfold zclSSGetNextFreeZoneID at found
  dsimp only at found
  split at found
  · rename_i free
    rw [Option.some.injEq, Prod.mk.injEq] at found
    rw [← found.1, ← found.2]
    exact ⟨rfl, Or.inl free⟩
  · rename_i taken
    split at found
    · cases found
    · rename_i place searched
      rcases first_along_spec searched with ⟨count, _, reached, stops, passed⟩
      split at found
      · rename_i moved
        rw [Option.some.injEq, Prod.mk.injEq] at found
        rw [← found.1, ← found.2]
        rw [decide_eq_false moved, Bool.false_or] at stops
        exact ⟨rfl, Or.inl stops⟩
      · rename_i back
        rw [Option.some.injEq, Prod.mk.injEq] at found
        refine ⟨congrArg ZoneTable.items found.2.symm, Or.inr ⟨found.1.symm, found.2.symm, ?_⟩⟩
        -- the loop is back at its start, so every other id lies on the way
        intro other
        by_contra free
        rw [Bool.not_eq_false] at free
        have inside : other ≤ zclSsMaxZoneId := UInt8.le_of_lt (zone_id_available_iff.mp free).1
        rcases reached_behind zones.inRange inside with ⟨earlier, before, here⟩
        have round := iterate_roll_over zones.inRange (count + 1)
        rw [← reached, not_not.mp back] at round
        have bound : zones.nextAvailZoneID.toNat ≤ 254 := zones.inRange
        have whole : 254 ≤ count := by omega
        have last : earlier ≤ 254 := Nat.lt_succ_iff.mp before
        rcases (last.trans whole).lt_or_eq with sooner | same
        · have visited := passed earlier sooner
          rw [here, free, Bool.or_true] at visited
          cases visited
        · rw [same, ← reached, not_not.mp back] at here
          rw [here] at taken
          exact taken free

theorem available_of_room (room : items.length < 254) :
    ∃ zoneID, zclSSZoneIDAvailable items zoneID = true := by
  by_contra full
  have used : List.range 254 ⊆ (zoneIDs items).map UInt8.toNat := by
    intro number inside
    have below : number < 254 := List.mem_range.mp inside
    have value : (UInt8.ofNat number).toNat = number := by
      rw [UInt8.toNat_ofNat']
      omega
    have small : UInt8.ofNat number < zclSsMaxZoneId := by
      change (UInt8.ofNat number).toNat < 254
      omega
    have taken : UInt8.ofNat number ∈ zoneIDs items := by
      by_contra absent
      exact full ⟨_, zone_id_available_iff.mpr ⟨small, absent⟩⟩
    exact List.mem_map.mpr ⟨_, taken, value⟩
  have length := (List.subperm_of_subset List.nodup_range used).length_le
  rw [List.length_range, List.length_map, zoneIDs, List.length_map] at length
  omega

theorem zone_ids_length_le (distinct : (zoneIDs items).Nodup)
    (inside : ∀ zoneID ∈ zoneIDs items, zoneID < zclSsMaxZoneId) : items.length ≤ 254 := by
  have used : (zoneIDs items).map UInt8.toNat ⊆ List.range 254 := by
    intro number member
    rcases List.mem_map.mp member with ⟨zoneID, here, value⟩
    have below : zoneID.toNat < 254 := inside zoneID here
    rw [← value]
    exact List.mem_range.mpr below
  have apart : ((zoneIDs items).map UInt8.toNat).Nodup :=
    distinct.map fun _ _ same => UInt8.toNat_inj.mp same
  have length := (List.subperm_of_subset apart used).length_le
  rwa [List.length_range, List.length_map, zoneIDs, List.length_map] at length

end Search

section Decisions

variable {zones : ZoneTable} {dstEndpoint : UInt8} {zoneType : UInt16} {decided : Decision}

/-- The table can take a zone: its 8-bit count is below the limit and an id is free. -/
def HasRoom (items : List ZoneItem) : Prop :=
  (zclSSCountAllZones items).toNat < zclSsMaxZones - 1 ∧
    ∃ zoneID, zclSSZoneIDAvailable items zoneID = true

inductive Decides (zones : ZoneTable) (dstEndpoint : UInt8) (zoneType : UInt16) : Decision → Prop
  | admitted (zoneID : UInt8) (after : ZoneTable) (supported : zclSSZoneTypeSupported zoneType = true)
      (room : HasRoom zones.items) (free : zclSSZoneIDAvailable zones.items zoneID = true)
      (items : after.items =
        zones.items ++ [⟨dstEndpoint, zoneID, zoneType, zclSSUknownIeeeAddress⟩]) :
      Decides zones dstEndpoint zoneType ⟨after, enrollResponseCodeSuccess, some zoneID⟩
  | refused (zoneID : Option UInt8) (supported : zclSSZoneTypeSupported zoneType = true)
      (full : ¬HasRoom zones.items) :
      Decides zones dstEndpoint zoneType ⟨zones, enrollResponseCodeTooManyZones, zoneID⟩
  | unsupported (unknown : zclSSZoneTypeSupported zoneType = false) :
      Decides zones dstEndpoint zoneType ⟨zones, enrollResponseCodeNotSupported, none⟩

theorem decision_cases {memory : Bool}
    (decides : decision memory zones dstEndpoint zoneType = some decided) :
    Decides zones dstEndpoint zoneType decided := by
  unfold decision at decides
  split_ifs at decides with supported count
  · split at decides
    · cases decides
    · rename_i zoneID after found
      rcases next_free_spec found with ⟨items, free | ⟨large, same, none_free⟩⟩
      · have inside : zoneID ≤ zclSsMaxZoneId := UInt8.le_of_lt (zone_id_available_iff.mp free).1
        rw [if_pos inside, Option.map_eq_some_iff] at decides
        rcases decides with ⟨⟨status, added⟩, adds, rfl⟩
        unfold zclSSAddZone at adds
        split_ifs at adds
        rw [Option.some.injEq, Prod.mk.injEq] at adds
        rw [← adds.1, ← adds.2, items]
        exact .admitted zoneID _ supported ⟨count, zoneID, free⟩ free rfl
      · have outside : ¬zoneID ≤ zclSsMaxZoneId := by
          rw [large]
          decide
        rw [if_neg outside, Option.some.injEq] at decides
        rw [← decides, same]
        apply Decides.refused (some zoneID) supported
        rintro ⟨_, other, available⟩
        rw [none_free other] at available
        cases available
  · rw [Option.some.injEq] at decides
    rw [← decides]
    exact .refused none supported fun room => count room.1
  · rw [Option.some.injEq] at decides
    rw [← decides]
    exact .unsupported (Bool.eq_false_iff.mpr supported)

theorem decision_total {memory : Bool}
    (enough : zclSSZoneTypeSupported zoneType = true ∧ HasRoom zones.items → memory = true) :
    (decision memory zones dstEndpoint zoneType).isSome := by
  unfold decision
  split_ifs with known count
  · rcases Option.isSome_iff_exists.mp (next_free_total le_rfl zones) with ⟨⟨zoneID, after⟩, found⟩
    rw [found]
    dsimp only
    split_ifs with inside
    · rcases next_free_spec found with ⟨_, free | ⟨large, _, _⟩⟩
      · rw [enough ⟨known, count, zoneID, free⟩]
        rfl
      · rw [large] at inside
        exact absurd inside (by decide)
    · rfl
  · rfl
  · rfl

end Decisions

end SmartHome.Zones
