import Mathlib.Data.List.Dedup
import SmartHome.Enrolments

/-!
# Zones that enrol again

An item of the zone table does not say whose it is: its address is left unknown, and its
endpoint is the gateway's own. So a zone that enrols again gets another id and another
item. As long as no zone does, the table serves 254 of them.
-/

namespace SmartHome.RepeatedEnrolments

open SmartHome.Library.Runs
open SmartHome.Registry
open SmartHome.System
open SmartHome.EventRecvmsg
open SmartHome.Zones
open SmartHome.Enrolments

set_option autoImplicit false

def idsOf (owner : UInt64 × UInt8) (answers : List Answer) : List UInt8 :=
  grantedIDs (answers.filter fun answer => answer.owner = owner)

def itemsOf (owner : UInt64 × UInt8) (s : EnrolState) : List ZoneItem :=
  s.zones.items.filter fun item => item.zone.zoneID ∈ idsOf owner s.answers

def requesters (answers : List Answer) : List (UInt64 × UInt8) :=
  ((supported answers).map Answer.owner).dedup

/-- At most one item of the table for each device and endpoint, success as long as at most 254 of them
have asked, and for an owner that asks again the id it has. -/
structure OneEntryEach (s : EnrolState) : Prop where
  one : ∀ owner, (itemsOf owner s).length ≤ 1
  served : (requesters s.answers).length ≤ 254 →
    ∀ answer ∈ supported s.answers, answer.code = some enrollResponseCodeSuccess
  same : (supported s.answers).Pairwise fun earlier later =>
    earlier.owner = later.owner → ∀ zoneID, earlier.granted = some zoneID →
      later.granted = some zoneID

def Repeats (s : EnrolState) : ZoneEvent → Prop
  | .enroll _ request =>
      zclSSZoneTypeSupported request.zoneType = true ∧
        ∃ d, sender s request = some d ∧ idsOf (d.ieeeaddr, request.srcEndpoint) s.answers ≠ []
  | .other _ _ => False

/-- No owner that has an id has asked again, and those that were refused found the table full. -/
structure Apart (zones : ZoneTable) (answers : List Answer) : Prop where
  described : Described zones answers
  one : ∀ owner, (idsOf owner answers).length ≤ 1
  known : ∀ answer ∈ answers, answer.granted ≠ none → answer ∈ supported answers
  full : ∀ answer ∈ supported answers, answer.granted = none →
    idsOf answer.owner answers = [] ∧ 254 ≤ zones.items.length
  apart : (supported answers).Pairwise fun earlier later =>
    earlier.granted ≠ none → earlier.owner ≠ later.owner

section Step

variable {zones : ZoneTable} {answers : List Answer} {dstEndpoint : UInt8} {decided : Decision}

theorem ids_of_cons (owner : UInt64 × UInt8) (answer : Answer) (answers : List Answer) :
    idsOf owner (answer :: answers) =
      (if answer.owner = owner then answer.granted.toList else []) ++ idsOf owner answers := by
  rw [idsOf, grantedIDs, List.filter_cons]
  by_cases mine : answer.owner = owner
  · rw [if_pos mine, if_pos (decide_eq_true mine), List.filterMap_cons]
    cases answer.granted <;> rfl
  · rw [if_neg mine, if_neg fun same => mine (of_decide_eq_true same)]
    rfl

theorem ids_of_append (owner : UInt64 × UInt8) (answer : Answer) :
    idsOf owner (answers ++ [answer]) =
      idsOf owner answers ++ if answer.owner = owner then answer.granted.toList else [] := by
  have last := ids_of_cons owner answer []
  rw [show idsOf owner [] = [] from rfl, List.append_nil] at last
  rw [← last, idsOf, List.filter_append, grantedIDs, List.filterMap_append]
  rfl

theorem mem_ids_of {answer : Answer} (member : answer ∈ answers) {zoneID : UInt8}
    (found : answer.granted = some zoneID) : zoneID ∈ idsOf answer.owner answers := by
  refine List.mem_filterMap.mpr ⟨answer, ?_, found⟩
  exact List.mem_filter.mpr ⟨member, decide_eq_true rfl⟩

theorem Apart.append (apart : Apart zones answers) {answer : Answer}
    (new : idsOf answer.owner answers = []) :
    (supported answers ++ [answer]).Pairwise fun earlier later =>
      earlier.granted ≠ none → earlier.owner ≠ later.owner := by
  rw [List.pairwise_append]
  refine ⟨apart.apart, List.pairwise_singleton _ _, ?_⟩
  intro earlier member later last success same
  rw [List.mem_singleton.mp last] at same
  rcases Option.ne_none_iff_exists'.mp success with ⟨zoneID, found⟩
  have has := mem_ids_of (List.mem_of_mem_filter member) found
  rw [same, new] at has
  cases has

theorem Apart.answer (apart : Apart zones answers) {answer : Answer} {zoneID : UInt8}
    (decides : Decides zones dstEndpoint answer.request.zoneType decided)
    (tells : answer.tells = some ⟨decided.responseCode, decided.zoneID.getD zoneID⟩)
    (new : zclSSZoneTypeSupported answer.request.zoneType = true →
      idsOf answer.owner answers = []) :
    Apart decided.zones (answers ++ [answer]) := by
  have described := apart.described.answer decides tells
  have mine : answer.granted = if decided.responseCode = enrollResponseCodeSuccess then
      some (decided.zoneID.getD zoneID) else none := by
    rw [Answer.granted, tells, Option.bind_some]
  have refusal (failed : answer.granted = none) (owner : UInt64 × UInt8) :
      idsOf owner (answers ++ [answer]) = idsOf owner answers := by
    rw [ids_of_append, failed]
    split_ifs
    · exact List.append_nil _
    · exact List.append_nil _
  cases decides with
  | admitted zoneID after known room free items =>
      have few := apart.described.room_iff.mp room
      rw [if_pos rfl] at mine
      refine ⟨described, ?_, ?_, ?_, ?_⟩
      · intro owner
        rw [ids_of_append, mine]
        split_ifs with same
        · rw [← same, new known]
          exact Nat.le_refl 1
        · rw [List.append_nil]
          exact apart.one owner
      · intro other member success
        rw [supported_append, if_pos known]
        rcases List.mem_append.mp member with before | last
        · exact List.mem_append_left _ (apart.known other before success)
        · exact List.mem_append_right _ last
      · intro other member failed
        rw [supported_append, if_pos known] at member
        rcases List.mem_append.mp member with before | last
        · have many := (apart.full other before failed).2
          omega
        · rw [List.mem_singleton.mp last, mine] at failed
          cases failed
      · rw [supported_append, if_pos known]
        exact apart.append (new known)
  | refused given known full =>
      have many : ¬zones.items.length < 254 := fun few => full (apart.described.room_iff.mpr few)
      rw [if_neg (of_decide_eq_false rfl)] at mine
      refine ⟨described, ?_, ?_, ?_, ?_⟩
      · intro owner
        rw [refusal mine]
        exact apart.one owner
      · intro other member success
        rw [supported_append, if_pos known]
        rcases List.mem_append.mp member with before | last
        · exact List.mem_append_left _ (apart.known other before success)
        · exact List.mem_append_right _ last
      · intro other member failed
        rw [supported_append, if_pos known] at member
        rw [refusal mine]
        rcases List.mem_append.mp member with before | last
        · exact apart.full other before failed
        · rw [List.mem_singleton.mp last]
          exact ⟨new known, not_lt.mp many⟩
      · rw [supported_append, if_pos known]
        exact apart.append (new known)
  | unsupported unknown =>
      have listed : supported (answers ++ [answer]) = supported answers := by
        rw [supported_append, if_neg (by rw [unknown]; exact Bool.false_ne_true), List.append_nil]
      rw [if_neg (of_decide_eq_false rfl)] at mine
      refine ⟨described, ?_, ?_, ?_, ?_⟩
      · intro owner
        rw [refusal mine]
        exact apart.one owner
      · rw [listed]
        intro other member success
        rcases List.mem_append.mp member with before | last
        · exact apart.known other before success
        · rw [List.mem_singleton.mp last] at success
          exact absurd mine success
      · rw [listed]
        intro other member failed
        rw [refusal mine]
        exact apart.full other member failed
      · rw [listed]
        exact apart.apart

end Step

section Runs

variable {s next : EnrolState} {event : ZoneEvent}

theorem apart_unused (unused : Unused s) : Apart s.zones s.answers := by
  have described := described_unused unused
  rw [unused.2] at described ⊢
  refine ⟨described, fun _ => Nat.zero_le 1, ?_, ?_, List.Pairwise.nil⟩
  · intro answer member
    cases member
  · intro answer member
    cases member

theorem apart_step (apart : Apart s.zones s.answers) (new : ¬Repeats s event)
    (stepped : enrolStep s event = some next) : Apart next.zones next.answers := by
  cases event with
  | enroll zoneID request =>
      rcases enroll_step stepped with
        ⟨d, decided, response, found, decides, zones, answered, _, read⟩
      rw [zones, answered]
      refine @Apart.answer _ _ _ _ apart _ zoneID decides read ?_
      intro known
      by_contra has
      exact new ⟨known, d, found, has⟩
  | other input foreign =>
      rcases other_step stepped with ⟨zones, answered⟩
      rw [zones, answered]
      exact apart

theorem filter_mem_length_le {ids : List UInt8} {items : List ZoneItem}
    (distinct : (zoneIDs items).Nodup) :
    (items.filter fun item => item.zone.zoneID ∈ ids).length ≤ ids.length := by
  have within : zoneIDs (items.filter fun item => item.zone.zoneID ∈ ids) ⊆ ids := by
    intro zoneID member
    rcases List.mem_map.mp member with ⟨item, inside, rfl⟩
    exact of_decide_eq_true (List.mem_filter.mp inside).2
  have apart : (zoneIDs (items.filter fun item => item.zone.zoneID ∈ ids)).Nodup :=
    distinct.sublist (List.filter_sublist.map _)
  have bound := (List.subperm_of_subset apart within).length_le
  rwa [zoneIDs, List.length_map] at bound

def owners (answers : List Answer) : List (UInt64 × UInt8) :=
  (answers.filter fun answer => answer.granted.isSome).map Answer.owner

theorem owners_length (answers : List Answer) :
    (owners answers).length = (grantedIDs answers).length := by
  rw [owners, List.length_map, grantedIDs]
  induction answers with
  | nil => rfl
  | cons answer answers induction =>
      cases found : answer.granted with
      | none =>
          rw [List.filterMap_cons_none found, ← induction, List.filter_cons_of_neg]
          rw [found]
          exact Bool.false_ne_true
      | some zoneID =>
          rw [List.filterMap_cons_some found, List.length_cons, ← induction,
            List.filter_cons_of_pos (by rw [found]; rfl), List.length_cons]

theorem count_owners (owner : UInt64 × UInt8) (answers : List Answer) :
    (owners answers).count owner = (idsOf owner answers).length := by
  induction answers with
  | nil => rfl
  | cons answer answers induction =>
      rw [ids_of_cons, List.length_append, ← induction, owners]
      cases found : answer.granted with
      | none =>
          rw [List.filter_cons_of_neg (by rw [found]; exact Bool.false_ne_true), ← owners]
          split_ifs <;> simp
      | some zoneID =>
          rw [List.filter_cons_of_pos (by rw [found]; rfl), List.map_cons, ← owners]
          by_cases mine : answer.owner = owner
          · rw [if_pos mine, mine, List.count_cons_self, Option.toList_some, List.length_singleton,
              Nat.add_comm]
          · rw [if_neg mine, List.count_cons_of_ne mine, List.length_nil, Nat.zero_add]

theorem granted_ne_none_iff (answer : Answer) :
    answer.granted ≠ none ↔ answer.code = some enrollResponseCodeSuccess := by
  rw [Answer.granted, Answer.code]
  cases answer.tells with
  | none => exact iff_of_false (not_not_intro rfl) (Option.some_ne_none _).symm
  | some tells =>
      rw [Option.bind_some, Option.map_some, Option.some.injEq]
      split_ifs with success
      · exact iff_of_true (Option.some_ne_none _) success
      · exact iff_of_false (not_not_intro rfl) success

theorem Apart.one_entry_each (apart : Apart s.zones s.answers) : OneEntryEach s := by
  refine ⟨?_, ?_, ?_⟩
  · intro owner
    exact (filter_mem_length_le apart.described.distinct).trans (apart.one owner)
  · intro few answer member
    by_contra failed
    rw [← granted_ne_none_iff, not_not] at failed
    rcases apart.full answer member failed with ⟨nothing, many⟩
    have distinct : (owners s.answers).Nodup := by
      rw [List.nodup_iff_count_le_one]
      intro owner
      rw [count_owners]
      exact apart.one owner
    have absent : answer.owner ∉ owners s.answers := by
      rw [← List.count_eq_zero, count_owners, nothing, List.length_nil]
    have asked : answer.owner :: owners s.answers ⊆ requesters s.answers := by
      intro owner here
      rw [requesters, List.mem_dedup]
      rcases List.mem_cons.mp here with same | listed
      · rw [same]
        exact List.mem_map_of_mem member
      · rcases List.mem_map.mp listed with ⟨other, inside, owned⟩
        rcases List.mem_filter.mp inside with ⟨answers, success⟩
        rw [← owned]
        exact List.mem_map_of_mem (apart.known other answers (Option.isSome_iff_ne_none.mp success))
    have length := (List.subperm_of_subset (List.nodup_cons.mpr ⟨absent, distinct⟩) asked).length_le
    have counted := congrArg List.length apart.described.listed
    rw [zoneIDs, List.length_map] at counted
    rw [List.length_cons, owners_length] at length
    omega
  · apply apart.apart.imp
    intro earlier later different same zoneID success
    refine absurd same (different ?_)
    rw [success]
    exact Option.some_ne_none zoneID

/-- An owner that asks again is refused, or gets an id that nobody has. -/
theorem repeated_breaks (apart : Apart s.zones s.answers) (repeats : Repeats s event) :
    ∃ next, enrolStep s event = some next ∧ ¬OneEntryEach next := by
  cases event with
  | enroll zoneID request =>
      rcases repeats with ⟨known, d, found, has⟩
      have answered : (sender s request).isSome := by
        rw [found]
        rfl
      rcases Option.isSome_iff_exists.mp (enroll_total zoneID answered) with ⟨next, stepped⟩
      refine ⟨next, stepped, ?_⟩
      intro each
      rcases enroll_step stepped with ⟨other, decided, response, sent, decides, _, answers, _, read⟩
      rw [found, Option.some.injEq] at sent
      rw [← sent] at answers
      rcases List.exists_mem_of_ne_nil _ has with ⟨first, member⟩
      rcases List.mem_filterMap.mp member with ⟨earlier, inside, given⟩
      rcases List.mem_filter.mp inside with ⟨earlierAnswer, owned⟩
      have listed : first ∈ zoneIDs s.zones.items := by
        rw [apart.described.listed]
        exact List.mem_filterMap.mpr ⟨earlier, earlierAnswer, given⟩
      have earlierSupported := apart.known earlier earlierAnswer (by
        rw [given]
        exact Option.some_ne_none first)
      have pairs := each.same
      rw [answers, supported_append, if_pos known, List.pairwise_append] at pairs
      have again := pairs.2.2 earlier earlierSupported _ (List.mem_singleton_self _)
        (of_decide_eq_true owned) first given
      rw [Answer.granted, Answer.tells, read, Option.bind_some] at again
      cases decides with
      | admitted id after _ _ free _ =>
          rw [if_pos rfl, Option.some.injEq] at again
          rw [← again] at listed
          exact (zone_id_available_iff.mp free).2 listed
      | refused id _ _ =>
          rw [if_neg (of_decide_eq_false rfl)] at again
          cases again
      | unsupported unknown =>
          rw [known] at unknown
          cases unknown
  | other input foreign => exact absurd repeats id

end Runs

/-- The table keeps one item for each owner exactly as long as nobody who has an id asks again. -/
theorem one_entry_each_iff {s : EnrolState} (unused : Unused s) (events : List ZoneEvent) :
    Always enrolStep OneEntryEach s events ↔
      Meets enrolStep (fun s event => ¬Repeats s event) s events := by
  refine @always_iff_meets _ _ enrolStep _ (fun s => Apart s.zones s.answers) _ ?_ ?_ ?_ _
    (apart_unused unused) events
  · intro s apart
    exact apart.one_entry_each
  · intro s event next apart new stepped
    exact apart_step apart new stepped
  · intro s event apart repeats
    exact repeated_breaks apart (not_not.mp repeats)

/-- A contact switch enrols, a second one joins and enrols, and a third request has a type that does
not exist. -/
def contactsOnce : List ZoneEvent := contactsEnrol.take 6

theorem one_entry_each_iff_contact :
    Always enrolStep OneEntryEach contactUnused contactsOnce ↔
      Meets enrolStep (fun s event => ¬Repeats s event) contactUnused contactsOnce :=
  one_entry_each_iff ⟨rfl, rfl⟩ contactsOnce

/-- A contact switch enrols, the app deletes it, it joins and enrols again. -/
def contactReturns : List ZoneEvent :=
  [.enroll 0 contactRequest,
    .deletes contactIeee,
    .joins ⟨1, 1, contactIeee⟩,
    .enroll 0 contactRequest]

/-- The table then has two items for it, with the ids 0 and 1. -/
theorem contact_enrols_twice : ¬Always enrolStep OneEntryEach contactUnused contactReturns := by
  intro always
  have twice : (run enrolStep contactUnused contactReturns).map (fun s =>
      (itemsOf (contactIeee, 2) s).map (·.zone.zoneID)) = some [0, 1] := by
    decide +kernel
  rcases Option.map_eq_some_iff.mp twice with ⟨s, ran, listed⟩
  have one := (always.last ran).one (contactIeee, 2)
  have two := congrArg List.length listed
  rw [List.length_map] at two
  rw [two] at one
  exact absurd one (by decide)

end SmartHome.RepeatedEnrolments
