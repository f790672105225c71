import SmartHome.Library.AddressBook
import SmartHome.SameDevices

/-!
# Short addresses

Incoming messages name their sender by its short address, and the first device in list
order that has the address is taken for it. Nothing takes the address away from a device
when another one announces it, so the first device need not be the last announcer.
-/

namespace SmartHome.ShortAddresses

open SmartHome.Library.CTypes
open SmartHome.Library.Mirroring
open SmartHome.Library.Runs
open SmartHome.Library.AddressBook
open SmartHome.Registry
open SmartHome.PipeMessages
open SmartHome.Effects
open SmartHome.EventRecvznp
open SmartHome.EventRecvmsg
open SmartHome.ZdoCallbacks
open SmartHome.Sqlitedb
open SmartHome.System
open SmartHome.Transitions
open SmartHome.StepCases
open SmartHome.SameDevices

set_option autoImplicit false

inductive AddressEvent
  | announce (msg : EndDeviceAnnceIndFormat)
  | leave (extAddr : UInt64)
  | delete (host : Host) (fd : Int) (delDevice : DelDevice)

def AddressEvent.event : AddressEvent → Event
  | .announce msg => .input (.announce msg)
  | .leave extAddr => .input (.leaveInd extAddr)
  | .delete host fd delDevice => .input (.command host fd (.delDevice delDevice))

def addresses (gw : Gateway) : Book UInt64 UInt16 :=
  gw.devices.map fun d => (d.ieeeaddr, d.shortaddr)

def ownerAfter (owner : Owner UInt64 UInt16) : AddressEvent → Owner UInt64 UInt16
  | .announce msg => owner.take msg.ieeeAddr msg.nwkAddr
  | .leave _ => owner
  | .delete _ _ delDevice => owner.release delDevice.ieee

/-- The gateway, and beside it the device that each address really belongs to. -/
structure Observed where
  state : GatewayState
  owner : Owner UInt64 UInt16

def observe (s : Observed) (event : AddressEvent) : Option Observed :=
  (step s.state event.event).map fun next => ⟨next, ownerAfter s.owner event⟩

def Attributed (s : Observed) : Prop :=
  ∀ shortaddr, (gatewayGetdeviceShortaddr s.state.gateway shortaddr).map (·.ieeeaddr) =
    s.owner shortaddr

/-- No device in front of the announcer has the announced address, and no device that gives up its
address, or is deleted, was in front of another one that has the same. -/
def Undisturbed (s : Observed) : AddressEvent → Prop
  | .announce msg =>
      Unshadowed msg.ieeeAddr msg.nwkAddr (addresses s.state.gateway) ∧
        ∀ other, other ≠ msg.nwkAddr → ¬Uncovers msg.ieeeAddr other (addresses s.state.gateway)
  | .leave _ => True
  | .delete _ _ delDevice =>
      ∀ shortaddr, ¬Uncovers delDevice.ieee shortaddr (addresses s.state.gateway)

theorem holder_addresses (gw : Gateway) (shortaddr : UInt16) :
    holder (addresses gw) shortaddr =
      (gatewayGetdeviceShortaddr gw shortaddr).map (·.ieeeaddr) := by
  rw [holder, addresses, List.find?_map, Option.map_map]
  rfl

theorem attributed_iff (s : Observed) :
    Attributed s ↔ Agrees (addresses s.state.gateway) s.owner := by
  unfold Attributed Agrees
  simp only [holder_addresses]

theorem addresses_distinct {gw : Gateway} (distinct : (gw.devices.map deviceKey).Nodup) :
    ((addresses gw).map (·.1)).Nodup := by
  rw [addresses, List.map_map]
  exact distinct_ieees distinct

theorem announced_shortaddr (msg : EndDeviceAnnceIndFormat) (d : Device) :
    (announced msg d).device.shortaddr = msg.nwkAddr := by
  rw [announced_eq]
  rfl

theorem addresses_modify {devices : List Device} {d after : Device} (member : d ∈ devices)
    (kept : after.ieeeaddr = d.ieeeaddr) :
    (modifyFirst (deviceKey · = deviceKey d) (fun _ => after) devices).map
        (fun d => (d.ieeeaddr, d.shortaddr)) =
      assign d.ieeeaddr after.shortaddr (devices.map fun d => (d.ieeeaddr, d.shortaddr)) := by
  induction devices with
  | nil => exact absurd member List.not_mem_nil
  | cons head rest induction =>
      rw [List.map_cons, assign, modifyFirst]
      by_cases same : head.ieeeaddr = d.ieeeaddr
      · have key : deviceKey head = deviceKey d := congrArg bindKey same
        simp [same, key, kept]
      · have key : deviceKey head ≠ deviceKey d := fun equal => same (bind_key_inj.mp equal)
        have later : d ∈ rest := by
          rcases List.mem_cons.mp member with here | later
          · exact absurd (congrArg Device.ieeeaddr here.symm) same
          · exact later
        simp [same, key, induction later]

def bookAfter (book : Book UInt64 UInt16) : AddressEvent → Book UInt64 UInt16
  | .announce msg => assign msg.ieeeAddr msg.nwkAddr book
  | .leave _ => book
  | .delete _ _ delDevice => remove delDevice.ieee book

section Steps

variable {s next : GatewayState}

theorem mem_addresses_none {gw : Gateway} {ieee : UInt64}
    (absent : gatewayGetdevice gw ieee = none) : ieee ∉ (addresses gw).map (·.1) := by
  rw [addresses, List.map_map, List.mem_map]
  rintro ⟨d, member, same⟩
  exact absurd same (by simpa using List.find?_eq_none.mp absent d member)

theorem addresses_announce (mirrored : Mirrors deviceKey anyRow s.gateway.devices s.table)
    {msg : EndDeviceAnnceIndFormat} (stepped : step s (.input (.announce msg)) = some next) :
    addresses next.gateway = assign msg.ieeeAddr msg.nwkAddr (addresses s.gateway) := by
  cases step_cases mirrored stepped with
  | created absent devices table =>
      rw [assign_append (mem_addresses_none absent), addresses, devices, List.map_append,
        created_by_eq]
      rfl
  | @changed input d after deletes here changes devices table =>
      have found := List.find?_some here
      have same : d.ieeeaddr = msg.ieeeAddr := of_decide_eq_true found
      have stays := change_local found changes
      rw [change, Option.some.injEq] at changes
      have moved : after.device.shortaddr = msg.nwkAddr := by
        rw [← changes]
        exact announced_shortaddr msg d
      rw [addresses, devices, addresses_modify (List.mem_of_find?_eq_some here) stays.1, same, moved]
      rfl
  | kept creates deletes missing devices table => exact absurd missing creates

theorem addresses_leave (mirrored : Mirrors deviceKey anyRow s.gateway.devices s.table)
    {extAddr : UInt64} (stepped : step s (.input (.leaveInd extAddr)) = some next) :
    addresses next.gateway = addresses s.gateway := by
  cases step_cases mirrored stepped with
  | @changed input d after deletes here changes devices table =>
      have member := List.mem_of_find?_eq_some here
      rw [change, Option.some.injEq] at changes
      have entry : (d.ieeeaddr, d.shortaddr) ∈ addresses s.gateway := List.mem_map_of_mem member
      have left : after.device = leaveDevice d := congrArg DeviceChange.device changes.symm
      have same : (leaveDevice d).ieeeaddr = d.ieeeaddr := rfl
      rw [addresses, devices, left, addresses_modify member same]
      exact assign_self (addresses_distinct mirrored.distinct) entry
  | kept creates deletes missing devices table => rw [addresses, devices, addresses]

theorem addresses_delete (mirrored : Mirrors deviceKey anyRow s.gateway.devices s.table)
    {host : Host} {fd : Int} {delDevice : DelDevice}
    (stepped : step s (.input (.command host fd (.delDevice delDevice))) = some next) :
    addresses next.gateway = remove delDevice.ieee (addresses s.gateway) := by
  cases step_cases mirrored stepped with
  | deleted devices table =>
      have search : (fun d => decide (deviceKey d = bindKey delDevice.ieee)) =
          fun d : Device => decide (d.ieeeaddr = delDevice.ieee) := by
        funext d
        exact decide_eq_decide.mpr (device_key_eq_iff d delDevice.ieee)
      rw [addresses, devices, search, remove, addresses, List.eraseP_map]
      rfl
  | changed deletes here changes devices table => cases List.find?_some here
  | kept creates deletes missing devices table =>
      have absent : gatewayGetdevice s.gateway delDevice.ieee = none := not_not.mp deletes
      rw [remove_absent (mem_addresses_none absent), addresses, devices, addresses]

theorem addresses_step (mirrored : Mirrors deviceKey anyRow s.gateway.devices s.table)
    {event : AddressEvent} (stepped : step s event.event = some next) :
    addresses next.gateway = bookAfter (addresses s.gateway) event := by
  cases event with
  | announce msg => exact addresses_announce mirrored stepped
  | leave extAddr => exact addresses_leave mirrored stepped
  | delete host fd delDevice => exact addresses_delete mirrored stepped

end Steps

/-- Whether the search still agrees after an event is decided before it. -/
theorem agrees_after {book : Book UInt64 UInt16} {owner : Owner UInt64 UInt16}
    (distinct : (book.map (·.1)).Nodup) (agrees : Agrees book owner) (event : AddressEvent) :
    Agrees (bookAfter book event) (ownerAfter owner event) ↔
      match event with
      | .announce msg =>
          Unshadowed msg.ieeeAddr msg.nwkAddr book ∧
            ∀ other, other ≠ msg.nwkAddr → ¬Uncovers msg.ieeeAddr other book
      | .leave _ => True
      | .delete _ _ delDevice => ∀ shortaddr, ¬Uncovers delDevice.ieee shortaddr book := by
  cases event with
  | announce msg => exact agrees_assign distinct agrees msg.ieeeAddr msg.nwkAddr
  | leave extAddr => exact iff_of_true agrees trivial
  | delete host fd delDevice => exact agrees_remove distinct agrees delDevice.ieee

theorem observe_some (s : Observed) (event : AddressEvent) :
    ∃ next, step s.state event.event = some next ∧
      observe s event = some ⟨next, ownerAfter s.owner event⟩ := by
  have total : ∃ next, step s.state event.event = some next := by
    cases event with
    | announce msg => exact ⟨_, rfl⟩
    | leave extAddr => exact ⟨_, rfl⟩
    | delete host fd delDevice => exact ⟨_, rfl⟩
  rcases total with ⟨next, stepped⟩
  refine ⟨next, stepped, ?_⟩
  rw [observe, stepped]
  rfl

def Tracked (s : Observed) : Prop :=
  Mirrors deviceKey anyRow s.state.gateway.devices s.state.table ∧ Attributed s

theorem attributed_after {s : Observed} (tracked : Tracked s) {event : AddressEvent}
    {next : GatewayState} (stepped : step s.state event.event = some next) :
    Attributed ⟨next, ownerAfter s.owner event⟩ ↔ Undisturbed s event := by
  have agrees := (attributed_iff s).mp tracked.2
  rw [attributed_iff, addresses_step tracked.1 stepped,
    agrees_after (addresses_distinct tracked.1.distinct) agrees]
  cases event <;> rfl

/-- In a run of announcements, leave indications and deletions, a short address identifies the
device that announced it last exactly as long as every step is undisturbed. -/
theorem short_address_identifies_last_announcer_iff {s : GatewayState} (fresh : Fresh s)
    (events : List AddressEvent) :
    Always observe Attributed ⟨s, Owner.nobody⟩ events ↔
      Meets observe Undisturbed ⟨s, Owner.nobody⟩ events := by
  have initial : Tracked ⟨s, Owner.nobody⟩ := by
    refine ⟨reachable_mirrors (.start fresh : Reachable step (fun _ _ => True) Fresh s), ?_⟩
    rw [attributed_iff, addresses, fresh.1]
    exact agrees_nobody
  apply always_iff_meets (fun _ tracked => tracked.2) _ _ initial
  · intro s event after tracked undisturbed observed
    rcases observe_some s event with ⟨next, stepped, same⟩
    rw [same, Option.some.injEq] at observed
    rw [← observed]
    exact ⟨mirrors_step tracked.1 stepped, (attributed_after tracked stepped).mpr undisturbed⟩
  · intro s event tracked disturbed
    rcases observe_some s event with ⟨next, stepped, same⟩
    exact ⟨_, same, fun attributed => disturbed ((attributed_after tracked stepped).mp attributed)⟩

def freshGateway : GatewayState := ⟨{ twoContacts with devices := [] }, .empty⟩

def firstSwitch : UInt64 := 0x00137A00000156D3
def secondSwitch : UInt64 := 0x00137A00000156D4

/-- The second switch joins with an address of its own. -/
theorem short_address_identifies_last_announcer_iff_two :
    Always observe Attributed ⟨freshGateway, Owner.nobody⟩
      [.announce ⟨1, 1, firstSwitch⟩, .announce ⟨2, 2, secondSwitch⟩] := by
  apply (short_address_identifies_last_announcer_iff (⟨rfl, rfl⟩ : Fresh freshGateway) _).mpr
  have alone : ∀ msg : EndDeviceAnnceIndFormat,
      Undisturbed ⟨freshGateway, Owner.nobody⟩ (.announce msg) := by
    intro msg
    constructor
    · intro entry member
      cases member
    · rintro other _ ⟨⟨member, _⟩, _⟩
      cases member
  refine ⟨alone _, ?_⟩
  intro next joined
  have book : addresses next.state.gateway = [(firstSwitch, 1)] := by
    rw [← Option.some.inj joined]
    rfl
  refine ⟨?_, fun _ _ => trivial⟩
  rw [Undisturbed, book]
  constructor
  · decide
  · rintro other _ ⟨⟨member, _⟩, _⟩
    have same : secondSwitch = firstSwitch := congrArg Prod.fst (List.mem_singleton.mp member)
    exact absurd same (by decide)

/-- The second switch announces the address of the first, and messages from there are taken for the
first one's. -/
theorem short_address_of_two_devices :
    ¬∀ events, Always observe Attributed ⟨freshGateway, Owner.nobody⟩ events := by
  intro always
  have both := always [.announce ⟨1, 1, firstSwitch⟩, .announce ⟨1, 1, secondSwitch⟩]
  have last := ((both.2 _ rfl).2 _ rfl).first
  have found := last 1
  revert found
  decide

end SmartHome.ShortAddresses
