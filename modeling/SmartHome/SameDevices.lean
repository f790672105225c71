import SmartHome.BlobUpdates
import SmartHome.StepCases

/-!
# The devices in memory and in the table

Devices join by announcing themselves, leave, are deleted by the app, and are loaded
again by a restart. No address is twice in memory, and memory and table hold the same
ones. A device that comes back after its deletion is a new device.
-/

namespace SmartHome.SameDevices

open SmartHome.Library.CTypes
open SmartHome.Library.Tables
open SmartHome.Library.Mirroring
open SmartHome.Library.Runs
open SmartHome.Registry
open SmartHome.PipeMessages
open SmartHome.Effects
open SmartHome.EventRecvmsg
open SmartHome.EndpointBlob
open SmartHome.ZdoCallbacks
open SmartHome.Sqlitedb
open SmartHome.BlobUpdates
open SmartHome.System
open SmartHome.Transitions
open SmartHome.StepCases

set_option autoImplicit false

def MembershipEvent : Event → Prop
  | .input (.announce _) => True
  | .input (.leaveInd _) => True
  | .input (.command _ _ (.delDevice _)) => True
  | .restart => True
  | _ => False

def anyRow (_ : Device) (_ : DeviceRow) : Prop := True

theorem mirrors_step {s next : GatewayState} {event : Event}
    (mirrored : Mirrors deviceKey anyRow s.gateway.devices s.table)
    (stepped : step s event = some next) :
    Mirrors deviceKey anyRow next.gateway.devices next.table := by
  apply step_mirrors mirrored stepped
  · intro msg _ _
    exact trivial
  · intro input d changed row _ _ _ _ _
    exact trivial
  · intro _ d row _
    exact trivial

/-- The same devices on both sides, whatever else their rows hold. -/
theorem reachable_mirrors {allowed : GatewayState → Event → Prop} {s : GatewayState}
    (reachable : Reachable step allowed Fresh s) :
    Mirrors deviceKey anyRow s.gateway.devices s.table := by
  apply reachable.invariant
  · rintro start ⟨devices, table⟩
    rw [devices, table]
    exact Mirrors.empty
  · intro s event next mirrored _ stepped
    exact mirrors_step mirrored stepped

theorem distinct_ieees {gw : Gateway} (distinct : (gw.devices.map deviceKey).Nodup) :
    (gw.devices.map (·.ieeeaddr)).Nodup := by
  have keys : gw.devices.map deviceKey = (gw.devices.map (·.ieeeaddr)).map bindKey := by
    rw [List.map_map]
    rfl
  rw [keys] at distinct
  exact distinct.of_map bindKey

/-- The row of a device that has just announced itself loads with no endpoints. -/
theorem created_row_loads (msg : EndDeviceAnnceIndFormat) :
    (loadRow (bindKey msg.ieeeAddr,
      storeCalls (createdBy msg).device (createdBy msg).calls (newRow msg.nwkAddr))).eplist = [] := by
  have blob : (storeCalls (createdBy msg).device (createdBy msg).calls
      (newRow msg.nwkAddr)).endpoint = List.replicate blobSize 0 := by
    rw [created_by_eq]
    rfl
  rw [load_row_eq (blob ▸ stores_zero) (Nat.zero_le _)]
  rfl

section Membership

variable {s next : GatewayState}

theorem deletion_removes (mirrored : Mirrors deviceKey anyRow s.gateway.devices s.table)
    (host : Host) (fd : Int) (delDevice : DelDevice) :
    ∃ next, step s (.input (.command host fd (.delDevice delDevice))) = some next ∧
      gatewayGetdevice next.gateway delDevice.ieee = none ∧
      next.table.lookup (bindKey delDevice.ieee) = none := by
  have total : (step s (.input (.command host fd (.delDevice delDevice)))).isSome := rfl
  rcases Option.isSome_iff_exists.mp total with ⟨next, stepped⟩
  refine ⟨next, stepped, ?_⟩
  cases step_cases mirrored stepped with
  | deleted devices table =>
      constructor
      · rw [← find_device_key, devices, find_key_erase mirrored.distinct, if_pos rfl]
      · rw [table, lookup_delete, if_pos rfl]
  | changed deletes here changes devices table =>
      have found := List.find?_some here
      cases found
  | kept creates deletes missing devices table =>
      have absent : gatewayGetdevice s.gateway delDevice.ieee = none := not_not.mp deletes
      constructor
      · rw [← absent, gatewayGetdevice, devices, gatewayGetdevice]
      · rw [table]
        exact (mirrored.absent_iff _).mp ((find_device_key s.gateway delDevice.ieee).trans absent)

theorem announcement_creates (mirrored : Mirrors deviceKey anyRow s.gateway.devices s.table)
    {msg : EndDeviceAnnceIndFormat} (absent : gatewayGetdevice s.gateway msg.ieeeAddr = none) :
    ∃ next d loaded, step s (.input (.announce msg)) = some next ∧
      gatewayGetdevice next.gateway msg.ieeeAddr = some d ∧ d.eplist = [] ∧
      d.endpointZonetype = noPending ∧ loadedDevice next.table msg.ieeeAddr = some loaded ∧
      loaded.eplist = [] := by
  have created := created_step mirrored absent
  have noRow : s.table.lookup (bindKey msg.ieeeAddr) = none :=
    (mirrored.absent_iff _).mp ((find_device_key s.gateway msg.ieeeAddr).trans absent)
  refine ⟨_, (createdBy msg).device, _, rfl, created.2.1, ?_, ?_, ?_, created_row_loads msg⟩
  · rw [created_by_eq]
    rfl
  · rw [created_by_eq]
    rfl
  · rw [loadedDevice, created.2.2, lookup_insert _ noRow, if_pos rfl]
    rfl

end Membership

/-- In every run of announcements, deletions, leave indications and restarts, memory and table hold
the same devices, each once; a deletion removes from both, and a later announcement creates anew. -/
theorem memory_and_table_hold_the_same_devices {s : GatewayState}
    (reachable : Reachable step (fun _ event => MembershipEvent event) Fresh s) :
    (s.gateway.devices.map (·.ieeeaddr)).Nodup ∧
      (∀ key, key ∈ s.gateway.devices.map (fun d => bindKey d.ieeeaddr) ↔ key ∈ s.table.keys) ∧
      (∀ host fd (delDevice : DelDevice),
        ∃ next, step s (.input (.command host fd (.delDevice delDevice))) = some next ∧
          gatewayGetdevice next.gateway delDevice.ieee = none ∧
          next.table.lookup (bindKey delDevice.ieee) = none) ∧
      ∀ msg : EndDeviceAnnceIndFormat, gatewayGetdevice s.gateway msg.ieeeAddr = none →
        ∃ next d loaded, step s (.input (.announce msg)) = some next ∧
          gatewayGetdevice next.gateway msg.ieeeAddr = some d ∧ d.eplist = [] ∧
          d.endpointZonetype = noPending ∧ loadedDevice next.table msg.ieeeAddr = some loaded ∧
          loaded.eplist = [] := by
  have mirrored := reachable_mirrors reachable
  refine ⟨distinct_ieees mirrored.distinct, mirrored.mem_keys_iff, ?_, ?_⟩
  · intro host fd delDevice
    exact deletion_removes mirrored host fd delDevice
  · intro msg absent
    exact announcement_creates mirrored absent

/-- Two devices join, one is deleted, leaves and comes back, the gateway restarts and one announces
itself again. -/
def joinsAndReturns : List Event :=
  [.input (.announce ⟨1, 1, 0x00137A00000156D3⟩), .input (.announce ⟨2, 2, 0x00137A00000156D4⟩),
    .input (.command quietHost 5 (.delDevice ⟨0x00137A00000156D3, 1⟩)),
    .input (.leaveInd 0x00137A00000156D3), .input (.announce ⟨3, 3, 0x00137A00000156D3⟩), .restart,
    .input (.announce ⟨4, 4, 0x00137A00000156D4⟩)]

theorem memory_and_table_hold_the_same_devices_join :
    ∃ s : GatewayState, run step ⟨{ twoContacts with devices := [] }, .empty⟩ joinsAndReturns = some s ∧
      s.gateway.devices.length = 2 ∧ (s.gateway.devices.map (·.ieeeaddr)).Nodup ∧
      (∀ key, key ∈ s.gateway.devices.map (fun d => bindKey d.ieeeaddr) ↔ key ∈ s.table.keys) ∧
      ∃ next, step s (.input (.command quietHost 5 (.delDevice ⟨0x00137A00000156D4, 2⟩))) =
          some next ∧ gatewayGetdevice next.gateway 0x00137A00000156D4 = none := by
  have fresh : Fresh ⟨{ twoContacts with devices := [] }, .empty⟩ := ⟨rfl, rfl⟩
  have devices : (run step ⟨{ twoContacts with devices := [] }, .empty⟩ joinsAndReturns).map
      (fun s => s.gateway.devices.length) = some 2 := by
    decide +kernel
  rcases Option.map_eq_some_iff.mp devices with ⟨s, ran, two⟩
  have meets : Meets step (fun _ event => MembershipEvent event)
      ⟨{ twoContacts with devices := [] }, .empty⟩ joinsAndReturns := by
    apply meets_of_forall
    intro event member _
    simp only [joinsAndReturns, List.mem_cons, List.not_mem_nil, or_false] at member
    rcases member with rfl | rfl | rfl | rfl | rfl | rfl | rfl
    all_goals exact trivial
  have same := memory_and_table_hold_the_same_devices (reachable_run (.start fresh) meets ran)
  rcases same.2.2.1 quietHost 5 ⟨0x00137A00000156D4, 2⟩ with ⟨next, deleted, absent, _⟩
  exact ⟨s, ran, two, same.1, same.2.1, next, deleted, absent⟩

end SmartHome.SameDevices
