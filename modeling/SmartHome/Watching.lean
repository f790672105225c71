import SmartHome.SameDevices

/-!
# Notes beside the gateway

Some properties speak about what a device has done last: the address it announced, the
zone type it asked for, the state it acknowledged. An observer beside the gateway keeps
a note for every device and changes the note of the device that an event is about.
-/

namespace SmartHome.Watching

open SmartHome.Library.Mirroring
open SmartHome.Library.Tables
open SmartHome.Library.Runs
open SmartHome.Registry
open SmartHome.ZdoCallbacks
open SmartHome.Sqlitedb
open SmartHome.System
open SmartHome.Transitions
open SmartHome.StepCases

set_option autoImplicit false

structure Watched (Note : Type) where
  state : GatewayState
  notes : UInt64 → Note

section Watching

variable {Note : Type}

/-- A step, and what the observer learns from it about its device. -/
def watch (learn : Gateway → Event → Note → Note) (s : Watched Note) (event : Event) :
    Option (Watched Note) :=
  (step s.state event).map fun next =>
    ⟨next, fun ieee =>
      if subject s.state.gateway event = some ieee then
        learn s.state.gateway event (s.notes ieee)
      else s.notes ieee⟩

/-- The same for an observer who sees more than the gateway does. -/
def follow {Seen : Type} (event : Seen → Event) (learn : Gateway → Seen → Note → Note)
    (s : Watched Note) (seen : Seen) : Option (Watched Note) :=
  (step s.state (event seen)).map fun next =>
    ⟨next, fun ieee =>
      if subject s.state.gateway (event seen) = some ieee then
        learn s.state.gateway seen (s.notes ieee)
      else s.notes ieee⟩

def Noted (related : Note → Device → DeviceRow → Prop) (s : Watched Note) : Prop :=
  Mirrors deviceKey (fun d row => related (s.notes d.ieeeaddr) d row) s.state.gateway.devices
    s.state.table

variable {related : Note → Device → DeviceRow → Prop} {s next : Watched Note}

theorem Noted.device (noted : Noted related s) {d : Device} (member : d ∈ s.state.gateway.devices) :
    ∃ row, related (s.notes d.ieeeaddr) d row := by
  rcases noted.row_of_mem member with ⟨row, _, holds⟩
  exact ⟨row, holds⟩

section Following

variable {Seen : Type} {event : Seen → Event} {learn : Gateway → Seen → Note → Note} {seen : Seen}

/-- The rule for notes: one device at a time, with what is learnt about it. -/
theorem follow_noted (noted : Noted related s) (followed : follow event learn s seen = some next)
    (created : ∀ msg, event seen = .input (.announce msg) →
      gatewayGetdevice s.state.gateway msg.ieeeAddr = none →
      related (learn s.state.gateway seen (s.notes msg.ieeeAddr)) (createdBy msg).device
        (storeCalls (createdBy msg).device (createdBy msg).calls (newRow msg.nwkAddr)))
    (changed : ∀ input d changed row, event seen = .input input →
      s.state.gateway.devices.find? (finds s.state.gateway.gatewayid input) = some d →
      change input d = some changed → related (s.notes d.ieeeaddr) d row →
      related (learn s.state.gateway seen (s.notes d.ieeeaddr)) changed.device
        (storeCalls changed.device changed.calls row))
    (loaded : event seen = .restart → ∀ note d row, related note d row →
      related note (loadRow (deviceKey d, row)) row) : Noted related next := by
  rw [follow, Option.map_eq_some_iff] at followed
  rcases followed with ⟨after, stepped, rfl⟩
  apply step_mirrors_about noted stepped
  · intro d row other holds
    simp only [if_neg other]
    exact holds
  · intro msg same absent
    have ieeeaddr : (createdBy msg).device.ieeeaddr = msg.ieeeAddr := (announced_local msg _).1
    have about : subject s.state.gateway (event seen) = some msg.ieeeAddr := by
      rw [same]
      rfl
    simp only [ieeeaddr, if_pos about]
    exact created msg same absent
  · intro input d after row same here about changes holds
    have stays := change_local (List.find?_some here) changes
    simp only [stays.1, if_pos about]
    exact changed input d after row same here changes holds
  · intro restarts d row holds
    have ieeeaddr : (loadRow (deviceKey d, row)).ieeeaddr = d.ieeeaddr := by
      rw [load_row_ieeeaddr, deviceKey, of_int_bind_key]
    have nobody : subject s.state.gateway (event seen) = none := by
      rw [restarts]
      rfl
    simp only [ieeeaddr, nobody, reduceCtorEq, if_false]
    exact loaded restarts _ d row holds

theorem follow_changed (noted : Noted related s) {input : Input} (same : event seen = .input input)
    {d : Device} {changed : DeviceChange} {row : DeviceRow}
    (here : s.state.gateway.devices.find? (finds s.state.gateway.gatewayid input) = some d)
    (changes : change input d = some changed)
    (stored : s.state.table.lookup (deviceKey d) = some row)
    (followed : follow event learn s seen = some next) :
    changed.device ∈ next.state.gateway.devices ∧
      next.state.table.lookup (deviceKey changed.device) =
        some (storeCalls changed.device changed.calls row) ∧
      next.notes changed.device.ieeeaddr = learn s.state.gateway seen (s.notes d.ieeeaddr) := by
  rw [follow, Option.map_eq_some_iff] at followed
  rcases followed with ⟨after, stepped, rfl⟩
  rw [same] at stepped
  have about : subject s.state.gateway (event seen) = some d.ieeeaddr := by
    rw [same]
    exact subject_found here
  have stays := change_local (List.find?_some here) changes
  have member := List.mem_of_find?_eq_some here
  have key : deviceKey changed.device = deviceKey d := congrArg bindKey stays.1
  cases step_cases noted stepped with
  | created absent devices table =>
      have found : gatewayGetdevice s.state.gateway _ = some d := here
      rw [absent] at found
      cases found
  | deleted devices table => cases List.find?_some here
  | @changed _ other moved deletes found moves devices table =>
      rw [here, Option.some.injEq] at found
      subst found
      rw [changes, Option.some.injEq] at moves
      subst moves
      have after_change := getdevice_modified noted.distinct member stays.1 devices
      refine ⟨List.mem_of_find?_eq_some after_change, ?_, ?_⟩
      · rw [key, table, lookup_update, if_pos rfl, stored]
        rfl
      · rw [stays.1]
        exact if_pos about
  | kept creates deletes missing devices table =>
      rw [here] at missing
      cases missing

end Following

theorem watch_noted {learn : Gateway → Event → Note → Note} {event : Event}
    (noted : Noted related s) (watched : watch learn s event = some next)
    (created : ∀ msg, event = .input (.announce msg) →
      gatewayGetdevice s.state.gateway msg.ieeeAddr = none →
      related (learn s.state.gateway event (s.notes msg.ieeeAddr)) (createdBy msg).device
        (storeCalls (createdBy msg).device (createdBy msg).calls (newRow msg.nwkAddr)))
    (changed : ∀ input d changed row, event = .input input →
      s.state.gateway.devices.find? (finds s.state.gateway.gatewayid input) = some d →
      change input d = some changed → related (s.notes d.ieeeaddr) d row →
      related (learn s.state.gateway event (s.notes d.ieeeaddr)) changed.device
        (storeCalls changed.device changed.calls row))
    (loaded : event = .restart → ∀ note d row, related note d row →
      related note (loadRow (deviceKey d, row)) row) : Noted related next := by
  have followed : follow id learn s event = some next := watched
  exact follow_noted noted followed created changed loaded

end Watching

end SmartHome.Watching
