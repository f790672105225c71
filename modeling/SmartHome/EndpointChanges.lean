import SmartHome.StepCases

/-!
# What a step does to the endpoints of a device

Most inputs touch only the transaction numbers and the arm records of the endpoints.
Four do more: a descriptor adds an endpoint, an enroll request sets a zone type, the
report of a device takes over the waiting types, a level command sets a state.
-/

namespace SmartHome.EndpointChanges

open SmartHome.Library.CTypes
open SmartHome.Library.Mirroring
open SmartHome.Registry
open SmartHome.PipeMessages
open SmartHome.Parse
open SmartHome.Effects
open SmartHome.Encode
open SmartHome.EventRecvmsg
open SmartHome.EventRecvznp
open SmartHome.ZdoCallbacks
open SmartHome.DeviceNames
open SmartHome.BasicAttributes
open SmartHome.ZnpResponses
open SmartHome.System
open SmartHome.Transitions
open SmartHome.StepCases

set_option autoImplicit false

/-- An input of the many that leave the endpoints alone but for numbers and arm records. -/
def Quiet : Input → Prop
  | .simpleDescRsp _ => False
  | .enrollRequest _ _ _ => False
  | .znp _ (.zoneEnrollReq _) => False
  | .command _ _ (.levelCtrl _) => False
  | _ => True

inductive Loud : Input → Prop
  | simpleDescRsp (msg : SimpleDescRspFormat) : Loud (.simpleDescRsp msg)
  | enrollRequest (srcAddr : UInt16) (srcEndpoint : UInt8) (zoneType : UInt16) :
      Loud (.enrollRequest srcAddr srcEndpoint zoneType)
  | report (host : ZnpHost) (ieeeaddr : UInt64) : Loud (.znp host (.zoneEnrollReq ieeeaddr))
  | levelCtrl (host : Host) (fd : Int) (levelCtrl : LevelCtrlIeee) :
      Loud (.command host fd (.levelCtrl levelCtrl))

theorem quiet_or_loud (input : Input) : Quiet input ∨ Loud input := by
  cases input with
  | simpleDescRsp msg => exact Or.inr (.simpleDescRsp msg)
  | enrollRequest srcAddr srcEndpoint zoneType =>
      exact Or.inr (.enrollRequest srcAddr srcEndpoint zoneType)
  | znp host message =>
      cases message with
      | zoneEnrollReq ieeeaddr => exact Or.inr (.report host ieeeaddr)
      | _ => exact Or.inl trivial
  | command host fd command =>
      cases command with
      | levelCtrl levelCtrl => exact Or.inr (.levelCtrl host fd levelCtrl)
      | _ => exact Or.inl trivial
  | _ => exact Or.inl trivial

def Arms : Input → Prop
  | .command _ _ (.setArm _) => True
  | _ => False

def setArmRecord (ep : Endpoint) (arm : Arm) : Endpoint :=
  { ep with simpledesc := { ep.simpledesc with arm } }

section Quiet

variable {Value : Type*} {value : Endpoint → Value}

structure Untouched (value : Endpoint → Value) (d after : Device) : Prop where
  endpoints : after.eplist.map value = d.eplist.map value
  slots : after.endpointZonetype = d.endpointZonetype

theorem Untouched.refl (d : Device) : Untouched value d d := ⟨rfl, rfl⟩

theorem renumbered_map (transnum : ∀ ep number, value (setTransnum ep number) = value ep)
    (eps : List Endpoint) (number : UInt8) :
    (eps.map (setTransnum · number)).map value = eps.map value := by
  rw [List.map_map]
  exact List.map_congr_left fun ep _ => transnum ep number

theorem modified_map {change : Endpoint → Endpoint} (kept : ∀ ep, value (change ep) = value ep)
    (d : Device) (endpoint : UInt8) :
    (modifyEndpoint d endpoint change).eplist.map value = d.eplist.map value :=
  map_key_modify change _ (fun ep _ => kept ep) d.eplist

theorem announced_untouched (transnum : ∀ ep number, value (setTransnum ep number) = value ep)
    (msg : EndDeviceAnnceIndFormat) (d : Device) : Untouched value d (announced msg d).device := by
  rw [announced_eq]
  refine ⟨?_, rfl⟩
  change (announcedEndpoints d).map value = _
  unfold announcedEndpoints
  split_ifs
  · exact renumbered_map transnum d.eplist 0
  · rfl

theorem active_ep_untouched (msg : ActiveEpRspFormat) (d : Device) :
    Untouched value d (activeEpRsp msg d).device := by
  unfold activeEpRsp
  split_ifs
  · exact .refl d
  · exact ⟨rfl, rfl⟩

theorem basic_attributes_untouched {message : BasicMessage} {d : Device} {outcome : DeviceOutcome}
    (handled : BasicAttributes.basicAttributes message d = some outcome) :
    Untouched value d outcome.device := by
  rcases basic_attributes_eq handled with ⟨attributes, names, rfl⟩
  exact ⟨rfl, rfl⟩

theorem accept_zone_change_untouched
    (transnum : ∀ ep number, value (setTransnum ep number) = value ep) (sign : CharSign)
    (req : Zclzonechangenotification) (d : Device) :
    Untouched value d (acceptZoneChange sign req d).device := by
  unfold acceptZoneChange
  split
  · exact .refl d
  · split
    · exact .refl d
    · split
      · exact ⟨modified_map (fun ep => transnum ep req.transNum) d req.endpoint, rfl⟩
      · exact .refl d

theorem accept_level_rsp_device (response : Zcllevlctldefaultresponse) (d : Device) :
    (acceptLevelRsp response d).device = d := by
  unfold acceptLevelRsp
  split
  · rfl
  · split
    · rfl
    · rfl

theorem znp_untouched (transnum : ∀ ep number, value (setTransnum ep number) = value ep)
    (host : ZnpHost) {message : ZnpMessage} (quiet : Quiet (.znp host message)) (d : Device) :
    Untouched value d (znpChange host message d).device := by
  cases message with
  | zoneEnrollReq ieeeaddr => exact False.elim quiet
  | zoneChangeNotification req => exact accept_zone_change_untouched transnum host.sign req d
  | genLevelCtlRsp response =>
      rw [znpChange, accept_level_rsp_device]
      exact .refl d
  | _ => exact .refl d

theorem command_untouched {host : Host} {fd : Int} {command : Command}
    (arm : Arms (.command host fd command) → ∀ ep record, value (setArmRecord ep record) = value ep)
    (quiet : Quiet (.command host fd command)) (d : Device) :
    Untouched value d (commandChange command d).device := by
  cases command with
  | levelCtrl levelCtrl => exact False.elim quiet
  | setArm parsed =>
      rw [commandChange]
      split
      · exact ⟨modified_map (fun ep => arm trivial ep parsed.arm) d parsed.endpoint, rfl⟩
      · exact .refl d
  | setDeviceName deviceName => exact ⟨rfl, rfl⟩
  | _ => exact .refl d

theorem quiet_untouched (transnum : ∀ ep number, value (setTransnum ep number) = value ep)
    {input : Input} (arm : Arms input → ∀ ep record, value (setArmRecord ep record) = value ep)
    (quiet : Quiet input) {d : Device} {changed : DeviceChange}
    (changes : change input d = some changed) : Untouched value d changed.device := by
  cases input with
  | announce msg =>
      rw [change, Option.some.injEq] at changes
      exact changes ▸ announced_untouched transnum msg d
  | activeEpRsp msg =>
      rw [change, Option.some.injEq] at changes
      exact changes ▸ active_ep_untouched msg d
  | simpleDescRsp msg => exact False.elim quiet
  | leaveInd extAddr =>
      rw [change, Option.some.injEq] at changes
      exact changes ▸ ⟨renumbered_map transnum d.eplist 0, rfl⟩
  | enrollRequest srcAddr srcEndpoint zoneType => exact False.elim quiet
  | basicAttributes message =>
      rw [change, Option.map_eq_some_iff] at changes
      rcases changes with ⟨outcome, handled, rfl⟩
      exact basic_attributes_untouched handled
  | znp host message =>
      rw [change, Option.some.injEq] at changes
      exact changes ▸ znp_untouched transnum host quiet d
  | command host fd command =>
      rw [change, Option.some.injEq] at changes
      exact changes ▸ command_untouched arm quiet d

end Quiet

def setZonetypeRecord (ep : Endpoint) (zonetype : UInt16) : Endpoint :=
  { ep with simpledesc := { ep.simpledesc with zonetype } }

section Loud

variable {Value : Type*} {value : Endpoint → Value}

theorem set_zonetype_map (ignored : ∀ ep zonetype, value (setZonetypeRecord ep zonetype) = value ep)
    (endpoint : UInt8) (zonetype : UInt16) (d : Device) :
    (deviceSetZonetype endpoint zonetype d).device.eplist.map value = d.eplist.map value := by
  unfold deviceSetZonetype
  split
  · exact modified_map (fun ep => ignored ep zonetype) d endpoint
  · split
    · rfl
    · rfl

theorem add_del_endpoints_map
    (ignored : ∀ ep zonetype, value (setZonetypeRecord ep zonetype) = value ep) (sign : CharSign)
    (eps : List Endpoint) (slots : Vector UInt32 8) :
    (addDelEndpoints sign eps slots).2.2.map value = eps.map value := by
  induction eps generalizing slots with
  | nil => rfl
  | cons ep eps induction =>
      unfold addDelEndpoints
      dsimp only
      split_ifs
      · rw [List.map_cons, induction, List.map_cons]
        exact congrArg (· :: eps.map value) (ignored ep _)
      · rw [List.map_cons, induction, List.map_cons]
      · rw [List.map_cons, induction, List.map_cons]

theorem report_map (ignored : ∀ ep zonetype, value (setZonetypeRecord ep zonetype) = value ep)
    (host : ZnpHost) (d : Device) :
    (reportDevice host d).device.eplist.map value = d.eplist.map value := by
  unfold reportDevice
  split_ifs
  · rfl
  · rcases name_new_device_eq host.stale d with ⟨names, named⟩
    have whole : (takeOverZonetypes host.sign (nameNewDevice host.stale d).device).eplist =
        (addDelEndpoints host.sign d.eplist d.endpointZonetype).2.2 := by
      rw [named]
      rfl
    change (takeOverZonetypes host.sign _).eplist.map value = _
    rw [whole]
    exact add_del_endpoints_map ignored host.sign d.eplist d.endpointZonetype

theorem level_map (ignored : ∀ ep state, value (setDeviceState ep state) = value ep)
    (levelCtrl : LevelCtrlIeee) (d : Device) :
    (levelEndpoint levelCtrl d).eplist.map value = d.eplist.map value := by
  unfold levelEndpoint
  split_ifs
  · rfl
  · exact modified_map (fun ep => ignored ep _) d levelCtrl.endpoint

end Loud

def endpointsAndSlots (d : Device) : List Endpoint × Vector UInt32 8 :=
  (d.eplist, d.endpointZonetype)

theorem count_endpoint_eplist (endpoint : UInt8) (d : Device) :
    endpointsAndSlots (countEndpoint endpoint d) = endpointsAndSlots d := by
  unfold countEndpoint
  split_ifs
  · rfl
  · rfl

theorem simple_desc_endpoints (msg : SimpleDescRspFormat) (d : Device) :
    endpointsAndSlots (simpleDescRsp msg d).device =
        endpointsAndSlots (deviceAddendpoint d (describedEndpoint msg)) ∨
      endpointsAndSlots (simpleDescRsp msg d).device = endpointsAndSlots d := by
  have counted := count_endpoint_eplist msg.endpoint d
  have added : endpointsAndSlots
      (deviceAddendpoint (countEndpoint msg.endpoint d) (describedEndpoint msg)) =
        endpointsAndSlots (deviceAddendpoint d (describedEndpoint msg)) := by
    rcases Prod.ext_iff.mp counted with ⟨eplist, slots⟩
    change (countEndpoint msg.endpoint d).eplist = d.eplist at eplist
    change (countEndpoint msg.endpoint d).endpointZonetype = d.endpointZonetype at slots
    unfold endpointsAndSlots deviceAddendpoint
    rw [eplist, slots]
  unfold simpleDescRsp
  dsimp only
  split_ifs
  · exact Or.inl added
  · exact Or.inl added
  · exact Or.inr counted

end SmartHome.EndpointChanges
