import SmartHome.PipeMessages
import SmartHome.Zcl

/-!
# What a handler does to the outside

A handler changes the registry and, in order, sends frames, writes to the pipes
between the threads, commands the radio, and calls the database and the clock. Each
such call is recorded; what it returned to the handler is part of the handler's input.
-/

namespace SmartHome.Effects

open SmartHome.Library.CTypes
open SmartHome.Registry
open SmartHome.PipeMessages
open SmartHome.Zcl

set_option autoImplicit false

inductive DatabaseCall
  | updateGatewayname (mac : UInt64) (name : List UInt8)
  | updateDevicename (ieee : UInt64) (name : List UInt8)
  | updateDeviceStatus (ieee : UInt64) (status : UInt32)
  | updateDeviceArm (ieee : UInt64) (endpoint : UInt8) (arm : Arm)
  | updateDeviceSeq (ieee : UInt64) (endpoint : UInt8) (seq : UInt8)
  | deleteDevice (ieee : UInt64)
  | insertDeviceIeee (ieee : UInt64) (shortaddr : UInt16)
  | updateDeviceShortaddr (ieee : UInt64) (shortaddr : UInt16)
  | updateDeviceEndpoint (d : Device)
  | updateDeviceEndpointZonetype (ieee : UInt64) (endpoint : UInt8) (zonetype : UInt16)
  | updateDeviceState (ieee : UInt64) (endpoint : UInt8) (state : UInt8)
  | updateDeviceAttr (d : Device)
  deriving DecidableEq

/-- The two device object commands that the discovery sends to the coordinator. -/
inductive ZdoRequest
  | activeEpReq (dstAddr nwkAddrOfInterest : UInt16)
  | simpleDescReq (dstAddr nwkAddrOfInterest : UInt16) (endpoint : UInt8)
  deriving DecidableEq

inductive Effect
  | send (fd : Int) (frame : List UInt8)
  | broadcast (frame : List UInt8)
  | pipe (command : ZnpCommand)
  | database (call : DatabaseCall)
  | settimeofday (seconds : UInt32)
  | zdo (request : ZdoRequest)
  | zclSendRead (request : DataRequest)
  | zoneEnrollReq (ieeeaddr : UInt64)
  deriving DecidableEq

/-- The registry and what was done to the outside so far. -/
structure Outcome where
  gateway : Gateway
  effects : List Effect

/-- What a handler does to the one device it has a pointer to. -/
structure DeviceOutcome where
  device : Device
  effects : List Effect

def DeviceOutcome.done (d : Device) : DeviceOutcome := ⟨d, []⟩

def DeviceOutcome.andThen (first : DeviceOutcome) (next : Device → DeviceOutcome) :
    DeviceOutcome :=
  ⟨(next first.device).device, first.effects ++ (next first.device).effects⟩

def atDevice (gw : Gateway) (found : Device → Bool) (handler : Device → DeviceOutcome) : Outcome :=
  match gw.devices.find? found with
  | none => ⟨gw, []⟩
  | some d =>
      ⟨{ gw with devices := modifyFirst found (fun d => (handler d).device) gw.devices },
        (handler d).effects⟩

theorem at_device_split {gw : Gateway} {front rest : List Device} {d : Device}
    {found : Device → Bool} (devices : gw.devices = front ++ d :: rest)
    (missed : ∀ other ∈ front, found other = false) (here : found d = true)
    (handler : Device → DeviceOutcome) :
    atDevice gw found handler =
      ⟨{ gw with devices := front ++ (handler d).device :: rest }, (handler d).effects⟩ := by
  have none : front.find? found = none := by
    rw [List.find?_eq_none]
    intro other member
    rw [missed other member]
    exact Bool.false_ne_true
  have search : gw.devices.find? found = some d := by
    rw [devices, List.find?_append, none, List.find?_cons_of_pos here]
    rfl
  have written : modifyFirst found (fun d => (handler d).device) gw.devices =
      front ++ (handler d).device :: rest := by
    rw [devices, modify_first_append none, modifyFirst, if_pos here]
  rw [atDevice, search]
  simp only [written]

def tryAtDevice (gw : Gateway) (found : Device → Bool)
    (handler : Device → Option DeviceOutcome) : Option Outcome :=
  match gw.devices.find? found with
  | none => some ⟨gw, []⟩
  | some d =>
      (handler d).map fun outcome =>
        ⟨{ gw with devices := modifyFirst found (fun _ => outcome.device) gw.devices },
          outcome.effects⟩

def databaseCalls (effects : List Effect) : List DatabaseCall :=
  effects.filterMap fun effect =>
    match effect with
    | .database call => some call
    | _ => none

@[simp] theorem database_calls_append (first second : List Effect) :
    databaseCalls (first ++ second) = databaseCalls first ++ databaseCalls second :=
  List.filterMap_append

end SmartHome.Effects
