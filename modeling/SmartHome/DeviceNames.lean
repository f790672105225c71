import SmartHome.Effects
import SmartHome.EventRecvznp
import SmartHome.Library.Decimal
import SmartHome.Library.Tokens

/-!
# Default device names

A device that the app has not named gets a name by its type. The new text is copied
over the front of the name array without its NUL, so what ends it is the byte that
was there before; `stale` are the bytes that earlier names left behind the NUL.
-/

namespace SmartHome.DeviceNames

open SmartHome.Library.CTypes
open SmartHome.Library.Decimal
open SmartHome.Registry
open SmartHome.Effects
open SmartHome.EventRecvznp
open SmartHome.Library.Tokens (tokens)

set_option autoImplicit false

def zclHaDeviceidIasAncillaryControlEquipment : UInt16 := 0x0401

inductive Dn
  | switch
  | socket
  | contact
  | motion
  | gas
  | fire
  | key
  | warn
  | shade
  | bell
  | unknown
  deriving DecidableEq

def utf8Table : Dn → List UInt8
  | .switch => [0xe9, 0x94, 0xae, 0xe5, 0xbc, 0x80, 0xe5, 0x85, 0xb3]
  | .socket => [0xe6, 0x8f, 0x92, 0xe5, 0xba, 0xa7]
  | .contact => [0xe9, 0x97, 0xa8, 0xe7, 0xa3, 0x81]
  | .motion =>
      [0xe7, 0xba, 0xa2, 0xe5, 0xa4, 0x96, 0xe7, 0xa7, 0xbb, 0xe5, 0x8a, 0xa8, 0xe6, 0x8a, 0xa5,
        0xe8, 0xad, 0xa6]
  | .gas =>
      [0xe7, 0x93, 0xa6, 0xe6, 0x96, 0xaf, 0xe4, 0xbc, 0xa0, 0xe6, 0x84, 0x9f, 0xe5, 0x99, 0xa8]
  | .fire =>
      [0xe7, 0x83, 0x9f, 0xe9, 0x9b, 0xbe, 0xe4, 0xbc, 0xa0, 0xe6, 0x84, 0x9f, 0xe5, 0x99, 0xa8]
  | .key => [0xe7, 0xb4, 0xa7, 0xe6, 0x80, 0xa5, 0xe6, 0x8c, 0x89, 0xe9, 0x92, 0xae]
  | .warn => [0xe6, 0x8a, 0xa5, 0xe8, 0xad, 0xa6, 0xe5, 0x99, 0xa8]
  | .shade => [0xe7, 0xaa, 0x97, 0xe5, 0xb8, 0x98]
  | .bell => [0xe9, 0x97, 0xa8, 0xe9, 0x93, 0x83]
  | .unknown => [0xe6, 0x9c, 0xaa, 0xe5, 0x91, 0xbd, 0xe5, 0x90, 0x8d]

/-- The name array: its text, a NUL, and the stale bytes. -/
def nameArray (d : Device) (stale : List UInt8) : List UInt8 := d.devicename.text ++ 0 :: stale

def overwriteName (name array : List UInt8) : List UInt8 := name ++ array.drop name.length

def arrayName (array : List UInt8) : CString maxnamelen := .copy 255 array

def storeDevicename (array : List UInt8) (d : Device) : DeviceOutcome :=
  let d := { d with devicename := arrayName array }
  ⟨d, [.database (.updateDevicename d.ieeeaddr d.devicename.text)]⟩

def devicetypeValid (devicetype : UInt16) : Bool :=
  devicetype = zclHaDeviceidIasAncillaryControlEquipment ∨ devicetype = zclHaDeviceidIasZone ∨
    devicetype = zclHaDeviceidIasWarningDevice ∨ devicetype = zclHaDeviceidShade

/-- The text that `set_devicename` chooses; a zone of another type has none. -/
def defaultName (devicetypeid zonetype : UInt16) : List UInt8 :=
  if devicetypeid = zclHaDeviceidIasZone then
    if zonetype = ssIasZoneTypeContactSwitch then utf8Table .contact
    else if zonetype = ssIasZoneTypeMotionSensor then utf8Table .motion
    else if zonetype = ssIasZoneTypeGasSensor then utf8Table .gas
    else if zonetype = ssIasZoneTypeFireSensor then utf8Table .fire
    else if zonetype = ssIasZoneTypeKeyFob then utf8Table .key
    else []
  else if devicetypeid = zclHaDeviceidIasWarningDevice then utf8Table .warn
  else if devicetypeid = zclHaDeviceidShade then utf8Table .shade
  else if devicetypeid = zclHaDeviceidIasAncillaryControlEquipment then utf8Table .bell
  else utf8Table .unknown

/-- The loop of `init_devicename`: every endpoint of a valid type writes its name over the one
before; a zone that has not enrolled ends the loop. -/
def setDevicenames (array : List UInt8) : List Endpoint → Device → DeviceOutcome
  | [], d => .done d
  | ep :: eps, d =>
      if devicetypeValid ep.deviceID then
        if ep.deviceID = zclHaDeviceidIasZone ∧ ep.simpledesc.zonetype = 0 then .done d
        else
          let array := overwriteName (defaultName ep.deviceID ep.simpledesc.zonetype) array
          (storeDevicename array d).andThen (setDevicenames array eps)
      else setDevicenames array eps d

def initDevicename (stale : List UInt8) (d : Device) : DeviceOutcome :=
  if d.devicename.strlen = 0 then setDevicenames (nameArray d stale) d.eplist d else .done d

/-- "Z809", "SKT" -/
def z809 : List UInt8 := [0x5A, 0x38, 0x30, 0x39]
def skt : List UInt8 := [0x53, 0x4B, 0x54]

def dash : UInt8 := 0x2D

/-- The name of an outlet by its model; without a second token there is nothing to compare, and the
source has no result. -/
def outletName (d : Device) : Option (List UInt8) :=
  let model := d.modelidentifier.text
  if sameCaseless model z809 4 then some (utf8Table .socket)
  else if model.head? = some 0x46 then
    match tokens dash model with
    | _ :: second :: _ => some (if sameCaseless second skt 3 then utf8Table .socket else [])
    | _ => none
  else
    some ((printDecimal d.activeep.activeEPCount.toNat).map (UInt8.ofNat ·.toNat) ++
      utf8Table .switch)

/-- The first endpoint is taken without a check: in front of an empty list's head lies other memory
of the device, and `headDeviceID` is what it holds there. -/
def handleOutletDevicename (stale : List UInt8) (headDeviceID : UInt16) (d : Device) :
    Option DeviceOutcome :=
  let deviceID := (d.eplist.head?.map (·.deviceID)).getD headDeviceID
  if deviceID = zclHaDeviceidMainsPowerOutlet then
    (outletName d).map fun name => storeDevicename (overwriteName name (nameArray d stale)) d
  else some (.done d)

def renamed (names : List (CString maxnamelen)) (d : Device) : DeviceOutcome :=
  ⟨{ d with devicename := names.getLastD d.devicename },
    names.map fun name => .database (.updateDevicename d.ieeeaddr name.text)⟩

theorem renamed_and_then (first second : List (CString maxnamelen)) (d : Device) :
    (renamed first d).andThen (renamed second) = renamed (first ++ second) d := by
  have last : second.getLastD (first.getLastD d.devicename) =
      (first ++ second).getLastD d.devicename := by
    rw [List.getLastD_eq_getLast?, List.getLastD_eq_getLast?, List.getLastD_eq_getLast?,
      List.getLast?_append]
    cases second.getLast? <;> rfl
  simp only [DeviceOutcome.andThen, renamed, last, List.map_append]

theorem set_devicenames_eq (array : List UInt8) (eps : List Endpoint) (d : Device) :
    ∃ names, setDevicenames array eps d = renamed names d := by
  induction eps generalizing array d with
  | nil => exact ⟨[], rfl⟩
  | cons ep eps induction =>
      unfold setDevicenames
      split_ifs with valid unenrolled
      · exact ⟨[], rfl⟩
      · generalize overwriteName (defaultName ep.deviceID ep.simpledesc.zonetype) array = written
        rcases induction written (storeDevicename written d).device with ⟨names, later⟩
        refine ⟨[arrayName written] ++ names, ?_⟩
        rw [← renamed_and_then]
        change (renamed [arrayName written] d).andThen (setDevicenames written eps) = _
        have first : storeDevicename written d = renamed [arrayName written] d := rfl
        rw [first] at later
        simp only [DeviceOutcome.andThen, later]
      · exact induction array d

theorem init_devicename_eq (stale : List UInt8) (d : Device) :
    ∃ names, initDevicename stale d = renamed names d := by
  unfold initDevicename
  split_ifs
  · exact set_devicenames_eq _ _ d
  · exact ⟨[], rfl⟩

theorem handle_outlet_devicename_eq {stale : List UInt8} {headDeviceID : UInt16} {d : Device}
    {outcome : DeviceOutcome} (named : handleOutletDevicename stale headDeviceID d = some outcome) :
    ∃ names, outcome = renamed names d := by
  unfold handleOutletDevicename at named
  dsimp only at named
  split_ifs at named
  · rw [Option.map_eq_some_iff] at named
    rcases named with ⟨name, _, rfl⟩
    exact ⟨[_], rfl⟩
  · rw [Option.some.injEq] at named
    exact ⟨[], named.symm⟩

end SmartHome.DeviceNames
