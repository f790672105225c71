import SmartHome.Library.CTypes

/-!
# The device registry of `gateway.c`

The gateway holds its devices in list order, a device its endpoints in the order
their descriptors arrived. A pointer that a lookup returns is the first match in
that order.
-/

namespace SmartHome.Registry

open SmartHome.Library.CTypes

set_option autoImplicit false

def maxnamelen : Nat := 256

def deviceAppDel : UInt32 := 1
def deviceSendActiveep : UInt32 := 8
def deviceSendSimpledesc : UInt32 := 16
def deviceGetActiveep : UInt32 := 32
def deviceGetSimpledesc : UInt32 := 64
def deviceActive : UInt32 := 128
def deviceLeaveNet : UInt32 := 1024

def zclHaDeviceidMainsPowerOutlet : UInt16 := 0x0009
def zclHaDeviceidShade : UInt16 := 0x0200
def zclHaDeviceidIasZone : UInt16 := 0x0402
def zclHaDeviceidIasWarningDevice : UInt16 := 0x0403

/-- `SimpleDescRspFormat_t` as the coordinator delivers it. -/
structure SimpleDescRspFormat where
  srcAddr : UInt16
  status : UInt8
  nwkAddr : UInt16
  len : UInt8
  endpoint : UInt8
  profileID : UInt16
  deviceID : UInt16
  deviceVersion : UInt8
  numInClusters : UInt8
  inClusterList : Vector UInt16 16
  numOutClusters : UInt8
  outClusterList : Vector UInt16 16
  deriving DecidableEq

/-- `ActiveEpRspFormat_t`: the first `activeEPCount` places of the list are filled. -/
structure ActiveEpRspFormat where
  srcAddr : UInt16
  status : UInt8
  nwkAddr : UInt16
  activeEPCount : UInt8
  activeEPList : Vector UInt8 77
  deriving DecidableEq

structure Arm where
  armmodel : UInt8
  starthour : UInt8
  startminute : UInt8
  endhour : UInt8
  endminute : UInt8
  deriving DecidableEq

structure Simpledesc where
  simpledesc : SimpleDescRspFormat
  zonetype : UInt16
  arm : Arm
  zclTransnum : UInt8
  deviceState : UInt8
  deriving DecidableEq

structure Endpoint where
  simpledesc : Simpledesc
  record : UInt8
  deriving DecidableEq

namespace Endpoint

def number (ep : Endpoint) : UInt8 := ep.simpledesc.simpledesc.endpoint

def deviceID (ep : Endpoint) : UInt16 := ep.simpledesc.simpledesc.deviceID

end Endpoint

/-- `struct device` without its list links and its time stamp. -/
structure Device where
  ieeeaddr : UInt64
  shortaddr : UInt16
  devicename : CString maxnamelen
  status : UInt32
  zclversion : UInt8
  applicationversion : UInt8
  stackversion : UInt8
  hwversion : UInt8
  manufacturername : CString 33
  modelidentifier : CString 33
  datecode : CString 17
  powersource : UInt8
  endpointZonetype : Vector UInt32 8
  epcursor : UInt8
  activeep : ActiveEpRspFormat
  eplist : List Endpoint
  deriving DecidableEq

def noActiveep : ActiveEpRspFormat := ⟨0, 0, 0, 0, Vector.replicate 77 0⟩

def noName : CString maxnamelen := .empty (by decide)

def noText : CString 33 := .empty (by decide)

def noDate : CString 17 := .empty (by decide)

def noPending : Vector UInt32 8 := Vector.replicate 8 0

structure Gateway where
  gatewayid : UInt64
  gatewayname : CString maxnamelen
  boxversion : UInt8
  protocolversion : UInt8
  devices : List Device
  deriving DecidableEq

def deviceCheckStatus (d : Device) (status : UInt32) : Bool := d.status &&& status ≠ 0

/-- The count is an `unsigned char`. -/
def deviceGetepcount (d : Device) : UInt8 := d.eplist.foldl (fun count _ => count + 1) 0

def deviceGetEndpoint (d : Device) (endpoint : UInt8) : Option Endpoint :=
  d.eplist.find? (·.number = endpoint)

/-- The position in the list; the source says -1 when there is none. -/
def deviceGetIndex (d : Device) (endpoint : UInt8) : Option Nat :=
  d.eplist.findIdx? (·.number = endpoint)

def numbers (d : Device) : List UInt8 := d.eplist.map (·.number)

def deviceHasEnpoint (d : Device) (endpoint : UInt8) : Bool := d.eplist.any (·.number = endpoint)

def endpointCreate (simpledesc : Simpledesc) : Endpoint := ⟨simpledesc, 0⟩

/-- A slot that holds the zone type of an endpoint whose descriptor has not arrived. -/
def pendingFor (endpoint : UInt8) (slot : UInt32) : Bool :=
  slot ≠ 0 ∧ slot >>> 16 = endpoint.toUInt32

/-- The endpoint takes over what is pending for it, the highest slot last, and goes to the end. -/
def deviceAddendpoint (d : Device) (ep : Endpoint) : Device :=
  let zonetype := d.endpointZonetype.foldl
    (fun zonetype slot =>
      if pendingFor ep.number slot then (slot &&& 0x00FF).toUInt16 else zonetype)
    ep.simpledesc.zonetype
  { d with
    endpointZonetype := d.endpointZonetype.map fun slot =>
      if pendingFor ep.number slot then 0 else slot
    eplist := d.eplist ++ [{ ep with simpledesc := { ep.simpledesc with zonetype } }] }

def deviceSetep (d : Device) (activeep : ActiveEpRspFormat) : Device := { d with activeep }

/-- A `memset` device with its two addresses. -/
def deviceCreate (deviceieee : UInt64) (shortaddr : UInt16) : Device where
  ieeeaddr := deviceieee
  shortaddr := shortaddr
  devicename := noName
  status := 0
  zclversion := 0
  applicationversion := 0
  stackversion := 0
  hwversion := 0
  manufacturername := noText
  modelidentifier := noText
  datecode := noDate
  powersource := 0
  endpointZonetype := noPending
  epcursor := 0
  activeep := noActiveep
  eplist := []

def deviceCreate2 (ieee : UInt64) (shortaddr : UInt16) (name : CString maxnamelen)
    (status zclversion applicationversion stackversion hwversion : UInt8)
    (manufacturername modelidentifier : CString 33) (datecode : CString 17) : Device :=
  { deviceCreate ieee shortaddr with
    devicename := name
    status := status.toUInt32
    zclversion, applicationversion, stackversion, hwversion
    manufacturername, modelidentifier, datecode }

def gatewayGetdevice (gw : Gateway) (ieee : UInt64) : Option Device :=
  gw.devices.find? (·.ieeeaddr = ieee)

/-- The first device in list order with this network address. -/
def gatewayGetdeviceShortaddr (gw : Gateway) (shortaddr : UInt16) : Option Device :=
  gw.devices.find? (·.shortaddr = shortaddr)

def gatewayAdddevice (gw : Gateway) (d : Device) : Gateway :=
  { gw with devices := gw.devices ++ [d] }

def gatewayGetEndpoint (gw : Gateway) (ieee : UInt64) (endpoint : UInt8) : Option Endpoint :=
  (gatewayGetdevice gw ieee).bind (deviceGetEndpoint · endpoint)

/-- Neither deleted by the app nor gone from the network. -/
def isActive (d : Device) : Bool :=
  !deviceCheckStatus d deviceAppDel && !deviceCheckStatus d deviceLeaveNet

/-- The count is an `unsigned short`. -/
def gatewayGetActiveDeviceCount (gw : Gateway) : UInt16 :=
  gw.devices.foldl (fun count d => if isActive d then count + 1 else count) 0

def isDeviceDeleted (gw : Gateway) (ieee : UInt64) : Bool :=
  match gatewayGetdevice gw ieee with
  | some dev => deviceCheckStatus dev deviceAppDel
  | none => true

/-- Writing through the pointer that `gateway_getdevice` returns. -/
def modifyDevice (gw : Gateway) (ieee : UInt64) (change : Device → Device) : Gateway :=
  { gw with devices := modifyFirst (·.ieeeaddr = ieee) change gw.devices }

/-- Writing through the pointer that `device_get_endpoint` returns. -/
def modifyEndpoint (d : Device) (endpoint : UInt8) (change : Endpoint → Endpoint) : Device :=
  { d with eplist := modifyFirst (·.number = endpoint) change d.eplist }

theorem gateway_getdevice_ieeeaddr {gw : Gateway} {ieee : UInt64} {d : Device}
    (found : gatewayGetdevice gw ieee = some d) : d.ieeeaddr = ieee := by
  have holds := List.find?_some found
  exact of_decide_eq_true holds

theorem device_get_endpoint_number {d : Device} {endpoint : UInt8} {ep : Endpoint}
    (found : deviceGetEndpoint d endpoint = some ep) : ep.number = endpoint := by
  have holds := List.find?_some found
  exact of_decide_eq_true holds

theorem gateway_getdevice_modify (gw : Gateway) (ieee : UInt64) (change : Device → Device)
    (kept : ∀ d, (change d).ieeeaddr = d.ieeeaddr) :
    gatewayGetdevice (modifyDevice gw ieee change) ieee =
      (gatewayGetdevice gw ieee).map change := by
  apply find_modify_first
  intro d found
  rw [kept]
  exact found

theorem device_get_endpoint_modify (d : Device) (endpoint : UInt8) (change : Endpoint → Endpoint)
    (kept : ∀ ep, (change ep).number = ep.number) :
    deviceGetEndpoint (modifyEndpoint d endpoint change) endpoint =
      (deviceGetEndpoint d endpoint).map change := by
  apply find_modify_first
  intro ep found
  rw [kept]
  exact found

theorem gateway_get_endpoint_modify (gw : Gateway) (ieee : UInt64) (endpoint : UInt8)
    (change : Endpoint → Endpoint) (kept : ∀ ep, (change ep).number = ep.number) :
    gatewayGetEndpoint (modifyDevice gw ieee (modifyEndpoint · endpoint change)) ieee endpoint =
      (gatewayGetEndpoint gw ieee endpoint).map change := by
  rw [gatewayGetEndpoint, gateway_getdevice_modify gw ieee (modifyEndpoint · endpoint change)
    fun _ => rfl, gatewayGetEndpoint]
  cases gatewayGetdevice gw ieee with
  | none => rfl
  | some d => exact device_get_endpoint_modify d endpoint change kept

theorem device_addendpoint_no_pending {d : Device} (none : d.endpointZonetype = noPending)
    (ep : Endpoint) : deviceAddendpoint d ep = { d with eplist := d.eplist ++ [ep] } := by
  have kept : (noPending.map fun slot => if pendingFor ep.number slot then 0 else slot) =
      noPending := by
    simp [noPending]
  have unchanged : noPending.foldl (fun zonetype slot =>
      if pendingFor ep.number slot then (slot &&& 0x00FF).toUInt16 else zonetype)
      ep.simpledesc.zonetype = ep.simpledesc.zonetype := rfl
  rw [deviceAddendpoint, none, kept, unchanged, ← none]

theorem device_check_status_eq (d : Device) (status : UInt32) :
    deviceCheckStatus d status = flagSet d.status status := rfl

theorem device_has_enpoint_iff (d : Device) (endpoint : UInt8) :
    deviceHasEnpoint d endpoint = true ↔ endpoint ∈ numbers d := by
  rw [deviceHasEnpoint, numbers, List.any_eq_true, List.mem_map]
  simp only [decide_eq_true_eq]

theorem numbers_addendpoint (d : Device) (ep : Endpoint) :
    numbers (deviceAddendpoint d ep) = numbers d ++ [ep.number] := by
  rw [numbers, deviceAddendpoint, List.map_append]
  rfl

theorem gateway_get_endpoint_eq {gw : Gateway} {ieee : UInt64} {d : Device}
    (found : gatewayGetdevice gw ieee = some d) (endpoint : UInt8) :
    gatewayGetEndpoint gw ieee endpoint = deviceGetEndpoint d endpoint := by
  rw [gatewayGetEndpoint, found]
  rfl

theorem is_device_deleted_eq_false (gw : Gateway) (ieee : UInt64) :
    isDeviceDeleted gw ieee = false ↔
      ∃ d, gatewayGetdevice gw ieee = some d ∧ deviceCheckStatus d deviceAppDel = false := by
  unfold isDeviceDeleted
  cases gatewayGetdevice gw ieee with
  | none => simp
  | some d => simp

theorem device_getepcount_eq (d : Device) :
    deviceGetepcount d = UInt8.ofNat d.eplist.length := by
  have counted : ∀ (eps : List Endpoint) (count : UInt8),
      eps.foldl (fun count _ => count + 1) count = count + UInt8.ofNat eps.length := by
    intro eps
    induction eps with
    | nil => simp
    | cons ep eps induction =>
        intro count
        rw [List.foldl_cons, induction, List.length_cons, UInt8.ofNat_add, UInt8.add_assoc,
          UInt8.add_comm 1]
        rfl
  rw [deviceGetepcount, counted, UInt8.zero_add]

theorem gateway_get_active_device_count_eq (gw : Gateway) :
    gatewayGetActiveDeviceCount gw = UInt16.ofNat (gw.devices.filter isActive).length := by
  have counted : ∀ (devices : List Device) (count : UInt16),
      devices.foldl (fun count d => if isActive d then count + 1 else count) count =
        count + UInt16.ofNat (devices.filter isActive).length := by
    intro devices
    induction devices with
    | nil => simp
    | cons d devices induction =>
        intro count
        rw [List.foldl_cons, induction, List.filter_cons]
        split_ifs with active
        · rw [List.length_cons, UInt16.ofNat_add, UInt16.add_assoc, UInt16.add_comm 1]
          rfl
        · rfl
  rw [gatewayGetActiveDeviceCount, counted, UInt16.zero_add]

def contactEndpoint : Endpoint where
  record := 0
  simpledesc :=
    { zonetype := 0x0015
      arm := ⟨0, 0, 0, 0, 0⟩
      zclTransnum := 0
      deviceState := 0
      simpledesc :=
        { srcAddr := 1
          status := 0
          nwkAddr := 1
          len := 0
          endpoint := 2
          profileID := 0x0104
          deviceID := zclHaDeviceidIasZone
          deviceVersion := 0
          numInClusters := 0
          inClusterList := Vector.replicate 16 0
          numOutClusters := 0
          outClusterList := Vector.replicate 16 0 } }

def contactSwitch (ieeeaddr : UInt64) (status : UInt32) : Device where
  ieeeaddr := ieeeaddr
  shortaddr := 1
  devicename := noName
  status := status
  zclversion := 0
  applicationversion := 0
  stackversion := 0
  hwversion := 0
  manufacturername := .empty (by decide)
  modelidentifier := .empty (by decide)
  datecode := .empty (by decide)
  powersource := 0
  endpointZonetype := Vector.replicate 8 0
  epcursor := 0
  activeep := noActiveep
  eplist := [contactEndpoint]

/-- A contact switch that has joined, and one the app has deleted. -/
def twoContacts : Gateway where
  gatewayid := 0x0C29A52648
  gatewayname := noName
  boxversion := 1
  protocolversion := 2
  devices := [contactSwitch 0x00137A00000156D3 0, contactSwitch 0x00137A00000156D4 deviceAppDel]

end SmartHome.Registry
