import SmartHome.Encode
import SmartHome.Library.RecordReader

/-!
# The login message as a snapshot

A decoder written from the documented layout of the login message, with the zone
type behind an IAS zone and the state byte behind an outlet or a shade. It recovers
from the encoder's output the gateway and exactly its active devices.
-/

namespace SmartHome.LoginSnapshot

open SmartHome.Library.Bytes
open SmartHome.Library.CTypes
open SmartHome.Library.RecordReader
open SmartHome.Bytebuffer
open SmartHome.Protocol
open SmartHome.Registry
open SmartHome.WireScan
open SmartHome.Encode

set_option autoImplicit false

inductive Detail
  | none
  | zonetype (value : Nat)
  | state (value : Nat)
  deriving DecidableEq

structure EndpointRecord where
  endpoint : Nat
  deviceTypeID : Nat
  detail : Detail
  deriving DecidableEq

structure DeviceRecord where
  deviceID : Nat
  deviceName : List UInt8
  deviceTypeIDCount : Nat
  endpoints : List EndpointRecord
  deriving DecidableEq

structure LoginMessage where
  length : Nat
  gatewayID : Nat
  gatewayName : List UInt8
  boxVersion : Nat
  protocolVersion : Nat
  deviceCount : Nat
  devices : List DeviceRecord
  deriving DecidableEq

def readName : Reader (List UInt8) := do
  let length ← readNumber 1
  readFixed length

def readDetail (deviceTypeID : Nat) : Reader Detail :=
  if deviceTypeID = 0x0402 then do
    let value ← readNumber 2
    pure (.zonetype value)
  else if deviceTypeID = 0x0009 ∨ deviceTypeID = 0x0200 then do
    let value ← readNumber 1
    pure (.state value)
  else pure .none

def readEndpoint : Reader EndpointRecord := do
  let endpoint ← readNumber 1
  let deviceTypeID ← readNumber 2
  let detail ← readDetail deviceTypeID
  pure ⟨endpoint, deviceTypeID, detail⟩

def readDevice : Reader DeviceRecord := do
  let deviceID ← readNumber 8
  let deviceName ← readName
  let deviceTypeIDCount ← readNumber 1
  let endpoints ← readRepeated readEndpoint deviceTypeIDCount
  pure ⟨deviceID, deviceName, deviceTypeIDCount, endpoints⟩

/-- The message between its start flag and its checksum; the message id must be the login's. -/
def readBody : Reader LoginMessage := do
  let length ← readNumber 2
  let _messageID ← readExpected 2 0x0001
  let gatewayID ← readNumber 6
  let gatewayName ← readName
  let boxVersion ← readNumber 1
  let protocolVersion ← readNumber 1
  let deviceCount ← readNumber 2
  let devices ← readRepeated readDevice deviceCount
  pure ⟨length, gatewayID, gatewayName, boxVersion, protocolVersion, deviceCount, devices⟩

/-- The whole message: both flags, the length of all bytes and the checksum over all bytes in front
of it, and nothing behind the end flag. -/
def decodeLogin (message : List UInt8) : Option LoginMessage :=
  match message with
  | [] => none
  | start :: body =>
      match readBody body with
      | some (login, [checksum, stop]) =>
          if start = 0xCE ∧ stop = 0xCE ∧ login.length = message.length ∧
              checksum = xorSum (message.take (message.length - 2)) then some login
          else none
      | _ => none

def detailOf (e : Endpoint) : Detail :=
  if e.deviceID = zclHaDeviceidIasZone then .zonetype e.simpledesc.zonetype.toNat
  else if e.deviceID = zclHaDeviceidMainsPowerOutlet ∨ e.deviceID = zclHaDeviceidShade then
    .state e.simpledesc.deviceState.toNat
  else .none

def endpointOf (e : Endpoint) : EndpointRecord :=
  ⟨e.number.toNat, e.deviceID.toNat, detailOf e⟩

def deviceOf (d : Device) : DeviceRecord :=
  ⟨d.ieeeaddr.toNat, d.devicename.text, d.eplist.length, d.eplist.map endpointOf⟩

/-- The registry as the login message is meant to show it. -/
def snapshot (gw : Gateway) (length : Nat) : LoginMessage where
  length := length
  gatewayID := gw.gatewayid.toNat % 2 ^ 48
  gatewayName := gw.gatewayname.text
  boxVersion := gw.boxversion.toNat
  protocolVersion := gw.protocolversion.toNat
  deviceCount := (gw.devices.filter isActive).length
  devices := (gw.devices.filter isActive).map deviceOf

theorem reads_byte (d : UInt8) : Reads (readNumber 1) (bytebufferWritebyte d) d.toNat := by
  have read := reads_number 1 d.toNat d.toNat_lt
  have same : toBytesBE 1 d.toNat = bytebufferWritebyte d := by
    simp [toBytesBE, toBytesLE, bytebufferWritebyte]
  rwa [same] at read

theorem reads_word (d : UInt16) : Reads (readNumber 2) (bytebufferWriteword d) d.toNat :=
  reads_number 2 d.toNat d.toNat_lt

theorem reads_quadword (d : UInt64) : Reads (readNumber 8) (bytebufferWritequadword d) d.toNat :=
  reads_number 8 d.toNat d.toNat_lt

theorem reads_name (name : CString maxnamelen) : Reads readName (writeName name) name.text := by
  have length : (UInt8.ofNat name.strlen).toNat = name.strlen :=
    UInt8.toNat_ofNat_of_lt' name.strlen_lt
  have text : bytebufferWritebytes name.text name.strlen = name.text := List.take_length
  have read : Reads readName (bytebufferWritebyte (UInt8.ofNat name.strlen) ++ name.text)
      name.text := by
    apply (reads_byte _).bind
    rw [length]
    exact reads_fixed name.text
  rw [writeName, length, text]
  exact read

theorem reads_detail (e : Endpoint) :
    Reads (readDetail e.deviceID.toNat)
      (if e.deviceID = zclHaDeviceidIasZone then bytebufferWriteword e.simpledesc.zonetype
        else if e.deviceID = zclHaDeviceidMainsPowerOutlet ∨ e.deviceID = zclHaDeviceidShade then
          bytebufferWritebyte e.simpledesc.deviceState
        else [])
      (detailOf e) := by
  have zone : e.deviceID.toNat = 0x0402 ↔ e.deviceID = zclHaDeviceidIasZone :=
    @UInt16.toNat_inj e.deviceID zclHaDeviceidIasZone
  have outlet : e.deviceID.toNat = 0x0009 ↔ e.deviceID = zclHaDeviceidMainsPowerOutlet :=
    @UInt16.toNat_inj e.deviceID zclHaDeviceidMainsPowerOutlet
  have shade : e.deviceID.toNat = 0x0200 ↔ e.deviceID = zclHaDeviceidShade :=
    @UInt16.toNat_inj e.deviceID zclHaDeviceidShade
  simp only [readDetail, detailOf, zone, outlet, shade]
  split_ifs
  · exact (reads_word e.simpledesc.zonetype).map
  · exact (reads_byte e.simpledesc.deviceState).map
  · exact Reads.pure _

theorem reads_endpoint (e : Endpoint) : Reads readEndpoint (loginEndpoint e) (endpointOf e) := by
  rw [loginEndpoint, List.append_assoc]
  exact (reads_byte e.number).bind ((reads_word e.deviceID).bind (reads_detail e).map)

theorem reads_device (d : Device) (few : d.eplist.length < 256) :
    Reads readDevice (loginDevice d) (deviceOf d) := by
  have count : (deviceGetepcount d).toNat = d.eplist.length := by
    rw [device_getepcount_eq]
    exact UInt8.toNat_ofNat_of_lt' few
  have endpoints := reads_repeated d.eplist fun e _ => reads_endpoint e
  rw [loginDevice, List.append_assoc, List.append_assoc]
  apply (reads_quadword d.ieeeaddr).bind
  apply (reads_name d.devicename).bind
  apply (reads_byte (deviceGetepcount d)).bind
  rw [count]
  exact endpoints.map

theorem login_devices_eq (gw : Gateway) :
    (gw.devices.flatMap fun d => if isActive d then loginDevice d else []) =
      (gw.devices.filter isActive).flatMap loginDevice := by
  induction gw.devices with
  | nil => rfl
  | cons d devices induction =>
      rw [List.flatMap_cons, induction, List.filter_cons]
      split <;> rfl

theorem login_device_length (d : Device) : 10 ≤ (loginDevice d).length := by
  simp only [loginDevice, writeName, List.length_append, bytebuffer_writequadword_length,
    bytebuffer_writebyte_length]
  omega

theorem login_devices_length (devices : List Device) :
    devices.length ≤ (devices.flatMap loginDevice).length := by
  induction devices with
  | nil => simp
  | cons d devices induction =>
      have record := login_device_length d
      rw [List.flatMap_cons, List.length_append, List.length_cons]
      omega

def loginFields (gw : Gateway) : List UInt8 :=
  bytebufferWritemac gw.gatewayid ++ (writeName gw.gatewayname ++
    (bytebufferWritebyte gw.boxversion ++ (bytebufferWritebyte gw.protocolversion ++
      (bytebufferWriteword (gatewayGetActiveDeviceCount gw) ++
        (gw.devices.filter isActive).flatMap loginDevice))))

theorem protocol_encode_login_eq (gw : Gateway) :
    protocolEncodeLogin gw = encodeFrame login (loginFields gw) := by
  rw [protocolEncodeLogin, login_devices_eq, loginFields]
  simp only [List.append_assoc]

theorem reads_body (gw : Gateway) (len : UInt16)
    (few : ∀ d ∈ gw.devices, d.eplist.length < 256)
    (count : (gatewayGetActiveDeviceCount gw).toNat = (gw.devices.filter isActive).length) :
    Reads readBody (bytebufferWriteword len ++ (bytebufferWriteword login ++ loginFields gw))
      (snapshot gw len.toNat) := by
  have gatewayID : Reads (readNumber 6) (bytebufferWritemac gw.gatewayid)
      (gw.gatewayid.toNat % 2 ^ 48) := by
    have width : 256 ^ 6 = 2 ^ 48 := by decide
    rw [← width]
    exact reads_number_mod 6 gw.gatewayid.toNat
  have devices := reads_repeated (gw.devices.filter isActive) fun d member =>
    reads_device d (few d (List.mem_of_mem_filter member))
  apply (reads_word len).bind
  apply (reads_expected 2 0x0001 (by decide)).bind
  apply gatewayID.bind
  apply (reads_name gw.gatewayname).bind
  apply (reads_byte gw.boxversion).bind
  apply (reads_byte gw.protocolversion).bind
  apply (reads_word (gatewayGetActiveDeviceCount gw)).bind
  rw [count]
  exact devices.map

theorem decode_login_eq {message body : List UInt8} {sum : UInt8} {login : LoginMessage}
    (start : message = 0xCE :: body) (read : readBody body = some (login, [sum, 0xCE]))
    (length : login.length = message.length)
    (checksum : sum = xorSum (message.take (message.length - 2))) :
    decodeLogin message = some login := by
  subst start
  simp only [decodeLogin, read, true_and]
  exact if_pos ⟨length, checksum⟩

/-- The login message decodes to the snapshot of the registry, and to nothing else. -/
theorem login_decodes (gw : Gateway) (few : ∀ d ∈ gw.devices, d.eplist.length < 256)
    (short : (protocolEncodeLogin gw).length ≤ 65535) :
    decodeLogin (protocolEncodeLogin gw) =
      some (snapshot gw (protocolEncodeLogin gw).length) := by
  rw [protocol_encode_login_eq] at short ⊢
  have length := encode_frame_length login (loginFields gw)
  have count : (gatewayGetActiveDeviceCount gw).toNat =
      (gw.devices.filter isActive).length := by
    have records := login_devices_length (gw.devices.filter isActive)
    have within : ((gw.devices.filter isActive).flatMap loginDevice).length ≤
        (loginFields gw).length := by
      simp only [loginFields, List.length_append]
      omega
    rw [gateway_get_active_device_count_eq, UInt16.toNat_ofNat']
    exact Nat.mod_eq_of_lt (by omega)
  have lenValue : (UInt16.ofNat ((loginFields gw).length + 7)).toNat =
      (encodeFrame login (loginFields gw)).length := by
    rw [UInt16.toNat_ofNat', length]
    exact Nat.mod_eq_of_lt (by omega)
  have body := reads_body gw (UInt16.ofNat ((loginFields gw).length + 7)) few count
  rw [lenValue] at body
  exact decode_login_eq (encode_frame_parts login (loginFields gw)) (body _) rfl rfl

theorem login_decodes_two_contacts :
    decodeLogin (protocolEncodeLogin twoContacts) =
      some { length := 33, gatewayID := 0x0C29A52648, gatewayName := [], boxVersion := 1,
             protocolVersion := 2, deviceCount := 1,
             devices := [⟨0x00137A00000156D3, [], 1, [⟨2, 0x0402, .zonetype 0x0015⟩]⟩] } :=
  login_decodes twoContacts (by decide) (by decide)

end SmartHome.LoginSnapshot
