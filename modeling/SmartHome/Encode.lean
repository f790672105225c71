import SmartHome.PipeMessages
import SmartHome.WireScan

/-!
# The frame encoders

Every `protocol_encode_*` function writes a start flag, a zero length, its message
id and its fields, then goes back to fill in the length, and closes the frame with
the checksum over all bytes so far and the end flag. `encodeFrame` is that shape;
an encoder is `encodeFrame` at its own id and fields. The heartbeat writes its
length as a constant instead.
-/

namespace SmartHome.Encode

open SmartHome.Library.Circular
open SmartHome.Library.Bytes
open SmartHome.Library.CTypes
open SmartHome.Bytebuffer
open SmartHome.Protocol
open SmartHome.Registry
open SmartHome.PipeMessages
open SmartHome.WireScan

set_option autoImplicit false

def login : UInt16 := 0x0001
def heart : UInt16 := 0x0002
def adddeldevice : UInt16 := 0x0005
def alarm : UInt16 := 0x0006
def deviceSetNameFeedback : UInt16 := 0x0008
def delDeviceFeedback : UInt16 := 0x000A
def deviceattribute : UInt16 := 0x000B
def deviceWarningRsp : UInt16 := 0x000D
def deviceArmFeedback : UInt16 := 0x000F
def deviceOnoffRsp : UInt16 := 0x0010
def deviceLevelRsp : UInt16 := 0x0011
def deviceResponse : UInt16 := 0x0013
def statusReport : UInt16 := 0x0015
def readOnoffRsp : UInt16 := 0x0016

/-- The last two bytes: the checksum of what was written and the end flag. -/
def closeFrame (buf : List UInt8) : List UInt8 :=
  buf ++ bytebufferWritebyte (protocolChecksum buf buf.length) ++
    bytebufferWritebyte protocolEndFlag

def encodeFrame (id : UInt16) (fields : List UInt8) : List UInt8 :=
  let buf := bytebufferWritebyte protocolStartFlag ++ bytebufferWriteword 0x0000 ++
    bytebufferWriteword id ++ fields
  let templen := buf.length
  let buf := overwrite buf 1 (bytebufferWriteword (UInt16.ofNat (templen + 2)))
  closeFrame buf

def writeName {size : Nat} (name : CString size) : List UInt8 :=
  let namelen := UInt8.ofNat name.strlen
  bytebufferWritebyte namelen ++ bytebufferWritebytes name.text namelen.toNat

def protocolEncodeHeart (gw : Gateway) : List UInt8 :=
  closeFrame (bytebufferWritebyte protocolStartFlag ++ bytebufferWriteword 0x0D ++
    bytebufferWriteword heart ++ bytebufferWritemac gw.gatewayid)

def loginEndpoint (e : Endpoint) : List UInt8 :=
  bytebufferWritebyte e.number ++ bytebufferWriteword e.deviceID ++
    (if e.deviceID = zclHaDeviceidIasZone then
      bytebufferWriteword e.simpledesc.zonetype
    else if e.deviceID = zclHaDeviceidMainsPowerOutlet ∨ e.deviceID = zclHaDeviceidShade then
      bytebufferWritebyte e.simpledesc.deviceState
    else [])

def loginDevice (d : Device) : List UInt8 :=
  bytebufferWritequadword d.ieeeaddr ++ writeName d.devicename ++
    bytebufferWritebyte (deviceGetepcount d) ++ d.eplist.flatMap loginEndpoint

def protocolEncodeLogin (gw : Gateway) : List UInt8 :=
  encodeFrame login
    (bytebufferWritemac gw.gatewayid ++ writeName gw.gatewayname ++
      bytebufferWritebyte gw.boxversion ++ bytebufferWritebyte gw.protocolversion ++
      bytebufferWriteword (gatewayGetActiveDeviceCount gw) ++
      gw.devices.flatMap fun d => if isActive d then loginDevice d else [])

def epmask : UInt32 := 0xff0000

/-- The zone type kept for an endpoint and the slots with that one cleared. The slot's endpoint is
compared with a `char` that has been converted to `unsigned int`. -/
def findZonetyeFromDevice (sign : CharSign) (slots : Vector UInt32 8) (endpoint : UInt8) :
    UInt16 × Vector UInt32 8 :=
  match slots.findFinIdx? fun slot =>
      (slot &&& epmask) >>> 16 = UInt32.ofInt (charInt sign endpoint) with
  | some i => ((slots[i] &&& ~~~epmask).toUInt16, slots.set i 0)
  | none => (0, slots)

/-- The loop of `protocol_encode_add_del_device` over the endpoints: the bytes, the slots and the
endpoints it leaves behind. -/
def addDelEndpoints (sign : CharSign) :
    List Endpoint → Vector UInt32 8 → List UInt8 × Vector UInt32 8 × List Endpoint
  | [], slots => ([], slots, [])
  | e :: eps, slots =>
      let record := bytebufferWritebyte e.number ++ bytebufferWriteword e.deviceID
      if e.deviceID = zclHaDeviceidIasZone then
        let (zonetype, slots) :=
          if e.simpledesc.zonetype = 0 then findZonetyeFromDevice sign slots e.number
          else (e.simpledesc.zonetype, slots)
        let e := { e with simpledesc := { e.simpledesc with zonetype := zonetype } }
        let (bytes, slots, eps) := addDelEndpoints sign eps slots
        (record ++ bytebufferWriteword zonetype ++ bytes, slots, e :: eps)
      else
        let (bytes, slots, eps) := addDelEndpoints sign eps slots
        (record ++ bytes, slots, e :: eps)

/-- The frame, and the device with the zone types taken over from its slots. The source uses the
device without a check: there is no result when it does not exist. -/
def protocolEncodeAddDelDevice (sign : CharSign) (gw : Gateway) (ieeeaddr : UInt64) (add : UInt8) :
    Option (List UInt8 × Gateway) :=
  match gatewayGetdevice gw ieeeaddr with
  | none => none
  | some d =>
      let (bytes, slots, eps) := addDelEndpoints sign d.eplist d.endpointZonetype
      some (encodeFrame adddeldevice
          (bytebufferWritebyte add ++ bytebufferWritequadword ieeeaddr ++ writeName d.devicename ++
            bytebufferWritebyte (deviceGetepcount d) ++ bytes),
        modifyDevice gw ieeeaddr fun d => { d with endpointZonetype := slots, eplist := eps })

/-- The source asserts that the endpoint exists. -/
def protocolEncodeAlarm (gw : Gateway) (notification : Zclzonechangenotification)
    (ctime : UInt64) : Option (List UInt8) :=
  match gatewayGetEndpoint gw notification.ieeeaddr notification.endpoint with
  | none => none
  | some ep =>
      some (encodeFrame alarm
        (bytebufferWritequadword notification.ieeeaddr ++ bytebufferWritequadword ctime ++
          bytebufferWritebyte notification.endpoint ++ bytebufferWriteword ep.deviceID ++
          (if ep.deviceID = zclHaDeviceidIasZone then bytebufferWriteword ep.simpledesc.zonetype
          else []) ++
          bytebufferWriteword notification.uszonestatus))

theorem protocol_encode_alarm_isSome (gw : Gateway) (notification : Zclzonechangenotification)
    (ctime : UInt64)
    (exists_ : (gatewayGetEndpoint gw notification.ieeeaddr notification.endpoint).isSome = true) :
    (protocolEncodeAlarm gw notification ctime).isSome = true := by
  obtain ⟨ep, found⟩ := Option.isSome_iff_exists.mp exists_
  rw [protocolEncodeAlarm, found]
  rfl

def protocolEncodeArmFeedback (serialNum : UInt32) (ieee : UInt64) (result : UInt8) : List UInt8 :=
  encodeFrame deviceArmFeedback
    (bytebufferWritedword serialNum ++ bytebufferWritequadword ieee ++ bytebufferWritebyte result)

def protocolEncodeDelDeviceFeedback (delDevice : DelDevice) (result : UInt8) : List UInt8 :=
  encodeFrame delDeviceFeedback
    (bytebufferWritedword delDevice.serialnum ++ bytebufferWritequadword delDevice.ieee ++
      bytebufferWritebyte result)

def protocolEncodeDeviceattr (gw : Gateway) (getAttr : GetDeviceAttr) : List UInt8 :=
  encodeFrame deviceattribute
    (bytebufferWritedword getAttr.serialnum ++ bytebufferWritequadword getAttr.ieee ++
      bytebufferWritebyte getAttr.endpoint ++
      match gatewayGetdevice gw getAttr.ieee with
      | none => []
      | some d =>
          bytebufferWriteword d.shortaddr ++
            match deviceGetEndpoint d getAttr.endpoint with
            | none => []
            | some ep =>
                bytebufferWriteword ep.simpledesc.simpledesc.profileID ++
                  bytebufferWritebyte d.zclversion ++ bytebufferWritebyte d.applicationversion ++
                  bytebufferWritebyte d.stackversion ++ bytebufferWritebyte d.hwversion ++
                  writeName d.manufacturername ++ writeName d.modelidentifier ++
                  writeName d.datecode ++ bytebufferWritebyte d.powersource)

def protocolEncodeSetNameFeedback (deviceName : SetDeviceName) (result : UInt8) : List UInt8 :=
  encodeFrame deviceSetNameFeedback
    (bytebufferWritedword deviceName.serialnum ++ bytebufferWritequadword deviceName.ieee ++
      bytebufferWritebyte result ++ bytebufferWritebyte deviceName.namelen ++
      bytebufferWritebytes deviceName.name.toList deviceName.namelen.toNat)

def protocolEncodeGeneralResponse (response : Zclgeneraldefaultresponse) : List UInt8 :=
  encodeFrame deviceResponse
    (bytebufferWritequadword response.ieeeaddr ++ bytebufferWriteword response.clusterid ++
      bytebufferWritebyte response.endpoint ++ bytebufferWritebyte response.cmdInd ++
      bytebufferWritebyte response.status)

/-- The fields that most responses to a command share: serial number, device, endpoint, and two
bytes of their own. -/
def responseFields (serialnum : UInt32) (ieeeaddr : UInt64) (endpoint first second : UInt8) :
    List UInt8 :=
  bytebufferWritedword serialnum ++ bytebufferWritequadword ieeeaddr ++
    bytebufferWritebyte endpoint ++ bytebufferWritebyte first ++ bytebufferWritebyte second

def protocolEncodeOnoffResponse (response : Zclgeneraldefaultresponse) : List UInt8 :=
  encodeFrame deviceOnoffRsp (responseFields response.serialnum response.ieeeaddr
    response.endpoint response.cmdInd response.status)

def protocolEncodeReadonoffResponse (response : Zclreadonoffrsp) : List UInt8 :=
  encodeFrame readOnoffRsp
    (bytebufferWritedword response.serialnum ++ bytebufferWritequadword response.ieeeaddr ++
      bytebufferWritebyte response.endpoint ++ bytebufferWritebyte response.state)

def protocolEncodeLevelResponse (response : Zcllevlctldefaultresponse) : List UInt8 :=
  encodeFrame deviceLevelRsp (responseFields response.serialnum response.ieeeaddr
    response.endpoint response.deviceState response.status)

def protocolEncodeWarningResponse (response : Zclgeneraldefaultresponse) : List UInt8 :=
  encodeFrame deviceWarningRsp (responseFields response.serialnum response.ieeeaddr
    response.endpoint response.cmdInd response.status)

def protocolEncodeReportStatus (status : Zclbasicstatus) : List UInt8 :=
  encodeFrame statusReport
    (bytebufferWritequadword status.ieeeaddr ++ bytebufferWritebyte status.status)

def header (len id : UInt16) : List UInt8 :=
  bytebufferWritebyte protocolStartFlag ++ bytebufferWriteword len ++ bytebufferWriteword id

@[simp] theorem header_length (len id : UInt16) : (header len id).length = 5 := by
  simp [header]

theorem encode_frame_eq (id : UInt16) (fields : List UInt8) :
    encodeFrame id fields =
      closeFrame (header (UInt16.ofNat (fields.length + 7)) id ++ fields) := by
  have templen : (bytebufferWritebyte protocolStartFlag ++ bytebufferWriteword 0x0000 ++
      bytebufferWriteword id ++ fields).length + 2 = fields.length + 7 := by
    simp only [List.length_append, bytebuffer_writebyte_length, bytebuffer_writeword_length]
    omega
  rw [encodeFrame, templen]
  rfl

@[simp] theorem close_frame_length (buf : List UInt8) :
    (closeFrame buf).length = buf.length + 2 := by
  simp [closeFrame]

theorem encode_frame_length (id : UInt16) (fields : List UInt8) :
    (encodeFrame id fields).length = fields.length + 7 := by
  rw [encode_frame_eq, close_frame_length, List.length_append, header_length]
  omega

/-- Everything but the checksum and the end flag. -/
theorem close_frame_take (buf : List UInt8) :
    (closeFrame buf).take ((closeFrame buf).length - 2) = buf := by
  rw [close_frame_length, Nat.add_sub_cancel, closeFrame, List.append_assoc, List.take_left]

theorem close_frame_eq (buf : List UInt8) (nonempty : buf ≠ []) :
    closeFrame buf = buf ++ [xorSum buf, 0xCE] := by
  have checksum := xor_sum_eq_checksum buf buf.length (List.length_pos_of_ne_nil nonempty) nonempty
  rw [List.take_length] at checksum
  rw [closeFrame, checksum, List.append_assoc]
  rfl

theorem close_frame_sealed (buf : List UInt8) (nonempty : buf ≠ []) :
    Sealed (closeFrame buf) (closeFrame buf).length := by
  rw [Sealed, close_frame_take, close_frame_length, Nat.add_sub_cancel, close_frame_eq buf nonempty]
  constructor
  · rw [List.getD_append_right _ _ _ _ le_rfl, Nat.sub_self]
    rfl
  · have last : buf.length + 2 - 1 - buf.length = 1 := by omega
    rw [List.getD_append_right _ _ _ _ (by omega), last]
    rfl

/-- A frame from its start flag to its checksum over all bytes in front of that. -/
theorem encode_frame_parts (id : UInt16) (fields : List UInt8) :
    encodeFrame id fields =
      0xCE :: (bytebufferWriteword (UInt16.ofNat (fields.length + 7)) ++
        (bytebufferWriteword id ++ fields) ++
        [xorSum ((encodeFrame id fields).take ((encodeFrame id fields).length - 2)), 0xCE]) := by
  rw [encode_frame_eq, close_frame_take, close_frame_eq _ (by simp [header, bytebufferWritebyte])]
  simp [header, bytebufferWritebyte, protocolStartFlag]

theorem header_fields (len id : UInt16) (later : List UInt8) :
    (header len id ++ later).headD 0 = 0xCE ∧ lengthField (header len id ++ later) = len.toNat ∧
      idField (header len id ++ later) = id := by
  refine ⟨rfl, ?_, ?_⟩
  · rw [length_field_eq, header, bytebufferWritebyte, List.append_assoc, List.append_assoc,
      List.singleton_append, List.drop_one, List.tail_cons, bytebuffer_getword_writeword]
  · have tail : (header len id ++ later).drop 3 = bytebufferWriteword id ++ later := by
      rw [header, List.append_assoc, List.drop_left' (by simp)]
    change bytebufferGetword ((header len id ++ later).drop 3) = id
    rw [tail, bytebuffer_getword_writeword]

theorem close_frame_complete (len id : UInt16) (fields : List UInt8)
    (counted : len.toNat = fields.length + 7) (nonempty : 1 ≤ fields.length)
    (bound : fields.length + 7 ≤ 2048) :
    CompleteFrame id (closeFrame (header len id ++ fields)) := by
  have front : closeFrame (header len id ++ fields) = header len id ++ (fields ++
      (bytebufferWritebyte (protocolChecksum (header len id ++ fields)
        (header len id ++ fields).length) ++ bytebufferWritebyte protocolEndFlag)) := by
    simp only [closeFrame, List.append_assoc]
  have length : (closeFrame (header len id ++ fields)).length = fields.length + 7 := by
    rw [close_frame_length, List.length_append, header_length]
    omega
  obtain ⟨start, lengthValue, idValue⟩ := header_fields len id (fields ++
      (bytebufferWritebyte (protocolChecksum (header len id ++ fields)
        (header len id ++ fields).length) ++ bytebufferWritebyte protocolEndFlag))
  rw [← front] at start lengthValue idValue
  exact ⟨start, by rw [lengthValue, length, counted], by omega, by omega,
    close_frame_sealed _ (by simp [header, bytebufferWritebyte]), idValue⟩

theorem encode_frame_complete (id : UInt16) (fields : List UInt8) (nonempty : 1 ≤ fields.length)
    (bound : (encodeFrame id fields).length ≤ 2048) : CompleteFrame id (encodeFrame id fields) := by
  rw [encode_frame_length] at bound
  rw [encode_frame_eq]
  apply close_frame_complete _ _ _ _ nonempty bound
  rw [UInt16.toNat_ofNat']
  exact Nat.mod_eq_of_lt (by omega)

theorem protocol_encode_heart_complete (gw : Gateway) :
    CompleteFrame heart (protocolEncodeHeart gw) :=
  close_frame_complete 0x0D heart (bytebufferWritemac gw.gatewayid)
    (by rw [bytebuffer_writemac_length]; rfl) (by simp) (by simp)

end SmartHome.Encode
