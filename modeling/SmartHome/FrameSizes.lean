import SmartHome.LoginSnapshot
import SmartHome.ShortAddresses
import SmartHome.System

/-!
# The frames and the arrays they are written to

An encoder is passed no size: its caller has to pass an array that is large enough. The
frames of a fixed layout always are shorter. A login message grows with the devices, and
the report of a device with its name and its endpoints, and nothing bounds these.
-/

namespace SmartHome.FrameSizes

open SmartHome.Library.CTypes
open SmartHome.Library.Runs
open SmartHome.Bytebuffer
open SmartHome.Registry
open SmartHome.PipeMessages
open SmartHome.Parse
open SmartHome.Effects
open SmartHome.Encode
open SmartHome.EventRecvmsg
open SmartHome.EventRecvznp
open SmartHome.ZdoCallbacks
open SmartHome.BasicAttributes
open SmartHome.DeviceNames
open SmartHome.ZnpResponses
open SmartHome.Sqlitedb
open SmartHome.System
open SmartHome.Transitions
open SmartHome.LoginSnapshot
open SmartHome.ShortAddresses

set_option autoImplicit false

/-- What runs encoders: the handlers, here with any results of the database, and the two commands of
the local socket that send a frame. A restart loads whatever the table holds. -/
inductive Call
  | input (input : Input)
  | heartbeat
  | cesend (serverfd : Int)
  | restart (table : DeviceTable)

def perform (gw : Gateway) : Call → Option Outcome
  | .input (.command host fd command) =>
      let state := handleCommand host fd command (stateOf gw)
      some ⟨state.gateway, state.effects⟩
  | .input input => handle gw input
  | .heartbeat => some ⟨gw, [.broadcast (protocolEncodeHeart gw)]⟩
  | .cesend serverfd =>
      some ⟨gw, if serverfd = -1 then [] else [.send serverfd (protocolEncodeLogin gw)]⟩
  | .restart table => some ⟨sqlitedbLoadDevice table { gw with devices := [] }, []⟩

def advance (gw : Gateway) (call : Call) : Option Gateway := (perform gw call).map (·.gateway)

def frameOf : Effect → Option (List UInt8)
  | .send _ frame => some frame
  | .broadcast frame => some frame
  | _ => none

def frames (effects : List Effect) : List (List UInt8) := effects.filterMap frameOf

/-- The array that each case passes to its encoder. -/
def commandRoom : Command → Nat
  | .appLogin => 2048
  | .setDeviceName _ => 512
  | .getDeviceAttr _ => 512
  | _ => 128

def room : Call → Nat
  | .input (.command _ _ command) => commandRoom command
  | .input _ => 128
  | .heartbeat => 255
  | .cesend _ => 2048
  | .restart _ => 0

def Fits (gw : Gateway) (call : Call) : Prop :=
  ∀ outcome, perform gw call = some outcome →
    ∀ frame ∈ frames outcome.effects, frame.length ≤ room call

def loginEndpointSize (e : Endpoint) : Nat :=
  if e.deviceID = zclHaDeviceidIasZone then 5
  else if e.deviceID = zclHaDeviceidMainsPowerOutlet ∨ e.deviceID = zclHaDeviceidShade then 4
  else 3

def loginDeviceSize (d : Device) : Nat :=
  10 + d.devicename.strlen + (d.eplist.map loginEndpointSize).sum

/-- The names and the endpoints of all devices that the login message shows. -/
def loginSize (gw : Gateway) : Nat :=
  18 + gw.gatewayname.strlen + ((gw.devices.filter isActive).map loginDeviceSize).sum

def reportEndpointSize (e : Endpoint) : Nat := if e.deviceID = zclHaDeviceidIasZone then 5 else 3

def reportSize (d : Device) : Nat :=
  18 + d.devicename.strlen + (d.eplist.map reportEndpointSize).sum

/-- The registry is small enough for the message that is asked for. A device without a name has one
by the time it is encoded. -/
def Small (gw : Gateway) : Call → Prop
  | .input (.command _ _ .appLogin) => loginSize gw ≤ 2048
  | .cesend serverfd => serverfd = -1 ∨ loginSize gw ≤ 2048
  | .input (.znp host (.zoneEnrollReq ieeeaddr)) =>
      ∀ d, gatewayGetdevice gw ieeeaddr = some d → deviceCheckStatus d deviceAppDel = false →
        reportSize (nameNewDevice host.stale d).device ≤ 128
  | _ => True

section Encoders

variable {size : Nat}

theorem write_name_length (name : CString maxnamelen) :
    (writeName name).length = 1 + name.strlen := by
  have length : (UInt8.ofNat name.strlen).toNat = name.strlen :=
    UInt8.toNat_ofNat_of_lt' name.strlen_lt
  have text : bytebufferWritebytes name.text name.strlen = name.text := List.take_length
  rw [writeName, length, text, List.length_append, bytebuffer_writebyte_length]
  rfl

theorem write_name_length_le (name : CString size) : (writeName name).length ≤ size := by
  have bytes : (bytebufferWritebytes name.text (UInt8.ofNat name.strlen).toNat).length ≤
      name.text.length := List.length_take_le' _ _
  have fits := name.fits
  rw [writeName, List.length_append, bytebuffer_writebyte_length]
  omega

theorem login_endpoint_length (e : Endpoint) : (loginEndpoint e).length = loginEndpointSize e := by
  unfold loginEndpoint loginEndpointSize
  split_ifs
  · simp
  · simp
  · simp

theorem flat_map_length {Item : Type*} {write : Item → List UInt8} {sizeOf : Item → Nat}
    (length : ∀ item, (write item).length = sizeOf item) (items : List Item) :
    (items.flatMap write).length = (items.map sizeOf).sum := by
  rw [List.length_flatMap]
  exact congrArg List.sum (List.map_congr_left fun item _ => length item)

theorem login_device_size (d : Device) : (loginDevice d).length = loginDeviceSize d := by
  rw [loginDevice, List.length_append, List.length_append, List.length_append,
    bytebuffer_writequadword_length, write_name_length, bytebuffer_writebyte_length,
    flat_map_length login_endpoint_length, loginDeviceSize]
  omega

theorem login_length (gw : Gateway) : (protocolEncodeLogin gw).length = loginSize gw := by
  rw [protocol_encode_login_eq, encode_frame_length, loginFields]
  simp only [List.length_append, bytebuffer_writemac_length, bytebuffer_writebyte_length,
    bytebuffer_writeword_length, write_name_length, flat_map_length login_device_size]
  rw [loginSize]
  omega

theorem add_del_endpoints_length (sign : CharSign) (eps : List Endpoint) (slots : Vector UInt32 8) :
    (addDelEndpoints sign eps slots).1.length = (eps.map reportEndpointSize).sum := by
  induction eps generalizing slots with
  | nil => rfl
  | cons e eps induction =>
      rw [addDelEndpoints, List.map_cons, List.sum_cons, reportEndpointSize]
      by_cases zone : e.deviceID = zclHaDeviceidIasZone
      · rw [if_pos zone, if_pos zone]
        simp only [List.length_append, bytebuffer_writebyte_length, bytebuffer_writeword_length,
          induction]
      · rw [if_neg zone, if_neg zone]
        simp only [List.length_append, bytebuffer_writebyte_length, bytebuffer_writeword_length,
          induction]

theorem add_del_length {gw after : Gateway} {ieeeaddr : UInt64} {d : Device}
    (here : gatewayGetdevice gw ieeeaddr = some d) {sign : CharSign} {add : UInt8}
    {frame : List UInt8}
    (encoded : protocolEncodeAddDelDevice sign gw ieeeaddr add = some (frame, after)) :
    frame.length = reportSize d := by
  rw [protocolEncodeAddDelDevice, here, Option.some.injEq, Prod.mk.injEq] at encoded
  rw [← encoded.1, encode_frame_length]
  simp only [List.length_append, bytebuffer_writequadword_length, bytebuffer_writebyte_length,
    write_name_length, add_del_endpoints_length]
  rw [reportSize]
  omega

theorem alarm_length {gw : Gateway} {notification : Zclzonechangenotification} {ctime : UInt64}
    {frame : List UInt8} (encoded : protocolEncodeAlarm gw notification ctime = some frame) :
    frame.length ≤ 128 := by
  unfold protocolEncodeAlarm at encoded
  split at encoded
  · cases encoded
  · rw [Option.some.injEq] at encoded
    rw [← encoded, encode_frame_length]
    split_ifs
    · simp
    · simp

theorem deviceattr_length (gw : Gateway) (getAttr : GetDeviceAttr) :
    (protocolEncodeDeviceattr gw getAttr).length ≤ 512 := by
  rw [protocolEncodeDeviceattr, encode_frame_length]
  simp only [List.length_append, bytebuffer_writedword_length, bytebuffer_writequadword_length,
    bytebuffer_writebyte_length]
  split
  · simp
  · rename_i d found
    simp only [List.length_append, bytebuffer_writeword_length]
    split
    · simp
    · have manufacturername := write_name_length_le d.manufacturername
      have modelidentifier := write_name_length_le d.modelidentifier
      have datecode := write_name_length_le d.datecode
      simp only [List.length_append, bytebuffer_writeword_length, bytebuffer_writebyte_length]
      omega

theorem set_name_feedback_length (deviceName : SetDeviceName) (result : UInt8) :
    (protocolEncodeSetNameFeedback deviceName result).length ≤ 512 := by
  have name : (bytebufferWritebytes deviceName.name.toList deviceName.namelen.toNat).length ≤
      deviceName.namelen.toNat := List.length_take_le _ _
  have bound := deviceName.namelen.toNat_lt
  rw [protocolEncodeSetNameFeedback, encode_frame_length]
  simp only [List.length_append, bytebuffer_writedword_length, bytebuffer_writequadword_length,
    bytebuffer_writebyte_length]
  omega

/-- The responses to commands have one layout. -/
theorem response_length (id : UInt16) (serialnum : UInt32) (ieeeaddr : UInt64)
    (endpoint first second : UInt8) :
    (encodeFrame id (responseFields serialnum ieeeaddr endpoint first second)).length ≤ 128 := by
  rw [encode_frame_length, responseFields]
  simp

end Encoders

section Handlers

variable {gw : Gateway} {bound : Nat}

def Bounded (bound : Nat) (effects : List Effect) : Prop :=
  ∀ frame ∈ frames effects, frame.length ≤ bound

def Unframed (effects : List Effect) : Prop := ∀ effect ∈ effects, frameOf effect = none

theorem unframed_nil : Unframed [] := fun _ member => absurd member List.not_mem_nil

theorem unframed_frames {effects : List Effect} (unframed : Unframed effects) :
    frames effects = [] := List.filterMap_eq_nil_iff.mpr unframed

theorem unframed_bounded {effects : List Effect} (unframed : Unframed effects) :
    Bounded bound effects := by
  rw [Bounded, unframed_frames unframed]
  intro frame member
  cases member

theorem bounded_last {effects : List Effect} (unframed : Unframed effects) {effect : Effect}
    {frame : List UInt8} (framed : frameOf effect = some frame) :
    Bounded bound (effects ++ [effect]) ↔ frame.length ≤ bound := by
  have one : frames [effect] = [frame] := List.filterMap_cons_some framed
  have all : frames (effects ++ [effect]) = [frame] := by
    rw [frames, List.filterMap_append]
    change frames effects ++ frames [effect] = _
    rw [unframed_frames unframed, one, List.nil_append]
  rw [Bounded, all, List.forall_mem_singleton]

theorem bounded_one {effect : Effect} {frame : List UInt8} (framed : frameOf effect = some frame) :
    Bounded bound [effect] ↔ frame.length ≤ bound := bounded_last unframed_nil framed

theorem at_device_unframed {found : Device → Bool} {handler : Device → DeviceOutcome}
    (unframed : ∀ d, Unframed (handler d).effects) :
    Unframed (atDevice gw found handler).effects := by
  unfold atDevice
  split
  · exact unframed_nil
  · exact unframed _

theorem renamed_unframed (names : List (CString maxnamelen)) (d : Device) :
    Unframed (renamed names d).effects := List.forall_mem_map.mpr fun _ _ => rfl

theorem announced_unframed (msg : EndDeviceAnnceIndFormat) (d : Device) :
    Unframed (announced msg d).effects := by
  have moved : Unframed (announceShortaddr msg.nwkAddr d).effects := by
    unfold announceShortaddr
    split_ifs
    · exact List.forall_mem_singleton.mpr rfl
    · exact unframed_nil
  have reaction : Unframed (announceReaction msg d) := by
    unfold announceReaction
    split_ifs
    · exact List.forall_mem_cons.mpr ⟨rfl, List.forall_mem_singleton.mpr rfl⟩
    · exact List.forall_mem_singleton.mpr rfl
    · exact unframed_nil
  have cleared : Unframed (clearDeviceState (announcedDevice msg.nwkAddr d)).effects :=
    List.forall_mem_map.mpr fun _ _ => rfl
  rw [announced_eq, Unframed, List.forall_mem_cons, List.forall_mem_append, List.forall_mem_append]
  exact ⟨rfl, moved, reaction, cleared⟩

theorem announce_unframed (msg : EndDeviceAnnceIndFormat) :
    Unframed (mtZdoEndDeviceAnnceIndCb gw msg).effects := by
  unfold mtZdoEndDeviceAnnceIndCb
  split
  · exact at_device_unframed fun d => announced_unframed msg d
  · exact List.forall_mem_cons.mpr ⟨rfl, announced_unframed msg _⟩

theorem active_ep_unframed (msg : ActiveEpRspFormat) :
    Unframed (mtZdoActiveEpRspCb gw msg).effects := by
  have device : ∀ d, Unframed (activeEpRsp msg d).effects := by
    intro d
    unfold activeEpRsp
    split_ifs
    · exact unframed_nil
    · rintro effect (_ | ⟨_, _ | ⟨_, _ | ⟨_, none⟩⟩⟩)
      · rfl
      · rfl
      · rfl
      · cases none
  unfold mtZdoActiveEpRspCb
  split_ifs
  · exact at_device_unframed device
  · exact unframed_nil

theorem simple_desc_unframed (msg : SimpleDescRspFormat) :
    Unframed (mtZdoSimpleDescRspCb gw msg).effects := by
  have completed : ∀ d, Unframed (completeDevice d).effects := by
    intro d
    rintro effect (_ | ⟨_, _ | ⟨_, _ | ⟨_, _ | ⟨_, _ | ⟨_, none⟩⟩⟩⟩⟩)
    · rfl
    · rfl
    · rfl
    · rfl
    · rfl
    · cases none
  have device : ∀ d, Unframed (simpleDescRsp msg d).effects := by
    intro d
    unfold simpleDescRsp
    dsimp only
    split_ifs
    · exact List.forall_mem_singleton.mpr rfl
    · exact completed _
    · exact unframed_nil
  unfold mtZdoSimpleDescRspCb
  split_ifs
  · exact at_device_unframed device
  · exact unframed_nil

theorem leave_unframed (extAddr : UInt64) : Unframed (mtZdoLeaveIndCb gw extAddr).effects := by
  unfold mtZdoLeaveIndCb
  split
  · exact unframed_nil
  · exact List.forall_mem_cons.mpr ⟨rfl, List.forall_mem_map.mpr fun _ _ => rfl⟩

theorem enroll_unframed (srcAddr : UInt16) (srcEndpoint : UInt8) (zoneType : UInt16) :
    Unframed (zonestatusEnrollrequest gw srcAddr srcEndpoint zoneType).effects := by
  apply at_device_unframed
  intro d
  have zonetype : Unframed (deviceSetZonetype srcEndpoint zoneType d).effects := by
    unfold deviceSetZonetype
    split
    · exact List.forall_mem_singleton.mpr rfl
    · split
      · exact unframed_nil
      · exact unframed_nil
  rw [DeviceOutcome.andThen, Unframed, List.forall_mem_append]
  exact ⟨zonetype, List.forall_mem_singleton.mpr rfl⟩

theorem basic_unframed {found : Device → Bool} {message : BasicMessage} {outcome : Outcome}
    (ran : tryAtDevice gw found (BasicAttributes.basicAttributes message) = some outcome) :
    Unframed outcome.effects := by
  unfold tryAtDevice at ran
  split at ran
  · rw [Option.some.injEq] at ran
    rw [← ran]
    exact unframed_nil
  · rw [Option.map_eq_some_iff] at ran
    rcases ran with ⟨result, handled, rfl⟩
    rcases basic_attributes_eq handled with ⟨attributes, names, rfl⟩
    rw [DeviceOutcome.andThen, Unframed, List.forall_mem_append]
    exact ⟨renamed_unframed names _, List.forall_mem_singleton.mpr rfl⟩

theorem zone_enroll_bounded (host : ZnpHost) (ieeeaddr : UInt64) :
    Bounded 128 (zoneEnrollReq host.sign host.stale gw ieeeaddr).effects ↔
      Small gw (.input (.znp host (.zoneEnrollReq ieeeaddr))) := by
  have small : Small gw (.input (.znp host (.zoneEnrollReq ieeeaddr))) ↔
      ∀ d, gatewayGetdevice gw ieeeaddr = some d → deviceCheckStatus d deviceAppDel = false →
        reportSize (nameNewDevice host.stale d).device ≤ 128 := Iff.rfl
  rw [small]
  unfold zoneEnrollReq
  cases here : gatewayGetdevice gw ieeeaddr with
  | none =>
      apply iff_of_true (unframed_bounded unframed_nil)
      intro d found
      cases found
  | some d =>
      simp only [Option.some.injEq, forall_eq']
      by_cases deleted : deviceCheckStatus d deviceAppDel = true
      · rw [if_pos deleted]
        apply iff_of_true (unframed_bounded unframed_nil)
        intro present
        rw [deleted] at present
        cases present
      · have again := getdevice_named here host.stale
        have unframed : Unframed (nameNewDevice host.stale d).effects := by
          rcases name_new_device_eq host.stale d with ⟨names, named⟩
          rw [named]
          exact renamed_unframed names d
        rcases protocol_encode_add_del_device_eq again host.sign 1 with ⟨frame, encoded⟩
        have length := add_del_length again encoded
        have present := Bool.eq_false_iff.mpr deleted
        simp only [encoded, present, forall_const]
        rw [← length]
        exact bounded_last unframed rfl

theorem alarm_bounded (clock : Clock) (ep : Endpoint) (req : Zclzonechangenotification) :
    Bounded 128 (alarmEffects clock gw ep req) := by
  have framed : ∀ warnings, Unframed warnings →
      Bounded 128 (warnings ++
        (protocolEncodeAlarm gw req clock.ctime).toList.map Effect.broadcast) := by
    intro warnings unframed
    cases encoded : protocolEncodeAlarm gw req clock.ctime with
    | none =>
        rw [Option.toList_none, List.map_nil, List.append_nil]
        exact unframed_bounded unframed
    | some frame => exact (bounded_last unframed rfl).mpr (alarm_length encoded)
  unfold alarmEffects
  dsimp only
  split_ifs
  · apply framed
    split
    · split_ifs
      · exact unframed_nil
      · exact List.forall_mem_singleton.mpr rfl
    · exact unframed_nil
  · exact framed [] unframed_nil
  · exact unframed_bounded unframed_nil

theorem zone_change_bounded (sign : CharSign) (clock : Clock) (req : Zclzonechangenotification) :
    Bounded 128 (zoneChangeNotification sign clock gw req).effects := by
  unfold zoneChangeNotification
  split
  · exact unframed_bounded unframed_nil
  · split
    · exact unframed_bounded unframed_nil
    · split
      · exact unframed_bounded unframed_nil
      · split
        · rename_i ep _ _
          have alarm := @alarm_bounded gw clock ep req
          rw [Bounded, frames, List.filterMap_append]
          intro frame member
          rcases List.mem_append.mp member with alarmed | stored
          · exact alarm frame alarmed
          · cases stored
        · exact unframed_bounded unframed_nil

theorem level_rsp_bounded (response : Zcllevlctldefaultresponse) :
    Bounded 128 (genLevelCtlRsp gw response).effects := by
  unfold genLevelCtlRsp
  split
  · exact unframed_bounded unframed_nil
  · dsimp only
    apply (bounded_last _ rfl).mpr
    · exact response_length _ _ _ _ _ _
    · split_ifs
      · exact List.forall_mem_singleton.mpr rfl
      · exact unframed_nil

theorem znp_bounded {host : ZnpHost} {message : ZnpMessage} {outcome : Outcome}
    (ran : eventRecvznp host gw message = some outcome) :
    Bounded 128 outcome.effects ↔ Small gw (.input (.znp host message)) := by
  cases message with
  | zoneEnrollReq ieeeaddr =>
      rw [← Option.some.inj ran]
      exact zone_enroll_bounded host ieeeaddr
  | zoneChangeNotification req =>
      rw [← Option.some.inj ran]
      exact iff_of_true (zone_change_bounded host.sign host.clock req) trivial
  | generalDefaultRsp response =>
      rw [← Option.some.inj ran]
      apply iff_of_true _ trivial
      apply (bounded_one rfl).mpr
      rw [protocolEncodeGeneralResponse, encode_frame_length]
      simp
  | genOnoffRsp response =>
      rw [eventRecvznp, genOnoffRsp] at ran
      split at ran
      · cases ran
      · rw [← Option.some.inj ran]
        apply iff_of_true _ trivial
        exact (bounded_last (List.forall_mem_singleton.mpr rfl) rfl).mpr
          (response_length _ _ _ _ _ _)
  | readOnoffRsp response =>
      rw [← Option.some.inj ran]
      apply iff_of_true _ trivial
      apply (bounded_one rfl).mpr
      rw [protocolEncodeReadonoffResponse, encode_frame_length]
      simp
  | genLevelCtlRsp response =>
      rw [← Option.some.inj ran]
      exact iff_of_true (level_rsp_bounded response) trivial
  | warningRsp response =>
      rw [← Option.some.inj ran]
      exact iff_of_true ((bounded_one rfl).mpr (response_length _ _ _ _ _ _)) trivial
  | basicStatus status =>
      rw [← Option.some.inj ran]
      apply iff_of_true _ trivial
      apply (bounded_one rfl).mpr
      rw [protocolEncodeReportStatus, encode_frame_length]
      simp

theorem set_device_name_bounded (host : Host) (deviceName : SetDeviceName) :
    Bounded 512 (handleSetDeviceName host deviceName (stateOf gw)).effects := by
  have bounded : ∀ call result, Bounded 512
      [.database call, .broadcast (protocolEncodeSetNameFeedback deviceName result)] := by
    intro call result
    exact (@bounded_last 512 [.database call] (List.forall_mem_singleton.mpr rfl) _ _ rfl).mpr
      (set_name_feedback_length deviceName result)
  unfold handleSetDeviceName
  dsimp only
  split_ifs
  · exact bounded _ _
  · exact bounded _ _
  · exact bounded _ _
  · exact bounded _ _

theorem del_device_bounded (delDevice : DelDevice) :
    Bounded 128 (handleDelDevice delDevice (stateOf gw)).effects := by
  have length : ∀ result, (protocolEncodeDelDeviceFeedback delDevice result).length ≤ 128 := by
    intro result
    rw [protocolEncodeDelDeviceFeedback, encode_frame_length]
    simp
  unfold handleDelDevice
  split
  · exact (@bounded_last 128 [_, _] (List.forall_mem_cons.mpr ⟨rfl,
      List.forall_mem_singleton.mpr rfl⟩) _ _ rfl).mpr (length 0)
  · exact (bounded_one rfl).mpr (length 1)

theorem set_arm_bounded (host : Host) (fd : Int) (parsed : ParsedArm) :
    Bounded 128 (handleSetArm host fd parsed (stateOf gw)).effects := by
  have length : ∀ result,
      (protocolEncodeArmFeedback parsed.serialnum parsed.ieee result).length ≤ 128 := by
    intro result
    rw [protocolEncodeArmFeedback, encode_frame_length]
    simp
  have behind : ∀ call result, Bounded 128 [.database call,
      .send fd (protocolEncodeArmFeedback parsed.serialnum parsed.ieee result)] := by
    intro call result
    exact (@bounded_last 128 [.database call] (List.forall_mem_singleton.mpr rfl) _ _ rfl).mpr
      (length result)
  unfold handleSetArm
  dsimp only
  split_ifs
  · split
    · exact behind _ _
    · exact behind _ _
  · exact behind _ _
  · exact (bounded_one rfl).mpr (length 1)

theorem pass_on_unframed (ieee : UInt64) (command : ZnpCommand) :
    Unframed (passOn ieee command (stateOf gw)).effects := by
  unfold passOn
  split_ifs
  · exact unframed_nil
  · exact List.forall_mem_singleton.mpr rfl

theorem command_bounded (host : Host) (fd : Int) (command : Command) :
    Bounded (commandRoom command) (handleCommand host fd command (stateOf gw)).effects ↔
      Small gw (.input (.command host fd command)) := by
  cases command with
  | appLogin =>
      have login := @bounded_one 2048 (.send fd (protocolEncodeLogin gw)) _ rfl
      rw [login_length] at login
      exact login
  | loginFeedback feedback =>
      apply iff_of_true _ trivial
      apply unframed_bounded
      rw [handleCommand, handleLoginFeedback]
      split
      · exact unframed_nil
      · split_ifs
        · exact List.forall_mem_singleton.mpr rfl
        · exact unframed_nil
  | setDeviceName deviceName => exact iff_of_true (set_device_name_bounded host deviceName) trivial
  | delDevice delDevice => exact iff_of_true (del_device_bounded delDevice) trivial
  | getDeviceAttr getAttr =>
      apply iff_of_true _ trivial
      rw [handleCommand, handleGetDeviceAttr]
      split_ifs
      · exact unframed_bounded unframed_nil
      · exact (bounded_one rfl).mpr (deviceattr_length gw getAttr)
  | warning warning =>
      apply iff_of_true _ trivial
      rw [handleCommand, handleWarning]
      split_ifs
      · exact unframed_bounded unframed_nil
      · exact (@bounded_last 128 [_] (List.forall_mem_singleton.mpr rfl) _ _ rfl).mpr
          (response_length _ _ _ _ _ _)
  | setArm parsed => exact iff_of_true (set_arm_bounded host fd parsed) trivial
  | levelCtrl levelCtrl =>
      apply iff_of_true _ trivial
      apply unframed_bounded
      rw [handleCommand, handleLevelCtrl]
      split_ifs
      · exact unframed_nil
      · split
        · exact unframed_nil
        · exact List.forall_mem_singleton.mpr rfl
  | permitJoining permitJoining =>
      exact iff_of_true (unframed_bounded (List.forall_mem_singleton.mpr rfl)) trivial
  | identify identify => exact iff_of_true (unframed_bounded (pass_on_unframed _ _)) trivial
  | onoff onoff => exact iff_of_true (unframed_bounded (pass_on_unframed _ _)) trivial
  | configReporting config => exact iff_of_true (unframed_bounded (pass_on_unframed _ _)) trivial
  | getOnoffState onoffState =>
      exact iff_of_true (unframed_bounded (pass_on_unframed _ _)) trivial
  | nothing => exact iff_of_true (unframed_bounded unframed_nil) trivial

end Handlers

section Runs

theorem input_bounded {gw : Gateway} {input : Input} {outcome : Outcome}
    (ran : perform gw (.input input) = some outcome) :
    Bounded (room (.input input)) outcome.effects ↔ Small gw (.input input) := by
  cases input with
  | announce msg =>
      rw [← Option.some.inj ran]
      exact iff_of_true (unframed_bounded (announce_unframed msg)) trivial
  | activeEpRsp msg =>
      rw [← Option.some.inj ran]
      exact iff_of_true (unframed_bounded (active_ep_unframed msg)) trivial
  | simpleDescRsp msg =>
      rw [← Option.some.inj ran]
      exact iff_of_true (unframed_bounded (simple_desc_unframed msg)) trivial
  | leaveInd extAddr =>
      rw [← Option.some.inj ran]
      exact iff_of_true (unframed_bounded (leave_unframed extAddr)) trivial
  | enrollRequest srcAddr srcEndpoint zoneType =>
      rw [← Option.some.inj ran]
      exact iff_of_true (unframed_bounded (enroll_unframed srcAddr srcEndpoint zoneType)) trivial
  | basicAttributes message => exact iff_of_true (unframed_bounded (basic_unframed ran)) trivial
  | znp host message => exact znp_bounded ran
  | command host fd command =>
      rw [← Option.some.inj ran]
      exact command_bounded host fd command

/-- A handler that stops asks for no message that can be too long. -/
theorem stopped_small {gw : Gateway} {input : Input} (stopped : perform gw (.input input) = none) :
    Small gw (.input input) := by
  cases input with
  | command host fd command => cases stopped
  | znp host message =>
      cases message with
      | zoneEnrollReq ieeeaddr => cases stopped
      | _ => exact trivial
  | _ => exact trivial

theorem fits_iff_small (gw : Gateway) (call : Call) : Fits gw call ↔ Small gw call := by
  cases call with
  | input input =>
      cases ran : perform gw (.input input) with
      | none =>
          apply iff_of_true _ (stopped_small ran)
          intro outcome other
          rw [ran] at other
          cases other
      | some outcome =>
          have bounded := input_bounded ran
          simp only [Fits, ran, Option.some.injEq, forall_eq']
          exact bounded
  | heartbeat =>
      apply iff_of_true _ trivial
      intro outcome ran
      rw [← Option.some.inj ran]
      apply (bounded_one rfl).mpr
      rw [protocolEncodeHeart, close_frame_length]
      simp only [List.length_append, bytebuffer_writebyte_length, bytebuffer_writeword_length,
        bytebuffer_writemac_length]
      decide
  | cesend serverfd =>
      have login := @bounded_one 2048 (.send serverfd (protocolEncodeLogin gw)) _ rfl
      rw [login_length] at login
      simp only [Fits, perform, Option.some.injEq, forall_eq', Small]
      split_ifs with closed
      · exact iff_of_true (unframed_bounded unframed_nil) (Or.inl closed)
      · exact login.trans (or_iff_right closed).symm
  | restart table =>
      apply iff_of_true _ trivial
      intro outcome ran
      rw [← Option.some.inj ran]
      exact unframed_bounded unframed_nil

/-- In any run, through restarts as well, every encoder writes no more than its array has as long as
the registry is small enough whenever it is encoded, and no longer. -/
theorem encoders_fit_iff (gw : Gateway) (calls : List Call) :
    Meets advance Fits gw calls ↔ Meets advance Small gw calls :=
  meets_congr fits_iff_small gw calls

end Runs

def longName : SetDeviceName where
  ieee := firstSwitch
  serialnum := 7
  namelen := 111
  name := nameBuffer (Vector.replicate 256 0) 111 (List.replicate 111 0x61)
  terminated := name_buffer_terminated _ _ _

/-- A switch joins, the app gives it a long name, and it is reported. -/
def longNameRun : List Call :=
  [.input (.announce ⟨1, 1, firstSwitch⟩),
    .input (.command quietHost 4 (.setDeviceName longName)),
    .input (.znp ⟨.signed, ⟨0, 0, 0⟩, []⟩ (.zoneEnrollReq firstSwitch))]

/-- The report of the switch has 129 bytes and its array 128. -/
theorem long_name_overflows :
    ¬∀ calls, Meets advance Fits freshGateway.gateway calls := by
  intro fits
  have small := (encoders_fit_iff _ _).mp (fits longNameRun)
  have joined := small.2 _ rfl
  have reported := (joined.2 _ rfl).1
  have bound := reported _ rfl rfl
  revert bound
  decide +kernel

end SmartHome.FrameSizes
