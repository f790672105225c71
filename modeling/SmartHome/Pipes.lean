import SmartHome.Library.BytePipes
import SmartHome.Library.Layouts
import SmartHome.PipeMessages

/-!
# The two pipes between the threads

Radio callbacks write to one pipe and `event_recvznp` reads it; the handlers of the main
thread write to the other and `appProcess` reads that. No message carries its length. A
writer fills a `_cmd` struct, four bytes of command id and the struct of the message, and
writes it whole; the readers take an `int` off the pipe and then the struct that its value
selects. The structs are packed.
-/

namespace SmartHome.Pipes

open SmartHome.Library.Bytes
open SmartHome.Library.Layouts
open SmartHome.Library.Layouts.Layout
open SmartHome.Library.BytePipes
open SmartHome.PipeMessages

set_option autoImplicit false

def zclZoneEnrollReq : UInt32 := 0x00000001
def zclZoneChangeNotification : UInt32 := 0x00000002
def zclBasicStatus : UInt32 := 0x00000003
def zclGeneralDefaultRsp : UInt32 := 0x0000000b
def zclGenOnoffRsp : UInt32 := 0x00000010
def zclGenLevelCtlRsp : UInt32 := 0x00000011
def zclReadOnoffRsp : UInt32 := 0x00000016
def zclWarningRsp : UInt32 := 0x00000502

def protocolIdentify : UInt32 := 1
def protocolWarning : UInt32 := 2
def protocolOnoff : UInt32 := 3
def protocolLevelCtrl : UInt32 := 4
def protocolPermitJoing : UInt32 := 5
def protocolConfigReport : UInt32 := 6
def protocolReadOnoff : UInt32 := 8

/-! ## The structs of `zcl_datatype.h` -/

def zclzoneenrollreq : Layout Zclzoneenrollreq :=
  record (pair uint64 (pair uint16 (pair uint16 (pair uint16 (pair uint8 uint8)))))
    (fun (ieeeaddr, groupid, clusterid, zonetype, endpoint, zoneid) =>
      { ieeeaddr, groupid, clusterid, zonetype, endpoint, zoneid })
    (fun req =>
      (req.ieeeaddr, req.groupid, req.clusterid, req.zonetype, req.endpoint, req.zoneid))
    fun _ => rfl

/-- Both members of the union have the size of `uszonestatus`. -/
def zclzonechangenotification : Layout Zclzonechangenotification :=
  record (pair uint64 (pair uint16 (pair uint16 (pair uint8 (pair uint16 (pair uint8 uint8))))))
    (fun (ieeeaddr, clusterid, zonetype, endpoint, uszonestatus, extStatus, transNum) =>
      { ieeeaddr, clusterid, zonetype, endpoint, uszonestatus, extStatus, transNum })
    (fun req =>
      (req.ieeeaddr, req.clusterid, req.zonetype, req.endpoint, req.uszonestatus, req.extStatus,
        req.transNum))
    fun _ => rfl

def zclgeneraldefaultresponse : Layout Zclgeneraldefaultresponse :=
  record (pair uint64 (pair uint32 (pair uint16 (pair uint8 (pair uint8 uint8)))))
    (fun (ieeeaddr, serialnum, clusterid, endpoint, cmdInd, status) =>
      { ieeeaddr, serialnum, clusterid, endpoint, cmdInd, status })
    (fun response =>
      (response.ieeeaddr, response.serialnum, response.clusterid, response.endpoint,
        response.cmdInd, response.status))
    fun _ => rfl

def zcllevlctldefaultresponse : Layout Zcllevlctldefaultresponse :=
  record (pair uint64 (pair uint32 (pair uint16 (pair uint8 (pair uint8 uint8)))))
    (fun (ieeeaddr, serialnum, clusterid, endpoint, deviceState, status) =>
      { ieeeaddr, serialnum, clusterid, endpoint, deviceState, status })
    (fun response =>
      (response.ieeeaddr, response.serialnum, response.clusterid, response.endpoint,
        response.deviceState, response.status))
    fun _ => rfl

def zclbasicstatus : Layout Zclbasicstatus :=
  record (pair uint64 uint8) (fun (ieeeaddr, status) => { ieeeaddr, status })
    (fun status => (status.ieeeaddr, status.status)) fun _ => rfl

def zclreadonoffrsp : Layout Zclreadonoffrsp :=
  record (pair uint64 (pair uint32 (pair uint8 uint8)))
    (fun (ieeeaddr, serialnum, endpoint, state) => { ieeeaddr, serialnum, endpoint, state })
    (fun response => (response.ieeeaddr, response.serialnum, response.endpoint, response.state))
    fun _ => rfl

def int : Layout UInt32 := uint32

def withCmdid {Req : Type*} (req : Layout Req) : Layout (UInt32 × Req) := pair int req

def zclZoneEnrollReqCmd : Layout (UInt32 × Zclzoneenrollreq) := withCmdid zclzoneenrollreq

def zclZoneChangeNotificationCmd : Layout (UInt32 × Zclzonechangenotification) :=
  withCmdid zclzonechangenotification

def zclGeneralDefaultResponseCmd : Layout (UInt32 × Zclgeneraldefaultresponse) :=
  withCmdid zclgeneraldefaultresponse

def zclLevlctlDefaultResponseCmd : Layout (UInt32 × Zcllevlctldefaultresponse) :=
  withCmdid zcllevlctldefaultresponse

def zclBasicStatusCmd : Layout (UInt32 × Zclbasicstatus) := withCmdid zclbasicstatus

def zclReadOnoffRspCmd : Layout (UInt32 × Zclreadonoffrsp) := withCmdid zclreadonoffrsp

/-! ## The structs of `protocol_cmdtype.h` -/

def protocolCmdtypeIdentify : Layout Identify :=
  record (pair uint8 uint32) (fun (endpoint, serialnum) => { endpoint, serialnum })
    (fun identify => (identify.endpoint, identify.serialnum)) fun _ => rfl

def protocolCmdtypeIdentifyIeee : Layout IdentifyIeee :=
  record (pair uint64 protocolCmdtypeIdentify) (fun (ieee, identify) => { ieee, identify })
    (fun command => (command.ieee, command.identify)) fun _ => rfl

def warningbits : Layout (BitVec 4 × BitVec 2 × BitVec 2) :=
  record uint8
    (fun byte =>
      (byte.toBitVec.extractLsb' 0 4, byte.toBitVec.extractLsb' 4 2, byte.toBitVec.extractLsb' 6 2))
    (fun bits => ⟨bits.2.2 ++ bits.2.1 ++ bits.1⟩)
    (by
      rintro ⟨warnMode, warnStrobe, warnSirenLevel⟩
      refine Prod.ext ?_ (Prod.ext ?_ ?_) <;>
        · ext index
          simp
          grind)

/-- The bit fields have the type `unsigned int`, which makes `warning_t` four bytes wide; only the
first is assigned to. -/
def warning : Layout (BitVec 4 × BitVec 2 × BitVec 2) := lowByte 4 (by decide) warningbits rfl

def zclWDStartWarning : Layout StartWarning :=
  record (pair warning (pair uint16 (pair uint8 uint8)))
    (fun ((warnMode, warnStrobe, warnSirenLevel), warningDuration, strobeDutyCycle, strobeLevel) =>
      { warnMode, warnStrobe, warnSirenLevel, warningDuration, strobeDutyCycle, strobeLevel })
    (fun warning =>
      ((warning.warnMode, warning.warnStrobe, warning.warnSirenLevel), warning.warningDuration,
        warning.strobeDutyCycle, warning.strobeLevel))
    fun _ => rfl

def protocolCmdtypeWarning : Layout Warning :=
  record (pair uint32 (pair uint8 zclWDStartWarning))
    (fun (serialnum, endpoint, startWarning) => { serialnum, endpoint, startWarning })
    (fun warning => (warning.serialnum, warning.endpoint, warning.startWarning)) fun _ => rfl

def protocolCmdtypeWarningIeee : Layout WarningIeee :=
  record (pair uint64 protocolCmdtypeWarning) (fun (ieee, warning) => { ieee, warning })
    (fun command => (command.ieee, command.warning)) fun _ => rfl

def protocolCmdtypeOnoffIeee : Layout OnoffIeee :=
  record (pair uint64 (pair uint32 (pair uint8 uint8)))
    (fun (ieee, serialnum, endpoint, onoff) => { ieee, serialnum, endpoint, onoff })
    (fun command => (command.ieee, command.serialnum, command.endpoint, command.onoff))
    fun _ => rfl

def levelCtrlCmd : Layout LevelCtrlCmd := array uint8 4

def protocolCmdtypeLevelCtrlIeee : Layout LevelCtrlIeee :=
  record (pair uint64 (pair uint32 (pair uint8 (pair uint8 levelCtrlCmd))))
    (fun (ieee, serialnum, endpoint, zclCmdid, levelCtrlCmd) =>
      { ieee, serialnum, endpoint, zclCmdid, levelCtrlCmd })
    (fun command =>
      (command.ieee, command.serialnum, command.endpoint, command.zclCmdid, command.levelCtrlCmd))
    fun _ => rfl

def protocolCmdtypePermitJoining : Layout PermitJoining :=
  record (pair uint32 uint8) (fun (serialnum, joingTime) => { serialnum, joingTime })
    (fun command => (command.serialnum, command.joingTime)) fun _ => rfl

/-- `struct cfg_report_recod` as it lies in memory, with a pointer of this many bytes. -/
structure CfgReportStruct (pointer : Nat) where
  direction : UInt8
  attrId : UInt16
  dataType : UInt8
  minInterval : UInt16
  maxInterval : UInt16
  timeoutPeriod : UInt16
  reprotableChange : Vector UInt8 pointer
  deriving DecidableEq

/-- `struct protocol_cmdtype_config_reporting` has ten records, however many are in use. -/
structure ConfigReportingStruct (pointer : Nat) where
  ieee : UInt64
  serialnum : UInt32
  clusterid : UInt16
  endpoint : UInt8
  attrNum : UInt8
  attrList : Vector (CfgReportStruct pointer) 10
  deriving DecidableEq

def cfgReportRecod (pointer : Nat) : Layout (CfgReportStruct pointer) :=
  record
    (pair uint8 (pair uint16 (pair uint8 (pair uint16 (pair uint16 (pair uint16
      (array uint8 pointer)))))))
    (fun (direction, attrId, dataType, minInterval, maxInterval, timeoutPeriod,
        reprotableChange) =>
      { direction, attrId, dataType, minInterval, maxInterval, timeoutPeriod, reprotableChange })
    (fun recod =>
      (recod.direction, recod.attrId, recod.dataType, recod.minInterval, recod.maxInterval,
        recod.timeoutPeriod, recod.reprotableChange))
    fun _ => rfl

def protocolCmdtypeConfigReporting (pointer : Nat) : Layout (ConfigReportingStruct pointer) :=
  record
    (pair uint64 (pair uint32 (pair uint16 (pair uint8 (pair uint8
      (array (cfgReportRecod pointer) 10))))))
    (fun (ieee, serialnum, clusterid, endpoint, attrNum, attrList) =>
      { ieee, serialnum, clusterid, endpoint, attrNum, attrList })
    (fun command =>
      (command.ieee, command.serialnum, command.clusterid, command.endpoint, command.attrNum,
        command.attrList))
    fun _ => rfl

def protocolCmdtypeGetOnoffState : Layout GetOnoffState :=
  record (pair uint64 (pair uint32 uint8))
    (fun (ieee, serialnum, endpoint) => { ieee, serialnum, endpoint })
    (fun command => (command.ieee, command.serialnum, command.endpoint)) fun _ => rfl

def protocolCmdtypeIdentifyIeeeCmd : Layout (UInt32 × IdentifyIeee) :=
  withCmdid protocolCmdtypeIdentifyIeee

def protocolCmdtypeWarningIeeeCmd : Layout (UInt32 × WarningIeee) :=
  withCmdid protocolCmdtypeWarningIeee

def protocolCmdtypeOnoffIeeeCmd : Layout (UInt32 × OnoffIeee) := withCmdid protocolCmdtypeOnoffIeee

def protocolCmdtypeLevelCtrlIeeeCmd : Layout (UInt32 × LevelCtrlIeee) :=
  withCmdid protocolCmdtypeLevelCtrlIeee

def protocolCmdtypePermitJoiningCmd : Layout (UInt32 × PermitJoining) :=
  withCmdid protocolCmdtypePermitJoining

def protocolCmdtypeConfigReportingCmd (pointer : Nat) :
    Layout (UInt32 × ConfigReportingStruct pointer) :=
  withCmdid (protocolCmdtypeConfigReporting pointer)

def protocolCmdtypeGetOnoffStateCmd : Layout (UInt32 × GetOnoffState) :=
  withCmdid protocolCmdtypeGetOnoffState

/-! ## Writers and readers -/

inductive ZclMessage
  | zoneEnrollReq (req : Zclzoneenrollreq)
  | zoneChangeNotification (req : Zclzonechangenotification)
  | generalDefaultRsp (response : Zclgeneraldefaultresponse)
  | genOnoffRsp (response : Zclgeneraldefaultresponse)
  | readOnoffRsp (response : Zclreadonoffrsp)
  | genLevelCtlRsp (response : Zcllevlctldefaultresponse)
  | warningRsp (response : Zclgeneraldefaultresponse)
  | basicStatus (status : Zclbasicstatus)
  deriving DecidableEq

inductive ProtocolCommand (pointer : Nat)
  | identify (command : IdentifyIeee)
  | warning (command : WarningIeee)
  | onoff (command : OnoffIeee)
  | levelCtrl (command : LevelCtrlIeee)
  | permitJoing (command : PermitJoining)
  | configReport (command : ConfigReportingStruct pointer)
  | readOnoff (command : GetOnoffState)
  deriving DecidableEq

/-- `write(g_znpwfd, &cmd, sizeof(cmd))` in the callbacks. No callback writes `ZCLBASICSTATUS` any
more; its struct and its case in the reader are still there. -/
def zclWrite (cmd : Memory) : ZclMessage → List UInt8
  | .zoneEnrollReq req => zclZoneEnrollReqCmd.image cmd 0 (zclZoneEnrollReq, req)
  | .zoneChangeNotification req =>
      zclZoneChangeNotificationCmd.image cmd 0 (zclZoneChangeNotification, req)
  | .generalDefaultRsp req => zclGeneralDefaultResponseCmd.image cmd 0 (zclGeneralDefaultRsp, req)
  | .genOnoffRsp req => zclGeneralDefaultResponseCmd.image cmd 0 (zclGenOnoffRsp, req)
  | .readOnoffRsp req => zclReadOnoffRspCmd.image cmd 0 (zclReadOnoffRsp, req)
  | .genLevelCtlRsp req => zclLevlctlDefaultResponseCmd.image cmd 0 (zclGenLevelCtlRsp, req)
  | .warningRsp req => zclGeneralDefaultResponseCmd.image cmd 0 (zclWarningRsp, req)
  | .basicStatus req => zclBasicStatusCmd.image cmd 0 (zclBasicStatus, req)

/-- `sendnonblocking(g_main_to_znp_write_fd, &cmd, sizeof(cmd))` in the handlers. -/
def protocolWrite {pointer : Nat} (cmd : Memory) : ProtocolCommand pointer → List UInt8
  | .identify command => protocolCmdtypeIdentifyIeeeCmd.image cmd 0 (protocolIdentify, command)
  | .warning command => protocolCmdtypeWarningIeeeCmd.image cmd 0 (protocolWarning, command)
  | .onoff command => protocolCmdtypeOnoffIeeeCmd.image cmd 0 (protocolOnoff, command)
  | .levelCtrl command => protocolCmdtypeLevelCtrlIeeeCmd.image cmd 0 (protocolLevelCtrl, command)
  | .permitJoing command =>
      protocolCmdtypePermitJoiningCmd.image cmd 0 (protocolPermitJoing, command)
  | .configReport command =>
      (protocolCmdtypeConfigReportingCmd pointer).image cmd 0 (protocolConfigReport, command)
  | .readOnoff command => protocolCmdtypeGetOnoffStateCmd.image cmd 0 (protocolReadOnoff, command)

def readBody {Req Message : Type*} (layout : Layout Req) (message : Req → Message) (req : Memory)
    (pipe : List UInt8) : Option Message × List UInt8 :=
  (some (message (layout.readOver req pipe)), pipe.drop layout.size)

/-- What one call of `event_recvznp` takes off the pipe. Its `int` starts as zero, which no case
has, and no handler reads on. -/
def eventRecvznpRead (req : Memory) (pipe : List UInt8) : Option ZclMessage × List UInt8 :=
  let znpdatatype := int.readOver (fun _ => 0) pipe
  let rest := pipe.drop int.size
  if znpdatatype = zclZoneEnrollReq then readBody zclzoneenrollreq .zoneEnrollReq req rest
  else if znpdatatype = zclZoneChangeNotification then
    readBody zclzonechangenotification .zoneChangeNotification req rest
  else if znpdatatype = zclGeneralDefaultRsp then
    readBody zclgeneraldefaultresponse .generalDefaultRsp req rest
  else if znpdatatype = zclGenOnoffRsp then
    readBody zclgeneraldefaultresponse .genOnoffRsp req rest
  else if znpdatatype = zclReadOnoffRsp then readBody zclreadonoffrsp .readOnoffRsp req rest
  else if znpdatatype = zclGenLevelCtlRsp then
    readBody zcllevlctldefaultresponse .genLevelCtlRsp req rest
  else if znpdatatype = zclWarningRsp then
    readBody zclgeneraldefaultresponse .warningRsp req rest
  else if znpdatatype = zclBasicStatus then readBody zclbasicstatus .basicStatus req rest
  else (none, rest)

/-- One round of the loop of `appProcess`, whose first read waits for bytes to arrive. -/
def appProcessRead (pointer : Nat) (stack : Memory) (pipe : List UInt8) :
    Option (ProtocolCommand pointer) × List UInt8 :=
  if pipe = [] then (none, [])
  else
    let commandtype := int.readOver stack pipe
    let rest := pipe.drop int.size
    let command : Memory := fun address => stack (int.size + address)
    if commandtype = protocolIdentify then
      readBody protocolCmdtypeIdentifyIeee .identify command rest
    else if commandtype = protocolWarning then
      readBody protocolCmdtypeWarningIeee .warning command rest
    else if commandtype = protocolOnoff then readBody protocolCmdtypeOnoffIeee .onoff command rest
    else if commandtype = protocolLevelCtrl then
      readBody protocolCmdtypeLevelCtrlIeee .levelCtrl command rest
    else if commandtype = protocolPermitJoing then
      readBody protocolCmdtypePermitJoining .permitJoing command rest
    else if commandtype = protocolConfigReport then
      readBody (protocolCmdtypeConfigReporting pointer) .configReport command rest
    else if commandtype = protocolReadOnoff then
      readBody protocolCmdtypeGetOnoffState .readOnoff command rest
    else (none, rest)

end SmartHome.Pipes
