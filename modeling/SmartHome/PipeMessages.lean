import SmartHome.Bytebuffer
import SmartHome.Registry

/-!
# Messages between the protocol and the radio side

The structs of `protocol_datatype.h`, `protocol_cmdtype.h` and `zcl_datatype.h`: what
a parser fills from a frame and what goes over the pipes between the two threads.
-/

namespace SmartHome.PipeMessages

open SmartHome.Library.CTypes
open SmartHome.Bytebuffer
open SmartHome.Registry

set_option autoImplicit false

structure DelDevice where
  ieee : UInt64
  serialnum : UInt32
  deriving DecidableEq

structure GetDeviceAttr where
  ieee : UInt64
  serialnum : UInt32
  endpoint : UInt8
  deriving DecidableEq

/-- The parser terminates the name behind its `namelen` bytes. -/
structure SetDeviceName where
  ieee : UInt64
  serialnum : UInt32
  namelen : UInt8
  name : Vector UInt8 256
  terminated : name.get ⟨namelen.toNat, namelen.toNat_lt⟩ = 0
  deriving DecidableEq

def SetDeviceName.text (deviceName : SetDeviceName) : CString maxnamelen where
  text := upToNul deviceName.name.toList
  nonul := zero_not_mem_up_to_nul _
  fits := by
    have nul : deviceName.name.toList[deviceName.namelen.toNat]? = some 0 := by
      rw [Vector.getElem?_toList, Vector.getElem?_eq_getElem deviceName.namelen.toNat_lt]
      exact congrArg some deviceName.terminated
    exact (up_to_nul_length_le nul).trans_lt deviceName.namelen.toNat_lt

structure LoginFeedback where
  timestamp : UInt32
  result : UInt8
  deriving DecidableEq

structure Zclzoneenrollreq where
  ieeeaddr : UInt64
  groupid : UInt16
  clusterid : UInt16
  zonetype : UInt16
  endpoint : UInt8
  zoneid : UInt8
  deriving DecidableEq

/-- `struct zclzonechangenotification`; the union is kept as `uszonestatus`. -/
structure Zclzonechangenotification where
  ieeeaddr : UInt64
  clusterid : UInt16
  zonetype : UInt16
  endpoint : UInt8
  uszonestatus : UInt16
  extStatus : UInt8
  transNum : UInt8
  deriving DecidableEq

structure Zclgeneraldefaultresponse where
  ieeeaddr : UInt64
  serialnum : UInt32
  clusterid : UInt16
  endpoint : UInt8
  cmdInd : UInt8
  status : UInt8
  deriving DecidableEq

structure Zcllevlctldefaultresponse where
  ieeeaddr : UInt64
  serialnum : UInt32
  clusterid : UInt16
  endpoint : UInt8
  deviceState : UInt8
  status : UInt8
  deriving DecidableEq

structure Zclbasicstatus where
  ieeeaddr : UInt64
  status : UInt8
  deriving DecidableEq

structure Zclreadonoffrsp where
  ieeeaddr : UInt64
  serialnum : UInt32
  endpoint : UInt8
  state : UInt8
  deriving DecidableEq

structure StartWarning where
  warnMode : BitVec 4
  warnStrobe : BitVec 2
  warnSirenLevel : BitVec 2
  warningDuration : UInt16
  strobeDutyCycle : UInt8
  strobeLevel : UInt8
  deriving DecidableEq

def StartWarning.warningbyte (warning : StartWarning) : UInt8 :=
  ⟨warning.warnSirenLevel ++ warning.warnStrobe ++ warning.warnMode⟩

structure Identify where
  endpoint : UInt8
  serialnum : UInt32
  deriving DecidableEq

structure IdentifyIeee where
  ieee : UInt64
  identify : Identify
  deriving DecidableEq

structure Warning where
  serialnum : UInt32
  endpoint : UInt8
  startWarning : StartWarning
  deriving DecidableEq

structure WarningIeee where
  ieee : UInt64
  warning : Warning
  deriving DecidableEq

structure OnoffIeee where
  ieee : UInt64
  serialnum : UInt32
  endpoint : UInt8
  onoff : UInt8
  deriving DecidableEq

/-- The packed union of the level commands: the same four bytes under three layouts. -/
abbrev LevelCtrlCmd := Vector UInt8 4

def setMove2level (cmd : LevelCtrlCmd) (level : UInt8) (transTime : UInt16) : LevelCtrlCmd :=
  #v[level, loUint16 transTime, hiUint16 transTime, cmd.get 3]

def setMove (cmd : LevelCtrlCmd) (moveMode rate : UInt8) : LevelCtrlCmd :=
  #v[moveMode, rate, cmd.get 2, cmd.get 3]

def setStep (stepMode stepSize : UInt8) (transTime : UInt16) : LevelCtrlCmd :=
  #v[stepMode, stepSize, loUint16 transTime, hiUint16 transTime]

def move2levelLevel (cmd : LevelCtrlCmd) : UInt8 := cmd.get 0

def move2levelTransTime (cmd : LevelCtrlCmd) : UInt16 := buildUint16 (cmd.get 1) (cmd.get 2)

def moveMoveMode (cmd : LevelCtrlCmd) : UInt8 := cmd.get 0

def moveRate (cmd : LevelCtrlCmd) : UInt8 := cmd.get 1

def stepStepMode (cmd : LevelCtrlCmd) : UInt8 := cmd.get 0

def stepStepSize (cmd : LevelCtrlCmd) : UInt8 := cmd.get 1

def stepTransTime (cmd : LevelCtrlCmd) : UInt16 := buildUint16 (cmd.get 2) (cmd.get 3)

structure LevelCtrlIeee where
  ieee : UInt64
  serialnum : UInt32
  endpoint : UInt8
  zclCmdid : UInt8
  levelCtrlCmd : LevelCtrlCmd
  deriving DecidableEq

structure PermitJoining where
  serialnum : UInt32
  joingTime : UInt8
  deriving DecidableEq

/-- A block from `malloc`: the size asked for and the bytes stored at its front. -/
structure HeapBlock where
  size : Int
  bytes : List UInt8
  deriving DecidableEq

/-- `struct cfg_report_recod`; without a reportable change the pointer is null. -/
structure CfgReportRecod where
  direction : UInt8
  attrId : UInt16
  dataType : UInt8
  minInterval : UInt16
  maxInterval : UInt16
  timeoutPeriod : UInt16
  reprotableChange : Option HeapBlock
  deriving DecidableEq

structure ConfigReporting where
  ieee : UInt64
  serialnum : UInt32
  clusterid : UInt16
  endpoint : UInt8
  attrNum : UInt8
  attrList : List CfgReportRecod
  deriving DecidableEq

structure GetOnoffState where
  ieee : UInt64
  serialnum : UInt32
  endpoint : UInt8
  deriving DecidableEq

/-- What is written to the main-to-ZNP pipe: a command id and the struct that belongs to it. -/
inductive ZnpCommand
  | identify (command : IdentifyIeee)
  | warning (command : WarningIeee)
  | onoff (command : OnoffIeee)
  | levelCtrl (command : LevelCtrlIeee)
  | permitJoing (command : PermitJoining)
  | configReport (command : ConfigReporting)
  | readOnoff (command : GetOnoffState)
  deriving DecidableEq

end SmartHome.PipeMessages
