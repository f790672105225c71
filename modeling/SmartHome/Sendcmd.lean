import SmartHome.DownCommand
import SmartHome.MtMessages

/-!
# Commands to the network processor

`sendcmd` and the request functions behind it that the program calls. Each puts its fields
into a block from `malloc`, through an index of eight bits, and passes the block to
`rpcSendFrame`. What the block holds before is not known.
-/

namespace SmartHome.Sendcmd

open SmartHome.Library.Bytes
open SmartHome.Zcl
open SmartHome.Effects
open SmartHome.DownCommand
open SmartHome.Rpc
open SmartHome.Mt
open SmartHome.MtMessages

set_option autoImplicit false

def mtAfRegister : UInt8 := 0x00
def mtAfDataRequest : UInt8 := 0x01
def mtZdoSimpleDescReq : UInt8 := 0x04
def mtZdoActiveEpReq : UInt8 := 0x05
def mtSapiPermitJoiningReq : UInt8 := 0x08

structure RegisterFormat where
  endPoint : UInt8
  appProfId : UInt16
  appDeviceId : UInt16
  appDevVer : UInt8
  latencyReq : UInt8
  appNumInClusters : UInt8
  appInClusterList : Vector UInt16 16
  appNumOutClusters : UInt8
  appOutClusterList : Vector UInt16 16

/-- The arguments of a call of `rpcSendFrame`. -/
structure Passed where
  cmd0 : UInt8
  cmd1 : UInt8
  payload : List UInt8
  deriving DecidableEq

/-- `cmd[cmInd++] = byte`, for one byte after the other. -/
def put (cmd : Memory) (cmInd : UInt8) : List UInt8 → Memory
  | [] => cmd
  | byte :: bytes => put (stored cmd cmInd.toNat [byte]) (cmInd + 1) bytes

/-- The call that all request functions end with. -/
def synchronous (subsystem cmd1 : UInt8) (cmd : Memory) (cmdLen : Nat) (fields : List UInt8) :
    Passed :=
  ⟨mtRpcCmdSreq ||| subsystem, cmd1, readBytes (put cmd 0 fields) 0 cmdLen⟩

/-- The loop over a list of clusters. No value stands for a read behind the array. -/
def clusterFields (clusterList : Vector UInt16 16) (count : UInt8) : Option (List UInt8) :=
  if count.toNat ≤ 16 then some ((clusterList.toList.take count.toNat).flatMap uint16Bytes) else none

def afRegister (cmd : Memory) (req : RegisterFormat) : Option Passed :=
  (clusterFields req.appInClusterList req.appNumInClusters).bind fun inClusters =>
    (clusterFields req.appOutClusterList req.appNumOutClusters).map fun outClusters =>
      synchronous mtRpcSysAf mtAfRegister cmd
        (9 + req.appNumInClusters.toNat * 2 + req.appNumOutClusters.toNat * 2)
        ([req.endPoint] ++ uint16Bytes req.appProfId ++ uint16Bytes req.appDeviceId ++
          [req.appDevVer, req.latencyReq] ++ [req.appNumInClusters] ++ inClusters ++
          [req.appNumOutClusters] ++ outClusters)

/-- Behind what was copied to `Data` it is zero. -/
def afDataRequest (cmd : Memory) (req : DataRequest) : Option Passed :=
  if req.len.toNat ≤ 128 then
    some (synchronous mtRpcSysAf mtAfDataRequest cmd (10 + req.len.toNat)
      (uint16Bytes req.dstAddr ++ [req.dstEndpoint, req.srcEndpoint] ++
        uint16Bytes req.clusterID ++ [req.transID, req.options, req.radius, req.len] ++
        req.data.takeD req.len.toNat 0))
  else none

def zdoSimpleDescReq (cmd : Memory) (dstAddr nwkAddrOfInterest : UInt16) (endpoint : UInt8) :
    Passed :=
  synchronous mtRpcSysZdo mtZdoSimpleDescReq cmd 5
    (uint16Bytes dstAddr ++ uint16Bytes nwkAddrOfInterest ++ [endpoint])

def zdoActiveEpReq (cmd : Memory) (dstAddr nwkAddrOfInterest : UInt16) : Passed :=
  synchronous mtRpcSysZdo mtZdoActiveEpReq cmd 4
    (uint16Bytes dstAddr ++ uint16Bytes nwkAddrOfInterest)

def zbPermitJoiningReq (cmd : Memory) (destination : UInt16) (timeout : UInt8) : Passed :=
  synchronous mtRpcSysSapi mtSapiPermitJoiningReq cmd 3 (uint16Bytes destination ++ [timeout])

/-- What `sendcmd` is called with. -/
inductive Req
  | register (req : RegisterFormat)
  | radio (request : RadioRequest)
  | zdo (request : ZdoRequest)

/-- The cases of the `switch` that are used. -/
def sendcmd (cmd : Memory) : Req → Option Passed
  | .register req => afRegister cmd req
  | .radio (.afDataRequest req) => afDataRequest cmd req
  | .radio (.zbPermitJoiningReq destination timeout) =>
      some (zbPermitJoiningReq cmd destination timeout)
  | .zdo (.activeEpReq dstAddr nwkAddrOfInterest) =>
      some (zdoActiveEpReq cmd dstAddr nwkAddrOfInterest)
  | .zdo (.simpleDescReq dstAddr nwkAddrOfInterest endpoint) =>
      some (zdoSimpleDescReq cmd dstAddr nwkAddrOfInterest endpoint)

def maxClusterCount : Nat := 16

def firstClusters (count : UInt8) (cluster : Vector UInt16 16) : Vector UInt16 16 :=
  Vector.ofFn fun i => if i < count.toNat then cluster.get i else 0

/-- No request stands for the return with 1. -/
def zclRegisterCluster (inClusterCount : UInt8) (inCluster : Vector UInt16 16)
    (outClusterCount : UInt8) (outCluster : Vector UInt16 16) (endpoint : UInt8)
    (appdevicetypeid : UInt16) : Option Req :=
  if maxClusterCount < inClusterCount.toNat ∨ maxClusterCount < outClusterCount.toNat then none
  else
    some (.register
      { endPoint := endpoint
        appProfId := 0x0104
        appDeviceId := appdevicetypeid
        appDevVer := 0
        latencyReq := 0
        appNumInClusters := inClusterCount
        appInClusterList := firstClusters inClusterCount inCluster
        appNumOutClusters := outClusterCount
        appOutClusterList := firstClusters outClusterCount outCluster })

section Blocks

/-- A block holds what was put into it as long as the index does not wrap. -/
theorem holds_put {cmd : Memory} {front : List UInt8} (held : Holds cmd 0 front) {cmInd : UInt8}
    (behind : cmInd.toNat = front.length) (bytes : List UInt8)
    (fits : front.length + bytes.length < 256) : Holds (put cmd cmInd bytes) 0 (front ++ bytes) := by
  induction bytes generalizing cmd cmInd front with
  | nil => rwa [List.append_nil]
  | cons byte bytes induction =>
      rw [List.length_cons] at fits
      have longer : Holds (stored cmd cmInd.toNat [byte]) 0 (front ++ [byte]) :=
        held.extend (by omega)
      have next : (cmInd + 1).toNat = (front ++ [byte]).length := by
        rw [UInt8.toNat_add, behind, List.length_append, List.length_singleton]
        exact Nat.mod_eq_of_lt (by change front.length + 1 < 256; omega)
      have whole := induction longer next (by rw [List.length_append, List.length_singleton]; omega)
      rwa [List.append_assoc, List.singleton_append] at whole

theorem synchronous_eq (subsystem cmd1 : UInt8) (cmd : Memory) {cmdLen : Nat}
    {fields : List UInt8} (whole : fields.length = cmdLen) (fits : cmdLen < 256) :
    synchronous subsystem cmd1 cmd cmdLen fields =
      ⟨mtRpcCmdSreq ||| subsystem, cmd1, fields⟩ := by
  have nothing : Holds cmd 0 [] := trivial
  have held : Holds (put cmd 0 fields) 0 fields := by
    have kept := holds_put nothing (show (0 : UInt8).toNat = 0 from rfl) fields
      (by rw [List.length_nil]; omega)
    rwa [List.nil_append] at kept
  rw [synchronous, ← whole, held.read_length rfl]

end Blocks

end SmartHome.Sendcmd
