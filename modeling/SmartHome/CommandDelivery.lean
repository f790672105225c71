import SmartHome.OutgoingFrames
import SmartHome.RpcInterleavings
import SmartHome.Sendcmd

/-!
# Commands at the network processor

What the program wants of the network processor, by the lengths it may have, and what is to
be read from a frame. A request that passes the bounds of its arrays comes out as the command
it means; one that does not is read behind an array. Whatever the threads ask for at the same
time, the commands on the line are those of the threads, each thread's in its order.
-/

namespace SmartHome.CommandDelivery

open Function
open SmartHome.Library.Bytes
open SmartHome.Library.Runs
open SmartHome.Library.StreamScanner
open SmartHome.Bytebuffer
open SmartHome.PipeMessages
open SmartHome.Registry
open SmartHome.Zcl
open SmartHome.Effects
open SmartHome.DownCommand
open SmartHome.OutgoingFrames
open SmartHome.Rpc
open SmartHome.RpcStream
open SmartHome.RpcProtocol
open SmartHome.Mt
open SmartHome.MtMessages
open SmartHome.Sendcmd

set_option autoImplicit false

/-- An endpoint that is registered with the clusters it serves and uses. -/
structure Registration where
  endPoint : UInt8
  appProfId : UInt16
  appDeviceId : UInt16
  appDevVer : UInt8
  latencyReq : UInt8
  inClusters : List UInt16
  outClusters : List UInt16
  inFits : inClusters.length ≤ 16
  outFits : outClusters.length ≤ 16
  deriving DecidableEq

inductive Command
  | register (registration : Registration)
  | data (request : DataRequest) (whole : request.data.length = request.len.toNat)
      (fits : request.len.toNat ≤ 128)
  | permitJoining (destination : UInt16) (timeout : UInt8)
  | activeEp (dstAddr nwkAddrOfInterest : UInt16)
  | simpleDesc (dstAddr nwkAddrOfInterest : UInt16) (endpoint : UInt8)
  deriving DecidableEq

def clustersBytes (clusters : List UInt16) : List UInt8 :=
  countByte clusters ++ clusters.flatMap uint16Bytes

def dataHead (request : DataRequest) : List UInt8 :=
  uint16Bytes request.dstAddr ++ [request.dstEndpoint, request.srcEndpoint] ++
    uint16Bytes request.clusterID ++ [request.transID, request.options, request.radius, request.len]

/-- The arguments of `rpcSendFrame` that stand for a command. -/
def Command.passed : Command → Passed
  | register registration =>
      ⟨mtRpcCmdSreq ||| mtRpcSysAf, mtAfRegister,
        [registration.endPoint] ++ uint16Bytes registration.appProfId ++
          uint16Bytes registration.appDeviceId ++ [registration.appDevVer, registration.latencyReq] ++
          clustersBytes registration.inClusters ++ clustersBytes registration.outClusters⟩
  | data request _ _ =>
      ⟨mtRpcCmdSreq ||| mtRpcSysAf, mtAfDataRequest, dataHead request ++ request.data⟩
  | permitJoining destination timeout =>
      ⟨mtRpcCmdSreq ||| mtRpcSysSapi, mtSapiPermitJoiningReq, uint16Bytes destination ++ [timeout]⟩
  | activeEp dstAddr nwkAddrOfInterest =>
      ⟨mtRpcCmdSreq ||| mtRpcSysZdo, mtZdoActiveEpReq,
        uint16Bytes dstAddr ++ uint16Bytes nwkAddrOfInterest⟩
  | simpleDesc dstAddr nwkAddrOfInterest endpoint =>
      ⟨mtRpcCmdSreq ||| mtRpcSysZdo, mtZdoSimpleDescReq,
        uint16Bytes dstAddr ++ uint16Bytes nwkAddrOfInterest ++ [endpoint]⟩

/-- What a request means, unless one of its lengths passes its array. -/
def meant : Req → Option Command
  | .register req =>
      if fits : req.appNumInClusters.toNat ≤ 16 ∧ req.appNumOutClusters.toNat ≤ 16 then
        some (.register
          { endPoint := req.endPoint
            appProfId := req.appProfId
            appDeviceId := req.appDeviceId
            appDevVer := req.appDevVer
            latencyReq := req.latencyReq
            inClusters := req.appInClusterList.toList.take req.appNumInClusters.toNat
            outClusters := req.appOutClusterList.toList.take req.appNumOutClusters.toNat
            inFits := (List.length_take_le _ _).trans fits.1
            outFits := (List.length_take_le _ _).trans fits.2 })
      else none
  | .radio (.afDataRequest req) =>
      if fits : req.len.toNat ≤ 128 then
        some (.data { req with data := req.data.takeD req.len.toNat 0 }
          (List.takeD_length req.len.toNat req.data 0) fits)
      else none
  | .radio (.zbPermitJoiningReq destination timeout) => some (.permitJoining destination timeout)
  | .zdo (.activeEpReq dstAddr nwkAddrOfInterest) => some (.activeEp dstAddr nwkAddrOfInterest)
  | .zdo (.simpleDescReq dstAddr nwkAddrOfInterest endpoint) =>
      some (.simpleDesc dstAddr nwkAddrOfInterest endpoint)

def Bounded : Req → Prop
  | .register req => req.appNumInClusters.toNat ≤ 16 ∧ req.appNumOutClusters.toNat ≤ 16
  | .radio (.afDataRequest req) => req.len.toNat ≤ 128
  | _ => True

section Reading

def readClusters : List UInt8 → List UInt16
  | loByte :: hiByte :: rest => buildUint16 loByte hiByte :: readClusters rest
  | _ => []

def readCounted : List UInt8 → Option (List UInt16 × List UInt8)
  | count :: rest =>
      if 2 * count.toNat ≤ rest.length then
        some (readClusters (rest.take (2 * count.toNat)), rest.drop (2 * count.toNat))
      else none
  | [] => none

def readRegistration : List UInt8 → Option Command
  | endPoint :: profLo :: profHi :: deviceLo :: deviceHi :: appDevVer :: latencyReq :: rest =>
      (readCounted rest).bind fun ins =>
        (readCounted ins.2).bind fun outs =>
          if fits : ins.1.length ≤ 16 ∧ outs.1.length ≤ 16 ∧ outs.2 = [] then
            some (.register
              { endPoint
                appProfId := buildUint16 profLo profHi
                appDeviceId := buildUint16 deviceLo deviceHi
                appDevVer, latencyReq
                inClusters := ins.1
                outClusters := outs.1
                inFits := fits.1
                outFits := fits.2.1 })
          else none
  | _ => none

def readData : List UInt8 → Option Command
  | addrLo :: addrHi :: dstEndpoint :: srcEndpoint :: clusterLo :: clusterHi :: transID :: options ::
      radius :: len :: data =>
      if fits : data.length = len.toNat ∧ len.toNat ≤ 128 then
        some (.data
          { dstAddr := buildUint16 addrLo addrHi
            dstEndpoint, srcEndpoint
            clusterID := buildUint16 clusterLo clusterHi
            transID, options, radius, len, data }
          fits.1 fits.2)
      else none
  | _ => none

def readPermitJoining : List UInt8 → Option Command
  | [loByte, hiByte, timeout] => some (.permitJoining (buildUint16 loByte hiByte) timeout)
  | _ => none

def readActiveEp : List UInt8 → Option Command
  | [dstLo, dstHi, nwkLo, nwkHi] =>
      some (.activeEp (buildUint16 dstLo dstHi) (buildUint16 nwkLo nwkHi))
  | _ => none

def readSimpleDesc : List UInt8 → Option Command
  | [dstLo, dstHi, nwkLo, nwkHi, endpoint] =>
      some (.simpleDesc (buildUint16 dstLo dstHi) (buildUint16 nwkLo nwkHi) endpoint)
  | _ => none

def understood (passed : Passed) : Option Command :=
  if passed.cmd0 = mtRpcCmdSreq ||| mtRpcSysAf then
    if passed.cmd1 = mtAfRegister then readRegistration passed.payload
    else if passed.cmd1 = mtAfDataRequest then readData passed.payload
    else none
  else if passed.cmd0 = mtRpcCmdSreq ||| mtRpcSysSapi then
    if passed.cmd1 = mtSapiPermitJoiningReq then readPermitJoining passed.payload else none
  else if passed.cmd0 = mtRpcCmdSreq ||| mtRpcSysZdo then
    if passed.cmd1 = mtZdoActiveEpReq then readActiveEp passed.payload
    else if passed.cmd1 = mtZdoSimpleDescReq then readSimpleDesc passed.payload
    else none
  else none

/-- The command in what the scan of the line finds, if its length and checksum are right. -/
def readEvent : Event UInt8 Unit → Option Command
  | .record () (_ :: len :: cmd0 :: cmd1 :: rest) =>
      if rest = rest.take len.toNat ++
          [(covered cmd0 cmd1 (rest.take len.toNat)).foldl (· ^^^ ·) 0] then
        understood ⟨cmd0, cmd1, rest.take len.toNat⟩
      else none
  | _ => none

def commandsOn (wire : List UInt8) : List Command :=
  (rpcScanner.scan wire).1.filterMap readEvent

end Reading

section RoundTrip

theorem read_clusters (clusters : List UInt16) :
    readClusters (clusters.flatMap uint16Bytes) = clusters := by
  induction clusters with
  | nil => rfl
  | cons cluster clusters induction =>
      have first : readClusters ((cluster :: clusters).flatMap uint16Bytes) =
          buildUint16 (loUint16 cluster) (hiUint16 cluster) ::
            readClusters (clusters.flatMap uint16Bytes) := rfl
      rw [first, build_uint16_lo_hi, induction]

theorem clusters_width (clusters : List UInt16) :
    (clusters.flatMap uint16Bytes).length = 2 * clusters.length := by
  induction clusters with
  | nil => rfl
  | cons cluster clusters induction =>
      rw [List.flatMap_cons, List.length_append, induction, List.length_cons]
      change 2 + 2 * clusters.length = 2 * (clusters.length + 1)
      omega

theorem read_counted {clusters : List UInt16} (fits : clusters.length ≤ 16) (rest : List UInt8) :
    readCounted (clustersBytes clusters ++ rest) = some (clusters, rest) := by
  have count : (UInt8.ofNat clusters.length).toNat = clusters.length := byte_of_length (by omega)
  have width := clusters_width clusters
  have split : clustersBytes clusters ++ rest =
      UInt8.ofNat clusters.length :: (clusters.flatMap uint16Bytes ++ rest) := rfl
  rw [split, readCounted, count, ← width, if_pos (by rw [List.length_append]; omega),
    List.take_left, List.drop_left, read_clusters]

theorem read_registration (registration : Registration) :
    readRegistration (Command.register registration).passed.payload =
      some (.register registration) := by
  have split : (Command.register registration).passed.payload =
      registration.endPoint :: loUint16 registration.appProfId :: hiUint16 registration.appProfId ::
        loUint16 registration.appDeviceId :: hiUint16 registration.appDeviceId ::
        registration.appDevVer :: registration.latencyReq ::
        (clustersBytes registration.inClusters ++
          (clustersBytes registration.outClusters ++ [])) := by
    rw [List.append_nil, Command.passed, List.append_assoc _ (clustersBytes registration.inClusters)]
    rfl
  rw [split, readRegistration, read_counted registration.inFits, Option.bind_some,
    read_counted registration.outFits, Option.bind_some,
    dif_pos ⟨registration.inFits, registration.outFits, rfl⟩]
  simp only [build_uint16_lo_hi]

theorem read_data (request : DataRequest) (whole : request.data.length = request.len.toNat)
    (fits : request.len.toNat ≤ 128) :
    readData (Command.data request whole fits).passed.payload =
      some (.data request whole fits) := by
  have split : (Command.data request whole fits).passed.payload =
      loUint16 request.dstAddr :: hiUint16 request.dstAddr :: request.dstEndpoint ::
        request.srcEndpoint :: loUint16 request.clusterID :: hiUint16 request.clusterID ::
        request.transID :: request.options :: request.radius :: request.len :: request.data := rfl
  rw [split, readData, dif_pos ⟨whole, fits⟩]
  simp only [build_uint16_lo_hi]

theorem understood_passed (command : Command) : understood command.passed = some command := by
  cases command with
  | register registration => exact read_registration registration
  | data request whole fits => exact read_data request whole fits
  | permitJoining destination timeout =>
      have read : understood (Command.permitJoining destination timeout).passed =
          some (.permitJoining (buildUint16 (loUint16 destination) (hiUint16 destination)) timeout) :=
        rfl
      rw [read, build_uint16_lo_hi]
  | activeEp dstAddr nwkAddrOfInterest =>
      have read : understood (Command.activeEp dstAddr nwkAddrOfInterest).passed =
          some (.activeEp (buildUint16 (loUint16 dstAddr) (hiUint16 dstAddr))
            (buildUint16 (loUint16 nwkAddrOfInterest) (hiUint16 nwkAddrOfInterest))) := rfl
      rw [read, build_uint16_lo_hi, build_uint16_lo_hi]
  | simpleDesc dstAddr nwkAddrOfInterest endpoint =>
      have read : understood (Command.simpleDesc dstAddr nwkAddrOfInterest endpoint).passed =
          some (.simpleDesc (buildUint16 (loUint16 dstAddr) (hiUint16 dstAddr))
            (buildUint16 (loUint16 nwkAddrOfInterest) (hiUint16 nwkAddrOfInterest)) endpoint) := rfl
      rw [read, build_uint16_lo_hi, build_uint16_lo_hi]

theorem clusters_bytes_length (clusters : List UInt16) :
    (clustersBytes clusters).length = 1 + 2 * clusters.length := by
  rw [clustersBytes, List.length_append, clusters_width]
  rfl

theorem registration_length (registration : Registration) :
    (Command.register registration).passed.payload.length =
      9 + registration.inClusters.length * 2 + registration.outClusters.length * 2 := by
  rw [Command.passed, List.length_append, List.length_append, clusters_bytes_length,
    clusters_bytes_length]
  change 7 + _ + _ = _
  omega

theorem data_length (request : DataRequest) (whole : request.data.length = request.len.toNat)
    (fits : request.len.toNat ≤ 128) :
    (Command.data request whole fits).passed.payload.length = 10 + request.len.toNat := by
  rw [Command.passed, List.length_append, whole]
  rfl

theorem passed_length (command : Command) : command.passed.payload.length ≤ 138 := by
  cases command with
  | register registration =>
      have inFits := registration.inFits
      have outFits := registration.outFits
      rw [registration_length]
      omega
  | data request whole fits =>
      rw [data_length]
      omega
  | permitJoining destination timeout => exact Nat.le_of_ble_eq_true rfl
  | activeEp dstAddr nwkAddrOfInterest => exact Nat.le_of_ble_eq_true rfl
  | simpleDesc dstAddr nwkAddrOfInterest endpoint => exact Nat.le_of_ble_eq_true rfl

end RoundTrip

section Requests

theorem clusters_passed (clusterList : Vector UInt16 16) {count : UInt8} (fits : count.toNat ≤ 16) :
    clustersBytes (clusterList.toList.take count.toNat) =
      [count] ++ (clusterList.toList.take count.toNat).flatMap uint16Bytes := by
  have length : (clusterList.toList.take count.toNat).length = count.toNat := by
    rw [List.length_take, Vector.length_toList]
    omega
  rw [clustersBytes, countByte, length, UInt8.ofNat_toNat]

theorem af_register_eq (cmd : Memory) (req : RegisterFormat) :
    afRegister cmd req = (meant (.register req)).map Command.passed := by
  rw [afRegister, meant, clusterFields, clusterFields]
  by_cases inFits : req.appNumInClusters.toNat ≤ 16
  · by_cases outFits : req.appNumOutClusters.toNat ≤ 16
    · rw [if_pos inFits, if_pos outFits, dif_pos ⟨inFits, outFits⟩, Option.bind_some,
        Option.map_some, Option.map_some, Option.some.injEq, Command.passed,
        clusters_passed _ inFits, clusters_passed _ outFits]
      simp only [← List.append_assoc]
      apply synchronous_eq
      · simp only [List.length_append, clusters_width, List.length_take, Vector.length_toList]
        change 1 + 2 + 2 + 2 + 1 + _ + 1 + _ = _
        omega
      · omega
    · rw [if_pos inFits, if_neg outFits, dif_neg fun fits => outFits fits.2]
      rfl
  · rw [if_neg inFits, dif_neg fun fits => inFits fits.1]
    rfl

theorem af_data_request_eq (cmd : Memory) (req : DataRequest) :
    afDataRequest cmd req = (meant (.radio (.afDataRequest req))).map Command.passed := by
  rw [afDataRequest, meant]
  split_ifs with fits
  · rw [Option.map_some, Option.some.injEq]
    apply synchronous_eq
    · rw [List.length_append, List.takeD_length]
      rfl
    · omega
  · rfl

/-- What is sent is what is meant, whatever the block held; where nothing is meant, an array is
read behind its end. -/
theorem sendcmd_eq (cmd : Memory) (req : Req) :
    sendcmd cmd req = (meant req).map Command.passed := by
  cases req with
  | register req => exact af_register_eq cmd req
  | radio request =>
      cases request with
      | afDataRequest req => exact af_data_request_eq cmd req
      | zbPermitJoiningReq destination timeout =>
          exact congrArg some (synchronous_eq _ _ cmd rfl (by omega))
  | zdo request =>
      cases request with
      | activeEpReq dstAddr nwkAddrOfInterest =>
          exact congrArg some (synchronous_eq _ _ cmd rfl (by omega))
      | simpleDescReq dstAddr nwkAddrOfInterest endpoint =>
          exact congrArg some (synchronous_eq _ _ cmd rfl (by omega))

theorem meant_eq_none_iff (req : Req) : meant req = none ↔ ¬Bounded req := by
  cases req with
  | register req =>
      rw [meant, Bounded]
      split_ifs with fits
      · exact iff_of_false id (not_not_intro fits)
      · exact iff_of_true rfl fits
  | radio request =>
      cases request with
      | afDataRequest req =>
          rw [meant, Bounded]
          split_ifs with fits
          · exact iff_of_false id (not_not_intro fits)
          · exact iff_of_true rfl fits
      | zbPermitJoiningReq destination timeout =>
          exact iff_of_false (Option.some_ne_none _) (not_not_intro trivial)
  | zdo request => cases request <;> exact iff_of_false (Option.some_ne_none _) (not_not_intro trivial)

theorem register_cluster_bounded {inClusterCount outClusterCount endpoint : UInt8}
    {inCluster outCluster : Vector UInt16 16} {appdevicetypeid : UInt16} {req : Req}
    (registered : zclRegisterCluster inClusterCount inCluster outClusterCount outCluster endpoint
      appdevicetypeid = some req) : Bounded req := by
  rw [zclRegisterCluster, Option.ite_none_left_eq_some] at registered
  rcases registered with ⟨fits, same⟩
  rw [not_or, Nat.not_lt, Nat.not_lt] at fits
  rw [← Option.some.inj same]
  exact fits

end Requests

section Line

def passedOf (request : Request) : Passed := ⟨request.cmd0, request.cmd1, request.payload⟩

theorem read_frame (request : Request) :
    readEvent (.record () request.frame) = understood (passedOf request) := by
  have small := request.fits
  have len : (UInt8.ofNat request.payload.length).toNat = request.payload.length :=
    byte_of_length (by omega)
  have front : (request.payload ++
      [(covered request.cmd0 request.cmd1 request.payload).foldl (· ^^^ ·) 0]).take
        (UInt8.ofNat request.payload.length).toNat = request.payload := by
    rw [len, List.take_left]
  rw [Request.frame, frameOf, messageOf, readEvent, front, if_pos rfl, passedOf]

theorem commands_on_frames (requests : List Request) :
    commandsOn (framesOf requests) =
      requests.filterMap fun request => understood (passedOf request) := by
  rw [commandsOn, scan_frames_of, List.filterMap_map]
  apply List.filterMap_congr
  intro request _
  exact read_frame request

theorem commands_on_append {front whole : List UInt8} (begins : front <+: whole) :
    commandsOn front <+: commandsOn whole := by
  rcases begins with ⟨rest, rfl⟩
  rw [commandsOn, commandsOn, rpcScanner.scan_append, List.filterMap_append]
  exact List.prefix_append _ _

theorem passed_synchronous (command : Command) :
    command.passed.cmd0 &&& mtRpcCmdTypeMask = mtRpcCmdSreq := by
  have af : (mtRpcCmdSreq ||| mtRpcSysAf) &&& mtRpcCmdTypeMask = mtRpcCmdSreq := by decide
  have sapi : (mtRpcCmdSreq ||| mtRpcSysSapi) &&& mtRpcCmdTypeMask = mtRpcCmdSreq := by decide
  have zdo : (mtRpcCmdSreq ||| mtRpcSysZdo) &&& mtRpcCmdTypeMask = mtRpcCmdSreq := by decide
  cases command with
  | register registration => exact af
  | data request whole fits => exact af
  | permitJoining destination timeout => exact sapi
  | activeEp dstAddr nwkAddrOfInterest => exact zdo
  | simpleDesc dstAddr nwkAddrOfInterest endpoint => exact zdo

/-- Every registration that is let through keeps to the bounds of the arrays. No array of a request is
read behind its end exactly if it does, and what then goes out is a synchronous request from which
what was meant is read again. -/
theorem requests_understood :
    (∀ inClusterCount inCluster outClusterCount outCluster endpoint appdevicetypeid req,
      zclRegisterCluster inClusterCount inCluster outClusterCount outCluster endpoint
        appdevicetypeid = some req → Bounded req) ∧
      ∀ cmd req, (sendcmd cmd req = none ↔ ¬Bounded req) ∧
        ∀ passed, sendcmd cmd req = some passed →
          passed.cmd0 &&& mtRpcCmdTypeMask = mtRpcCmdSreq ∧ passed.payload.length ≤ 138 ∧
            understood passed = meant req ∧
            (commandsOn (frameOf passed.cmd0 passed.cmd1 passed.payload)).map some =
              [meant req] := by
  refine ⟨fun _ _ _ _ _ _ _ => register_cluster_bounded, ?_⟩
  intro cmd req
  rw [sendcmd_eq, ← meant_eq_none_iff, Option.map_eq_none_iff]
  refine ⟨Iff.rfl, ?_⟩
  intro passed sends
  rcases Option.map_eq_some_iff.mp sends with ⟨command, means, rfl⟩
  have short := passed_length command
  have framed := commands_on_frames
    [⟨command.passed.cmd0, command.passed.cmd1, command.passed.payload, by omega⟩]
  have found := understood_passed command
  refine ⟨passed_synchronous command, short, by rw [found, means], ?_⟩
  simp only [framesOf, List.map_cons, List.map_nil, List.flatten_singleton, Request.frame,
    List.filterMap_cons, passedOf, found, List.filterMap_nil] at framed
  rw [framed, means]
  rfl

end Line

section Threads

variable {Thread : Type} [DecidableEq Thread]

/-- Which thread gets `rpcSem` with a step, and for which request. -/
def entersBy (state : State Thread) : Event Thread → Option (Thread × Request)
  | .enter thread =>
      match state.sending thread with
      | .blocked request => some (thread, request)
      | _ => none
  | _ => none

def called (thread : Thread) : Event Thread → Option Request
  | .call other request => if other = thread then some request else none
  | _ => none

def callsOf (thread : Thread) (events : List (Event Thread)) : List Request :=
  events.filterMap (called thread)

def waiting : Sending → List Request
  | .blocked request => [request]
  | _ => []

def ofThread {α : Type} (thread : Thread) (entries : List (Thread × α)) : List α :=
  entries.filterMap fun entry => if entry.1 = thread then some entry.2 else none

theorem of_thread_append {α : Type} (thread : Thread) (front back : List (Thread × α)) :
    ofThread thread (front ++ back) = ofThread thread front ++ ofThread thread back :=
  List.filterMap_append

omit [DecidableEq Thread] in
theorem enters_by_snd (state : State Thread) (event : Event Thread) :
    (entersBy state event).map Prod.snd = enters state event := by
  cases event with
  | enter thread =>
      rw [entersBy, enters]
      cases state.sending thread <;> rfl
  | _ => rfl

variable {state next : State Thread}

theorem waiting_moved {mover : Thread} {before : Sending} (after : Sending)
    (here : state.sending mover = before)
    (moved : next.sending = update state.sending mover after)
    (passes : waiting before = waiting after) (thread : Thread) :
    waiting (state.sending thread) ++ [] = [] ++ waiting (next.sending thread) := by
  rw [List.append_nil, List.nil_append, moved]
  by_cases this : thread = mover
  · rw [this, update_self, here, passes]
  · rw [update_of_ne this]

theorem waiting_step {event : Event Thread} (stepped : step state event = some next)
    (thread : Thread) :
    waiting (state.sending thread) ++ (called thread event).toList =
      ofThread thread (entersBy state event).toList ++ waiting (next.sending thread) := by
  cases event with
  | call caller request =>
      rw [step] at stepped
      split at stepped
      · next here =>
          cases stepped
          rw [State.move_to_sending]
          by_cases this : thread = caller
          · rw [this, update_self, here, called, if_pos rfl]
            rfl
          · rw [update_of_ne this, called, if_neg fun same => this same.symm, Option.toList_none,
              List.append_nil]
            rfl
      · cases stepped
  | enter mover =>
      rw [step] at stepped
      split at stepped
      · next request here =>
          split at stepped
          · cases stepped
            rw [State.move_to_sending, entersBy, here]
            by_cases this : thread = mover
            · rw [this, update_self, here]
              simp [ofThread, waiting, called]
            · rw [update_of_ne this]
              simp [ofThread, called, Ne.symm this]
          · cases stepped
      · cases stepped
  | expect mover buf =>
      rw [step] at stepped
      split at stepped
      · next request here =>
          rcases Option.map_eq_some_iff.mp stepped with ⟨pieces, _, rfl⟩
          exact waiting_moved (.writing request pieces) here (by rfl) (by rfl) thread
      · cases stepped
  | write mover sent =>
      rw [step] at stepped
      split at stepped
      · next request piece here =>
          cases stepped
          have passes : waiting (.writing request [piece]) = waiting (afterFrame request) := by
            rw [afterFrame]
            split <;> rfl
          exact waiting_moved (afterFrame request) here (by rfl) passes thread
      · next request piece pieces _ here =>
          cases stepped
          exact waiting_moved (.writing request pieces) here (by rfl) (by rfl) thread
      · cases stepped
  | takeSrsp mover =>
      rw [step] at stepped
      split at stepped
      · next request here =>
          split at stepped
          · cases stepped
            exact waiting_moved (.clearing request _) here (by rfl) (by rfl) thread
          · cases stepped
      · cases stepped
  | timeout mover =>
      rw [step] at stepped
      split at stepped
      · next request here =>
          cases stepped
          exact waiting_moved (.clearing request _) here (by rfl) (by rfl) thread
      · cases stepped
  | clear mover =>
      rw [step] at stepped
      split at stepped
      · next request status here =>
          cases stepped
          exact waiting_moved (.posting request status) here (by rfl) (by rfl) thread
      · cases stepped
  | post mover =>
      rw [step] at stepped
      split at stepped
      · next request status here =>
          cases stepped
          exact waiting_moved (.returning request status) here (by rfl) (by rfl) thread
      · cases stepped
  | finish mover =>
      rw [step] at stepped
      split at stepped
      · next request status here =>
          cases stepped
          exact waiting_moved .idle here (by rfl) (by rfl) thread
      · cases stepped
  | answer message =>
      rw [step] at stepped
      split at stepped
      · split at stepped
        · cases stepped
          exact List.append_nil _
        · cases stepped
      · cases stepped
  | arrive message =>
      cases stepped
      exact List.append_nil _
  | receive =>
      rw [step] at stepped
      split at stepped
      · cases stepped
        exact List.append_nil _
      · cases stepped
  | check =>
      rw [step] at stepped
      split at stepped
      · split_ifs at stepped <;> cases stepped <;> exact List.append_nil _
      · cases stepped
  | postSrsp =>
      rw [step] at stepped
      split at stepped
      · cases stepped
        exact List.append_nil _
      · cases stepped
  | pass =>
      rw [step] at stepped
      split at stepped
      · cases stepped
        exact List.append_nil _
      · cases stepped

/-- The requests of a thread get `rpcSem` in the order in which it comes with them. -/
theorem waiting_run {events : List (Event Thread)} (ran : run step state events = some next)
    (thread : Thread) :
    waiting (state.sending thread) ++ callsOf thread events =
      ofThread thread (observed step entersBy state events) ++ waiting (next.sending thread) := by
  induction events generalizing state with
  | nil =>
      rw [run, Option.some.injEq] at ran
      rw [ran]
      exact List.append_nil _
  | cons event events induction =>
      rw [run, Option.bind_eq_some_iff] at ran
      rcases ran with ⟨middle, stepped, later⟩
      have first := waiting_step stepped thread
      have rest := induction later
      have split : callsOf thread (event :: events) =
          (called thread event).toList ++ callsOf thread events := by
        rw [callsOf, List.filterMap_cons]
        cases called thread event <;> rfl
      rw [observed_cons stepped, of_thread_append, split, ← List.append_assoc, first,
        List.append_assoc, rest, List.append_assoc]

end Threads

section Delivery

variable {Thread : Type} [DecidableEq Thread]

/-- The commands of the requests that got `rpcSem`, each with its thread. -/
def commandEntries (entries : List (Thread × Request)) : List (Thread × Command) :=
  entries.filterMap fun entry => (understood (passedOf entry.2)).map fun command =>
    (entry.1, command)

omit [DecidableEq Thread] in
theorem command_entries_snd (entries : List (Thread × Request)) :
    (commandEntries entries).map Prod.snd =
      (entries.map Prod.snd).filterMap fun request => understood (passedOf request) := by
  rw [commandEntries, List.map_filterMap, List.filterMap_map]
  apply List.filterMap_congr
  intro entry _
  rw [Option.map_map]
  exact Option.map_id'

theorem of_thread_commands (entries : List (Thread × Request)) (thread : Thread) :
    ofThread thread (commandEntries entries) =
      (ofThread thread entries).filterMap fun request => understood (passedOf request) := by
  rw [ofThread, commandEntries, List.filterMap_filterMap, ofThread, List.filterMap_filterMap]
  apply List.filterMap_congr
  intro entry _
  by_cases mine : entry.1 = thread
  · rw [if_pos mine, Option.bind_some, Option.bind_map]
    cases understood (passedOf entry.2) with
    | none => rfl
    | some command => exact if_pos mine
  · rw [if_neg mine, Option.bind_none, Option.bind_map]
    cases understood (passedOf entry.2) with
    | none => rfl
    | some command => exact if_neg mine

theorem filter_map_of_all {α β : Type} {read : α → Option β} {items : List α}
    (all : ∀ item ∈ items, read item ≠ none) : (items.filterMap read).map some = items.map read := by
  induction items with
  | nil => rfl
  | cons item items induction =>
      rw [List.forall_mem_cons] at all
      rcases Option.ne_none_iff_exists'.mp all.1 with ⟨value, found⟩
      rw [List.filterMap_cons_some found, List.map_cons, List.map_cons, induction all.2, found]

/-- The threads call `sendcmd` one request after the other, each with its block. -/
def Follows (program : Thread → List (Memory × Req)) (events : List (Event Thread)) : Prop :=
  ∀ thread, ((callsOf thread events).map fun request => some (passedOf request)) <+:
    (program thread).map fun call => sendcmd call.1 call.2

theorem understood_calls {program : Thread → List (Memory × Req)} {events : List (Event Thread)}
    (follows : Follows program events) (thread : Thread) :
    ((callsOf thread events).map fun request => understood (passedOf request)) <+:
        ((program thread).map fun call => meant call.2) ∧
      ∀ request ∈ callsOf thread events, understood (passedOf request) ≠ none := by
  have means : ∀ call : Memory × Req, (sendcmd call.1 call.2).bind understood = meant call.2 := by
    intro call
    rw [sendcmd_eq]
    cases meant call.2 with
    | none => rfl
    | some command => exact understood_passed command
  constructor
  · have read := (follows thread).map fun passed => passed.bind understood
    rw [List.map_map, List.map_map] at read
    simp only [Function.comp_def, means, Option.bind_some] at read
    exact read
  · intro request member
    have passed : some (passedOf request) ∈ (program thread).map fun call =>
        sendcmd call.1 call.2 := by
      exact (follows thread).subset (List.mem_map_of_mem member)
    rcases List.mem_map.mp passed with ⟨call, _, sends⟩
    rw [sendcmd_eq] at sends
    rcases Option.map_eq_some_iff.mp sends with ⟨command, _, same⟩
    rw [← same, understood_passed]
    exact Option.some_ne_none _

/-- Whatever the threads ask for at the same time: there is one order of commands, of each thread those
that it means and in its order, and the line carries them in that order, as far as they are written,
if the port throws nothing away. Of a thread that does not wait nothing is left out. -/
theorem commands_delivered {program : Thread → List (Memory × Req)} {events : List (Event Thread)}
    {next : State Thread} (follows : Follows program events)
    (ran : run step rpcOpen events = some next) :
    ∃ entries : List (Thread × Command),
      (∀ thread, (ofThread thread entries).map some <+:
        (program thread).map fun call => meant call.2) ∧
      (Meets step (lets Whole) rpcOpen events →
        commandsOn next.wire <+: entries.map Prod.snd ∧
        ((∀ thread, ¬(next.sending thread).Inside) →
          commandsOn next.wire = entries.map Prod.snd)) ∧
      ∀ thread, waiting (next.sending thread) = [] →
        (ofThread thread entries).length = (callsOf thread events).length := by
  have order : ∀ thread, callsOf thread events =
      ofThread thread (observed step entersBy rpcOpen events) ++ waiting (next.sending thread) :=
    fun thread => waiting_run ran thread
  have entered := @observed_map _ _ step _ _ _ _ _ enters_by_snd rpcOpen events
  refine ⟨commandEntries (observed step entersBy rpcOpen events), ?_, ?_, ?_⟩
  · intro thread
    rcases understood_calls follows thread with ⟨read, all⟩
    rw [order thread] at read all
    rw [of_thread_commands, filter_map_of_all fun request member =>
      all request (List.mem_append_left _ member)]
    refine List.IsPrefix.trans ?_ read
    rw [List.map_append]
    exact List.prefix_append _ _
  · intro passed
    rcases keeps_run orderly_open passed ran with ⟨holder, whole, _⟩
    simp only [List.nil_append] at whole
    rw [command_entries_snd, entered, ← commands_on_frames]
    refine ⟨commands_on_append whole.written.is_prefix, ?_⟩
    intro nobody
    have written := whole.written
    cases whole.sole with
    | free opened _ => rw [Lines.whole written]
    | held holder closed here others => exact absurd here (nobody holder)
  · intro thread nothing
    rcases understood_calls follows thread with ⟨_, all⟩
    have same := order thread
    rw [nothing, List.append_nil] at same
    rw [same] at all
    have kept := congrArg List.length (filter_map_of_all all)
    rw [List.length_map, List.length_map] at kept
    rw [of_thread_commands, kept, same]

/-- One thread looks for endpoints and opens the network, the other one switches something on. -/
def asked : Bool → List (Memory × Req)
  | true =>
      [(fun _ => 0xEE, .zdo (.activeEpReq 0x1234 0x1234)),
        (fun _ => 0, .radio (.zbPermitJoiningReq 0xFFFC 60))]
  | false => [(fun _ => 0xAA, .radio (.afDataRequest ⟨0x5678, 1, 1, 6, 9, 0, 15, 3, [0x11, 9, 1]⟩))]

def asking : List (Event Bool) :=
  [.call true ⟨0x25, 0x05, [0x34, 0x12, 0x34, 0x12], by decide⟩,
    .call false ⟨0x24, 0x01, [0x78, 0x56, 1, 1, 6, 0, 9, 0, 15, 3, 0x11, 9, 1], by decide⟩,
    .enter false, .expect false fun _ => 0, .write false 8, .write false 8, .write false 8,
    .answer [0x64, 0x01, 0x00, 0x65], .receive, .check, .postSrsp, .takeSrsp false, .pass,
    .clear false, .post false, .enter true, .expect true fun _ => 0, .write true 8, .write true 8,
    .timeout true, .clear true, .post true, .finish true,
    .call true ⟨0x26, 0x08, [0xFC, 0xFF, 60], by decide⟩]

theorem commands_delivered_asking :
    ∃ (next : State Bool) (entries : List (Bool × Command)), run step rpcOpen asking = some next ∧
      (∀ thread, (ofThread thread entries).map some <+:
        (asked thread).map fun call => meant call.2) ∧
      (ofThread false entries).length = 1 := by
  have runs : (run step rpcOpen asking).isSome := by decide +kernel
  rcases Option.isSome_iff_exists.mp runs with ⟨next, ran⟩
  have follows : Follows asked asking := by
    intro thread
    cases thread <;> decide +kernel
  have done : (run step rpcOpen asking).map (fun state => (waiting (state.sending false)).length) =
      some 0 := by decide +kernel
  rw [ran, Option.map_some, Option.some.injEq, List.length_eq_zero_iff] at done
  rcases commands_delivered follows ran with ⟨entries, means, _, all⟩
  refine ⟨next, entries, ran, means, ?_⟩
  rw [all false done]
  rfl

end Delivery

end SmartHome.CommandDelivery
