import SmartHome.Library.Bytes

/-!
# Frames of the network processor

`rpc.c` over `rpcTransportUart.c`. `rpcSendFrame` builds a frame and writes it to the serial
port in pieces of eight bytes, and what has not left the port behind each of them is thrown
away; `rpcProcess` reads one frame, in as many reads as it takes, and passes it on to the queue.
-/

namespace SmartHome.Rpc

open SmartHome.Library.Bytes

set_option autoImplicit false

def mtRpcSof : UInt8 := 0xFE
def mtRpcCmdTypeMask : UInt8 := 0xE0
def mtRpcSubsystemMask : UInt8 := 0x1F
def mtRpcCmdSreq : UInt8 := 0x20
def mtRpcCmdSrsp : UInt8 := 0x60
def rpcMaxLen : Nat := 256
def rpcHdrLen : UInt8 := 3
def rpcUartHdrLen : UInt8 := 4
def rpcUartFcsLen : UInt8 := 1
def rpcCmd0FieldLen : UInt8 := 1
def rpcCmd1FieldLen : UInt8 := 1

def calcFcs (memory : Memory) (msg : Nat) (size : UInt8) : UInt8 :=
  (readBytes memory msg size.toNat).foldl (· ^^^ ·) 0

/-- What a call of `read` on the serial port does: it fails, or takes at most this many bytes. -/
inductive ReadOutcome
  | failed
  | delivered (count : Nat)
  deriving DecidableEq

/-- The bytes that are still to come in, and what the coming calls of `read` do. -/
structure SerialPort where
  incoming : List UInt8
  outcomes : List ReadOutcome
  deriving DecidableEq

/-- The value of `read`, cut down to a byte, and the bytes that it stores. -/
structure Transfer where
  bytesRead : UInt8
  bytes : List UInt8

def transfer (len : UInt8) (incoming : List UInt8) : ReadOutcome → Transfer
  | .failed => ⟨255, []⟩
  | .delivered count =>
      let bytes := incoming.take (min count len.toNat)
      ⟨UInt8.ofNat bytes.length, bytes⟩

/-- No value stands for a call that does not return within the run. -/
def rpcTransportRead (len : UInt8) (port : SerialPort) : Option (Transfer × SerialPort) :=
  match port.outcomes with
  | [] => none
  | outcome :: outcomes =>
      let moved := transfer len port.incoming outcome
      some (moved, ⟨port.incoming.drop moved.bytes.length, outcomes⟩)

structure Reading where
  rpcBuff : Memory
  rpcBuffIdx : UInt8
  rpcTempLen : UInt8
  retryAttempts : UInt8

/-- The `while` loop: the buffer when it is filled, or nothing after too many failed reads. -/
def fillBuffer (reading : Reading) (incoming : List UInt8) :
    List ReadOutcome → Option (Option Memory × SerialPort)
  | [] => if 0 < reading.rpcTempLen then none else some (some reading.rpcBuff, ⟨incoming, []⟩)
  | outcome :: outcomes =>
      if 0 < reading.rpcTempLen then
        let moved := transfer reading.rpcTempLen incoming outcome
        let rpcBuff := stored reading.rpcBuff reading.rpcBuffIdx.toNat moved.bytes
        let incoming := incoming.drop moved.bytes.length
        if moved.bytesRead > reading.rpcTempLen then
          if reading.retryAttempts < 5 then
            fillBuffer { reading with rpcBuff, retryAttempts := reading.retryAttempts + 1 } incoming
              outcomes
          else some (none, ⟨incoming, outcomes⟩)
        else
          let rpcTempLen :=
            if reading.rpcTempLen > moved.bytesRead then reading.rpcTempLen - moved.bytesRead else 0
          fillBuffer
            { reading with
              rpcBuff, rpcTempLen, rpcBuffIdx := reading.rpcBuffIdx + moved.bytesRead }
            incoming outcomes
      else some (some reading.rpcBuff, ⟨incoming, outcome :: outcomes⟩)

inductive Processed
  | failed
  | queued (message : List UInt8) (prio : Nat)
  /-- `rpcBuff` is read behind its end. -/
  | outside
  /-- `printRpcMsg` does not return. -/
  | endless
  /-- A message is printed that takes numbers for strings. -/
  | crashed
  deriving DecidableEq

/-- Only behind these the task calls again. -/
def Processed.returns : Processed → Bool
  | .failed => true
  | .queued _ _ => true
  | .outside => false
  | .endless => false
  | .crashed => false

def passOn (expectedSrspCmdId len : UInt8) (rpcBuff : Memory) : Processed :=
  -- the counter of `printRpcMsg` has eight bits
  if 256 ≤ len.toNat + 2 then .endless
  else if rpcMaxLen ≤ len.toNat + 3 then .outside
  else if rpcBuff (len.toNat + 3) ≠ calcFcs rpcBuff 0 (len + 3) then .failed
  else
    let rpcLen := len + (rpcCmd0FieldLen + rpcCmd1FieldLen + rpcUartFcsLen)
    if rpcBuff 1 &&& mtRpcCmdTypeMask = mtRpcCmdSrsp then
      if expectedSrspCmdId = rpcBuff 1 &&& mtRpcSubsystemMask then
        .queued (readBytes rpcBuff 1 rpcLen.toNat) 1
      -- the warning about it has two numbers for two of its `%02X%s`
      else .crashed
    else .queued (readBytes rpcBuff 1 rpcLen.toNat) 0

/-- One call, with what lies on the stack where `rpcBuff` will be. -/
def rpcProcess (expectedSrspCmdId : UInt8) (rpcBuff : Memory) (port : SerialPort) :
    Option (Processed × SerialPort) :=
  match rpcTransportRead 1 port with
  | none => none
  | some (first, port) =>
      if first.bytes = [mtRpcSof] then
        match rpcTransportRead 1 port with
        | none => none
        | some (second, port) =>
            match second.bytes with
            | [rpcLen] =>
                let rpcTempLen := rpcLen + (rpcCmd0FieldLen + rpcCmd1FieldLen + rpcUartFcsLen)
                match fillBuffer ⟨stored rpcBuff 0 [rpcLen], 1, rpcTempLen, 0⟩ port.incoming
                    port.outcomes with
                | none => none
                | some (none, port) => some (.failed, port)
                | some (some rpcBuff, port) => some (passOn expectedSrspCmdId rpcLen rpcBuff, port)
            | _ => some (.failed, port)
      else some (.failed, port)

/-- What other threads and earlier calls leave for a call of `rpcProcess`. -/
structure Surroundings where
  expectedSrspCmdId : UInt8
  rpcBuff : Memory

/-- `rpctask`: one call after the other, as many as there are surroundings for, or until one does
not return. -/
def rpctask : List Surroundings → SerialPort → Option (List Processed × SerialPort)
  | [], port => some ([], port)
  | around :: later, port =>
      match rpcProcess around.expectedSrspCmdId around.rpcBuff port with
      | none => none
      | some (processed, port) =>
          if processed.returns then
            (rpctask later port).map fun result => (processed :: result.1, result.2)
          else some ([processed], port)

/-- The bytes of `buf` in `rpcSendFrame` when it is written, unless they do not fit. -/
def buildFrame (buf : Memory) (cmd0 cmd1 : UInt8) (payload : List UInt8) : Option Memory :=
  let payloadLen := UInt8.ofNat payload.length
  if payloadLen.toNat + rpcUartHdrLen.toNat < rpcMaxLen then
    let buf := stored buf 0 [mtRpcSof, payloadLen, cmd0, cmd1]
    let buf := stored buf rpcUartHdrLen.toNat (payload.take payloadLen.toNat)
    some (stored buf (payloadLen.toNat + rpcUartHdrLen.toNat)
      [calcFcs buf 1 (payloadLen + rpcHdrLen)])
  else none

def writePieces (buf : Memory) (offset remain : Nat) : List (List UInt8) :=
  if 0 < remain then
    readBytes buf offset (if 8 ≤ remain then 8 else remain) ::
      writePieces buf (offset + 8) (remain - 8)
  else []
termination_by remain

/-- What leaves the port: of each piece the bytes that `write` takes and that are gone when
`tcflush` throws away the others, so many behind each `write`. -/
def transmitted (pieces : List (List UInt8)) (sent : List Nat) : List UInt8 :=
  (List.zipWith (fun piece count => piece.take count) pieces sent).flatten

def rpcTransportWrite (buf : Memory) (len : UInt8) (sent : List Nat) : List UInt8 :=
  transmitted (writePieces buf 0 len.toNat) sent

def frameLength (payload : List UInt8) : UInt8 :=
  UInt8.ofNat payload.length + rpcUartHdrLen + rpcUartFcsLen

def sentPieces (buf : Memory) (cmd0 cmd1 : UInt8) (payload : List UInt8) :
    Option (List (List UInt8)) :=
  (buildFrame buf cmd0 cmd1 payload).map fun buf => writePieces buf 0 (frameLength payload).toNat

def sentBytes (buf : Memory) (cmd0 cmd1 : UInt8) (payload : List UInt8) (sent : List Nat) :
    Option (List UInt8) :=
  (buildFrame buf cmd0 cmd1 payload).map fun buf =>
    rpcTransportWrite buf (frameLength payload) sent

end SmartHome.Rpc
