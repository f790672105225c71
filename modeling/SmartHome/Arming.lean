import SmartHome.DurableRenames
import SmartHome.EventRecvznp
import SmartHome.Library.Arcs
import SmartHome.Transitions

/-!
# Arming

What a request to arm an endpoint does when the database may fail. The handler asks the
database first and touches the registry only after a success, so that the two records
change together or not at all. A call of SQLite that fails has no effect.
-/

namespace SmartHome.Arming

open SmartHome.Library.Arcs
open SmartHome.Library.Blobs
open SmartHome.Library.Bytes
open SmartHome.Library.Circular
open SmartHome.Library.CTypes
open SmartHome.Library.MemoryCursor
open SmartHome.Library.Tables
open SmartHome.Bytebuffer
open SmartHome.WireScan
open SmartHome.Registry
open SmartHome.Effects
open SmartHome.Encode
open SmartHome.Parse
open SmartHome.Receive
open SmartHome.EventRecvmsg
open SmartHome.EventRecvznp
open SmartHome.CommandTranslation
open SmartHome.EndpointBlob
open SmartHome.Sqlitedb
open SmartHome.Transitions
open SmartHome.Renames
open SmartHome.DurableRenames

set_option autoImplicit false

/-- Whether SQLite does what it is asked: open the database, open a blob, write to it. -/
structure SqliteOutcome where
  create : Bool
  blobOpen : Bool
  blobWrite : Bool

/-- The registry in memory and the table of its devices. -/
structure Registered where
  state : MainState
  table : DeviceTable

/-- A row that is not there has no blob to open. -/
def sqlite3BlobOpen (outcome : SqliteOutcome) (table : DeviceTable) (key : Int) :
    Option DeviceRow :=
  if outcome.blobOpen then table.lookup key else none

/-- A blob does not grow. -/
def sqlite3BlobWrite (outcome : SqliteOutcome) (blob bytes : List UInt8) (position : Nat) :
    Option (List UInt8) :=
  if outcome.blobWrite ∧ position + bytes.length ≤ blob.length then
    some (blobWrite blob position bytes)
  else none

/-- `sqlitedb_update_device_arm` with its five ways out before the last. -/
def sqlitedbUpdateDeviceArm (outcome : SqliteOutcome) (gw : Gateway) (ieee : UInt64)
    (endpoint : UInt8) (arm : Arm) (table : DeviceTable) : UInt8 × DeviceTable :=
  match gatewayGetdevice gw ieee with
  | some d =>
      match deviceGetIndex d endpoint with
      | none => (1, table)
      | some epindex =>
          if ¬outcome.create then (2, table)
          else
            match sqlite3BlobOpen outcome table (bindKey d.ieeeaddr) with
            | none => (3, table)
            | some row =>
                match sqlite3BlobWrite outcome row.endpoint (armBytes arm)
                  (fieldPosition epindex (.arm arm)) with
                | none => (4, table)
                | some blob =>
                    (0, table.update (bindKey d.ieeeaddr) fun row => { row with endpoint := blob })
  | none => (5, table)

/-- The handler's result comes from that function. -/
def armHost (outcome : SqliteOutcome) (host : Host) (s : Registered) : Host :=
  { host with
    sqlitedbUpdateDeviceArm := fun ieee endpoint arm =>
      (sqlitedbUpdateDeviceArm outcome s.state.gateway ieee endpoint arm s.table).1 }

/-- The call comes before the registry is touched. -/
def runArm (outcome : SqliteOutcome) (gw : Gateway) (table : DeviceTable) :
    DatabaseCall → DeviceTable
  | .updateDeviceArm ieee endpoint arm =>
      (sqlitedbUpdateDeviceArm outcome gw ieee endpoint arm table).2
  | call => runCall gw table call

def setArmFrame (serialnum : UInt32) (ieee : UInt64) (endpoint : UInt8) (arm : Arm) : List UInt8 :=
  encodeFrame deviceSetarm
    (bytebufferWritedword serialnum ++ (bytebufferWritequadword ieee ++
      (bytebufferWritebyte endpoint ++ armBytes arm)))

def Registered.handled (outcome : SqliteOutcome) (state : MainState) (s : Registered) :
    Registered :=
  ⟨state, (databaseCalls (newEffects s.state state)).foldl (runArm outcome s.state.gateway)
    s.table⟩

def Registered.received (outcome : SqliteOutcome) (host : Host) (fd : Int) (frame : List UInt8)
    (s : Registered) : Registered :=
  s.handled outcome (eventSwitch (armHost outcome host s) fd deviceSetarm
    (UInt32.ofNat frame.length) (localBuffer frame) s.state)

def sentTo (fd : Int) (effects : List Effect) : List (List UInt8) :=
  effects.filterMap fun
    | .send receiver frame => if receiver = fd then some frame else none
    | _ => none

/-- The endpoint is at an index of the device, and SQLite makes `blob` of the blob in its row. -/
structure Writes (outcome : SqliteOutcome) (s : Registered) (ieee : UInt64) (endpoint : UInt8)
    (arm : Arm) (d : Device) (epindex : Nat) (row : DeviceRow) (blob : List UInt8) : Prop where
  device : gatewayGetdevice s.state.gateway ieee = some d
  index : deviceGetIndex d endpoint = some epindex
  created : outcome.create = true
  opened : sqlite3BlobOpen outcome s.table (bindKey ieee) = some row
  written : sqlite3BlobWrite outcome row.endpoint (armBytes arm)
    (fieldPosition epindex (.arm arm)) = some blob

def Succeeds (outcome : SqliteOutcome) (s : Registered) (ieee : UInt64) (endpoint : UInt8)
    (arm : Arm) : Prop :=
  validTimes arm ∧ ∃ d epindex row blob, Writes outcome s ieee endpoint arm d epindex row blob

def armed (arm : Arm) (ep : Endpoint) : Endpoint :=
  { ep with simpledesc := { ep.simpledesc with arm } }

/-- In memory one endpoint has another arm record and is otherwise as it was, in front of it and
behind it nothing has changed. -/
structure ArmedInMemory (before after : Gateway) (ieee : UInt64) (endpoint : UInt8) (arm : Arm)
    (epindex : Nat) : Prop where
  changed : ∃ devices d later eps ep others,
    before.devices = devices ++ d :: later ∧ (∀ other ∈ devices, other.ieeeaddr ≠ ieee) ∧
    d.ieeeaddr = ieee ∧
    d.eplist = eps ++ ep :: others ∧ (∀ other ∈ eps, other.number ≠ endpoint) ∧
    ep.number = endpoint ∧ eps.length = epindex ∧
    after = { before with
      devices := devices ++ { d with eplist := eps ++ armed arm ep :: others } :: later }

/-- In the row five bytes of the record at the endpoint's index are those of the arm record, the
blob is otherwise as it was, and so are the other columns and the other rows. -/
structure ArmedInTable (before after : DeviceTable) (ieee : UInt64) (arm : Arm) (epindex : Nat) :
    Prop where
  keys : after.keys = before.keys
  others : ∀ key, key ≠ bindKey ieee → after.lookup key = before.lookup key
  changed : ∃ row front old back, before.lookup (bindKey ieee) = some row ∧
    row.endpoint = front ++ old ++ back ∧ old.length = (armBytes arm).length ∧
    front.length =
      sizeofActiveEpRspFormat + sizeofSimpledesc * epindex + (sizeofSimpleDescRspFormat + 2) ∧
    after.lookup (bindKey ieee) = some { row with endpoint := front ++ armBytes arm ++ back }
  /-- As records, when the blob has that form. -/
  records : ∀ {row activeep records}, before.lookup (bindKey ieee) = some row →
    Stores row.endpoint activeep records →
    ∃ row', after.lookup (bindKey ieee) = some row' ∧
      Stores row'.endpoint activeep (records.modify epindex fun record => { record with arm })

theorem parse_arm {memory : Memory} {serialnum : UInt32} {ieee : UInt64} {endpoint : UInt8}
    {arm : Arm}
    (held : Holds memory 5
      (bytebufferWritedword serialnum ++ (bytebufferWritequadword ieee ++
        (bytebufferWritebyte endpoint ++ armBytes arm)))) :
    protocolParseArm.value memory = ⟨ieee, serialnum, endpoint, arm⟩ := by
  rw [holds_append, holds_append, holds_append] at held
  simp only [bytebuffer_writedword_length, bytebuffer_writequadword_length,
    bytebuffer_writebyte_length] at held
  rcases held with ⟨serialnumHeld, ieeeHeld, endpointHeld, armHeld⟩
  rcases armHeld with ⟨model, starthour, startminute, endhour, endminute, -⟩
  change ParsedArm.mk (bytebufferGetquadword (readBytes memory 9 8))
    (bytebufferGetdword (readBytes memory 5 4)) (memory 17)
    ⟨memory 18, memory 19, memory 20, memory 21, memory 22⟩ = _
  rw [getdword_held serialnumHeld, getquadword_held ieeeHeld, endpointHeld.1, model, starthour,
    startminute, endhour, endminute]

theorem arm_feedback_result (serialnum : UInt32) (ieee : UInt64) (result : UInt8) :
    feedbackResult (protocolEncodeArmFeedback serialnum ieee result) = some result := by
  have front : (bytebufferWritedword serialnum ++ bytebufferWritequadword ieee).length = 12 := by
    simp
  have cell := encode_frame_get deviceArmFeedback
    (bytebufferWritedword serialnum ++ bytebufferWritequadword ieee) [] result
  rw [front] at cell
  exact cell

section Update

variable {outcome : SqliteOutcome} {s : Registered} {ieee : UInt64} {endpoint : UInt8} {arm : Arm}

theorem update_arm_written {d : Device} {epindex : Nat} {row : DeviceRow} {blob : List UInt8}
    (writes : Writes outcome s ieee endpoint arm d epindex row blob) :
    sqlitedbUpdateDeviceArm outcome s.state.gateway ieee endpoint arm s.table =
      (0, s.table.update (bindKey ieee) fun row => { row with endpoint := blob }) := by
  have created : ¬¬outcome.create = true := not_not.mpr writes.created
  rw [sqlitedbUpdateDeviceArm, writes.device]
  simp only
  rw [writes.index]
  simp only
  rw [if_neg created, gateway_getdevice_ieeeaddr writes.device, writes.opened]
  simp only
  rw [writes.written]

/-- The function returns 0 when it has written, and otherwise has not touched the table. -/
theorem update_arm_cases (outcome : SqliteOutcome) (s : Registered) (ieee : UInt64)
    (endpoint : UInt8) (arm : Arm) :
    (∃ d epindex row blob, Writes outcome s ieee endpoint arm d epindex row blob) ∨
      ∃ result, result ≠ 0 ∧
        sqlitedbUpdateDeviceArm outcome s.state.gateway ieee endpoint arm s.table =
          (result, s.table) := by
  unfold sqlitedbUpdateDeviceArm
  cases device : gatewayGetdevice s.state.gateway ieee with
  | none => exact .inr ⟨5, by decide, rfl⟩
  | some d =>
      have address := gateway_getdevice_ieeeaddr device
      simp only
      cases index : deviceGetIndex d endpoint with
      | none => exact .inr ⟨1, by decide, rfl⟩
      | some epindex =>
          simp only
          by_cases created : outcome.create = true
          · rw [if_neg (not_not.mpr created), address]
            cases opened : sqlite3BlobOpen outcome s.table (bindKey ieee) with
            | none => exact .inr ⟨3, by decide, rfl⟩
            | some row =>
                simp only
                cases written : sqlite3BlobWrite outcome row.endpoint (armBytes arm)
                    (fieldPosition epindex (.arm arm)) with
                | none => exact .inr ⟨4, by decide, rfl⟩
                | some blob =>
                    exact .inl ⟨d, epindex, row, blob, device, index, created, opened, written⟩
          · rw [if_pos created]
            exact .inr ⟨2, by decide, rfl⟩

theorem not_writes {result : UInt8} {table : DeviceTable} (failed : result ≠ 0)
    (returned : sqlitedbUpdateDeviceArm outcome s.state.gateway ieee endpoint arm s.table =
      (result, table)) :
    ¬∃ d epindex row blob, Writes outcome s ieee endpoint arm d epindex row blob := by
  rintro ⟨d, epindex, row, blob, writes⟩
  rw [update_arm_written writes] at returned
  exact failed (congrArg Prod.fst returned).symm

theorem opened_row {row : DeviceRow}
    (opened : sqlite3BlobOpen outcome s.table (bindKey ieee) = some row) :
    s.table.lookup (bindKey ieee) = some row := by
  unfold sqlite3BlobOpen at opened
  split_ifs at opened
  exact opened

theorem written_blob {blob bytes written : List UInt8} {position : Nat}
    (done : sqlite3BlobWrite outcome blob bytes position = some written) :
    position + bytes.length ≤ blob.length ∧ written = blobWrite blob position bytes := by
  unfold sqlite3BlobWrite at done
  split_ifs at done with allowed
  exact ⟨allowed.2, (Option.some.inj done).symm⟩

theorem armed_in_table {d : Device} {epindex : Nat} {row : DeviceRow} {blob : List UInt8}
    (writes : Writes outcome s ieee endpoint arm d epindex row blob) :
    ArmedInTable s.table
      (s.table.update (bindKey ieee) fun row => { row with endpoint := blob }) ieee arm
      epindex := by
  have found := opened_row writes.opened
  rcases written_blob writes.written with ⟨fits, blob_⟩
  have after : (s.table.update (bindKey ieee) fun row => { row with endpoint := blob }).lookup
      (bindKey ieee) = some { row with endpoint := blob } := by
    rw [lookup_update, if_pos rfl, found]
    rfl
  refine ⟨keys_update _ _ _, ?_, ?_, ?_⟩
  · intro key other
    rw [lookup_update, if_neg other]
  · let position := fieldPosition epindex (.arm arm)
    refine ⟨row, row.endpoint.take position,
      (row.endpoint.drop position).take (armBytes arm).length,
      row.endpoint.drop (position + (armBytes arm).length), found, ?_, ?_, ?_, ?_⟩
    · rw [List.append_assoc, ← List.drop_drop, List.take_append_drop, List.take_append_drop]
    · rw [List.length_take, List.length_drop]
      omega
    · rw [List.length_take, Nat.min_eq_left (by omega)]
      rfl
    · rw [after, blob_, blobWrite, if_pos fits, overwrite]
  · intro row' activeep records found' stores
    obtain rfl : row = row' := Option.some.inj (found.symm.trans found')
    refine ⟨_, after, ?_⟩
    rw [blob_]
    exact stores.write_field epindex (.arm arm)

theorem armed_in_memory {d : Device} {epindex : Nat} {gw : Gateway}
    (device : gatewayGetdevice gw ieee = some d)
    (index : deviceGetIndex d endpoint = some epindex) :
    ArmedInMemory gw (modifyDevice gw ieee (modifyEndpoint · endpoint (armed arm))) ieee endpoint
      arm epindex := by
  rcases modify_first_split device with ⟨devices, later, split, missed, -, changed⟩
  have known : (deviceGetEndpoint d endpoint).isSome = true := by
    rw [← device_get_index_is_some, index]
    rfl
  rcases Option.isSome_iff_exists.mp known with ⟨ep, found⟩
  rcases modify_first_split found with ⟨eps, others, epSplit, epMissed, position, epChanged⟩
  refine ⟨devices, d, later, eps, ep, others, split, ?_, gateway_getdevice_ieeeaddr device, epSplit,
    ?_, device_get_endpoint_number found, ?_, ?_⟩
  · intro other member
    exact of_decide_eq_false (missed other member)
  · intro other member
    exact of_decide_eq_false (epMissed other member)
  · exact Option.some.inj (position.symm.trans index)
  · rw [modifyDevice, changed, modifyEndpoint, epChanged]

end Update

/-- The registry and the table after a request, and the one frame that answers it. -/
structure Leaves (fd : Int) (before : MainState) (after : Registered) (serialnum : UInt32)
    (ieee : UInt64) (result : UInt8) (gateway : Gateway) (table : DeviceTable) : Prop where
  gateway : after.state.gateway = gateway
  table : after.table = table
  answer : sentTo fd (newEffects before after.state) =
    [protocolEncodeArmFeedback serialnum ieee result]

section Handling

variable (outcome : SqliteOutcome) (host : Host) (fd : Int) (s : Registered) (serialnum : UInt32)
  (ieee : UInt64) (endpoint : UInt8) (arm : Arm)

theorem received_eq_handled :
    s.received outcome host fd (setArmFrame serialnum ieee endpoint arm) =
      s.handled outcome
        (handleSetArm (armHost outcome host s) fd ⟨ieee, serialnum, endpoint, arm⟩ s.state) := by
  have parsed := parse_arm (frame_fields_held (armHost outcome host s) deviceSetarm
    (bytebufferWritedword serialnum ++ (bytebufferWritequadword ieee ++
      (bytebufferWritebyte endpoint ++ armBytes arm))))
  rw [← setArmFrame] at parsed
  have switched : eventSwitch (armHost outcome host s) fd deviceSetarm
      (UInt32.ofNat (setArmFrame serialnum ieee endpoint arm).length)
      (localBuffer (setArmFrame serialnum ieee endpoint arm)) s.state =
      handleSetArm (armHost outcome host s) fd (protocolParseArm.value
        (bufferMemory (armHost outcome host s)
          (localBuffer (setArmFrame serialnum ieee endpoint arm)))) s.state := rfl
  rw [Registered.received, switched, parsed]

theorem handle_set_arm_invalid (invalid : ¬validTimes arm) :
    handleSetArm host fd ⟨ieee, serialnum, endpoint, arm⟩ s.state =
      s.state.act [.send fd (protocolEncodeArmFeedback serialnum ieee 1)] := by
  unfold validTimes at invalid
  rw [handleSetArm, if_neg invalid]

variable {outcome host fd s serialnum ieee endpoint arm}

theorem handle_set_arm_failed {result : UInt8} (valid : validTimes arm)
    (returned : host.sqlitedbUpdateDeviceArm ieee endpoint arm = result) (failed : result ≠ 0) :
    handleSetArm host fd ⟨ieee, serialnum, endpoint, arm⟩ s.state =
      s.state.act [.database (.updateDeviceArm ieee endpoint arm),
        .send fd (protocolEncodeArmFeedback serialnum ieee result)] := by
  unfold validTimes at valid
  rw [handleSetArm, if_pos valid]
  simp only [returned]
  rw [if_neg failed]

theorem handle_set_arm_written {d : Device} {ep : Endpoint} (valid : validTimes arm)
    (returned : host.sqlitedbUpdateDeviceArm ieee endpoint arm = 0)
    (device : gatewayGetdevice s.state.gateway ieee = some d)
    (here : deviceGetEndpoint d endpoint = some ep) :
    handleSetArm host fd ⟨ieee, serialnum, endpoint, arm⟩ s.state =
      (s.state.withGateway (modifyDevice s.state.gateway ieee
        (modifyEndpoint · endpoint (armed arm)))).act
        [.database (.updateDeviceArm ieee endpoint arm),
          .send fd (protocolEncodeArmFeedback serialnum ieee 0)] := by
  unfold validTimes at valid
  rw [handleSetArm, if_pos valid]
  simp only [returned]
  rw [if_pos trivial, gateway_get_endpoint_eq device, here]
  rfl

theorem received_act {gateway : Gateway} {calls : List DatabaseCall} {result : UInt8}
    (handled : handleSetArm (armHost outcome host s) fd ⟨ieee, serialnum, endpoint, arm⟩ s.state =
      (s.state.withGateway gateway).act
        (calls.map .database ++ [.send fd (protocolEncodeArmFeedback serialnum ieee result)])) :
    Leaves fd s.state (s.received outcome host fd (setArmFrame serialnum ieee endpoint arm))
      serialnum ieee result gateway
      (calls.foldl (runArm outcome s.state.gateway) s.table) := by
  have new : newEffects s.state (handleSetArm (armHost outcome host s) fd
      ⟨ieee, serialnum, endpoint, arm⟩ s.state) =
      calls.map .database ++ [.send fd (protocolEncodeArmFeedback serialnum ieee result)] := by
    rw [handled]
    exact List.drop_left
  have run : databaseCalls (calls.map Effect.database ++
      [.send fd (protocolEncodeArmFeedback serialnum ieee result)]) = calls := by
    simp [databaseCalls, List.filterMap_append, List.filterMap_map]
  rw [received_eq_handled]
  constructor
  · rw [handled]
    rfl
  · rw [Registered.handled, new, run]
  · rw [Registered.handled, new]
    simp [sentTo, List.filterMap_append, List.filterMap_map]

theorem received_invalid (invalid : ¬validTimes arm) :
    Leaves fd s.state (s.received outcome host fd (setArmFrame serialnum ieee endpoint arm))
      serialnum ieee 1 s.state.gateway s.table :=
  @received_act _ _ _ _ _ _ _ _ _ [] _
    (handle_set_arm_invalid (armHost outcome host s) fd s serialnum ieee endpoint arm invalid)

theorem received_failed {result : UInt8} (valid : validTimes arm) (failed : result ≠ 0)
    (returned : sqlitedbUpdateDeviceArm outcome s.state.gateway ieee endpoint arm s.table =
      (result, s.table)) :
    Leaves fd s.state (s.received outcome host fd (setArmFrame serialnum ieee endpoint arm))
      serialnum ieee result s.state.gateway s.table := by
  have answered : (armHost outcome host s).sqlitedbUpdateDeviceArm ieee endpoint arm = result :=
    congrArg Prod.fst returned
  have left := @received_act outcome host fd s serialnum ieee endpoint arm s.state.gateway
    [.updateDeviceArm ieee endpoint arm] result (handle_set_arm_failed valid answered failed)
  have kept : [DatabaseCall.updateDeviceArm ieee endpoint arm].foldl
      (runArm outcome s.state.gateway) s.table = s.table := congrArg Prod.snd returned
  rwa [kept] at left

theorem received_written {d : Device} {epindex : Nat} {row : DeviceRow} {blob : List UInt8}
    (valid : validTimes arm) (writes : Writes outcome s ieee endpoint arm d epindex row blob) :
    Leaves fd s.state (s.received outcome host fd (setArmFrame serialnum ieee endpoint arm))
      serialnum ieee 0 (modifyDevice s.state.gateway ieee (modifyEndpoint · endpoint (armed arm)))
      (s.table.update (bindKey ieee) fun row => { row with endpoint := blob }) := by
  have known : (deviceGetEndpoint d endpoint).isSome = true := by
    rw [← device_get_index_is_some, writes.index]
    rfl
  rcases Option.isSome_iff_exists.mp known with ⟨ep, here⟩
  have returned := update_arm_written writes
  have answered : (armHost outcome host s).sqlitedbUpdateDeviceArm ieee endpoint arm = 0 :=
    congrArg Prod.fst returned
  have left := @received_act outcome host fd s serialnum ieee endpoint arm
    (modifyDevice s.state.gateway ieee (modifyEndpoint · endpoint (armed arm)))
    [.updateDeviceArm ieee endpoint arm] 0
    (handle_set_arm_written valid answered writes.device here)
  have run : [DatabaseCall.updateDeviceArm ieee endpoint arm].foldl
      (runArm outcome s.state.gateway) s.table =
        s.table.update (bindKey ieee) fun row => { row with endpoint := blob } :=
    congrArg Prod.snd returned
  rwa [run] at left

end Handling

section Clocks

def minuteOfDay (hour minute : UInt8) : Nat := hour.toNat * 60 + minute.toNat

def minutesOfDay : Nat := 24 * 60

theorem minute_of_day_lt {hour minute : UInt8} (hours : hour < 24) (minutes : minute < 60) :
    minuteOfDay hour minute < minutesOfDay := by
  have hours_ : hour.toNat < 24 := UInt8.lt_iff_toNat_lt.mp hours
  have minutes_ : minute.toNat < 60 := UInt8.lt_iff_toNat_lt.mp minutes
  rw [minuteOfDay, minutesOfDay]
  omega

theorem wrapped_minutes {start : Nat} (inside : start < minutesOfDay) (place : Nat) :
    (if (place : Int) - start < 0 then (place : Int) - start + 24 * 60 else (place : Int) - start) =
      (gap minutesOfDay start place : Nat) := by
  rw [minutesOfDay] at inside
  unfold gap minutesOfDay
  split_ifs <;> omega

theorem toolkit_in_period_iff {starthour startminute : UInt8} (hours : starthour < 24)
    (minutes : startminute < 60) (endhour endminute hour minute : UInt8) :
    toolkitInPeriod starthour startminute endhour endminute hour minute = true ↔
      gap minutesOfDay (minuteOfDay starthour startminute) (minuteOfDay hour minute) ≤
        gap minutesOfDay (minuteOfDay starthour startminute) (minuteOfDay endhour endminute) := by
  have wrapped := wrapped_minutes (minute_of_day_lt hours minutes)
  simp only [minuteOfDay, Int.natCast_add, Int.natCast_mul, Int.cast_ofNat_Int] at wrapped
  simp only [toolkitInPeriod, decide_eq_true_eq, minuteOfDay]
  rw [← Int.ofNat_le, ← wrapped, ← wrapped, not_lt]
  rfl

/-- From the start on until the end has passed. -/
theorem endpoint_check_arm_iff {ep : Endpoint} {hour minute : UInt8}
    (model : ep.simpledesc.arm.armmodel = armtime) (times : validTimes ep.simpledesc.arm)
    (hours : hour < 24) (minutes : minute < 60) :
    endpointCheckArm ep hour minute = true ↔
      OnArc minutesOfDay
        (minuteOfDay ep.simpledesc.arm.starthour ep.simpledesc.arm.startminute)
        (minuteOfDay ep.simpledesc.arm.endhour ep.simpledesc.arm.endminute)
        (minuteOfDay hour minute) := by
  have checked : endpointCheckArm ep hour minute =
      toolkitInPeriod ep.simpledesc.arm.starthour ep.simpledesc.arm.startminute
        ep.simpledesc.arm.endhour ep.simpledesc.arm.endminute hour minute := by
    rw [endpointCheckArm, model]
    rfl
  rw [checked, toolkit_in_period_iff times.1 times.2.1,
    on_arc_iff (minute_of_day_lt times.1 times.2.1) (minute_of_day_lt times.2.2.1 times.2.2.2),
    and_iff_right (minute_of_day_lt hours minutes)]

end Clocks

theorem armed_endpoint {d : Device} {epindex : Nat} {gw : Gateway} {ieee : UInt64}
    {endpoint : UInt8} (device : gatewayGetdevice gw ieee = some d)
    (index : deviceGetIndex d endpoint = some epindex) (arm : Arm) :
    ∃ ep, gatewayGetEndpoint (modifyDevice gw ieee (modifyEndpoint · endpoint (armed arm))) ieee
      endpoint = some ep ∧ ep.simpledesc.arm = arm := by
  have known : (deviceGetEndpoint d endpoint).isSome = true := by
    rw [← device_get_index_is_some, index]
    rfl
  rcases Option.isSome_iff_exists.mp known with ⟨ep, found⟩
  refine ⟨armed arm ep, ?_, rfl⟩
  rw [gateway_get_endpoint_modify gw ieee endpoint (armed arm) fun _ => rfl,
    gateway_get_endpoint_eq device, found]
  rfl

/-- The endpoint counts as armed at those minutes of the day that lie between the two times. -/
def ArmedBetween (gw : Gateway) (ieee : UInt64) (endpoint : UInt8) (arm : Arm) : Prop :=
  ∃ ep, gatewayGetEndpoint gw ieee endpoint = some ep ∧
    ∀ hour minute : UInt8, hour < 24 → minute < 60 →
      (endpointCheckArm ep hour minute = true ↔
        OnArc minutesOfDay (minuteOfDay arm.starthour arm.startminute)
          (minuteOfDay arm.endhour arm.endminute) (minuteOfDay hour minute))

/-- Both records of the endpoint are the frame's, and a timed one holds between its times. -/
structure ArmedBoth (before after : Registered) (ieee : UInt64) (endpoint : UInt8) (arm : Arm) :
    Prop where
  places : ∃ epindex,
    ArmedInMemory before.state.gateway after.state.gateway ieee endpoint arm epindex ∧
      ArmedInTable before.table after.table ieee arm epindex
  between : arm.armmodel = armtime → ArmedBetween after.state.gateway ieee endpoint arm

/-- A request is answered once. The answer is zero exactly when the times are valid and the write
to the blob has been made; then the record has changed in both places, else in neither. -/
theorem arming_atomic (outcome : SqliteOutcome) (host : Host) (fd : Int) (s : Registered)
    (serialnum : UInt32) (ieee : UInt64) (endpoint : UInt8) (arm : Arm) :
    let after := s.received outcome host fd (setArmFrame serialnum ieee endpoint arm)
    (∃ frame, sentTo fd (newEffects s.state after.state) = [frame] ∧
      (feedbackResult frame = some 0 ↔ Succeeds outcome s ieee endpoint arm)) ∧
    (Succeeds outcome s ieee endpoint arm → ArmedBoth s after ieee endpoint arm) ∧
    (¬Succeeds outcome s ieee endpoint arm →
      after.state.gateway = s.state.gateway ∧ after.table = s.table) := by
  intro after
  have refused : ∀ {result : UInt8}, result ≠ 0 → ¬Succeeds outcome s ieee endpoint arm →
      Leaves fd s.state after serialnum ieee result s.state.gateway s.table →
      (∃ frame, sentTo fd (newEffects s.state after.state) = [frame] ∧
        (feedbackResult frame = some 0 ↔ Succeeds outcome s ieee endpoint arm)) ∧
      (Succeeds outcome s ieee endpoint arm → ArmedBoth s after ieee endpoint arm) ∧
      (¬Succeeds outcome s ieee endpoint arm →
        after.state.gateway = s.state.gateway ∧ after.table = s.table) := by
    intro result failed fails leaves
    refine ⟨⟨_, leaves.answer, ?_⟩, fun succeeds => absurd succeeds fails,
      fun _ => ⟨leaves.gateway, leaves.table⟩⟩
    rw [arm_feedback_result, Option.some.injEq]
    exact iff_of_false failed fails
  by_cases valid : validTimes arm
  · rcases update_arm_cases outcome s ieee endpoint arm with
      ⟨d, epindex, row, blob, writes⟩ | ⟨result, failed, returned⟩
    · have succeeds : Succeeds outcome s ieee endpoint arm :=
        ⟨valid, d, epindex, row, blob, writes⟩
      have leaves : Leaves fd s.state after serialnum ieee 0 _ _ := received_written valid writes
      refine ⟨⟨_, leaves.answer, ?_⟩, fun _ => ⟨⟨epindex, ?_, ?_⟩, ?_⟩,
        fun fails => absurd succeeds fails⟩
      · rw [arm_feedback_result]
        exact iff_of_true rfl succeeds
      · rw [leaves.gateway]
        exact armed_in_memory writes.device writes.index
      · rw [leaves.table]
        exact armed_in_table writes
      · intro timed
        rcases armed_endpoint writes.device writes.index arm with ⟨ep, found, record⟩
        rw [ArmedBetween, leaves.gateway]
        refine ⟨ep, found, ?_⟩
        intro hour minute hours minutes
        have checked := endpoint_check_arm_iff (record ▸ timed) (record ▸ valid) hours minutes
        rwa [record] at checked
    · apply refused failed _ (received_failed valid failed returned)
      rintro ⟨_, writes⟩
      exact not_writes failed returned writes
  · apply refused (by decide : (1 : UInt8) ≠ 0) _ (received_invalid valid)
    rintro ⟨times, _⟩
    exact valid times

end SmartHome.Arming
