import SmartHome.DeviceNames
import SmartHome.Library.MemoryCursor
import SmartHome.ZdoCallbacks

/-!
# Basic attributes

`zcl_handle_basic` reads attribute records from an incoming message of the basic
cluster into the device, and the device goes to the database whatever the message
was. A text that is longer than its array is written past it; what follows from
that is not described here, and there is no result.
-/

namespace SmartHome.BasicAttributes

open SmartHome.Library.CTypes
open SmartHome.Library.Bytes
open SmartHome.Library.MemoryCursor
open SmartHome.Bytebuffer
open SmartHome.Registry
open SmartHome.Effects
open SmartHome.Zcl
open SmartHome.ZdoCallbacks
open SmartHome.DeviceNames

set_option autoImplicit false

def zclStatusSuccess : UInt8 := 0x00

def bytebufferReadwordl : Parser UInt16 :=
  (fun bytes => UInt16.ofNat (ofBytesLE bytes)) <$> Parser.take 2

/-- A length byte and as many bytes of text, if the array has room for them and a NUL. -/
def readText (room : Nat) : Parser (Option (CString (room + 1))) := do
  let datalen ← bytebufferReadbyte
  let text ← bytebufferReadbytes datalen.toNat
  return if datalen.toNat ≤ room then some (.copy room text) else none

/-- The `switch` of a pass. The value of an attribute that is not known is not skipped. -/
def readValue (d : Device) (attrid : UInt16) : Parser (Option Device) := do
  if attrid = attridBasicZclVersion then
    return some { d with zclversion := ← bytebufferReadbyte }
  else if attrid = attridBasicApplVersion then
    return some { d with applicationversion := ← bytebufferReadbyte }
  else if attrid = attridBasicStackVersion then
    return some { d with stackversion := ← bytebufferReadbyte }
  else if attrid = attridBasicHwVersion then
    return some { d with hwversion := ← bytebufferReadbyte }
  else if attrid = attridBasicManufacturerName then
    return (← readText 32).map fun text => { d with manufacturername := text }
  else if attrid = attridBasicModelId then
    return (← readText 32).map fun text => { d with modelidentifier := text }
  else if attrid = attridBasicDateCode then
    return (← readText 16).map fun text => { d with datecode := text }
  else if attrid = attridBasicPowerSource then
    return some { d with powersource := ← bytebufferReadbyte }
  else return some d

def readAttribute (d : Device) : Parser (Option Device) := do
  let attrid ← bytebufferReadwordl
  let status ← bytebufferReadbyte
  if status = zclStatusSuccess then
    let _datatype ← bytebufferReadbyte
    readValue d attrid
  else return some d

/-- The loop, for a number of passes: each takes at least the three bytes of a record's head. -/
def readAttributes (buflen : Nat) : Nat → Device → Parser (Option Device)
  | 0, d => return some d
  | passes + 1, d => do
      if (← Parser.position) < buflen then
        match ← readAttribute d with
        | some d => readAttributes buflen passes d
        | none => return none
      else return some d

def zclHandleBasic (buflen : UInt16) (d : Device) : Parser (Option Device) :=
  readAttributes buflen.toNat buflen.toNat d

/-- A message of the basic cluster: where its payload lies, and what the naming of an outlet finds
in memory that is no text. -/
structure BasicMessage where
  srcAddr : UInt16
  data : Memory
  datalen : UInt16
  stale : List UInt8
  headDeviceID : UInt16

def nameOutlet (message : BasicMessage) (d : Device) : Option DeviceOutcome :=
  if d.devicename.strlen = 0 then handleOutletDevicename message.stale message.headDeviceID d
  else some (.done d)

def basicAttributes (message : BasicMessage) (d : Device) : Option DeviceOutcome := do
  let d ← (zclHandleBasic message.datalen d).value message.data
  let named ← nameOutlet message d
  return named.andThen fun d => ⟨d, [.database (.updateDeviceAttr d)]⟩

def withAttributes (d attributes : Device) : Device :=
  { d with
    zclversion := attributes.zclversion
    applicationversion := attributes.applicationversion
    stackversion := attributes.stackversion
    hwversion := attributes.hwversion
    manufacturername := attributes.manufacturername
    modelidentifier := attributes.modelidentifier
    datecode := attributes.datecode
    powersource := attributes.powersource }

def Yields (parser : Parser (Option Device)) (property : Device → Prop) : Prop :=
  ∀ memory cursor after, (parser.runFrom memory cursor).1 = some after → property after

theorem yields_pure {result : Option Device} {property : Device → Prop}
    (holds : ∀ after, result = some after → property after) :
    Yields (pure result) property := by
  intro memory cursor after returned
  exact holds after returned

theorem yields_bind {Value : Type} {parser : Parser Value} {next : Value → Parser (Option Device)}
    {property : Device → Prop} (later : ∀ value, Yields (next value) property) :
    Yields (parser >>= next) property := by
  intro memory cursor after returned
  exact later _ memory _ after returned

theorem yields_ite {condition : Prop} [Decidable condition] {left right : Parser (Option Device)}
    {property : Device → Prop} (whenTrue : Yields left property)
    (whenFalse : Yields right property) : Yields (if condition then left else right) property := by
  split
  · exact whenTrue
  · exact whenFalse

theorem yields_text {room : Nat} {d : Device} {store : CString (room + 1) → Device}
    (stored : ∀ text, store text = withAttributes d (store text)) :
    Yields (do return (← readText room).map store)
      (fun after => after = withAttributes d after) := by
  apply yields_bind
  intro text
  apply yields_pure
  intro after returned
  rw [Option.map_eq_some_iff] at returned
  rcases returned with ⟨read, _, rfl⟩
  exact stored read

theorem yields_byte {d : Device} {store : UInt8 → Device}
    (stored : ∀ byte, store byte = withAttributes d (store byte)) :
    Yields (do return some (store (← bytebufferReadbyte)))
      (fun after => after = withAttributes d after) := by
  apply yields_bind
  intro byte
  apply yields_pure
  intro after returned
  rw [Option.some.injEq] at returned
  rw [← returned]
  exact stored byte

theorem yields_same (d : Device) :
    Yields (return some d) (fun after => after = withAttributes d after) := by
  apply yields_pure
  intro after returned
  rw [Option.some.injEq] at returned
  rw [← returned]
  rfl

/-- A record changes attributes and nothing else. -/
theorem read_attribute_eq (d : Device) :
    Yields (readAttribute d) (fun after => after = withAttributes d after) := by
  apply yields_bind
  intro attrid
  apply yields_bind
  intro status
  split
  · apply yields_bind
    intro datatype
    apply yields_ite (yields_byte fun _ => rfl)
    apply yields_ite (yields_byte fun _ => rfl)
    apply yields_ite (yields_byte fun _ => rfl)
    apply yields_ite (yields_byte fun _ => rfl)
    apply yields_ite (yields_text fun _ => rfl)
    apply yields_ite (yields_text fun _ => rfl)
    apply yields_ite (yields_text fun _ => rfl)
    apply yields_ite (yields_byte fun _ => rfl)
    exact yields_same d
  · exact yields_same d

theorem read_attributes_eq (buflen passes : Nat) (d : Device) :
    Yields (readAttributes buflen passes d) (fun after => after = withAttributes d after) := by
  induction passes generalizing d with
  | zero => exact yields_same d
  | succ passes induction =>
      apply yields_bind
      intro position
      split
      · intro memory cursor after returned
        rw [Parser.run_from_bind] at returned
        cases read : ((readAttribute d).runFrom memory cursor).1 with
        | none =>
            rw [read] at returned
            cases returned
        | some next =>
            rw [read] at returned
            have first : next = withAttributes d next := read_attribute_eq d memory cursor next read
            have later : after = withAttributes next after := induction next memory _ after returned
            rw [later, first]
            rfl
      · exact yields_same d

theorem zcl_handle_basic_eq {buflen : UInt16} {d after : Device} {memory : Memory}
    (read : (zclHandleBasic buflen d).value memory = some after) :
    after = withAttributes d after :=
  read_attributes_eq _ _ d memory _ after read

theorem name_outlet_eq {message : BasicMessage} {d : Device} {outcome : DeviceOutcome}
    (named : nameOutlet message d = some outcome) : ∃ names, outcome = renamed names d := by
  unfold nameOutlet at named
  split_ifs at named
  · exact handle_outlet_devicename_eq named
  · rw [Option.some.injEq] at named
    exact ⟨[], named.symm⟩

theorem basic_attributes_eq {message : BasicMessage} {d : Device} {outcome : DeviceOutcome}
    (handled : basicAttributes message d = some outcome) :
    ∃ attributes names,
      outcome = (renamed names (withAttributes d attributes)).andThen fun d =>
        ⟨d, [.database (.updateDeviceAttr d)]⟩ := by
  unfold basicAttributes at handled
  rw [Option.bind_eq_bind, Option.bind_eq_some_iff] at handled
  rcases handled with ⟨after, read, handled⟩
  rw [Option.bind_eq_bind, Option.bind_eq_some_iff] at handled
  rcases handled with ⟨named, naming, stored⟩
  rcases name_outlet_eq naming with ⟨names, rfl⟩
  refine ⟨after, names, ?_⟩
  rw [← zcl_handle_basic_eq read]
  exact (Option.some.inj stored).symm

end SmartHome.BasicAttributes
