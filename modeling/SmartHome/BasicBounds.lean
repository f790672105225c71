import SmartHome.AttributeRecords
import SmartHome.ZclIncoming

/-!
# Which messages of the basic cluster stay inside their bounds

The header is read whatever the length of the message; the length that is left may wrap
around. The loop asks for its end only between two records, and a text goes into its
array with whatever length the message gives.
-/

namespace SmartHome.BasicBounds

open SmartHome.Library.Bytes
open SmartHome.Library.MemoryCursor
open SmartHome.Library.MemoryCuts
open SmartHome.Bytebuffer
open SmartHome.Registry
open SmartHome.Zcl
open SmartHome.BasicAttributes
open SmartHome.ZclIncoming
open SmartHome.AttributeRecords

set_option autoImplicit false

def parsehdr : Parser Zclframehdr := do
  let control ← bytebufferReadbyte
  let manuspecific : BitVec 1 := control.toBitVec.extractLsb' 2 1
  let manucode ←
    if manuspecific ≠ 0 then do
      let loByte ← bytebufferReadbyte
      let hiByte ← bytebufferReadbyte
      pure (buildUint16 loByte hiByte)
    else pure 0
  let transseqnum ← bytebufferReadbyte
  let commandid ← bytebufferReadbyte
  return {
    type := control.toBitVec.extractLsb' 0 2
    manuspecific
    direction := control.toBitVec.extractLsb' 3 1
    disabledefaultrsp := control.toBitVec.extractLsb' 4 1
    manucode
    transseqnum
    commandid }

/-- Three bytes, and two more for a manufacturer code. -/
def headerLength (data : Memory) : Nat :=
  if (data 0).toBitVec.extractLsb' 2 1 ≠ 0 then 5 else 3

/-- The payload's length as `zclmessage.datalen` has it. -/
def zclDatalen (message : IncomingMsg) : UInt16 :=
  message.len.toUInt16 - UInt16.ofNat (headerLength message.data)

def payload (message : IncomingMsg) : Memory := (zclParsehdr message.data).2

theorem start_p : Cursor.start.p = 0 := rfl

theorem parsehdr_run (data : Memory) :
    parsehdr.runFrom data .start = ((zclParsehdr data).1, behind .start (headerLength data)) := by
  rw [parsehdr, zclParsehdr, headerLength]
  by_cases manuspecific : (data 0).toBitVec.extractLsb' 2 1 ≠ 0
  · rw [Parser.run_from_bind, run_readbyte, start_p, if_pos manuspecific, if_pos manuspecific,
      if_pos manuspecific, if_pos manuspecific]
    simp only [Parser.run_from_bind, run_readbyte, behind_behind, Parser.run_from_pure]
    rfl
  · rw [Parser.run_from_bind, run_readbyte, start_p, if_neg manuspecific, if_neg manuspecific,
      if_neg manuspecific, if_neg manuspecific]
    simp only [Parser.run_from_bind, run_readbyte, behind_behind, Parser.run_from_pure]
    rfl

/-- The bytes that one pass stores in an array, the NUL included. -/
def Taken.stores : Taken → Option (TextAttribute × Nat)
  | .text field _ _ content _ => some (field, content.length + 1)
  | .failed _ _ _ | .skipped _ _ _ | .number _ _ _ => none

/-- `manufacturername[33]`, `modelidentifier[33]` and `datecode[17]` -/
def arraySize : TextAttribute → Nat
  | .manufacturername => 33
  | .modelidentifier => 33
  | .datecode => 17

def Fits (taken : Taken) : Prop :=
  ∀ field count, Taken.stores taken = some (field, count) → count ≤ arraySize field

theorem store_is_some (taken : Taken) (d : Device) :
    (taken.store d).isSome = true ↔ Fits taken := by
  cases taken with
  | failed _ _ _ => exact iff_of_true rfl fun _ _ impossible => by cases impossible
  | skipped _ _ _ => exact iff_of_true rfl fun _ _ impossible => by cases impossible
  | number _ _ _ => exact iff_of_true rfl fun _ _ impossible => by cases impossible
  | text field datatype datalen content length =>
      have size : arraySize field = field.room + 1 := by cases field <;> rfl
      have fits : Fits (.text field datatype datalen content length) ↔
          content.length ≤ field.room := by
        constructor
        · intro fits
          have stored := fits field (content.length + 1) rfl
          omega
        · rintro room _ _ stored
          cases stored
          omega
      rw [fits, Taken.store]
      split_ifs with room
      · exact iff_of_true rfl room
      · exact iff_of_false Bool.false_ne_true room

theorem store_all_is_some (takes : List Taken) (d : Device) :
    (storeAll takes d).isSome = true ↔ ∀ taken ∈ takes, Fits taken := by
  induction takes generalizing d with
  | nil => exact iff_of_true rfl fun _ absent => absurd absent List.not_mem_nil
  | cons taken takes induction =>
      rw [storeAll, List.forall_mem_cons, ← store_is_some taken d]
      cases stored : taken.store d with
      | none => simp
      | some next =>
          rw [Option.bind_some, induction]
          simp

/-- A message without bytes is not looked at. Of any other, header and payload are read within its
length, the loop comes to its end, and no array is overrun. -/
def SafeDecoding (message : IncomingMsg) (d : Device) : Prop :=
  message.len = 0 ∨
    (parsehdr.reach message.data ≤ message.len.toNat ∧
      headerLength message.data +
        (zclHandleBasic (zclDatalen message) d).reach (payload message) ≤ message.len.toNat ∧
      (zclDatalen message).toNat ≤
        ((zclHandleBasic (zclDatalen message) d).runFrom (payload message) .start).2.p ∧
      ((zclHandleBasic (zclDatalen message) d).value (payload message)).isSome = true)

/-- The message has a whole header and behind it whole records of the kind that the loop takes, with
texts for which there is room. -/
def WellCut (message : IncomingMsg) : Prop :=
  message.len = 0 ∨
    (headerLength message.data ≤ message.len.toNat ∧
      ∃ takes : List Taken,
        readBytes (payload message) 0 (message.len.toNat - headerLength message.data) =
          takes.flatMap Taken.bytes ∧
        ∀ taken ∈ takes, Fits taken)

theorem parsehdr_reach (data : Memory) : parsehdr.reach data = headerLength data := by
  rw [Parser.reach, parsehdr_run]
  exact (Nat.max_eq_right (Nat.zero_le _)).trans (Nat.zero_add _)

theorem zcl_datalen_toNat {message : IncomingMsg}
    (header : headerLength message.data ≤ message.len.toNat) :
    (zclDatalen message).toNat = message.len.toNat - headerLength message.data := by
  have bound := message.len.toNat_lt
  rw [zclDatalen, UInt16.toNat_sub, UInt8.toNat_toUInt16, UInt16.toNat_ofNat']
  omega

/-- A message of the basic cluster is handled within bounds exactly if it is cut well. -/
theorem safe_decoding_iff (message : IncomingMsg) (d : Device) :
    SafeDecoding message d ↔ WellCut message := by
  apply or_congr_right
  rw [parsehdr_reach]
  apply and_congr_right
  intro header
  have datalen := zcl_datalen_toNat header
  rcases taken_readable.exists_cut (payload message) 0 (zclDatalen message).toNat with ⟨takes, cut⟩
  rcases zcl_handle_basic_cut cut d with ⟨value, run⟩
  constructor
  · rintro ⟨reads, -, writes⟩
    rw [value] at writes
    have reach : (zclHandleBasic (zclDatalen message) d).reach (payload message) =
        (takes.flatMap Taken.bytes).length := by
      rw [Parser.reach, run writes]
      exact (Nat.max_eq_right (Nat.zero_le _)).trans (Nat.zero_add _)
    have covered := cut.stop_le
    rw [cutEnd, Nat.zero_add] at covered
    have whole : (takes.flatMap Taken.bytes).length =
        message.len.toNat - headerLength message.data := by
      omega
    refine ⟨takes, ?_, (store_all_is_some takes d).mp writes⟩
    exact cut.holds.read_length whole
  · rintro ⟨others, bytes, fits⟩
    have length := congrArg List.length bytes
    rw [read_bytes_length] at length
    have held : Holds (payload message) 0 (others.flatMap Taken.bytes) := by
      rw [← bytes]
      exact holds_read_bytes _ _ _
    have otherCut := taken_readable.cut_of_holds held
    rw [cutEnd, Nat.zero_add, ← length, ← datalen] at otherCut
    obtain rfl := cut.unique taken_readable otherCut
    have writes := (store_all_is_some takes d).mpr fits
    refine ⟨?_, ?_, value ▸ writes⟩
    · rw [Parser.reach, run writes, behind]
      simp only [Cursor.start]
      omega
    · rw [run writes, behind_p]
      simp only [Cursor.start]
      omega

def basicMsg (bytes : List UInt8) : IncomingMsg where
  clusterId := zclClusterIdGenBasic
  srcAddr := 1
  srcEndpoint := 2
  len := UInt8.ofNat bytes.length
  data := placed bytes fun _ => 0

/-- The answer to a read request for the model identifier, without the text. -/
def cutOff : IncomingMsg := basicMsg [0x18, 0x01, 0x01, 0x05, 0x00, 0x00, 0x42]

/-- The same answer with a text of 33 letters. -/
def longText : IncomingMsg :=
  basicMsg ([0x18, 0x01, 0x01, 0x05, 0x00, 0x00, 0x42, 33] ++ List.replicate 33 0x41)

theorem cut_off_cut :
    Cut Taken.bytes (payload cutOff) (zclDatalen cutOff).toNat 0
      [.text .modelidentifier 0x42 0 [] rfl] := by
  have stop : (zclDatalen cutOff).toNat = 4 := by decide
  rw [stop]
  refine .item (by decide) ⟨rfl, rfl, rfl, rfl, rfl, trivial⟩ (.done ?_)
  decide

theorem long_text_cut :
    Cut Taken.bytes (payload longText) (zclDatalen longText).toNat 0
      [.text .modelidentifier 0x42 33 (List.replicate 33 0x41) rfl] := by
  have held : Holds (payload longText) 0
      ((Taken.text .modelidentifier 0x42 33 (List.replicate 33 0x41) rfl).bytes) := by
    apply holds_of_get
    decide +kernel
  have stop : (zclDatalen longText).toNat = 38 := by decide
  rw [stop]
  refine .item (by decide) held (.done ?_)
  decide

/-- A message of one byte is read as a header of three, a record is read on behind the end of the
message, and a text of 33 letters goes into an array of 33 bytes with its NUL behind them. -/
theorem basic_messages_overrun :
    ¬SafeDecoding (basicMsg [0x18]) (contactSwitch 1 0) ∧
      ¬SafeDecoding cutOff (contactSwitch 1 0) ∧ ¬SafeDecoding longText (contactSwitch 1 0) := by
  refine ⟨?_, ?_, ?_⟩
  · rintro (empty | ⟨header, -⟩)
    · exact absurd empty (by decide)
    · rw [parsehdr_reach] at header
      exact absurd header (by decide)
  · rintro (empty | ⟨-, reads, -⟩)
    · exact absurd empty (by decide)
    · rw [Parser.reach, (zcl_handle_basic_cut cut_off_cut _).2 rfl] at reads
      exact absurd reads (by decide)
  · rintro (empty | ⟨-, -, -, writes⟩)
    · exact absurd empty (by decide)
    · rw [(zcl_handle_basic_cut long_text_cut _).1] at writes
      exact absurd writes Bool.false_ne_true

end SmartHome.BasicBounds
