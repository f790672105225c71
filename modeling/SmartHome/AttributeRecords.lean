import SmartHome.BasicAttributes
import SmartHome.Library.MemoryCuts

/-!
# How the basic attributes are cut out of a message

`zcl_handle_basic` as a loop over what it takes for records. It goes by the attribute id
alone: a value has the length that the attribute's field needs, whatever its data type
is, and an attribute without a field has no value.
-/

namespace SmartHome.AttributeRecords

open SmartHome.Library.Bytes
open SmartHome.Library.CTypes
open SmartHome.Library.MemoryCursor
open SmartHome.Library.MemoryCuts
open SmartHome.Bytebuffer
open SmartHome.Registry
open SmartHome.Zcl
open SmartHome.ZdoCallbacks
open SmartHome.BasicAttributes

set_option autoImplicit false

inductive NumberAttribute
  | zclversion
  | applicationversion
  | stackversion
  | hwversion
  | powersource
  deriving DecidableEq

inductive TextAttribute
  | manufacturername
  | modelidentifier
  | datecode
  deriving DecidableEq

namespace NumberAttribute

def id : NumberAttribute → UInt16
  | zclversion => attridBasicZclVersion
  | applicationversion => attridBasicApplVersion
  | stackversion => attridBasicStackVersion
  | hwversion => attridBasicHwVersion
  | powersource => attridBasicPowerSource

def get (d : Device) : NumberAttribute → UInt8
  | zclversion => d.zclversion
  | applicationversion => d.applicationversion
  | stackversion => d.stackversion
  | hwversion => d.hwversion
  | powersource => d.powersource

def set (d : Device) (value : UInt8) : NumberAttribute → Device
  | zclversion => { d with zclversion := value }
  | applicationversion => { d with applicationversion := value }
  | stackversion => { d with stackversion := value }
  | hwversion => { d with hwversion := value }
  | powersource => { d with powersource := value }

end NumberAttribute

namespace TextAttribute

def id : TextAttribute → UInt16
  | manufacturername => attridBasicManufacturerName
  | modelidentifier => attridBasicModelId
  | datecode => attridBasicDateCode

/-- The array has one byte more. -/
def room : TextAttribute → Nat
  | manufacturername => 32
  | modelidentifier => 32
  | datecode => 16

def get (d : Device) : TextAttribute → List UInt8
  | manufacturername => d.manufacturername.text
  | modelidentifier => d.modelidentifier.text
  | datecode => d.datecode.text

def set (d : Device) (text : List UInt8) : TextAttribute → Device
  | manufacturername => { d with manufacturername := .copy 32 text }
  | modelidentifier => { d with modelidentifier := .copy 32 text }
  | datecode => { d with datecode := .copy 16 text }

end TextAttribute

/-- The ids with a `case`. -/
def Known (attrid : UInt16) : Prop :=
  (∃ field : NumberAttribute, field.id = attrid) ∨
    ∃ field : TextAttribute, field.id = attrid

/-- What one pass of the loop takes. -/
inductive Taken
  | failed (attrid : UInt16) (status : UInt8) (failure : status ≠ zclStatusSuccess)
  | skipped (attrid : UInt16) (datatype : UInt8) (unknown : ¬Known attrid)
  | number (field : NumberAttribute) (datatype value : UInt8)
  | text (field : TextAttribute) (datatype datalen : UInt8) (content : List UInt8)
      (length : content.length = datalen.toNat)

namespace Taken

def attrid : Taken → UInt16
  | failed attrid _ _ => attrid
  | skipped attrid _ _ => attrid
  | number field _ _ => field.id
  | text field _ _ _ _ => field.id

def status : Taken → UInt8
  | failed _ status _ => status
  | skipped _ _ _ | number _ _ _ | text _ _ _ _ _ => zclStatusSuccess

def body : Taken → List UInt8
  | failed _ _ _ => []
  | skipped _ datatype _ => [datatype]
  | number _ datatype value => [datatype, value]
  | text _ datatype datalen content _ => datatype :: datalen :: content

def bytes (taken : Taken) : List UInt8 :=
  loUint16 taken.attrid :: hiUint16 taken.attrid :: taken.status :: taken.body

/-- A text that its array has no room for has no result. -/
def store (taken : Taken) (d : Device) : Option Device :=
  match taken with
  | failed _ _ _ => some d
  | skipped _ _ _ => some d
  | number field _ value => some (field.set d value)
  | text field _ _ content _ =>
      if content.length ≤ field.room then some (field.set d content) else none

end Taken

theorem number_id_ne_text_id (number : NumberAttribute) (text : TextAttribute) :
    number.id ≠ text.id := by
  cases number <;> cases text <;> decide

theorem number_id_inj {field other : NumberAttribute} (same : field.id = other.id) :
    field = other := by
  cases field <;> cases other <;> first | rfl | exact absurd same (by decide)

theorem text_id_inj {field other : TextAttribute} (same : field.id = other.id) :
    field = other := by
  cases field <;> cases other <;> first | rfl | exact absurd same (by decide)

section Reading

variable {memory : Memory} {start : Nat}

theorem Taken.head_held {taken : Taken} (held : Holds memory start taken.bytes) :
    buildUint16 (memory start) (memory (start + 1)) = taken.attrid ∧
      memory (start + 2) = taken.status ∧ Holds memory (start + 3) taken.body := by
  rcases held with ⟨low, high, status, body⟩
  rw [low, high]
  exact ⟨build_uint16_lo_hi taken.attrid, status, body⟩

theorem Taken.held_of_head {taken : Taken}
    (attrid : taken.attrid = buildUint16 (memory start) (memory (start + 1)))
    (status : memory (start + 2) = taken.status) (body : Holds memory (start + 3) taken.body) :
    Holds memory start taken.bytes := by
  rw [Taken.bytes, attrid, lo_build_uint16, hi_build_uint16]
  exact ⟨rfl, rfl, status, body⟩

theorem exists_taken (memory : Memory) (start : Nat) :
    ∃ taken : Taken, Holds memory start taken.bytes := by
  let datatype := memory (start + 3)
  let datalen := memory (start + 4)
  have oneByte : Holds memory (start + 3) [datatype] := ⟨rfl, trivial⟩
  have twoBytes : Holds memory (start + 3) [datatype, datalen] := ⟨rfl, rfl, trivial⟩
  by_cases success : memory (start + 2) = zclStatusSuccess
  · by_cases known : Known (buildUint16 (memory start) (memory (start + 1)))
    · rcases known with ⟨field, same⟩ | ⟨field, same⟩
      · exact ⟨.number field datatype datalen, Taken.held_of_head same success twoBytes⟩
      · have content := holds_read_bytes memory (start + 5) datalen.toNat
        exact ⟨.text field datatype datalen _ (read_bytes_length _ _ _),
          Taken.held_of_head same success ⟨rfl, rfl, content⟩⟩
    · exact ⟨.skipped _ datatype known, Taken.held_of_head rfl success oneByte⟩
  · exact ⟨.failed _ _ success, Taken.held_of_head rfl rfl trivial⟩

theorem taken_unique {taken other : Taken} (held : Holds memory start taken.bytes)
    (otherHeld : Holds memory start other.bytes) : taken = other := by
  rcases Taken.head_held held with ⟨idHeld, statusHeld, body⟩
  rcases Taken.head_held otherHeld with ⟨otherIdHeld, otherStatusHeld, otherBody⟩
  have sameId := idHeld.symm.trans otherIdHeld
  have sameStatus := statusHeld.symm.trans otherStatusHeld
  cases taken with
  | failed attrid status failure =>
      cases other with
      | failed otherId otherStatus otherFailure =>
          obtain rfl : attrid = otherId := sameId
          obtain rfl : status = otherStatus := sameStatus
          rfl
      | skipped _ _ _ => exact absurd sameStatus failure
      | number _ _ _ => exact absurd sameStatus failure
      | text _ _ _ _ _ => exact absurd sameStatus failure
  | skipped attrid datatype unknown =>
      cases other with
      | failed _ _ failure => exact absurd sameStatus.symm failure
      | skipped otherId otherType _ =>
          obtain rfl : attrid = otherId := sameId
          obtain rfl : datatype = otherType := body.1.symm.trans otherBody.1
          rfl
      | number field _ _ => exact absurd (.inl ⟨field, sameId.symm⟩) unknown
      | text field _ _ _ _ => exact absurd (.inr ⟨field, sameId.symm⟩) unknown
  | number field datatype value =>
      cases other with
      | failed _ _ failure => exact absurd sameStatus.symm failure
      | skipped _ _ unknown => exact absurd (.inl ⟨field, sameId⟩) unknown
      | number otherField otherType otherValue =>
          obtain rfl := number_id_inj sameId
          obtain rfl : datatype = otherType := body.1.symm.trans otherBody.1
          obtain rfl : value = otherValue := body.2.1.symm.trans otherBody.2.1
          rfl
      | text otherField _ _ _ _ => exact absurd sameId (number_id_ne_text_id field otherField)
  | text field datatype datalen content length =>
      cases other with
      | failed _ _ failure => exact absurd sameStatus.symm failure
      | skipped _ _ unknown => exact absurd (.inr ⟨field, sameId⟩) unknown
      | number otherField _ _ => exact absurd sameId.symm (number_id_ne_text_id otherField field)
      | text otherField otherType otherLen otherContent otherLength =>
          obtain rfl := text_id_inj sameId
          obtain rfl : datatype = otherType := body.1.symm.trans otherBody.1
          obtain rfl : datalen = otherLen := body.2.1.symm.trans otherBody.2.1
          have contentHeld : Holds memory (start + 5) content := body.2.2
          have otherContentHeld : Holds memory (start + 5) otherContent := otherBody.2.2
          obtain rfl : content = otherContent :=
            (contentHeld.read_length length).symm.trans (otherContentHeld.read_length otherLength)
          rfl

theorem taken_readable : Readable Taken.bytes where
  nonempty _ := Nat.succ_pos _
  exist := exists_taken
  unique := taken_unique

end Reading

section Loop

variable {memory : Memory} {cursor : Cursor}

def behind (cursor : Cursor) (count : Nat) : Cursor :=
  ⟨cursor.p + count, max cursor.reach (cursor.p + count)⟩

@[simp] theorem behind_p (cursor : Cursor) (count : Nat) :
    (behind cursor count).p = cursor.p + count := rfl

theorem behind_behind (cursor : Cursor) (first second : Nat) :
    behind (behind cursor first) second = behind cursor (first + second) := by
  simp only [behind, Cursor.mk.injEq]
  omega

@[simp] theorem run_readbyte (memory : Memory) (cursor : Cursor) :
    bytebufferReadbyte.runFrom memory cursor = (memory cursor.p, behind cursor 1) := rfl

@[simp] theorem run_readwordl (memory : Memory) (cursor : Cursor) :
    bytebufferReadwordl.runFrom memory cursor =
      (buildUint16 (memory cursor.p) (memory (cursor.p + 1)), behind cursor 2) := by
  have word : UInt16.ofNat (ofBytesLE [memory cursor.p, memory (cursor.p + 1)]) =
      buildUint16 (memory cursor.p) (memory (cursor.p + 1)) := by
    apply UInt16.toNat_inj.mp
    have low := (memory cursor.p).toNat_lt
    have high := (memory (cursor.p + 1)).toNat_lt
    simp [buildUint16, ofBytesLE, Nat.shiftLeft_eq]
    omega
  exact congrArg (fun word => (word, behind cursor 2)) word

theorem run_readbytes (memory : Memory) (cursor : Cursor) (count len : Nat) :
    (bytebufferReadbytes len).runFrom memory (behind cursor count) =
      (readBytes memory (cursor.p + count) len, behind cursor (count + len)) := by
  rw [← behind_behind, bytebufferReadbytes, Parser.run_from_take]
  by_cases none : len = 0
  · subst none
    simp [behind]
  · rw [if_neg none]
    rfl

theorem read_value_number (field : NumberAttribute) (d : Device) (cursor : Cursor) :
    (readValue d field.id).runFrom memory cursor =
      (some (field.set d (memory cursor.p)), behind cursor 1) := by
  cases field <;> rfl

theorem read_value_text (field : TextAttribute) (d : Device) {count : Nat} {datalen : UInt8}
    {content : List UInt8} (datalenHeld : memory (cursor.p + count) = datalen)
    (contentHeld : readBytes memory (cursor.p + (count + 1)) datalen.toNat = content) :
    (readValue d field.id).runFrom memory (behind cursor count) =
      (if datalen.toNat ≤ field.room then some (field.set d content) else none,
        behind cursor (count + (1 + datalen.toNat))) := by
  have text : ∀ {room : Nat} (store : CString (room + 1) → Device),
      ((do return (← readText room).map store : Parser (Option Device)).runFrom memory
        (behind cursor count)) =
      (if datalen.toNat ≤ room then some (store (.copy room content)) else none,
        behind cursor (count + (1 + datalen.toNat))) := by
    intro room store
    rw [Parser.run_from_bind, readText]
    simp only [Parser.run_from_bind, run_readbyte, behind_behind, behind_p, datalenHeld,
      run_readbytes, contentHeld, Parser.run_from_pure, Nat.add_assoc]
    split_ifs <;> rfl
  cases field with
  | manufacturername => exact text fun text => { d with manufacturername := text }
  | modelidentifier => exact text fun text => { d with modelidentifier := text }
  | datecode => exact text fun text => { d with datecode := text }

theorem read_value_unknown {attrid : UInt16} (unknown : ¬Known attrid) (d : Device)
    (cursor : Cursor) : (readValue d attrid).runFrom memory cursor = (some d, cursor) := by
  have number : ∀ field : NumberAttribute, ¬attrid = field.id := by
    rintro field rfl
    exact unknown (.inl ⟨field, rfl⟩)
  have text : ∀ field : TextAttribute, ¬attrid = field.id := by
    rintro field rfl
    exact unknown (.inr ⟨field, rfl⟩)
  have zcl := number .zclversion
  have appl := number .applicationversion
  have stack := number .stackversion
  have hw := number .hwversion
  have power := number .powersource
  have manufacturer := text .manufacturername
  have model := text .modelidentifier
  have date := text .datecode
  simp only [NumberAttribute.id] at zcl appl stack hw power
  simp only [TextAttribute.id] at manufacturer model date
  rw [readValue, if_neg zcl, if_neg appl, if_neg stack, if_neg hw, if_neg manufacturer,
    if_neg model, if_neg date, if_neg power]
  rfl

theorem read_attribute_taken {taken : Taken} (held : Holds memory cursor.p taken.bytes)
    (d : Device) :
    (readAttribute d).runFrom memory cursor =
      (taken.store d, behind cursor taken.bytes.length) := by
  rcases Taken.head_held held with ⟨attrid, status, body⟩
  have success : taken.status = zclStatusSuccess →
      (readAttribute d).runFrom memory cursor =
        (readValue d taken.attrid).runFrom memory (behind cursor 4) := by
    intro success
    simp only [readAttribute, Parser.run_from_bind, run_readwordl, run_readbyte, behind_behind,
      behind_p, attrid, status, success, if_true]
  cases taken with
  | failed attrid_ status_ failure =>
      simp only [readAttribute, Parser.run_from_bind, run_readwordl, run_readbyte, behind_behind,
        behind_p, status, Taken.status, failure, if_false]
      rfl
  | skipped attrid_ datatype unknown =>
      rw [success rfl]
      exact read_value_unknown unknown d _
  | number field datatype value =>
      have valueHeld : memory (cursor.p + 4) = value := body.2.1
      have read := @read_value_number memory field d (behind cursor 4)
      rw [behind_p, valueHeld, behind_behind] at read
      exact (success rfl).trans read
  | text field datatype datalen content length =>
      have datalenHeld : memory (cursor.p + 4) = datalen := body.2.1
      have contentHeld : Holds memory (cursor.p + 5) content := body.2.2
      have read := read_value_text field d datalenHeld (contentHeld.read_length length)
      rw [success rfl]
      refine read.trans ?_
      have width : (Taken.text field datatype datalen content length).bytes.length =
          4 + (1 + datalen.toNat) := by
        simp only [Taken.bytes, Taken.body, List.length_cons, length]
        omega
      rw [width, Taken.store, length]

/-- What a list of passes makes of the device; a text without room ends it. -/
def storeAll : List Taken → Device → Option Device
  | [], d => some d
  | taken :: takes, d => (taken.store d).bind (storeAll takes)

theorem behind_zero {cursor : Cursor} (seen : cursor.p ≤ cursor.reach) :
    behind cursor 0 = cursor := by
  rw [behind, Nat.add_zero, Nat.max_eq_left seen]

/-- The loop takes what the message is cut into. -/
theorem read_attributes_cut {buflen : Nat} {takes : List Taken}
    (cut : Cut Taken.bytes memory buflen cursor.p takes) {passes : Nat}
    (enough : takes.length ≤ passes) (d : Device) :
    ((readAttributes buflen passes d).runFrom memory cursor).1 = storeAll takes d ∧
      ((storeAll takes d).isSome = true → cursor.p ≤ cursor.reach →
        ((readAttributes buflen passes d).runFrom memory cursor).2 =
          behind cursor (takes.flatMap Taken.bytes).length) := by
  induction takes generalizing cursor passes d with
  | nil =>
      have ended : (readAttributes buflen passes d).runFrom memory cursor = (some d, cursor) := by
        cases cut with
        | done reached =>
            cases passes with
            | zero => rfl
            | succ passes =>
                rw [readAttributes, Parser.run_from_bind, Parser.run_from_position,
                  if_neg (Nat.not_lt.mpr reached)]
                rfl
      rw [ended]
      exact ⟨rfl, fun _ seen => (behind_zero seen).symm⟩
  | cons taken takes induction =>
      cases cut with
      | item further held rest =>
          cases passes with
          | zero => exact absurd enough (Nat.not_succ_le_zero _)
          | succ passes =>
              have pass := read_attribute_taken held d
              rw [storeAll, List.flatMap_cons, List.length_append]
              cases stored : taken.store d with
              | none =>
                  have failed : (readAttributes buflen (passes + 1) d).runFrom memory cursor =
                      (none, behind cursor taken.bytes.length) := by
                    rw [readAttributes, Parser.run_from_bind, Parser.run_from_position,
                      if_pos further, Parser.run_from_bind, pass, stored]
                    rfl
                  rw [failed]
                  exact ⟨rfl, fun impossible => absurd impossible Bool.false_ne_true⟩
              | some next =>
                  have entered : (readAttributes buflen (passes + 1) d).runFrom memory cursor =
                      (readAttributes buflen passes next).runFrom memory
                        (behind cursor taken.bytes.length) := by
                    rw [readAttributes, Parser.run_from_bind, Parser.run_from_position,
                      if_pos further, Parser.run_from_bind, pass, stored]
                  rw [entered]
                  rcases @induction (behind cursor taken.bytes.length) rest passes
                    (Nat.le_of_succ_le_succ enough) next with ⟨value, place⟩
                  refine ⟨value, ?_⟩
                  intro whole seen
                  rw [place whole (Nat.le_max_right _ _), behind_behind]

theorem zcl_handle_basic_cut {buflen : UInt16} {takes : List Taken}
    (cut : Cut Taken.bytes memory buflen.toNat 0 takes) (d : Device) :
    (zclHandleBasic buflen d).value memory = storeAll takes d ∧
      ((storeAll takes d).isSome = true →
        (zclHandleBasic buflen d).runFrom memory .start =
          (storeAll takes d, behind .start (takes.flatMap Taken.bytes).length)) := by
  rcases @read_attributes_cut memory .start _ _ cut _ (cut.length_le taken_readable) d with
    ⟨value, place⟩
  exact ⟨value, fun whole => Prod.ext value (place whole le_rfl)⟩

end Loop

end SmartHome.AttributeRecords
