import SmartHome.BasicBounds

/-!
# What the basic attributes are decoded to

A read response as the ZCL lays it out, and what a device should have of it: for each of
its eight attributes the value of the last record that has one. The source asks neither
for the command id nor for the length of a value whose attribute it does not know.
-/

namespace SmartHome.BasicDecoding

open SmartHome.Library.Bytes
open SmartHome.Library.CTypes
open SmartHome.Library.MemoryCursor
open SmartHome.Library.MemoryCuts
open SmartHome.Bytebuffer
open SmartHome.Registry
open SmartHome.Zcl
open SmartHome.BasicAttributes
open SmartHome.ZclIncoming
open SmartHome.AttributeRecords
open SmartHome.BasicBounds

set_option autoImplicit false

inductive ReadRecord
  | failed (attrid : UInt16) (status : UInt8) (failure : status ≠ zclStatusSuccess)
  | success (attrid : UInt16) (datatype : UInt8) (value : List UInt8)

def ReadRecord.attrid : ReadRecord → UInt16
  | .failed attrid _ _ => attrid
  | .success attrid _ _ => attrid

/-- It has a value for one of the eight attributes. -/
def ReadRecord.Gives : ReadRecord → Prop
  | .failed _ _ _ => False
  | .success attrid _ _ => Known attrid

def ReadRecord.bytes : ReadRecord → List UInt8
  | .failed attrid status _ => [loUint16 attrid, hiUint16 attrid, status]
  | .success attrid datatype value =>
      [loUint16 attrid, hiUint16 attrid, zclStatusSuccess, datatype] ++ value

/-- The data type that the ZCL gives a one-byte attribute. -/
def standardType : NumberAttribute → UInt8
  | .zclversion | .applicationversion | .stackversion | .hwversion => zclDatatypeUint8
  | .powersource => zclDatatypeEnum8

/-- The value is as long as its type says. The eight attributes have their standard types, and texts
that a device has room for. -/
structure WellFormed (attrid : UInt16) (datatype : UInt8) (value : List UInt8) : Prop where
  length : value.length = (zclGetAttrDataLength datatype value).toNat
  number : ∀ field : NumberAttribute, field.id = attrid → datatype = standardType field
  text : ∀ field : TextAttribute, field.id = attrid →
    datatype = zclDatatypeCharStr ∧ value.length ≤ field.room + 1

def ReadRecord.Valid : ReadRecord → Prop
  | .failed _ _ _ => True
  | .success attrid datatype value => WellFormed attrid datatype value

abbrev Written := UInt16 × List UInt8

def ReadRecord.written : ReadRecord → Option Written
  | .failed _ _ _ => none
  | .success attrid _ value => some (attrid, value)

def takenWritten : Taken → Option Written
  | .failed _ _ _ | .skipped _ _ _ => none
  | .number field _ value => some (field.id, [value])
  | .text field _ datalen content _ => some (field.id, datalen :: content)

def lastOf (written : List Written) (attrid : UInt16) : Option (List UInt8) :=
  written.reverse.lookup attrid

def numberAfter (d : Device) (written : List Written) (field : NumberAttribute) : UInt8 :=
  ((lastOf written field.id).map (·.headD 0)).getD (field.get d)

/-- A length byte and text; a string ends at its first NUL. -/
def textAfter (d : Device) (written : List Written) (field : TextAttribute) : List UInt8 :=
  ((lastOf written field.id).map fun value => upToNul value.tail).getD (field.get d)

/-- The eight attributes have their last values, or the old ones where there is none. -/
structure Decoded (d : Device) (written : List Written) (after : Device) : Prop where
  numbers : ∀ field : NumberAttribute, field.get after = numberAfter d written field
  texts : ∀ field : TextAttribute, field.get after = textAfter d written field

/-- The case of the basic cluster hands the payload on, whatever the header says. -/
def basicCase (_hdr : Zclframehdr) (datalen : UInt16) (data : Memory) (d : Device) :
    Option Device :=
  (zclHandleBasic datalen d).value data

def IsReadRsp (hdr : Zclframehdr) : Prop := hdr.type = 0 ∧ hdr.commandid = zclCmdReadRsp

/-- The records that a payload should be decoded to: those of a read response, none for a message
of another kind. -/
inductive Claimed (hdr : Zclframehdr) : List UInt8 → List ReadRecord → Prop
  | readRsp {records : List ReadRecord} : IsReadRsp hdr → (∀ record ∈ records, record.Valid) →
      Claimed hdr (records.flatMap ReadRecord.bytes) records
  | other (bytes : List UInt8) : ¬IsReadRsp hdr → Claimed hdr bytes []

def DecodesTo (hdr : Zclframehdr) (bytes : List UInt8) (behind : Memory) (d : Device)
    (records : List ReadRecord) : Prop :=
  ∃ after, basicCase hdr (UInt16.ofNat bytes.length) (placed bytes behind) d = some after ∧
    Decoded d (records.filterMap ReadRecord.written) after

section LastValues

theorem last_of_cons (first : Written) (written : List Written) (attrid : UInt16) :
    lastOf (first :: written) attrid =
      (lastOf written attrid).or (if attrid = first.1 then some first.2 else none) := by
  rw [lastOf, List.reverse_cons, List.lookup_append, lastOf, List.lookup_cons]
  by_cases same : attrid = first.1
  · rw [if_pos same, beq_iff_eq.mpr same]
  · rw [if_neg same, beq_eq_false_iff_ne.mpr same]
    rfl

theorem last_of_append (first second : List Written) (attrid : UInt16) :
    lastOf (first ++ second) attrid = (lastOf second attrid).or (lastOf first attrid) := by
  rw [lastOf, List.reverse_append, List.lookup_append, lastOf, lastOf]

theorem number_get_set (field other : NumberAttribute) (d : Device) (value : UInt8) :
    field.get (other.set d value) = if other = field then value else field.get d := by
  cases field <;> cases other <;> rfl

theorem number_get_set_text (field : NumberAttribute) (other : TextAttribute) (d : Device)
    (content : List UInt8) : field.get (other.set d content) = field.get d := by
  cases field <;> cases other <;> rfl

theorem text_get_set_number (field : TextAttribute) (other : NumberAttribute) (d : Device)
    (value : UInt8) : field.get (other.set d value) = field.get d := by
  cases field <;> cases other <;> rfl

theorem text_get_set (field other : TextAttribute) (d : Device) {content : List UInt8}
    (room : content.length ≤ other.room) :
    field.get (other.set d content) = if other = field then upToNul content else field.get d := by
  have whole : content.take other.room = content := List.take_of_length_le room
  cases other <;> cases field <;> first
    | rfl
    | exact congrArg upToNul whole

theorem store_decoded {taken : Taken} {d next : Device} (stored : taken.store d = some next) :
    Decoded d (takenWritten taken).toList next := by
  cases taken with
  | failed _ _ _ =>
      obtain rfl := Option.some.inj stored
      exact ⟨fun _ => rfl, fun _ => rfl⟩
  | skipped _ _ _ =>
      obtain rfl := Option.some.inj stored
      exact ⟨fun _ => rfl, fun _ => rfl⟩
  | number other _ value =>
      obtain rfl := Option.some.inj stored
      constructor
      · intro field
        rw [number_get_set, numberAfter, takenWritten, Option.toList_some, last_of_cons]
        by_cases same : other = field
        · subst same
          simp [lastOf]
        · have differs : field.id ≠ other.id := fun equal => same (number_id_inj equal).symm
          simp [lastOf, same, differs]
      · intro field
        have differs : field.id ≠ other.id := (number_id_ne_text_id other field).symm
        rw [text_get_set_number, textAfter, takenWritten, Option.toList_some, last_of_cons]
        simp [lastOf, differs]
  | text other _ datalen content length =>
      rw [Taken.store] at stored
      split_ifs at stored with room
      obtain rfl := Option.some.inj stored
      constructor
      · intro field
        have differs : field.id ≠ other.id := number_id_ne_text_id field other
        rw [number_get_set_text, numberAfter, takenWritten, Option.toList_some, last_of_cons]
        simp [lastOf, differs]
      · intro field
        rw [text_get_set field other d room, textAfter, takenWritten, Option.toList_some,
          last_of_cons]
        by_cases same : other = field
        · subst same
          simp [lastOf]
        · have differs : field.id ≠ other.id := fun equal => same (text_id_inj equal).symm
          simp [lastOf, same, differs]

theorem Decoded.trans {d next after : Device} {first second : List Written}
    (front : Decoded d first next) (back : Decoded next second after) :
    Decoded d (first ++ second) after := by
  constructor
  · intro field
    rw [back.numbers, numberAfter, numberAfter, last_of_append, front.numbers, numberAfter]
    cases lastOf second field.id <;> rfl
  · intro field
    rw [back.texts, textAfter, textAfter, last_of_append, front.texts, textAfter]
    cases lastOf second field.id <;> rfl

theorem store_all_decoded {takes : List Taken} {d after : Device}
    (stored : storeAll takes d = some after) :
    Decoded d (takes.filterMap takenWritten) after := by
  induction takes generalizing d with
  | nil =>
      obtain rfl := Option.some.inj stored
      exact ⟨fun _ => rfl, fun _ => rfl⟩
  | cons taken takes induction =>
      rw [storeAll, Option.bind_eq_some_iff] at stored
      rcases stored with ⟨next, first, rest⟩
      have whole := (store_decoded first).trans (induction rest)
      cases written : takenWritten taken with
      | none =>
          rw [List.filterMap_cons_none written]
          rwa [written] at whole
      | some value =>
          rw [List.filterMap_cons_some written]
          rwa [written] at whole

end LastValues

section Decoding

variable {hdr : Zclframehdr} {bytes : List UInt8} {behind : Memory} {d : Device}

/-- The loop's own cut of the payload gives each attribute the value that the records give it, and
no text without room. -/
structure SameValues (d : Device) (takes : List Taken) (records : List ReadRecord) : Prop where
  fits : ∀ taken ∈ takes, Fits taken
  numbers : ∀ field, numberAfter d (takes.filterMap takenWritten) field =
    numberAfter d (records.filterMap ReadRecord.written) field
  texts : ∀ field, textAfter d (takes.filterMap takenWritten) field =
    textAfter d (records.filterMap ReadRecord.written) field

theorem basic_case_cut (hdr : Zclframehdr) (short : bytes.length < 65536) {takes : List Taken}
    (cut : Cut Taken.bytes (placed bytes behind) bytes.length 0 takes) (d : Device) :
    basicCase hdr (UInt16.ofNat bytes.length) (placed bytes behind) d = storeAll takes d := by
  have length : (UInt16.ofNat bytes.length).toNat = bytes.length := by
    rw [UInt16.toNat_ofNat', Nat.mod_eq_of_lt short]
  rw [← length] at cut
  exact (zcl_handle_basic_cut cut d).1

/-- What the cut of a payload says about the decoding. -/
theorem decodes_to_iff_cut (short : bytes.length < 65536) {takes : List Taken}
    (cut : Cut Taken.bytes (placed bytes behind) bytes.length 0 takes)
    (records : List ReadRecord) :
    DecodesTo hdr bytes behind d records ↔ SameValues d takes records := by
  rw [DecodesTo, basic_case_cut hdr short cut]
  constructor
  · rintro ⟨after, stored, decoded⟩
    have taken := store_all_decoded stored
    refine ⟨?_, ?_, ?_⟩
    · rw [← store_all_is_some takes d, stored]
      rfl
    · intro field
      rw [← taken.numbers, decoded.numbers]
    · intro field
      rw [← taken.texts, decoded.texts]
  · intro same
    rcases Option.isSome_iff_exists.mp ((store_all_is_some takes d).mpr same.fits) with
      ⟨after, stored⟩
    have taken := store_all_decoded stored
    refine ⟨after, stored, ?_, ?_⟩
    · intro field
      rw [taken.numbers, same.numbers]
    · intro field
      rw [taken.texts, same.texts]

end Decoding

section Harmless

/-- Cut by the lengths that the switch goes by, the payload has no record that is successful and has
one of the eight ids. -/
def PassedOver (bytes : List UInt8) (behind : Memory) : Prop :=
  ∃ takes : List Taken, Cut Taken.bytes (placed bytes behind) bytes.length 0 takes ∧
    ∀ taken ∈ takes, takenWritten taken = none

/-- Bytes that the loop takes for whole records without a value that it keeps. -/
def Silent (bytes : List UInt8) : Prop :=
  ∃ takes : List Taken, bytes = takes.flatMap Taken.bytes ∧
    ∀ taken ∈ takes, takenWritten taken = none

/-- A record with an unknown attribute is harmless if its value is passed over by accident. -/
def ReadRecord.Harmless : ReadRecord → Prop
  | .failed _ _ _ => True
  | .success attrid _ value => Known attrid ∨ Silent value

theorem harmless_of_known {record : ReadRecord} (known : Known record.attrid) :
    record.Harmless := by
  cases record with
  | failed _ _ _ => exact trivial
  | success _ _ _ => exact .inl known

/-- The loop takes these bytes for `takes`, which leave the same last values as `written`. -/
structure TakenAs (bytes : List UInt8) (written : List Written) (takes : List Taken) : Prop where
  bytes : bytes = takes.flatMap Taken.bytes
  fits : ∀ taken ∈ takes, Fits taken
  last : ∀ attrid, Known attrid →
    lastOf (takes.filterMap takenWritten) attrid = lastOf written attrid

theorem TakenAs.append {first second : List UInt8} {written others : List Written}
    {takes later : List Taken} (front : TakenAs first written takes)
    (back : TakenAs second others later) :
    TakenAs (first ++ second) (written ++ others) (takes ++ later) := by
  refine ⟨?_, ?_, ?_⟩
  · rw [List.flatMap_append, ← front.bytes, ← back.bytes]
  · intro taken member
    rcases List.mem_append.mp member with inFront | inBack
    · exact front.fits taken inFront
    · exact back.fits taken inBack
  · intro attrid known
    rw [List.filterMap_append, last_of_append, last_of_append, front.last attrid known,
      back.last attrid known]

theorem fits_of_silent {taken : Taken} (silent : takenWritten taken = none) : Fits taken := by
  cases taken with
  | failed _ _ _ => exact fun _ _ impossible => by cases impossible
  | skipped _ _ _ => exact fun _ _ impossible => by cases impossible
  | number _ _ _ => cases silent
  | text _ _ _ _ _ => cases silent

theorem number_taken_as {field : NumberAttribute} {datatype : UInt8} {value : List UInt8}
    (wellFormed : WellFormed field.id datatype value) :
    ∃ takes, TakenAs (ReadRecord.success field.id datatype value).bytes [(field.id, value)]
      takes := by
  have type := wellFormed.number field rfl
  have one : (zclGetAttrDataLength (standardType field) value).toNat = 1 := by
    cases field <;> rfl
  have length := wellFormed.length
  rw [type, one] at length
  rcases List.length_eq_one_iff.mp length with ⟨byte, rfl⟩
  refine ⟨[.number field datatype byte], rfl, ?_, fun _ _ => rfl⟩
  intro taken member
  rw [List.mem_singleton.mp member]
  exact fun _ _ impossible => by cases impossible

theorem text_taken_as {field : TextAttribute} {datatype : UInt8} {value : List UInt8}
    (wellFormed : WellFormed field.id datatype value) :
    ∃ takes, TakenAs (ReadRecord.success field.id datatype value).bytes [(field.id, value)]
      takes := by
  rcases wellFormed.text field rfl with ⟨type, room⟩
  have length := wellFormed.length
  have sized : ∀ value, zclGetAttrDataLength zclDatatypeCharStr value =
      (value.getD 0 0).toUInt16 + 1 := fun _ => rfl
  rw [type, sized] at length
  cases value with
  | nil => exact absurd length (by decide)
  | cons datalen content =>
      have count : content.length = datalen.toNat := by
        have bound := datalen.toNat_lt
        rw [List.length_cons, List.getD_cons_zero, UInt16.toNat_add, UInt8.toNat_toUInt16] at length
        have sum : (datalen.toNat + (1 : UInt16).toNat) % 2 ^ 16 = datalen.toNat + 1 := by
          have one : (1 : UInt16).toNat = 1 := rfl
          omega
        omega
      refine ⟨[.text field datatype datalen content count], ?_, ?_, fun _ _ => rfl⟩
      · simp [ReadRecord.bytes, Taken.bytes, Taken.attrid, Taken.status, Taken.body]
      · intro taken member field count stored
        rw [List.mem_singleton.mp member] at stored
        cases stored
        rw [List.length_cons] at room
        cases field <;> exact room

theorem record_taken_as {record : ReadRecord} (valid : record.Valid) (harmless : record.Harmless) :
    ∃ takes, TakenAs record.bytes record.written.toList takes := by
  cases record with
  | failed attrid status failure =>
      refine ⟨[.failed attrid status failure], rfl, ?_, fun _ _ => rfl⟩
      intro taken member
      rw [List.mem_singleton.mp member]
      exact fits_of_silent rfl
  | success attrid datatype value =>
      by_cases known : Known attrid
      · rcases known with ⟨field, rfl⟩ | ⟨field, rfl⟩
        · exact number_taken_as valid
        · exact text_taken_as valid
      · rcases harmless.resolve_left known with ⟨takes, split, silent⟩
        refine ⟨.skipped attrid datatype known :: takes, ?_, ?_, ?_⟩
        · rw [List.flatMap_cons, ← split]
          rfl
        · intro taken member
          rcases List.mem_cons.mp member with rfl | later
          · exact fits_of_silent rfl
          · exact fits_of_silent (silent taken later)
        · intro other otherKnown
          have differs : other ≠ attrid := by
            rintro rfl
            exact known otherKnown
          rw [List.filterMap_cons_none rfl, List.filterMap_eq_nil_iff.mpr silent,
            ReadRecord.written, Option.toList_some, last_of_cons, if_neg differs]
          rfl

theorem records_taken_as {records : List ReadRecord} (valid : ∀ record ∈ records, record.Valid)
    (harmless : ∀ record ∈ records, record.Harmless) :
    ∃ takes, TakenAs (records.flatMap ReadRecord.bytes) (records.filterMap ReadRecord.written)
      takes := by
  induction records with
  | nil => exact ⟨[], rfl, fun _ absent => absurd absent List.not_mem_nil, fun _ _ => rfl⟩
  | cons record records induction =>
      rcases List.forall_mem_cons.mp valid with ⟨firstValid, restValid⟩
      rcases List.forall_mem_cons.mp harmless with ⟨firstHarmless, restHarmless⟩
      rcases record_taken_as firstValid firstHarmless with ⟨takes, front⟩
      rcases induction restValid restHarmless with ⟨later, back⟩
      have whole := front.append back
      refine ⟨takes ++ later, ?_⟩
      rw [List.flatMap_cons]
      cases written : record.written with
      | none =>
          rw [List.filterMap_cons_none written]
          rwa [written] at whole
      | some value =>
          rw [List.filterMap_cons_some written]
          rwa [written] at whole

/-- The records of known attributes are read as they are, and those that are harmless. -/
theorem decodes_harmless (hdr : Zclframehdr) {records : List ReadRecord}
    (valid : ∀ record ∈ records, record.Valid) (harmless : ∀ record ∈ records, record.Harmless)
    (short : (records.flatMap ReadRecord.bytes).length < 65536) (behind : Memory) (d : Device) :
    DecodesTo hdr (records.flatMap ReadRecord.bytes) behind d records := by
  rcases records_taken_as valid harmless with ⟨takes, taken⟩
  have held := holds_placed (records.flatMap ReadRecord.bytes) behind
  have cut : Cut Taken.bytes (placed (records.flatMap ReadRecord.bytes) behind)
      (records.flatMap ReadRecord.bytes).length 0 takes := by
    have whole := @Readable.cut_of_holds _ _ (placed (records.flatMap ReadRecord.bytes) behind) 0
      taken_readable takes (taken.bytes ▸ held)
    rwa [cutEnd, Nat.zero_add, ← taken.bytes] at whole
  rw [decodes_to_iff_cut short cut]
  refine ⟨taken.fits, ?_, ?_⟩
  · intro field
    rw [numberAfter, numberAfter, taken.last field.id (.inl ⟨field, rfl⟩)]
  · intro field
    rw [textAfter, textAfter, taken.last field.id (.inr ⟨field, rfl⟩)]

end Harmless

section Harm

theorem silent_prefix (value : List UInt8) :
    ∃ (takes : List Taken) (tail : List UInt8), value = takes.flatMap Taken.bytes ++ tail ∧
      (∀ taken ∈ takes, takenWritten taken = none) ∧
      ∀ taken rest, tail = taken.bytes ++ rest → takenWritten taken ≠ none := by
  induction length : value.length using Nat.strong_induction_on generalizing value with
  | _ length induction =>
      by_cases begins : ∃ taken rest, value = Taken.bytes taken ++ rest ∧ takenWritten taken = none
      · rcases begins with ⟨taken, rest, rfl, silent⟩
        have positive := taken_readable.nonempty taken
        rw [List.length_append] at length
        rcases induction rest.length (by omega) rest rfl with ⟨takes, tail, split, others, last⟩
        refine ⟨taken :: takes, tail, ?_, List.forall_mem_cons.mpr ⟨silent, others⟩, last⟩
        rw [List.flatMap_cons, List.append_assoc, ← split]
      · refine ⟨[], value, rfl, fun _ absent => absurd absent List.not_mem_nil, ?_⟩
        intro taken rest split silent
        exact begins ⟨taken, rest, split, silent⟩

/-- The tail of a value that is not silent: it ends in the head of a record, or it has a whole head
of an attribute that the device keeps. -/
theorem tail_cases {tail : List UInt8} (some_ : tail ≠ [])
    (last : ∀ taken rest, tail = Taken.bytes taken ++ rest → takenWritten taken ≠ none) :
    (∃ low, tail = [low]) ∨ (∃ low high, tail = [low, high]) ∨
      (∃ low high, tail = [low, high, zclStatusSuccess] ∧ ¬Known (buildUint16 low high)) ∨
      ∃ low high rest, tail = low :: high :: zclStatusSuccess :: rest ∧
        Known (buildUint16 low high) := by
  match tail with
  | [] => exact absurd rfl some_
  | [low] => exact .inl ⟨low, rfl⟩
  | [low, high] => exact .inr (.inl ⟨low, high, rfl⟩)
  | low :: high :: status :: rest =>
      by_cases success : status = zclStatusSuccess
      · subst success
        by_cases known : Known (buildUint16 low high)
        · exact .inr (.inr (.inr ⟨low, high, rest, rfl, known⟩))
        · cases rest with
          | nil => exact .inr (.inr (.inl ⟨low, high, rfl, known⟩))
          | cons datatype rest =>
              have skipped :
                  takenWritten (.skipped (buildUint16 low high) datatype known) ≠ none := by
                apply last _ rest
                simp [Taken.bytes, Taken.attrid, Taken.status, Taken.body]
              exact absurd rfl skipped
      · have failed : takenWritten (.failed (buildUint16 low high) status success) ≠ none := by
          apply last _ rest
          simp [Taken.bytes, Taken.attrid, Taken.status, Taken.body]
        exact absurd rfl failed

/-- The record that shows where the loop stands: the ZCL version is 5. -/
def versionRecord : ReadRecord := .success attridBasicZclVersion zclDatatypeUint8 [5]

theorem version_record_valid : versionRecord.Valid := by
  refine ⟨rfl, ?_, ?_⟩
  · intro field same
    obtain rfl : field = .zclversion := number_id_inj same
    rfl
  · intro field same
    exact absurd same.symm (number_id_ne_text_id .zclversion field)

def marked (number : UInt8) (text : List UInt8) : Device :=
  { contactSwitch 1 0 with
    zclversion := number
    applicationversion := number
    stackversion := number
    hwversion := number
    powersource := number
    manufacturername := .copy 32 text
    modelidentifier := .copy 32 text
    datecode := .copy 16 text }

theorem marked_number (field : NumberAttribute) (number : UInt8) (text : List UInt8) :
    field.get (marked number text) = number := by
  cases field <;> rfl

theorem marked_text (field : TextAttribute) (number byte : UInt8) (nonzero : byte ≠ 0) :
    field.get (marked number [byte]) = [byte] := by
  have whole : upToNul [byte] = [byte] := by simp [upToNul, nonzero]
  cases field <;> exact whole

theorem cut_behind {front later : List Taken} (silent : ∀ taken ∈ front, takenWritten taken = none)
    {rest : List UInt8} {behind : Memory}
    (cut : Cut Taken.bytes (placed rest behind) rest.length 0 later) :
    ∃ takes, Cut Taken.bytes (placed (front.flatMap Taken.bytes ++ rest) behind)
        (front.flatMap Taken.bytes ++ rest).length 0 takes ∧
      takes.filterMap takenWritten = later.filterMap takenWritten := by
  have length : (front.flatMap Taken.bytes ++ rest).length =
      cutEnd Taken.bytes 0 front + rest.length := by
    rw [cutEnd, Nat.zero_add, List.length_append]
  have held := holds_placed (front.flatMap Taken.bytes ++ rest) behind
  rw [holds_append] at held
  have shifted : (fun address => placed (front.flatMap Taken.bytes ++ rest) behind
      (cutEnd Taken.bytes 0 front + address)) = placed rest behind := by
    funext address
    rw [cutEnd, Nat.zero_add, placed, placed, List.length_append]
    by_cases inside : address < rest.length
    · rw [if_pos inside, if_pos (Nat.add_lt_add_left inside _),
        List.getD_append_right _ _ _ _ (Nat.le_add_right _ _), Nat.add_sub_cancel_left]
    · rw [if_neg inside, if_neg (by omega), Nat.add_sub_add_left]
  refine ⟨front ++ later, ?_, ?_⟩
  · rw [length]
    apply taken_readable.cut_append held.1 (Nat.le_add_right _ _)
    apply @Cut.shift _ _ _ 0 _ _ (cutEnd Taken.bytes 0 front)
    rw [shifted]
    exact cut
  · rw [List.filterMap_append, List.filterMap_eq_nil_iff.mpr silent, List.nil_append]

structure Asks (attrid : UInt16) (value : List UInt8) (d : Device) (number : UInt8)
    (text : List UInt8) : Prop where
  version : numberAfter d [(attrid, value), (attridBasicZclVersion, [5])] .zclversion = 5
  numbers : ∀ field, field ≠ .zclversion →
    numberAfter d [(attrid, value), (attridBasicZclVersion, [5])] field = number
  texts : ∀ field, textAfter d [(attrid, value), (attridBasicZclVersion, [5])] field = text

theorem asks_marked {attrid : UInt16} (unknown : ¬Known attrid) (value : List UInt8) :
    Asks attrid value (marked 1 [1]) 1 [1] := by
  have number : ∀ field : NumberAttribute, ¬field.id = attrid :=
    fun field same => unknown (.inl ⟨field, same⟩)
  have text : ∀ field : TextAttribute, ¬field.id = attrid :=
    fun field same => unknown (.inr ⟨field, same⟩)
  refine ⟨?_, ?_, ?_⟩
  · have own : NumberAttribute.zclversion.id = attridBasicZclVersion := rfl
    rw [numberAfter, last_of_cons, last_of_cons, if_pos own]
    rfl
  · intro field other
    have differs : ¬field.id = attridBasicZclVersion := fun same => other (number_id_inj same)
    rw [numberAfter, last_of_cons, last_of_cons, if_neg differs, if_neg (number field)]
    exact marked_number field 1 [1]
  · intro field
    have differs : ¬field.id = attridBasicZclVersion :=
      (number_id_ne_text_id .zclversion field).symm
    rw [textAfter, last_of_cons, last_of_cons, if_neg differs, if_neg (text field)]
    exact marked_text field 1 1 (by decide)

/-- A cut that misses the version record, and leaves at most one other value. -/
inductive Misses : List Written → Prop
  | nothing : Misses []
  | number (field : NumberAttribute) {value : UInt8} : value ≠ 1 → value ≠ 5 →
      Misses [(field.id, [value])]
  | text (field : TextAttribute) (datalen : UInt8) {content : List UInt8} :
      upToNul content ≠ [1] → Misses [(field.id, datalen :: content)]

theorem not_same_values {attrid : UInt16} (unknown : ¬Known attrid) (datatype : UInt8)
    (value : List UInt8) {takes : List Taken}
    (misses : Misses (takes.filterMap takenWritten)) :
    ¬SameValues (marked 1 [1]) takes [.success attrid datatype value, versionRecord] := by
  intro same
  have asks := asks_marked unknown value
  have asked : [ReadRecord.success attrid datatype value, versionRecord].filterMap
      ReadRecord.written = [(attrid, value), (attridBasicZclVersion, [5])] := rfl
  have numbers := same.numbers
  have texts := same.texts
  rw [asked] at numbers texts
  generalize takes.filterMap takenWritten = written at misses numbers texts
  cases misses with
  | nothing =>
      have version := (numbers .zclversion).trans asks.version
      exact absurd version (by decide)
  | number field notOld notNew =>
      have here := numbers field
      rw [numberAfter, last_of_cons, if_pos rfl] at here
      by_cases version : field = .zclversion
      · subst version
        exact notNew (here.trans asks.version)
      · exact notOld (here.trans (asks.numbers field version))
  | text field datalen other =>
      have here := texts field
      rw [textAfter, last_of_cons, if_pos rfl] at here
      exact other (here.trans (asks.texts field))

theorem known_cases (attrid : UInt16) :
    (∃ field : NumberAttribute, field.id = attrid) ∨ (∃ field : TextAttribute, field.id = attrid) ∨
      ¬Known attrid := by
  by_cases known : Known attrid
  · rcases known with number | text
    · exact .inl number
    · exact .inr (.inl text)
  · exact .inr (.inr known)

def ones : Memory := fun _ => 0xFF

theorem one_byte_misses (low : UInt8) :
    ∃ takes, Cut Taken.bytes (placed ([low] ++ versionRecord.bytes) ones) 6 0 takes ∧
      Misses (takes.filterMap takenWritten) := by
  rcases known_cases (buildUint16 low 0) with ⟨field, same⟩ | ⟨field, same⟩ | unknown
  · refine ⟨[.number field 0 0x20, .failed (buildUint16 5 0xFF) 0xFF (by decide)], ?_,
      .number field (by decide) (by decide)⟩
    refine .item (show 0 < 6 by decide) (Taken.held_of_head same rfl ⟨rfl, rfl, trivial⟩) ?_
    refine .item (show 5 < 6 by decide) (Taken.held_of_head rfl rfl trivial) ?_
    exact .done (show 6 ≤ 8 by decide)
  · let rest := readBytes (placed ([low] ++ versionRecord.bytes) ones) 6 31
    refine ⟨[.text field 0 0x20 (5 :: rest) rfl], ?_, .text field 0x20 ?_⟩
    · refine .item (show 0 < 6 by decide)
        (Taken.held_of_head same rfl ⟨rfl, rfl, rfl, holds_read_bytes _ _ _⟩) (.done ?_)
      exact show 6 ≤ 37 by decide
    · have first : upToNul (5 :: rest) = 5 :: upToNul rest := by simp [upToNul]
      rw [first]
      intro same
      exact absurd (List.cons.inj same).1 (by decide)
  · refine ⟨[.skipped _ 0 unknown, .failed (buildUint16 0x20 5) 0xFF (by decide)], ?_, .nothing⟩
    refine .item (show 0 < 6 by decide) (Taken.held_of_head rfl rfl ⟨rfl, trivial⟩) ?_
    refine .item (show 4 < 6 by decide) (Taken.held_of_head rfl rfl trivial) ?_
    exact .done (show 6 ≤ 7 by decide)

theorem two_bytes_miss (low high : UInt8) :
    ∃ takes, Cut Taken.bytes (placed ([low, high] ++ versionRecord.bytes) ones) 7 0 takes ∧
      Misses (takes.filterMap takenWritten) := by
  rcases known_cases (buildUint16 low high) with ⟨field, same⟩ | ⟨field, same⟩ | unknown
  · refine ⟨[.number field 0 0, .failed (buildUint16 0x20 5) 0xFF (by decide)], ?_,
      .number field (by decide) (by decide)⟩
    refine .item (show 0 < 7 by decide) (Taken.held_of_head same rfl ⟨rfl, rfl, trivial⟩) ?_
    refine .item (show 5 < 7 by decide) (Taken.held_of_head rfl rfl trivial) ?_
    exact .done (show 7 ≤ 8 by decide)
  · refine ⟨[.text field 0 0 [] rfl, .failed (buildUint16 0x20 5) 0xFF (by decide)], ?_,
      .text field 0 (by decide)⟩
    refine .item (show 0 < 7 by decide) (Taken.held_of_head same rfl ⟨rfl, rfl, trivial⟩) ?_
    refine .item (show 5 < 7 by decide) (Taken.held_of_head rfl rfl trivial) ?_
    exact .done (show 7 ≤ 8 by decide)
  · refine ⟨[.skipped _ 0 unknown, .failed (buildUint16 0 0x20) 5 (by decide)], ?_, .nothing⟩
    refine .item (show 0 < 7 by decide) (Taken.held_of_head rfl rfl ⟨rfl, trivial⟩) ?_
    refine .item (show 4 < 7 by decide) (Taken.held_of_head rfl rfl trivial) ?_
    exact .done (show 7 ≤ 7 by decide)

/-- It has taken a head, and goes on with the first byte of the version record as a data type. -/
theorem three_bytes_miss {low high : UInt8} (unknown : ¬Known (buildUint16 low high)) :
    ∃ takes, Cut Taken.bytes
        (placed ([low, high, zclStatusSuccess] ++ versionRecord.bytes) ones) 8 0 takes ∧
      Misses (takes.filterMap takenWritten) := by
  refine ⟨[.skipped _ 0 unknown, .failed (buildUint16 0 0) 0x20 (by decide),
    .failed (buildUint16 5 0xFF) 0xFF (by decide)], ?_, .nothing⟩
  refine .item (show 0 < 8 by decide) (Taken.held_of_head rfl rfl ⟨rfl, trivial⟩) ?_
  refine .item (show 4 < 8 by decide) (Taken.held_of_head rfl rfl trivial) ?_
  refine .item (show 7 < 8 by decide) (Taken.held_of_head rfl rfl trivial) ?_
  exact .done (show 8 ≤ 10 by decide)

theorem last_of_is_some {written : List Written} {attrid : UInt16} {value : List UInt8}
    (member : (attrid, value) ∈ written) : ∃ last, lastOf written attrid = some last := by
  induction written with
  | nil => exact absurd member List.not_mem_nil
  | cons first written induction =>
      rw [last_of_cons]
      rcases List.mem_cons.mp member with here | later
      · rw [← here, if_pos rfl]
        cases lastOf written attrid with
        | none => exact ⟨value, rfl⟩
        | some last => exact ⟨last, rfl⟩
      · rcases induction later with ⟨last, found⟩
        exact ⟨last, by rw [found, Option.some_or]⟩

theorem last_of_not_gives {records : List ReadRecord}
    (nothing : ∀ record ∈ records, ¬record.Gives) {attrid : UInt16} (known : Known attrid) :
    lastOf (records.filterMap ReadRecord.written) attrid = none := by
  induction records with
  | nil => rfl
  | cons record records induction =>
      rcases List.forall_mem_cons.mp nothing with ⟨here, later⟩
      cases record with
      | failed _ _ _ => exact induction later
      | success other datatype value =>
          have differs : ¬attrid = other := by
            rintro rfl
            exact here known
          have own : (ReadRecord.success other datatype value).written = some (other, value) := rfl
          rw [List.filterMap_cons_some own, last_of_cons, induction later, if_neg differs]
          rfl

/-- A value that the loop keeps although no record gives one. -/
theorem stray_value {records : List ReadRecord} (nothing : ∀ record ∈ records, ¬record.Gives)
    {takes : List Taken} (some_ : takes.filterMap takenWritten ≠ []) :
    ∃ d, ¬SameValues d takes records := by
  rcases List.exists_mem_of_ne_nil _ some_ with ⟨pair, inside⟩
  rcases last_of_is_some inside with ⟨last, found⟩
  rcases List.mem_filterMap.mp inside with ⟨taken, _, here⟩
  cases taken with
  | failed _ _ _ => cases here
  | skipped _ _ _ => cases here
  | number field _ _ =>
      obtain rfl := Option.some.inj here
      have notKept := last_of_not_gives nothing (.inl ⟨field, rfl⟩)
      by_cases first : last.headD 0 = 1
      · refine ⟨marked 2 [1], fun same => ?_⟩
        have equal := same.numbers field
        rw [numberAfter, numberAfter, notKept, found] at equal
        have two : last.headD 0 = 2 := equal.trans (marked_number field 2 [1])
        rw [first] at two
        exact absurd two (by decide)
      · refine ⟨marked 1 [1], fun same => ?_⟩
        have equal := same.numbers field
        rw [numberAfter, numberAfter, notKept, found] at equal
        exact first (equal.trans (marked_number field 1 [1]))
  | text field _ _ _ _ =>
      obtain rfl := Option.some.inj here
      have notKept := last_of_not_gives nothing (.inr ⟨field, rfl⟩)
      by_cases first : upToNul last.tail = [1]
      · refine ⟨marked 1 [2], fun same => ?_⟩
        have equal := same.texts field
        rw [textAfter, textAfter, notKept, found] at equal
        have two : upToNul last.tail = [2] := equal.trans (marked_text field 1 2 (by decide))
        rw [first] at two
        exact absurd two (by decide)
      · refine ⟨marked 1 [1], fun same => ?_⟩
        have equal := same.texts field
        rw [textAfter, textAfter, notKept, found] at equal
        exact first (equal.trans (marked_text field 1 1 (by decide)))

theorem gives_nothing_iff (hdr : Zclframehdr) {bytes : List UInt8} (behind : Memory)
    {records : List ReadRecord} (nothing : ∀ record ∈ records, ¬record.Gives)
    (short : bytes.length < 65536) :
    (∀ d, DecodesTo hdr bytes behind d records) ↔ PassedOver bytes behind := by
  constructor
  · intro decodes
    rcases taken_readable.exists_cut (placed bytes behind) 0 bytes.length with ⟨takes, cut⟩
    refine ⟨takes, cut, ?_⟩
    by_contra loud
    have some_ : takes.filterMap takenWritten ≠ [] := by
      rw [Ne, List.filterMap_eq_nil_iff]
      exact loud
    rcases stray_value nothing some_ with ⟨d, wrong⟩
    exact wrong ((decodes_to_iff_cut short cut records).mp (decodes d))
  · rintro ⟨takes, cut, silent⟩ d
    have unwritten : takes.filterMap takenWritten = [] := List.filterMap_eq_nil_iff.mpr silent
    rw [decodes_to_iff_cut short cut]
    refine ⟨fun taken member => fits_of_silent (silent taken member), ?_, ?_⟩
    · intro field
      rw [unwritten, numberAfter, numberAfter, last_of_not_gives nothing (.inl ⟨field, rfl⟩)]
      rfl
    · intro field
      rw [unwritten, textAfter, textAfter, last_of_not_gives nothing (.inr ⟨field, rfl⟩)]
      rfl

theorem known_head_written {low high : UInt8} {rest : List UInt8}
    (known : Known (buildUint16 low high)) :
    ∃ takes, Cut Taken.bytes (placed (low :: high :: zclStatusSuccess :: rest) ones)
        (low :: high :: zclStatusSuccess :: rest).length 0 takes ∧
      takes.filterMap takenWritten ≠ [] := by
  let memory := placed (low :: high :: zclStatusSuccess :: rest) ones
  rcases exists_taken memory 0 with ⟨taken, held⟩
  rcases Taken.head_held held with ⟨attrid, status, -⟩
  have inside : ∀ address < 3, address < (low :: high :: zclStatusSuccess :: rest).length := by
    intro address bound
    simp only [List.length_cons]
    omega
  have cell : ∀ address < 3, memory address =
      (low :: high :: zclStatusSuccess :: rest).getD address 0 :=
    fun address bound => if_pos (inside address bound)
  have lowCell : memory 0 = low := cell 0 (by decide)
  have highCell : memory (0 + 1) = high := cell 1 (by decide)
  have statusCell : memory (0 + 2) = zclStatusSuccess := cell 2 (by decide)
  rw [lowCell, highCell] at attrid
  rw [statusCell] at status
  rw [attrid] at known
  rcases taken_readable.exists_cut memory (0 + taken.bytes.length)
    (low :: high :: zclStatusSuccess :: rest).length with ⟨takes, cut⟩
  refine ⟨taken :: takes, .item (inside 0 (by decide)) held cut, ?_⟩
  cases taken with
  | failed _ _ failure => exact absurd status.symm failure
  | skipped _ _ unknown => exact absurd known unknown
  | number _ _ _ => exact List.cons_ne_nil _ _
  | text _ _ _ _ _ => exact List.cons_ne_nil _ _

theorem success_bytes {attrid : UInt16} (unknown : ¬Known attrid) (datatype : UInt8)
    {value tail : List UInt8} {takes : List Taken}
    (split : value = takes.flatMap Taken.bytes ++ tail) :
    (ReadRecord.success attrid datatype value).bytes =
      (Taken.skipped attrid datatype unknown :: takes).flatMap Taken.bytes ++ tail := by
  rw [List.flatMap_cons, List.append_assoc, ← split]
  rfl

/-- A record that is not harmless makes the decoding wrong: alone, or with the version behind it. -/
theorem harmful_record (hdr : Zclframehdr) {attrid : UInt16} {datatype : UInt8} {value : List UInt8}
    (harmful : ¬(ReadRecord.success attrid datatype value).Harmless)
    (short : (ReadRecord.success attrid datatype value).bytes.length + 5 < 65536) :
    ∃ records d, (records = [] ∨ records = [versionRecord]) ∧
      ¬DecodesTo hdr ((.success attrid datatype value :: records).flatMap ReadRecord.bytes) ones d
        (.success attrid datatype value :: records) := by
  rcases not_or.mp harmful with ⟨unknown, loud⟩
  rcases silent_prefix value with ⟨takes, tail, split, silent, last⟩
  have some_ : tail ≠ [] := by
    rintro rfl
    rw [List.append_nil] at split
    exact loud ⟨takes, split, silent⟩
  have bytes := success_bytes unknown datatype split
  have front : ∀ taken ∈ Taken.skipped attrid datatype unknown :: takes,
      takenWritten taken = none :=
    List.forall_mem_cons.mpr ⟨rfl, silent⟩
  have versionLength : versionRecord.bytes.length = 5 := rfl
  -- where the version record is read from another place than its own
  have missed : ∀ {stop : Nat}, (tail ++ versionRecord.bytes).length = stop →
      (∃ later, Cut Taken.bytes (placed (tail ++ versionRecord.bytes) ones) stop 0 later ∧
        Misses (later.filterMap takenWritten)) →
      ∃ records d, (records = [] ∨ records = [versionRecord]) ∧
        ¬DecodesTo hdr ((.success attrid datatype value :: records).flatMap ReadRecord.bytes) ones d
          (.success attrid datatype value :: records) := by
    rintro stop rfl ⟨later, cut, misses⟩
    rcases cut_behind front cut with ⟨whole, wholeCut, written⟩
    refine ⟨[versionRecord], marked 1 [1], .inr rfl, ?_⟩
    have message : [ReadRecord.success attrid datatype value, versionRecord].flatMap
        ReadRecord.bytes =
        (Taken.skipped attrid datatype unknown :: takes).flatMap Taken.bytes ++
          (tail ++ versionRecord.bytes) := by
      rw [List.flatMap_cons, bytes, List.flatMap_singleton, List.append_assoc]
    have fits : ([ReadRecord.success attrid datatype value, versionRecord].flatMap
        ReadRecord.bytes).length < 65536 := by
      rw [List.flatMap_cons, List.flatMap_singleton, List.length_append, versionLength]
      exact short
    rw [← message] at wholeCut
    rw [decodes_to_iff_cut fits wholeCut]
    exact not_same_values unknown datatype value (written ▸ misses)
  rcases tail_cases some_ last with ⟨low, rfl⟩ | ⟨low, high, rfl⟩ | ⟨low, high, rfl, notKnown⟩ |
    ⟨low, high, rest, rfl, known⟩
  · exact missed rfl (one_byte_misses low)
  · exact missed rfl (two_bytes_miss low high)
  · exact missed rfl (three_bytes_miss notKnown)
  · rcases known_head_written known with ⟨later, cut, written⟩
    rcases cut_behind front cut with ⟨whole, wholeCut, same⟩
    rw [← same] at written
    have nothing : ∀ record ∈ [ReadRecord.success attrid datatype value], ¬record.Gives := by
      intro record member
      rw [List.mem_singleton.mp member]
      exact unknown
    rcases stray_value nothing written with ⟨d, wrong⟩
    refine ⟨[], d, .inl rfl, ?_⟩
    have message : [ReadRecord.success attrid datatype value].flatMap ReadRecord.bytes =
        (Taken.skipped attrid datatype unknown :: takes).flatMap Taken.bytes ++
          (low :: high :: zclStatusSuccess :: rest) := by
      rw [List.flatMap_singleton, bytes]
    have fits : ([ReadRecord.success attrid datatype value].flatMap
        ReadRecord.bytes).length < 65536 := by
      rw [List.flatMap_singleton]
      omega
    rw [← message] at wholeCut
    rw [decodes_to_iff_cut fits wholeCut]
    exact wrong

end Harm

/-- A message that has no value for the eight attributes, and so every one of another kind, leaves all
devices as they are exactly if the switch finds no value in it. A read response whose records are all
harmless is decoded right; and all read responses that are made of certain records, and of any for
the eight attributes, are decoded right exactly if these records are harmless. -/
theorem basic_decoding_iff (hdr : Zclframehdr) :
    (∀ bytes behind records, Claimed hdr bytes records → bytes.length < 65536 →
      (∀ record ∈ records, ¬record.Gives) →
      ((∀ d, DecodesTo hdr bytes behind d records) ↔ PassedOver bytes behind)) ∧
    (∀ records : List ReadRecord, (∀ record ∈ records, record.Valid ∧ record.Harmless) →
      (records.flatMap ReadRecord.bytes).length < 65536 → ∀ behind d,
        DecodesTo hdr (records.flatMap ReadRecord.bytes) behind d records) ∧
    ∀ offered : Set ReadRecord,
      (∀ record ∈ offered, record.Valid ∧ record.bytes.length + 5 < 65536) →
      ((∀ records : List ReadRecord,
          (∀ record ∈ records, record ∈ offered ∨ record.Valid ∧ Known record.attrid) →
          (records.flatMap ReadRecord.bytes).length < 65536 → ∀ behind d,
            DecodesTo hdr (records.flatMap ReadRecord.bytes) behind d records) ↔
        ∀ record ∈ offered, record.Harmless) := by
  have enough : ∀ records : List ReadRecord,
      (∀ record ∈ records, record.Valid ∧ record.Harmless) →
      (records.flatMap ReadRecord.bytes).length < 65536 → ∀ behind d,
        DecodesTo hdr (records.flatMap ReadRecord.bytes) behind d records := by
    intro records good short behind d
    exact decodes_harmless hdr (fun record member => (good record member).1)
      (fun record member => (good record member).2) short behind d
  refine ⟨?_, enough, ?_⟩
  · intro bytes behind records _ short nothing
    exact gives_nothing_iff hdr behind nothing short
  · intro offered good
    constructor
    · intro decodes record member
      by_contra harmful
      rcases good record member with ⟨_, short⟩
      cases record with
      | failed _ _ _ => exact harmful trivial
      | success attrid datatype value =>
          rcases harmful_record hdr harmful short with ⟨records, d, shape, wrong⟩
          have version : Known versionRecord.attrid := .inl ⟨.zclversion, rfl⟩
          have five : versionRecord.bytes.length = 5 := rfl
          apply wrong
          apply decodes
          · intro other inside
            rcases List.mem_cons.mp inside with rfl | later
            · exact .inl member
            · rcases shape with rfl | rfl
              · exact absurd later List.not_mem_nil
              · rw [List.mem_singleton.mp later]
                exact .inr ⟨version_record_valid, version⟩
          · rcases shape with rfl | rfl
            · rw [List.flatMap_singleton]
              omega
            · rw [List.flatMap_cons, List.flatMap_singleton, List.length_append, five]
              exact short
    · intro harmless records made short behind d
      apply enough records _ short behind d
      intro record member
      rcases made record member with inside | known
      · exact ⟨(good record inside).1, harmless record inside⟩
      · exact ⟨known.1, harmless_of_known known.2⟩

def headerOf (commandid : UInt8) : Zclframehdr where
  type := 0
  manuspecific := 0
  direction := 1
  disabledefaultrsp := 1
  manucode := 0
  transseqnum := 1
  commandid := commandid

/-- The software build id is no attribute that the gateway keeps; here it is one byte long. -/
def buildRecord : ReadRecord := .success 0x4000 zclDatatypeUint8 [7]

/-- A read response with the build id and the ZCL version, and a read request that names the
attributes 0, 0 and 9. -/
theorem basic_messages_misread :
    Claimed (headerOf zclCmdReadRsp) ([buildRecord, versionRecord].flatMap ReadRecord.bytes)
        [buildRecord, versionRecord] ∧
      ¬DecodesTo (headerOf zclCmdReadRsp)
        ([buildRecord, versionRecord].flatMap ReadRecord.bytes) ones
        (marked 1 [1]) [buildRecord, versionRecord] ∧
      Claimed (headerOf 0x00) [0, 0, 0, 0, 9, 0] [] ∧
      ¬DecodesTo (headerOf 0x00) [0, 0, 0, 0, 9, 0] ones (marked 1 [1]) [] := by
  have unknown : ¬Known 0x4000 := by
    rintro (⟨field, same⟩ | ⟨field, same⟩) <;> cases field <;> exact absurd same (by decide)
  refine ⟨?_, ?_, .other _ ?_, ?_⟩
  · apply Claimed.readRsp ⟨rfl, rfl⟩
    rintro record member
    rcases List.mem_cons.mp member with rfl | later
    · exact ⟨rfl, fun field same => absurd (.inl ⟨field, same⟩) unknown,
        fun field same => absurd (.inr ⟨field, same⟩) unknown⟩
    · rw [List.mem_singleton.mp later]
      exact version_record_valid
  · rcases one_byte_misses 7 with ⟨later, cut, misses⟩
    have silent : ∀ taken ∈ [Taken.skipped 0x4000 zclDatatypeUint8 unknown],
        takenWritten taken = none := by
      intro taken member
      rw [List.mem_singleton.mp member]
      rfl
    rcases cut_behind silent cut with ⟨takes, wholeCut, written⟩
    have message : [buildRecord, versionRecord].flatMap ReadRecord.bytes =
        [Taken.skipped 0x4000 zclDatatypeUint8 unknown].flatMap Taken.bytes ++
          ([7] ++ versionRecord.bytes) := rfl
    rw [← message] at wholeCut
    rw [decodes_to_iff_cut (by decide) wholeCut]
    exact not_same_values unknown zclDatatypeUint8 [7] (written ▸ misses)
  · rintro ⟨-, response⟩
    exact absurd response (by decide)
  · have cut : Cut Taken.bytes (placed [0, 0, 0, 0, 9, 0] ones) 6 0
        [.number .zclversion 0 9, .failed (buildUint16 0 0xFF) 0xFF (by decide)] := by
      refine .item (by decide) (Taken.held_of_head rfl rfl ⟨rfl, rfl, trivial⟩) ?_
      refine .item (by decide) (Taken.held_of_head rfl rfl trivial) ?_
      exact .done (by decide)
    rw [decodes_to_iff_cut (by decide) cut]
    intro same
    exact absurd (same.numbers .zclversion) (by decide)

end SmartHome.BasicDecoding
