import Mathlib.Data.List.GetD
import SmartHome.Library.Bytes
import SmartHome.Library.Circular

/-!
# Fixed-size blobs of packed records

A blob keeps its length: a write replaces the bytes from an offset on, and one that
would reach past the end is refused. Records of one size lie in it one behind the
other, so a write inside a record is a change of that record alone.
-/

namespace SmartHome.Library.Blobs

open SmartHome.Library.Bytes
open SmartHome.Library.Circular

set_option autoImplicit false

section Writes

variable {Item : Type*}

def blobWrite (blob : List Item) (offset : Nat) (items : List Item) : List Item :=
  if offset + items.length ≤ blob.length then overwrite blob offset items else blob

@[simp] theorem blob_write_length (blob : List Item) (offset : Nat) (items : List Item) :
    (blobWrite blob offset items).length = blob.length := by
  unfold blobWrite
  split_ifs with fits
  · rw [overwrite, List.length_append, List.length_append, List.length_take, List.length_drop]
    omega
  · rfl

theorem blob_write_append_right (front back : List Item) (offset : Nat) (items : List Item) :
    blobWrite (front ++ back) (front.length + offset) items =
      front ++ blobWrite back offset items := by
  unfold blobWrite
  by_cases fits : offset + items.length ≤ back.length
  · have whole : front.length + offset + items.length ≤ (front ++ back).length := by
      rw [List.length_append]
      omega
    rw [if_pos whole, if_pos fits, overwrite, overwrite, Nat.add_assoc,
      List.take_length_add_append, List.drop_length_add_append]
    simp only [List.append_assoc]
  · have whole : ¬front.length + offset + items.length ≤ (front ++ back).length := by
      rw [List.length_append]
      omega
    rw [if_neg whole, if_neg fits]

theorem blob_write_append_left {front : List Item} (back : List Item) {offset : Nat}
    {items : List Item} (inside : offset + items.length ≤ front.length) :
    blobWrite (front ++ back) offset items = blobWrite front offset items ++ back := by
  unfold blobWrite
  have whole : offset + items.length ≤ (front ++ back).length := by
    rw [List.length_append]
    omega
  rw [if_pos whole, if_pos inside, overwrite, overwrite,
    List.take_append_of_le_length (by omega), List.drop_append_of_le_length inside]
  simp only [List.append_assoc]

theorem blob_write_field (front field back replacement : List Item)
    (length : replacement.length = field.length) :
    blobWrite (front ++ (field ++ back)) front.length replacement =
      front ++ (replacement ++ back) := by
  have start := blob_write_append_right front (field ++ back) 0 replacement
  rw [Nat.add_zero] at start
  have fits : 0 + replacement.length ≤ (field ++ back).length := by
    rw [List.length_append]
    omega
  rw [start, blobWrite, if_pos fits, overwrite, List.take_zero, List.nil_append, Nat.zero_add,
    length, List.drop_left]

end Writes

section Records

variable {Item Value : Type*} {encode : Value → List Item} {size : Nat}

/-- The writes of a loop that stores record after record. -/
def writeRecords (encode : Value → List Item) (size : Nat) :
    List Item → Nat → List Value → List Item
  | blob, _, [] => blob
  | blob, offset, value :: values =>
      writeRecords encode size (blobWrite blob offset (encode value)) (offset + size) values

def readRecords (decode : List Item → Value) (size : Nat) : Nat → List Item → List Value
  | 0, _ => []
  | count + 1, items => decode items :: readRecords decode size count (items.drop size)

theorem records_length (sized : ∀ value, (encode value).length = size) (values : List Value) :
    (values.flatMap encode).length = size * values.length := by
  induction values with
  | nil => rfl
  | cons value values induction =>
      rw [List.flatMap_cons, List.length_append, sized, induction, List.length_cons, Nat.mul_succ,
        Nat.add_comm]

@[simp] theorem write_records_length (blob : List Item) (offset : Nat) (values : List Value) :
    (writeRecords encode size blob offset values).length = blob.length := by
  induction values generalizing blob offset with
  | nil => rfl
  | cons value values induction => rw [writeRecords, induction, blob_write_length]

theorem write_records_eq (sized : ∀ value, (encode value).length = size) (positive : 0 < size)
    (values : List Value) (front room : List Item) (capacity : Nat)
    (length : room.length = size * capacity) :
    ∃ rest, writeRecords encode size (front ++ room) front.length values =
      front ++ ((values.take capacity).flatMap encode ++ rest) := by
  induction values generalizing front room capacity with
  | nil => exact ⟨room, by simp [writeRecords]⟩
  | cons value values induction =>
      have start := blob_write_append_right front room 0 (encode value)
      rw [Nat.add_zero] at start
      rw [writeRecords, start]
      cases capacity with
      | zero =>
          have refused : ∀ (offset : Nat) (items : List Value), front.length ≤ offset →
              writeRecords encode size (front ++ room) offset items = front ++ room := by
            intro offset items
            induction items generalizing offset with
            | nil => intro _; rfl
            | cons item items induction =>
                intro behind
                have unfit : ¬offset + (encode item).length ≤ (front ++ room).length := by
                  rw [List.length_append, length, sized]
                  omega
                rw [writeRecords, blobWrite, if_neg unfit]
                exact induction _ (by omega)
          have kept : blobWrite room 0 (encode value) = room := by
            have unfit : ¬0 + (encode value).length ≤ room.length := by
              rw [length, sized]
              omega
            rw [blobWrite, if_neg unfit]
          refine ⟨room, ?_⟩
          rw [kept, refused _ _ (Nat.le_add_right _ _)]
          rfl
      | succ capacity =>
          have fits : 0 + (encode value).length ≤ room.length := by
            rw [length, sized, Nat.mul_succ]
            omega
          have stored : blobWrite room 0 (encode value) =
              encode value ++ room.drop (encode value).length := by
            rw [blobWrite, if_pos fits, overwrite, List.take_zero, List.nil_append, Nat.zero_add]
          have remaining : (room.drop (encode value).length).length = size * capacity := by
            rw [List.length_drop, length, sized, Nat.mul_succ]
            omega
          have behind : front.length + size = (front ++ encode value).length := by
            rw [List.length_append, sized]
          rw [stored, ← List.append_assoc, behind]
          rcases induction (front ++ encode value) _ capacity remaining with ⟨rest, written⟩
          refine ⟨rest, ?_⟩
          rw [written, List.take_succ_cons, List.flatMap_cons]
          simp only [List.append_assoc]

/-- A write inside a record changes that record. -/
theorem blob_write_record (sized : ∀ value, (encode value).length = size) {change : Value → Value}
    {offset : Nat} {items : List Item} (inside : offset + items.length ≤ size)
    (changed : ∀ value, blobWrite (encode value) offset items = encode (change value))
    (values : List Value) (rest : List Item) {index : Nat} (bound : index < values.length) :
    blobWrite (values.flatMap encode ++ rest) (size * index + offset) items =
      (values.modify index change).flatMap encode ++ rest := by
  induction values generalizing index with
  | nil => exact absurd bound (Nat.not_lt_zero index)
  | cons value values induction =>
      rw [List.flatMap_cons, List.append_assoc]
      cases index with
      | zero =>
          have fits : offset + items.length ≤ (encode value).length := by
            rw [sized]
            exact inside
          rw [Nat.mul_zero, Nat.zero_add, blob_write_append_left _ fits, changed]
          simp [List.modify_zero_cons]
      | succ index =>
          have position : size * (index + 1) + offset =
              (encode value).length + (size * index + offset) := by
            rw [sized, Nat.mul_succ]
            omega
          rw [position, blob_write_append_right, induction (Nat.lt_of_succ_lt_succ bound),
            List.modify_succ_cons, List.flatMap_cons, List.append_assoc]

theorem blob_write_behind (sized : ∀ value, (encode value).length = size) (values : List Value)
    (rest : List Item) {index : Nat} (offset : Nat) (items : List Item)
    (behind : values.length ≤ index) :
    ∃ later, blobWrite (values.flatMap encode ++ rest) (size * index + offset) items =
      values.flatMap encode ++ later := by
  have position : size * index + offset =
      (values.flatMap encode).length + (size * (index - values.length) + offset) := by
    rw [records_length sized, ← Nat.add_assoc, ← Nat.mul_add, Nat.add_sub_cancel' behind]
  rw [position, blob_write_append_right]
  exact ⟨_, rfl⟩

theorem read_records_eq {decode : List Item → Value} (sized : ∀ value, (encode value).length = size)
    (decoded : ∀ value rest, decode (encode value ++ rest) = value) (values : List Value)
    (rest : List Item) {count : Nat} (enough : count ≤ values.length) :
    readRecords decode size count (values.flatMap encode ++ rest) = values.take count := by
  induction count generalizing values with
  | zero => simp [readRecords]
  | succ count induction =>
      cases values with
      | nil => exact absurd enough (Nat.not_succ_le_zero count)
      | cons value values =>
          have next : (encode value ++ (values.flatMap encode ++ rest)).drop size =
              values.flatMap encode ++ rest := by
            rw [← sized value, List.drop_left]
          rw [List.flatMap_cons, List.append_assoc, readRecords, decoded, next,
            induction values (Nat.le_of_succ_le_succ enough), List.take_succ_cons]

end Records

section Fields

/-- A number in `width` bytes from an offset on, least significant byte first. -/
def numberAt (width : Nat) (bytes : List UInt8) (offset : Nat) : Nat :=
  ofBytesLE ((bytes.drop offset).take width)

def byteAt (bytes : List UInt8) (offset : Nat) : UInt8 := bytes.getD offset 0

def wordAt (bytes : List UInt8) (offset : Nat) : UInt16 := UInt16.ofNat (numberAt 2 bytes offset)

def wordBytes (word : UInt16) : List UInt8 := toBytesLE 2 word.toNat

@[simp] theorem word_bytes_length (word : UInt16) : (wordBytes word).length = 2 :=
  to_bytes_le_length 2 word.toNat

theorem blob_write_byte (blob : List UInt8) (offset : Nat) (byte : UInt8) :
    blobWrite blob offset [byte] = blob.set offset byte := by
  rw [blobWrite, List.set_eq_take_append_cons_drop, overwrite, List.append_assoc]
  rfl

theorem byte_at_written {blob : List UInt8} {offset : Nat} (inside : offset < blob.length)
    (byte : UInt8) : byteAt (blobWrite blob offset [byte]) offset = byte := by
  rw [blob_write_byte, byteAt, List.getD_eq_getElem?_getD, List.getElem?_set_self inside]
  rfl

/-- No write of a byte disturbs a place that holds the same. -/
theorem byte_at_kept {blob : List UInt8} {place : Nat} {byte : UInt8}
    (holds : byteAt blob place = byte) (offset : Nat) :
    byteAt (blobWrite blob offset [byte]) place = byte := by
  by_cases same : offset = place
  · subst same
    by_cases inside : offset < blob.length
    · exact byte_at_written inside byte
    · rw [blob_write_byte, List.set_eq_of_length_le (Nat.not_lt.mp inside)]
      exact holds
  · rw [blob_write_byte, byteAt, List.getD_eq_getElem?_getD, List.getElem?_set_ne same,
      ← List.getD_eq_getElem?_getD]
    exact holds

theorem byte_at_behind (front back : List UInt8) {offset : Nat} (behind : front.length ≤ offset) :
    byteAt (front ++ back) offset = byteAt back (offset - front.length) :=
  List.getD_append_right _ _ _ _ behind

@[simp] theorem byte_at_cons_zero (byte : UInt8) (rest : List UInt8) :
    byteAt (byte :: rest) 0 = byte := rfl

@[simp] theorem byte_at_cons_succ (byte : UInt8) (rest : List UInt8) (offset : Nat) :
    byteAt (byte :: rest) (offset + 1) = byteAt rest offset := rfl

@[simp] theorem word_at_cons_succ (byte : UInt8) (rest : List UInt8) (offset : Nat) :
    wordAt (byte :: rest) (offset + 1) = wordAt rest offset := rfl

theorem word_at_behind (front back : List UInt8) {offset : Nat} (behind : front.length ≤ offset) :
    wordAt (front ++ back) offset = wordAt back (offset - front.length) := by
  have position : offset = front.length + (offset - front.length) := by omega
  rw [wordAt, numberAt, position, List.drop_length_add_append, Nat.add_sub_cancel_left, wordAt,
    numberAt]

theorem word_at_start (word : UInt16) (rest : List UInt8) :
    wordAt (wordBytes word ++ rest) 0 = word := by
  have bound : word.toNat < 256 ^ 2 := word.toNat_lt
  rw [wordAt, numberAt, List.drop_zero, List.take_left' (word_bytes_length word), wordBytes,
    of_to_bytes_le, Nat.mod_eq_of_lt bound, UInt16.ofNat_toNat]

theorem word_at_array (words : List UInt16) (rest : List UInt8) {index : Nat}
    (bound : index < words.length) :
    wordAt (words.flatMap wordBytes ++ rest) (2 * index) = words.get ⟨index, bound⟩ := by
  induction words generalizing index with
  | nil => exact absurd bound (Nat.not_lt_zero index)
  | cons word words induction =>
      rw [List.flatMap_cons, List.append_assoc]
      cases index with
      | zero => exact word_at_start word _
      | succ index =>
          have behind : (wordBytes word).length ≤ 2 * (index + 1) := by
            rw [word_bytes_length]
            omega
          have position : 2 * (index + 1) - (wordBytes word).length = 2 * index := by
            rw [word_bytes_length]
            omega
          rw [word_at_behind _ _ behind, position]
          exact induction (Nat.lt_of_succ_lt_succ bound)

end Fields

end SmartHome.Library.Blobs
