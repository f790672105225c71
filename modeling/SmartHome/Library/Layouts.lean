import Mathlib.Data.Vector.Basic
import SmartHome.Library.Bytes

/-!
# Values in memory

A layout says how many bytes a value of a type takes, what the bytes of a variable are
after an assignment, and which value they stand for. Bytes that no field covers keep what
they held before. Numbers lie least significant byte first; the fields of a packed record
follow one another.
-/

namespace SmartHome.Library.Layouts

open SmartHome.Library.Bytes

set_option autoImplicit false

structure Layout (Value : Type*) where
  size : Nat
  store : Value → List UInt8 → List UInt8
  load : List UInt8 → Value
  store_length : ∀ value before, before.length = size → (store value before).length = size
  load_store : ∀ value before, before.length = size → load (store value before) = value

theorem split_length {before : List UInt8} {left right : Nat}
    (length : before.length = left + right) :
    (before.take left).length = left ∧ (before.drop left).length = right := by
  rw [List.length_take, List.length_drop, length]
  omega

namespace Layout

variable {Value Left Right : Type*}

def uint8 : Layout UInt8 where
  size := 1
  store := fun value _ => [value]
  load := fun bytes => bytes.headD 0
  store_length := fun _ _ _ => rfl
  load_store := fun _ _ _ => rfl

def number (width : Nat) (toNat : Value → Nat) (ofNat : Nat → Value)
    (bounded : ∀ value, toNat value < 256 ^ width) (whole : ∀ value, ofNat (toNat value) = value) :
    Layout Value where
  size := width
  store := fun value _ => toBytesLE width (toNat value)
  load := fun bytes => ofNat (ofBytesLE bytes)
  store_length := fun value _ _ => to_bytes_le_length width (toNat value)
  load_store := by
    intro value before _
    rw [of_to_bytes_le, Nat.mod_eq_of_lt (bounded value), whole]

def uint16 : Layout UInt16 :=
  number 2 UInt16.toNat UInt16.ofNat UInt16.toNat_lt fun _ => UInt16.ofNat_toNat

def uint32 : Layout UInt32 :=
  number 4 UInt32.toNat UInt32.ofNat UInt32.toNat_lt fun _ => UInt32.ofNat_toNat

def uint64 : Layout UInt64 :=
  number 8 UInt64.toNat UInt64.ofNat UInt64.toNat_lt fun _ => UInt64.ofNat_toNat

def nothing (value : Value) (only : ∀ other : Value, value = other) : Layout Value where
  size := 0
  store := fun _ _ => []
  load := fun _ => value
  store_length := fun _ _ _ => rfl
  load_store := fun other _ _ => only other

def pair (left : Layout Left) (right : Layout Right) : Layout (Left × Right) where
  size := left.size + right.size
  store := fun value before =>
    left.store value.1 (before.take left.size) ++ right.store value.2 (before.drop left.size)
  load := fun bytes => (left.load (bytes.take left.size), right.load (bytes.drop left.size))
  store_length := by
    intro value before length
    rcases split_length length with ⟨front, behind⟩
    rw [List.length_append, left.store_length _ _ front, right.store_length _ _ behind]
  load_store := by
    intro value before length
    rcases split_length length with ⟨front, behind⟩
    rw [List.take_left' (left.store_length _ _ front),
      List.drop_left' (left.store_length _ _ front), left.load_store _ _ front,
      right.load_store _ _ behind]

def record (fields : Layout Left) (make : Left → Value) (parts : Value → Left)
    (whole : ∀ value, make (parts value) = value) : Layout Value where
  size := fields.size
  store := fun value => fields.store (parts value)
  load := fun bytes => make (fields.load bytes)
  store_length := fun value => fields.store_length (parts value)
  load_store := by
    intro value before length
    rw [fields.load_store _ _ length, whole]

/-- A value in the low byte of a wider field; the other bytes are not assigned to. -/
def lowByte (width : Nat) (positive : 0 < width) (byte : Layout Value) (one : byte.size = 1) :
    Layout Value where
  size := width
  store := fun value before => byte.store value (before.take 1) ++ before.drop 1
  load := fun bytes => byte.load (bytes.take 1)
  store_length := by
    intro value before length
    have front : (before.take 1).length = byte.size := by
      rw [List.length_take, length, one]
      omega
    rw [List.length_append, byte.store_length _ _ front, List.length_drop, length, one]
    omega
  load_store := by
    intro value before length
    have front : (before.take 1).length = byte.size := by
      rw [List.length_take, length, one]
      omega
    have stored : (byte.store value (before.take 1)).length = 1 :=
      (byte.store_length _ _ front).trans one
    rw [List.take_left' stored, byte.load_store _ _ front]

def array (element : Layout Value) : (count : Nat) → Layout (Vector Value count)
  | 0 => nothing #v[] fun _ => Vector.eq_empty.symm
  | count + 1 =>
      record (pair (array element count) element) (fun parts => parts.1.push parts.2)
        (fun values => (values.pop, values.back)) fun values => Vector.push_pop_back values

/-- The bytes of a variable at this address after the assignment. -/
def image (layout : Layout Value) (memory : Memory) (address : Nat) (value : Value) : List UInt8 :=
  layout.store value (readBytes memory address layout.size)

theorem image_length (layout : Layout Value) (memory : Memory) (address : Nat) (value : Value) :
    (layout.image memory address value).length = layout.size :=
  layout.store_length value _ (read_bytes_length memory address layout.size)

theorem load_image (layout : Layout Value) (memory : Memory) (address : Nat) (value : Value) :
    layout.load (layout.image memory address value) = value :=
  layout.load_store value _ (read_bytes_length memory address layout.size)

theorem pair_image (left : Layout Left) (right : Layout Right) (memory : Memory) (address : Nat)
    (value : Left × Right) :
    (pair left right).image memory address value =
      left.image memory address value.1 ++ right.image memory (address + left.size) value.2 := by
  have split := read_bytes_add memory address left.size right.size
  have front := read_bytes_length memory address left.size
  change left.store value.1 ((readBytes memory address (left.size + right.size)).take left.size) ++
    right.store value.2 ((readBytes memory address (left.size + right.size)).drop left.size) = _
  rw [split, List.take_left' front, List.drop_left' front, image, image]

/-- A variable in this memory after bytes were read over it, as far as they go. -/
def readOver (layout : Layout Value) (memory : Memory) (bytes : List UInt8) : Value :=
  let got := bytes.take layout.size
  layout.load (got ++ readBytes memory got.length (layout.size - got.length))

/-- What was assigned is what is read, whatever follows it and whatever the variable held. -/
theorem read_over_image (layout : Layout Value) (held : Memory) (address : Nat) (value : Value)
    (stack : Memory) (rest : List UInt8) :
    layout.readOver stack (layout.image held address value ++ rest) = value := by
  have length := layout.image_length held address value
  have covered : readBytes stack layout.size 0 = [] := rfl
  simp only [readOver, List.take_left' length, length, Nat.sub_self, covered, List.append_nil]
  exact layout.load_image held address value

end Layout

end SmartHome.Library.Layouts
