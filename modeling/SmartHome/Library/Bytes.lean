import Mathlib.Algebra.Order.Ring.Nat
import Mathlib.Data.List.Basic

/-!
# Byte orders and byte memories

Fixed-width numbers as byte lists in both orders, and assertions about the bytes
a memory holds from an address on. A field list is laid out by `++`, so the
assertion of a layout splits into the assertions of its fields.
-/

namespace SmartHome.Library.Bytes

set_option autoImplicit false

def ofBytesLE : List UInt8 → Nat
  | [] => 0
  | byte :: rest => byte.toNat + 256 * ofBytesLE rest

def toBytesLE : Nat → Nat → List UInt8
  | 0, _ => []
  | width + 1, value => UInt8.ofNat value :: toBytesLE width (value / 256)

def ofBytesBE (bytes : List UInt8) : Nat := ofBytesLE bytes.reverse

def toBytesBE (width value : Nat) : List UInt8 := (toBytesLE width value).reverse

@[simp] theorem to_bytes_le_length (width value : Nat) : (toBytesLE width value).length = width := by
  induction width generalizing value with
  | zero => rfl
  | succ width induction => simp [toBytesLE, induction]

@[simp] theorem to_bytes_be_length (width value : Nat) : (toBytesBE width value).length = width := by
  simp [toBytesBE]

theorem of_bytes_le_lt (bytes : List UInt8) : ofBytesLE bytes < 256 ^ bytes.length := by
  induction bytes with
  | nil => simp [ofBytesLE]
  | cons byte rest induction =>
      have bounded : byte.toNat < 256 := byte.toNat_lt
      simp only [ofBytesLE, List.length_cons, Nat.pow_succ]
      omega

theorem of_bytes_be_lt (bytes : List UInt8) : ofBytesBE bytes < 256 ^ bytes.length := by
  simpa [ofBytesBE] using of_bytes_le_lt bytes.reverse

theorem of_to_bytes_le (width value : Nat) :
    ofBytesLE (toBytesLE width value) = value % 256 ^ width := by
  induction width generalizing value with
  | zero => simp [toBytesLE, ofBytesLE, Nat.mod_one]
  | succ width induction =>
      have low : (UInt8.ofNat value).toNat = value % 256 := by simp
      rw [toBytesLE, ofBytesLE, induction, low, Nat.pow_succ, Nat.mul_comm (256 ^ width),
        Nat.mod_mul]

theorem of_to_bytes_be (width value : Nat) :
    ofBytesBE (toBytesBE width value) = value % 256 ^ width := by
  simp [ofBytesBE, toBytesBE, of_to_bytes_le]

theorem to_of_bytes_le (bytes : List UInt8) :
    toBytesLE bytes.length (ofBytesLE bytes) = bytes := by
  induction bytes with
  | nil => rfl
  | cons byte rest induction =>
      have bounded : byte.toNat < 256 := byte.toNat_lt
      have head : UInt8.ofNat (byte.toNat + 256 * ofBytesLE rest) = byte := by
        apply UInt8.toNat_inj.mp
        simp only [UInt8.toNat_ofNat']
        omega
      have tail : (byte.toNat + 256 * ofBytesLE rest) / 256 = ofBytesLE rest := by omega
      rw [List.length_cons, ofBytesLE, toBytesLE, head, tail, induction]

theorem to_bytes_le_of_bytes_be (bytes : List UInt8) :
    toBytesLE bytes.length (ofBytesBE bytes) = bytes.reverse := by
  have stored := to_of_bytes_le bytes.reverse
  rwa [List.length_reverse] at stored

abbrev Memory := Nat → UInt8

/-- The memory holds exactly these bytes from the address on. -/
def Holds (memory : Memory) (address : Nat) : List UInt8 → Prop
  | [] => True
  | byte :: rest => memory address = byte ∧ Holds memory (address + 1) rest

def readBytes (memory : Memory) (address : Nat) : Nat → List UInt8
  | 0 => []
  | count + 1 => memory address :: readBytes memory (address + 1) count

/-- A byte list placed at address zero, with other memory behind it. -/
def placed (bytes : List UInt8) (behind : Memory) : Memory := fun address =>
  if address < bytes.length then bytes.getD address 0 else behind (address - bytes.length)

@[simp] theorem read_bytes_length (memory : Memory) (address count : Nat) :
    (readBytes memory address count).length = count := by
  induction count generalizing address with
  | zero => rfl
  | succ count induction => simp [readBytes, induction]

theorem read_bytes_add (memory : Memory) (address first second : Nat) :
    readBytes memory address (first + second) =
      readBytes memory address first ++ readBytes memory (address + first) second := by
  induction first generalizing address with
  | zero => rw [Nat.zero_add, readBytes, List.nil_append, Nat.add_zero]
  | succ first induction =>
      have next : address + 1 + first = address + (first + 1) := by omega
      rw [Nat.succ_add, readBytes, readBytes, induction, next, List.cons_append]

theorem read_bytes_get (memory : Memory) (address : Nat) {count index : Nat}
    (inside : index < count) :
    (readBytes memory address count)[index]? = some (memory (address + index)) := by
  induction count generalizing address index with
  | zero => exact absurd inside (Nat.not_lt_zero index)
  | succ count induction =>
      cases index with
      | zero => rfl
      | succ index =>
          have next : address + 1 + index = address + (index + 1) := by omega
          rw [readBytes, List.getElem?_cons_succ, induction _ (Nat.lt_of_succ_lt_succ inside), next]

theorem holds_append (memory : Memory) (address : Nat) (front back : List UInt8) :
    Holds memory address (front ++ back) ↔
      Holds memory address front ∧ Holds memory (address + front.length) back := by
  induction front generalizing address with
  | nil => simp [Holds]
  | cons byte rest induction =>
      have behind : address + 1 + rest.length = address + (rest.length + 1) := by omega
      simp only [List.cons_append, Holds, induction, List.length_cons, and_assoc, behind]

theorem Holds.read {memory : Memory} {address : Nat} {bytes : List UInt8}
    (holds : Holds memory address bytes) : readBytes memory address bytes.length = bytes := by
  induction bytes generalizing address with
  | nil => rfl
  | cons byte rest induction => rw [List.length_cons, readBytes, holds.1, induction holds.2]

theorem Holds.read_length {memory : Memory} {address count : Nat} {bytes : List UInt8}
    (holds : Holds memory address bytes) (length : bytes.length = count) :
    readBytes memory address count = bytes := length ▸ holds.read

theorem holds_read_bytes (memory : Memory) (address count : Nat) :
    Holds memory address (readBytes memory address count) := by
  induction count generalizing address with
  | zero => trivial
  | succ count induction => exact ⟨rfl, induction (address + 1)⟩

theorem holds_of_get {memory : Memory} {address : Nat} {bytes : List UInt8}
    (cells : ∀ index, index < bytes.length → memory (address + index) = bytes.getD index 0) :
    Holds memory address bytes := by
  induction bytes generalizing address with
  | nil => trivial
  | cons byte rest induction =>
      refine ⟨by simpa using cells 0 (by simp), induction ?_⟩
      intro index bound
      have next : address + 1 + index = address + (index + 1) := by omega
      have cell := cells (index + 1) (by simpa using bound)
      rw [next]
      simpa using cell

theorem Holds.get {memory : Memory} {address : Nat} {bytes : List UInt8}
    (holds : Holds memory address bytes) {index : Nat} (inside : index < bytes.length) :
    memory (address + index) = bytes.getD index 0 := by
  induction bytes generalizing address index with
  | nil => exact absurd inside (Nat.not_lt_zero _)
  | cons byte rest induction =>
      cases index with
      | zero => exact holds.1
      | succ index =>
          have next : address + (index + 1) = address + 1 + index := by omega
          rw [next]
          apply induction holds.2
          exact Nat.lt_of_succ_lt_succ inside

theorem read_bytes_congr {left right : Memory} {address count : Nat}
    (agree : ∀ index < count, left (address + index) = right (address + index)) :
    readBytes left address count = readBytes right address count := by
  apply List.ext_getElem?
  intro index
  by_cases inside : index < count
  · rw [read_bytes_get left address inside, read_bytes_get right address inside, agree index inside]
  · rw [List.getElem?_eq_none (by rw [read_bytes_length]; omega),
      List.getElem?_eq_none (by rw [read_bytes_length]; omega)]

theorem holds_placed (bytes : List UInt8) (behind : Memory) :
    Holds (placed bytes behind) 0 bytes := by
  apply holds_of_get
  intro index bound
  simp [placed, bound]

def stored (memory : Memory) (address : Nat) (bytes : List UInt8) : Memory := fun place =>
  if address ≤ place ∧ place < address + bytes.length then bytes.getD (place - address) 0
  else memory place

theorem holds_stored (memory : Memory) (address : Nat) (bytes : List UInt8) :
    Holds (stored memory address bytes) address bytes := by
  apply holds_of_get
  intro index bound
  have inside : address ≤ address + index ∧ address + index < address + bytes.length := by omega
  rw [stored, if_pos inside, Nat.add_sub_cancel_left]

theorem Holds.stored_behind {memory : Memory} {address place : Nat} {front bytes : List UInt8}
    (holds : Holds memory address front) (behind : address + front.length ≤ place) :
    Holds (stored memory place bytes) address front := by
  apply holds_of_get
  intro index bound
  have outside : ¬(place ≤ address + index ∧ address + index < place + bytes.length) := by omega
  rw [stored, if_neg outside, holds.get bound]

theorem Holds.extend {memory : Memory} {address place : Nat} {front bytes : List UInt8}
    (holds : Holds memory address front) (behind : place = address + front.length) :
    Holds (stored memory place bytes) address (front ++ bytes) := by
  rw [holds_append, ← behind]
  exact ⟨holds.stored_behind behind.ge, holds_stored memory place bytes⟩

theorem forall_uint8 {property : UInt8 → Prop}
    (values : ∀ value < 256, property (UInt8.ofNat value)) (byte : UInt8) : property byte := by
  have here := values byte.toNat byte.toNat_lt
  rwa [UInt8.ofNat_toNat] at here

end SmartHome.Library.Bytes
