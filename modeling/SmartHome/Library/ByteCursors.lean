import SmartHome.Library.Bytes

/-!
# Reading a buffer through an index of one byte

A parser takes its fields off a buffer one after the other, through an index of eight bits
that wraps. The elements of a list go to an array of fixed size, and a store behind its
end has no result. `Reads reader bytes value` says that the reader turns exactly these
bytes into this value, wherever they lie and whatever lies around them; it composes along
`bind`, so a parser is verified field by field against the layout it reads.
-/

namespace SmartHome.Library.ByteCursors

open SmartHome.Library.Bytes

set_option autoImplicit false

variable {α β : Type} {size : Nat}

abbrev Reader (α : Type) := ReaderT Memory (StateT UInt8 Option) α

/-- `buffer[index++]` -/
def readByte : Reader UInt8 := fun buffer index => some (buffer index.toNat, index + 1)

/-- `buffer[index]` and `buffer[index + 1]`, then `index += 2`. -/
def readPair : Reader (UInt8 × UInt8) := fun buffer index =>
  some ((buffer index.toNat, buffer (index.toNat + 1)), index + 2)

/-- `value |= buffer[index++] << (8 * place)`, so many times from this place on. -/
def orBytes (place : Nat) : Nat → Nat → Reader Nat
  | 0, value => pure value
  | left + 1, value => do
      let byte ← readByte
      orBytes (place + 1) left (value ||| byte.toNat <<< (8 * place))

def readNumber (width : Nat) : Reader Nat := orBytes 0 width 0

def skip (width : Nat) : Reader Unit := fun _ index => some ((), index + UInt8.ofNat width)

/-- `array[i] = element`, so many times from this place on. -/
def fillArray (element : Reader α) (i : Nat) : Nat → Vector α size → Reader (Vector α size)
  | 0, array => pure array
  | left + 1, array => do
      let value ← element
      if inside : i < size then fillArray element (i + 1) left (array.set i value)
      else fun _ _ => none

def fillUnused (width capacity count : Nat) : Reader Unit := do
  let _array ← fillArray (skip width) 0 count (Vector.replicate capacity ())
  return ()

theorem run_pure (value : α) (buffer : Memory) (index : UInt8) :
    (pure value : Reader α) buffer index = some (value, index) := rfl

theorem run_bind (reader : Reader α) (next : α → Reader β) (buffer : Memory) (index : UInt8) :
    (reader >>= next) buffer index =
      (reader buffer index).bind fun read => next read.1 buffer read.2 := rfl

theorem run_bind_byte (next : UInt8 → Reader β) (buffer : Memory) (index : UInt8) :
    (readByte >>= next) buffer index = next (buffer index.toNat) buffer (index + 1) := rfl

theorem run_bind_skip (width : Nat) (next : Unit → Reader β) (buffer : Memory) (index : UInt8) :
    (skip width >>= next) buffer index = next () buffer (index + UInt8.ofNat width) := rfl

theorem bind_pure_none {reader : Reader α} {change : α → β} {buffer : Memory} {index : UInt8} :
    (reader >>= fun value => pure (change value)) buffer index = none ↔
      reader buffer index = none := by
  rw [run_bind]
  cases reader buffer index with
  | none => exact iff_of_true rfl rfl
  | some read => exact iff_of_false (Option.some_ne_none _) (Option.some_ne_none read)

def Reads (reader : Reader α) (bytes : List UInt8) (value : α) : Prop :=
  ∀ (buffer : Memory) (index : UInt8), Holds buffer index.toNat bytes →
    index.toNat + bytes.length < 256 →
      reader buffer index = some (value, index + UInt8.ofNat bytes.length)

/-- The index behind bytes that fit. -/
theorem index_behind {index : UInt8} {count : Nat} (fits : index.toNat + count < 256) :
    (index + UInt8.ofNat count).toNat = index.toNat + count := by
  have small : count < 256 := by omega
  have whole : (UInt8.ofNat count).toNat = count := UInt8.toNat_ofNat_of_lt' small
  rw [UInt8.toNat_add, whole, Nat.mod_eq_of_lt fits]

theorem Reads.pure (value : α) : Reads (Pure.pure value) [] value := by
  intro buffer index _ _
  rw [run_pure, List.length_nil]
  simp

theorem Reads.bind {reader : Reader α} {next : α → Reader β} {front back : List UInt8} {value : α}
    {result : β} (first : Reads reader front value) (second : Reads (next value) back result) :
    Reads (reader >>= next) (front ++ back) result := by
  intro buffer index holds fits
  rw [List.length_append] at fits
  have behind : (index + UInt8.ofNat front.length).toNat = index.toNat + front.length :=
    index_behind (by omega)
  rcases (holds_append buffer index.toNat front back).mp holds with ⟨holdsFront, holdsBack⟩
  rw [← behind] at holdsBack
  rw [run_bind, first buffer index holdsFront (by omega), Option.bind_some,
    second buffer _ holdsBack (by omega), List.length_append, UInt8.ofNat_add, UInt8.add_assoc]

theorem Reads.map {reader : Reader α} {change : α → β} {bytes : List UInt8} {value : α}
    (read : Reads reader bytes value) :
    Reads (reader >>= fun value => Pure.pure (change value)) bytes (change value) := by
  have composed : Reads (reader >>= fun value => Pure.pure (change value)) (bytes ++ [])
      (change value) := read.bind (Reads.pure (change value))
  rwa [List.append_nil] at composed

theorem reads_byte (byte : UInt8) : Reads readByte [byte] byte := by
  intro buffer index holds _
  rw [readByte, holds.1]
  rfl

theorem reads_pair (first second : UInt8) :
    Reads readPair [first, second] (first, second) := by
  intro buffer index holds _
  rw [readPair, holds.1, holds.2.1]
  rfl

theorem or_shift {value place : Nat} (below : value < 256 ^ place) (byte : Nat) :
    value ||| byte <<< (8 * place) = value + 256 ^ place * byte := by
  have power : (256 : Nat) ^ place = 2 ^ (8 * place) := by rw [Nat.pow_mul]
  rw [power] at below ⊢
  rw [Nat.shiftLeft_eq, Nat.or_comm, Nat.mul_comm byte, ← Nat.two_pow_add_eq_or_of_lt below,
    Nat.add_comm]

theorem reads_or_bytes (bytes : List UInt8) {value place : Nat} (below : value < 256 ^ place) :
    Reads (orBytes place bytes.length value) bytes (value + 256 ^ place * ofBytesLE bytes) := by
  induction bytes generalizing value place with
  | nil =>
      rw [ofBytesLE, Nat.mul_zero, Nat.add_zero]
      exact Reads.pure value
  | cons byte rest induction =>
      have bounded : byte.toNat < 256 := byte.toNat_lt
      have above : value + 256 ^ place * byte.toNat < 256 ^ (place + 1) := by
        have scaled := Nat.mul_le_mul_left (256 ^ place) (Nat.succ_le_of_lt bounded)
        rw [Nat.mul_succ] at scaled
        rw [Nat.pow_succ]
        omega
      have later := induction above
      have total : value + 256 ^ place * ofBytesLE (byte :: rest) =
          value + 256 ^ place * byte.toNat + 256 ^ (place + 1) * ofBytesLE rest := by
        rw [ofBytesLE, Nat.pow_succ, Nat.mul_add, Nat.mul_assoc, Nat.add_assoc]
      rw [← or_shift below] at later
      rw [total, ← or_shift below]
      exact (reads_byte byte).bind later

theorem reads_number {width value : Nat} (bounded : value < 256 ^ width) :
    Reads (readNumber width) (toBytesLE width value) value := by
  have read := reads_or_bytes (toBytesLE width value) (by simp : 0 < 256 ^ 0)
  rw [to_bytes_le_length, of_to_bytes_le, Nat.mod_eq_of_lt bounded, Nat.pow_zero, Nat.one_mul,
    Nat.zero_add] at read
  exact read

section Arrays

def laid (array : Vector α size) (i : Nat) (values : List α) : Vector α size :=
  Vector.ofFn fun j => if i ≤ j then values.getD (j - i) (array.get j) else array.get j

theorem laid_get (array : Vector α size) (i : Nat) (values : List α) {j : Nat} (bound : j < size) :
    (laid array i values)[j] = if i ≤ j then values.getD (j - i) array[j] else array[j] := by
  rw [laid, Vector.getElem_ofFn]
  rfl

theorem laid_nil (array : Vector α size) (i : Nat) : laid array i [] = array := by
  ext j inside
  rw [laid_get, List.getD_nil, ite_self]

theorem laid_cons (array : Vector α size) {i : Nat} (inside : i < size) (value : α)
    (values : List α) : laid array i (value :: values) = laid (array.set i value) (i + 1) values := by
  ext j bound
  simp only [laid_get, Vector.getElem_set]
  rcases Nat.lt_trichotomy i j with later | rfl | earlier
  · have next : j - i = j - (i + 1) + 1 := by omega
    rw [if_pos later.le, if_pos (by omega), if_neg (by omega), next, List.getD_cons_succ]
  · rw [if_pos le_rfl, if_neg (by omega), if_pos rfl, Nat.sub_self, List.getD_cons_zero]
  · rw [if_neg (by omega), if_neg (by omega), if_neg (by omega)]

theorem reads_fill {element : Reader α} {write : α → List UInt8} {values : List α}
    (each : ∀ value ∈ values, Reads element (write value) value) (i : Nat)
    (room : i + values.length ≤ size) (array : Vector α size) :
    Reads (fillArray element i values.length array) (values.flatMap write)
      (laid array i values) := by
  induction values generalizing i array with
  | nil =>
      rw [laid_nil]
      exact Reads.pure array
  | cons value values induction =>
      rw [List.length_cons] at room
      have inside : i < size := by omega
      have head := each value List.mem_cons_self
      have tail := induction (fun other member => each other (List.mem_cons_of_mem _ member)) (i + 1)
        (by omega) (array.set i value)
      rw [laid_cons array inside]
      refine head.bind ?_
      rw [dif_pos inside]
      exact tail

def Takes (reader : Reader α) (width : Nat) : Prop :=
  ∀ buffer index, ∃ value, reader buffer index = some (value, index + UInt8.ofNat width)

theorem takes_byte : Takes readByte 1 := fun buffer index => ⟨buffer index.toNat, rfl⟩

theorem takes_skip (width : Nat) : Takes (skip width) width := fun _ _ => ⟨(), rfl⟩

theorem takes_or_bytes (place width value : Nat) : Takes (orBytes place width value) width := by
  intro buffer index
  induction width generalizing place value index with
  | zero => exact ⟨value, by simp [orBytes, run_pure]⟩
  | succ width induction =>
      rcases induction (place + 1) (value ||| (buffer index.toNat).toNat <<< (8 * place)) (index + 1)
        with ⟨number, read⟩
      have behind : index + UInt8.ofNat (width + 1) = index + 1 + UInt8.ofNat width := by
        rw [UInt8.add_assoc, Nat.add_comm, UInt8.ofNat_add]
        rfl
      refine ⟨number, ?_⟩
      rw [orBytes, run_bind_byte, read, behind]

theorem Takes.map {reader : Reader α} {width : Nat} (takes : Takes reader width)
    (change : α → β) : Takes (reader >>= fun value => pure (change value)) width := by
  intro buffer index
  rcases takes buffer index with ⟨value, taken⟩
  refine ⟨change value, ?_⟩
  rw [run_bind, taken, Option.bind_some, run_pure]

theorem fill_array_some {element : Reader α} {width : Nat} (takes : Takes element width)
    (buffer : Memory) (index : UInt8) {i left : Nat} (room : i + left ≤ size)
    (array : Vector α size) :
    ∃ filled, fillArray element i left array buffer index =
      some (filled, index + UInt8.ofNat (left * width)) := by
  induction left generalizing i index array with
  | zero =>
      have still : index + UInt8.ofNat (0 * width) = index := by simp
      exact ⟨array, by rw [fillArray, run_pure, still]⟩
  | succ left induction =>
      rcases takes buffer index with ⟨value, taken⟩
      have inside : i < size := by omega
      rcases induction (index + UInt8.ofNat width) (by omega : i + 1 + left ≤ size)
        (array.set i value) with ⟨filled, later⟩
      have behind : index + UInt8.ofNat ((left + 1) * width) =
          index + UInt8.ofNat width + UInt8.ofNat (left * width) := by
        rw [UInt8.add_assoc, ← UInt8.ofNat_add, Nat.succ_mul, Nat.add_comm]
      refine ⟨filled, ?_⟩
      rw [fillArray, run_bind, taken, Option.bind_some, dif_pos inside, later, behind]

/-- Storing runs over the end of the array exactly if there are more elements than places. -/
theorem fill_array_none {element : Reader α} {width : Nat} (takes : Takes element width)
    (buffer : Memory) (index : UInt8) {i left : Nat} (start : i ≤ size) (array : Vector α size) :
    fillArray element i left array buffer index = none ↔ size < i + left := by
  by_cases room : i + left ≤ size
  · rcases fill_array_some takes buffer index room array with ⟨filled, done⟩
    rw [done]
    exact iff_of_false (Option.some_ne_none _) (by omega)
  · refine iff_of_true ?_ (by omega)
    induction left generalizing i index array with
    | zero => exact absurd start room
    | succ left induction =>
        rcases takes buffer index with ⟨value, taken⟩
        rw [fillArray, run_bind, taken, Option.bind_some]
        by_cases inside : i < size
        · rw [dif_pos inside]
          exact induction _ inside _ (by omega)
        · rw [dif_neg inside]

theorem fill_unused_none (width capacity count : Nat) (buffer : Memory) (index : UInt8) :
    fillUnused width capacity count buffer index = none ↔ capacity < count := by
  rw [fillUnused, bind_pure_none, fill_array_none (takes_skip width) _ _ (Nat.zero_le capacity),
    Nat.zero_add]

end Arrays

end SmartHome.Library.ByteCursors
