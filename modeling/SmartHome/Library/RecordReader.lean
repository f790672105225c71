import SmartHome.Library.Bytes

/-!
# Reading records from a byte list

A reader takes its value off the front of the input, or fails. `Reads reader bytes
value` says that the reader turns exactly these bytes into this value whatever
follows them; it composes along `bind` and repetition, so a reader of a layout is
verified field by field against the writer of that layout.
-/

namespace SmartHome.Library.RecordReader

open SmartHome.Library.Bytes

set_option autoImplicit false

variable {α β : Type}

abbrev Reader (α : Type) := StateT (List UInt8) Option α

def readFixed (count : Nat) : Reader (List UInt8) := fun input =>
  if count ≤ input.length then some (input.take count, input.drop count) else none

def readNumber (width : Nat) : Reader Nat := do
  let bytes ← readFixed width
  pure (ofBytesBE bytes)

def readExpected (width value : Nat) : Reader Nat := do
  let found ← readNumber width
  if found = value then pure found else failure

def readRepeated (reader : Reader α) : Nat → Reader (List α)
  | 0 => pure []
  | count + 1 => do
      let value ← reader
      let values ← readRepeated reader count
      pure (value :: values)

def Reads (reader : Reader α) (bytes : List UInt8) (value : α) : Prop :=
  ∀ rest, reader (bytes ++ rest) = some (value, rest)

theorem Reads.pure (value : α) : Reads (Pure.pure value) [] value := fun _ => rfl

theorem Reads.bind {reader : Reader α} {next : α → Reader β} {front back : List UInt8} {value : α}
    {result : β} (first : Reads reader front value) (second : Reads (next value) back result) :
    Reads (reader >>= next) (front ++ back) result := by
  intro rest
  have step : (reader >>= next) (front ++ back ++ rest) =
      (reader (front ++ (back ++ rest))).bind fun read => next read.1 read.2 := by
    rw [List.append_assoc]
    rfl
  rw [step, first (back ++ rest), Option.bind_some, second rest]

theorem Reads.map {reader : Reader α} {change : α → β} {bytes : List UInt8} {value : α}
    (read : Reads reader bytes value) :
    Reads (reader >>= fun value => Pure.pure (change value)) bytes (change value) := by
  have composed : Reads (reader >>= fun value => Pure.pure (change value)) (bytes ++ [])
      (change value) := read.bind (Reads.pure (change value))
  rwa [List.append_nil] at composed

theorem reads_fixed (bytes : List UInt8) : Reads (readFixed bytes.length) bytes bytes := by
  intro rest
  simp [readFixed]

theorem reads_number_mod (width value : Nat) :
    Reads (readNumber width) (toBytesBE width value) (value % 256 ^ width) := by
  have fixed := reads_fixed (toBytesBE width value)
  rw [to_bytes_be_length] at fixed
  have number : Reads (readNumber width) (toBytesBE width value)
      (ofBytesBE (toBytesBE width value)) := fixed.map
  rwa [of_to_bytes_be] at number

theorem reads_number (width value : Nat) (bound : value < 256 ^ width) :
    Reads (readNumber width) (toBytesBE width value) value := by
  have number := reads_number_mod width value
  rwa [Nat.mod_eq_of_lt bound] at number

theorem reads_expected (width value : Nat) (bound : value < 256 ^ width) :
    Reads (readExpected width value) (toBytesBE width value) value := by
  have checked : Reads (if value = value then Pure.pure value else failure : Reader Nat) []
      value := by
    rw [if_pos rfl]
    exact Reads.pure value
  have composed : Reads (readExpected width value) (toBytesBE width value ++ []) value :=
    (reads_number width value bound).bind checked
  rwa [List.append_nil] at composed

theorem reads_repeated {reader : Reader β} {write : α → List UInt8} {view : α → β}
    (items : List α) (each : ∀ item ∈ items, Reads reader (write item) (view item)) :
    Reads (readRepeated reader items.length) (items.flatMap write) (items.map view) := by
  induction items with
  | nil => exact Reads.pure []
  | cons item items induction =>
      have head := each item List.mem_cons_self
      have tail := induction fun other member => each other (List.mem_cons_of_mem _ member)
      exact head.bind tail.map

end SmartHome.Library.RecordReader
