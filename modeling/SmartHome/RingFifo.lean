import SmartHome.Library.Circular
import Mathlib.Algebra.Order.Ring.Nat

/-!
# The ring FIFO of `kfifo.c`

`in` and `out` are free-running 32-bit counters; the storage is addressed by
their low bits. The contents are the window of `in - out` bytes from `out` on.
Each operation has one lemma that says what it does to the contents.
-/

namespace SmartHome.RingFifo

open SmartHome.Library.Circular

set_option autoImplicit false

/-- `struct kfifo`; `buffer` is the allocated storage, whatever bytes it holds. -/
structure Kfifo where
  buffer : List UInt8
  size : UInt32
  inCount : UInt32
  outCount : UInt32
  deriving DecidableEq

def minMacro (a b : UInt32) : UInt32 := if a > b then b else a

def kfifoInit (storage : List UInt8) (size : UInt32) : Kfifo where
  buffer := storage
  size := size
  inCount := 0
  outCount := 0

def kfifoReset (fifo : Kfifo) : Kfifo := { fifo with inCount := 0, outCount := 0 }

def kfifoLen (fifo : Kfifo) : UInt32 := fifo.inCount - fifo.outCount

/-- `kfifo_put`: the count copied and the FIFO afterwards. -/
def kfifoPut (fifo : Kfifo) (buffer : List UInt8) (len : UInt32) : UInt32 × Kfifo :=
  let len := minMacro len (fifo.size - fifo.inCount + fifo.outCount)
  let offset := fifo.inCount &&& (fifo.size - 1)
  -- first put the data starting from fifo->in to buffer end
  let l := minMacro len (fifo.size - offset)
  let storage := overwrite fifo.buffer offset.toNat (buffer.take l.toNat)
  -- then put the rest (if any) at the beginning of the buffer
  let storage := overwrite storage 0 ((buffer.drop l.toNat).take (len - l).toNat)
  (len, { fifo with buffer := storage, inCount := fifo.inCount + len })

/-- `kfifo_getahead`: the count copied and the bytes; the FIFO is not changed. -/
def kfifoGetahead (fifo : Kfifo) (len : UInt32) : UInt32 × List UInt8 :=
  let len := minMacro len (fifo.inCount - fifo.outCount)
  let offset := fifo.outCount &&& (fifo.size - 1)
  let l := minMacro len (fifo.size - offset)
  (len, (fifo.buffer.drop offset.toNat).take l.toNat ++ fifo.buffer.take (len - l).toNat)

def kfifoGet (fifo : Kfifo) (len : UInt32) : UInt32 × List UInt8 × Kfifo :=
  let copied := kfifoGetahead fifo len
  (copied.1, copied.2, { fifo with outCount := fifo.outCount + copied.1 })

/-- `kfifo_pop` compares the two counters by order, not by difference. -/
def kfifoPop (fifo : Kfifo) : Kfifo :=
  if fifo.inCount > fifo.outCount then { fifo with outCount := fifo.outCount + 1 } else fifo

def contents (fifo : Kfifo) : List UInt8 :=
  window fifo.buffer fifo.outCount.toNat (kfifoLen fifo).toNat

structure Valid (fifo : Kfifo) : Prop where
  power : ∃ exponent, fifo.size.toNat = 2 ^ exponent
  storage : fifo.buffer.length = fifo.size.toNat
  bounded : (kfifoLen fifo).toNat ≤ fifo.size.toNat

namespace Valid

theorem size_pos {fifo : Kfifo} (valid : Valid fifo) : 0 < fifo.size.toNat := by
  rcases valid.power with ⟨exponent, power⟩
  rw [power]
  exact Nat.two_pow_pos exponent

theorem size_dvd {fifo : Kfifo} (valid : Valid fifo) : fifo.buffer.length ∣ 2 ^ 32 := by
  rcases valid.power with ⟨exponent, power⟩
  have bound : 2 ^ exponent < 2 ^ 32 := power ▸ fifo.size.toNat_lt
  rw [valid.storage, power]
  exact pow_dvd_pow 2 ((Nat.pow_lt_pow_iff_right (by decide)).mp bound).le

theorem mask {fifo : Kfifo} (valid : Valid fifo) (counter : UInt32) :
    (counter &&& (fifo.size - 1)).toNat = counter.toNat % fifo.buffer.length := by
  rcases valid.power with ⟨exponent, power⟩
  have one : (1 : UInt32) ≤ fifo.size := by
    have positive := valid.size_pos
    rw [UInt32.le_iff_toNat_le]
    exact positive
  rw [UInt32.toNat_and, UInt32.toNat_sub_of_le _ _ one, valid.storage, power]
  exact Nat.and_two_pow_sub_one_eq_mod _ _

theorem contents_length {fifo : Kfifo} (valid : Valid fifo) :
    (contents fifo).length = (kfifoLen fifo).toNat := by
  rw [contents, window_length, valid.storage]
  exact Nat.min_eq_left valid.bounded

theorem contents_le {fifo : Kfifo} (valid : Valid fifo) :
    (contents fifo).length ≤ fifo.size.toNat := by
  rw [valid.contents_length]
  exact valid.bounded

/-- The free space `size - in + out` of the source. -/
theorem space {fifo : Kfifo} (valid : Valid fifo) :
    (fifo.size - fifo.inCount + fifo.outCount).toNat =
      fifo.size.toNat - (contents fifo).length := by
  have difference : fifo.size - fifo.inCount + fifo.outCount = fifo.size - kfifoLen fifo := by
    unfold kfifoLen
    grind
  have bounded : kfifoLen fifo ≤ fifo.size := valid.bounded
  rw [difference, UInt32.toNat_sub_of_le _ _ bounded, valid.contents_length]

theorem in_position {fifo : Kfifo} (valid : Valid fifo) :
    fifo.inCount.toNat % fifo.buffer.length =
      (fifo.outCount.toNat + (contents fifo).length) % fifo.buffer.length := by
  have sum : fifo.inCount = fifo.outCount + kfifoLen fifo := by
    unfold kfifoLen
    grind
  rw [sum, UInt32.toNat_add, Nat.mod_mod_of_dvd _ valid.size_dvd, valid.contents_length]

end Valid

theorem min_macro_toNat (a b : UInt32) : (minMacro a b).toNat = min a.toNat b.toNat := by
  unfold minMacro
  split_ifs with larger
  · have order : b.toNat < a.toNat := larger
    omega
  · have order : ¬b.toNat < a.toNat := larger
    omega

theorem kfifo_init_valid (storage : List UInt8) (size : UInt32) (exponent : Nat)
    (power : size.toNat = 2 ^ exponent) (length : storage.length = size.toNat) :
    Valid (kfifoInit storage size) :=
  ⟨⟨exponent, power⟩, length, by simp [kfifoInit, kfifoLen]⟩

@[simp] theorem kfifo_init_contents (storage : List UInt8) (size : UInt32) :
    contents (kfifoInit storage size) = [] := by
  simp [kfifoInit, contents, kfifoLen]

theorem kfifo_reset_valid {fifo : Kfifo} (valid : Valid fifo) : Valid (kfifoReset fifo) :=
  ⟨valid.power, valid.storage, by simp [kfifoReset, kfifoLen]⟩

@[simp] theorem kfifo_reset_contents (fifo : Kfifo) : contents (kfifoReset fifo) = [] := by
  simp [kfifoReset, contents, kfifoLen]

theorem Valid.buffer_pos {fifo : Kfifo} (valid : Valid fifo) : 0 < fifo.buffer.length := by
  rw [valid.storage]
  exact valid.size_pos

/-- `l` of the source: the part of a copy that lies in front of the end of the buffer. -/
theorem Valid.up_to_end {fifo : Kfifo} (valid : Valid fifo) (counter amount : UInt32) :
    let l := minMacro amount (fifo.size - (counter &&& (fifo.size - 1)))
    l.toNat = min amount.toNat (fifo.buffer.length - counter.toNat % fifo.buffer.length) ∧
      l ≤ amount := by
  intro l
  have offsetLe : counter &&& (fifo.size - 1) ≤ fifo.size := by
    rw [UInt32.le_iff_toNat_le, valid.mask counter, ← valid.storage]
    exact (Nat.mod_lt _ valid.buffer_pos).le
  have value : l.toNat =
      min amount.toNat (fifo.buffer.length - counter.toNat % fifo.buffer.length) := by
    rw [min_macro_toNat, UInt32.toNat_sub_of_le _ _ offsetLe, valid.mask counter, valid.storage]
  refine ⟨value, ?_⟩
  rw [UInt32.le_iff_toNat_le, value]
  exact Nat.min_le_left _ _

theorem kfifo_put_stored {fifo : Kfifo} (valid : Valid fifo) (buffer : List UInt8) (len : UInt32) :
    (kfifoPut fifo buffer len).1.toNat =
      min len.toNat (fifo.size.toNat - (contents fifo).length) := by
  change (minMacro len _).toNat = _
  rw [min_macro_toNat, valid.space]

/-- The two `memcpy` calls of `kfifo_put` are one wrapping copy of the stored prefix. -/
theorem kfifo_put_copies {fifo : Kfifo} (valid : Valid fifo) (buffer : List UInt8) (len : UInt32)
    (available : len.toNat ≤ buffer.length) :
    (kfifoPut fifo buffer len).2.buffer =
      copyIn fifo.buffer (fifo.inCount.toNat % fifo.buffer.length)
        (buffer.take (kfifoPut fifo buffer len).1.toNat) := by
  let stored := (kfifoPut fifo buffer len).1
  let l := minMacro stored (fifo.size - (fifo.inCount &&& (fifo.size - 1)))
  obtain ⟨lValue, lBound⟩ := valid.up_to_end fifo.inCount stored
  have takenLength : (buffer.take stored.toNat).length = stored.toNat := by
    have storedValue : stored.toNat = _ := kfifo_put_stored valid buffer len
    rw [List.length_take]
    omega
  change overwrite (overwrite fifo.buffer (fifo.inCount &&& (fifo.size - 1)).toNat
    (buffer.take l.toNat)) 0 ((buffer.drop l.toNat).take (stored - l).toNat) = _
  rw [copyIn, takenLength, ← lValue, valid.mask, UInt32.toNat_sub_of_le _ _ lBound,
    List.take_take, List.drop_take, Nat.min_eq_left (UInt32.le_iff_toNat_le.mp lBound)]

/-- What `kfifo_put` stores: the longest prefix of the offered bytes that fits. -/
theorem kfifo_put_spec {fifo : Kfifo} (valid : Valid fifo) (buffer : List UInt8) (len : UInt32)
    (available : len.toNat ≤ buffer.length) :
    let stored := (kfifoPut fifo buffer len).1
    let after := (kfifoPut fifo buffer len).2
    stored.toNat = min len.toNat (fifo.size.toNat - (contents fifo).length) ∧
      contents after = contents fifo ++ buffer.take stored.toNat ∧
      Valid after ∧ after.size = fifo.size ∧
      after.inCount = fifo.inCount + stored ∧ after.outCount = fifo.outCount := by
  intro stored after
  have storedValue : stored.toNat = min len.toNat (fifo.size.toNat - (contents fifo).length) :=
    kfifo_put_stored valid buffer len
  have room := valid.contents_le
  have copied : after.buffer = copyIn fifo.buffer (fifo.inCount.toNat % fifo.buffer.length)
      (buffer.take stored.toNat) := kfifo_put_copies valid buffer len available
  have takenBound : (buffer.take stored.toNat).length = stored.toNat := by
    rw [List.length_take]
    omega
  have storage : after.buffer.length = fifo.size.toNat := by
    have offsetBound := (Nat.mod_lt fifo.inCount.toNat valid.buffer_pos).le
    rw [copied, copyIn_length _ _ _ offsetBound (by rw [takenBound, valid.storage]; omega),
      valid.storage]
  have lenAfter : (kfifoLen after).toNat = (contents fifo).length + stored.toNat := by
    have difference : kfifoLen after = kfifoLen fifo + stored := by
      change fifo.inCount + stored - fifo.outCount = fifo.inCount - fifo.outCount + stored
      grind
    have small : fifo.size.toNat < 2 ^ 32 := fifo.size.toNat_lt
    rw [difference, UInt32.toNat_add, ← valid.contents_length]
    exact Nat.mod_eq_of_lt (by omega)
  refine ⟨storedValue, ?_, ⟨valid.power, storage, ?_⟩, rfl, rfl, rfl⟩
  · rw [contents, lenAfter, copied, valid.in_position]
    have extended := window_copyIn fifo.buffer fifo.outCount.toNat (contents fifo).length
      (buffer.take stored.toNat) valid.buffer_pos (by rw [takenBound, valid.storage]; omega)
    have outKept : after.outCount = fifo.outCount := rfl
    have front : window fifo.buffer fifo.outCount.toNat (contents fifo).length = contents fifo := by
      rw [valid.contents_length, contents]
    rw [takenBound] at extended
    rw [outKept, extended, front]
  · rw [lenAfter]
    change _ ≤ fifo.size.toNat
    omega

theorem kfifo_put_whole_spec {fifo : Kfifo} (valid : Valid fifo) (buffer : List UInt8)
    (bound : buffer.length < 2 ^ 32) :
    let stored := (kfifoPut fifo buffer (UInt32.ofNat buffer.length)).1
    let after := (kfifoPut fifo buffer (UInt32.ofNat buffer.length)).2
    stored.toNat = min buffer.length (fifo.size.toNat - (contents fifo).length) ∧
      contents after =
        contents fifo ++ buffer.take (fifo.size.toNat - (contents fifo).length) ∧
      Valid after ∧ after.size = fifo.size ∧
      after.inCount = fifo.inCount + stored ∧ after.outCount = fifo.outCount := by
  intro stored after
  have lenValue : (UInt32.ofNat buffer.length).toNat = buffer.length :=
    UInt32.toNat_ofNat_of_lt' bound
  obtain ⟨storedValue, appended, rest⟩ :=
    kfifo_put_spec valid buffer (UInt32.ofNat buffer.length) lenValue.le
  rw [lenValue] at storedValue
  refine ⟨storedValue, ?_, rest⟩
  rw [appended, storedValue, Nat.min_comm, ← List.take_take, List.take_length]

/-- What `kfifo_getahead` copies: the first bytes of the contents. -/
theorem kfifo_getahead_spec {fifo : Kfifo} (valid : Valid fifo) (len : UInt32) :
    (kfifoGetahead fifo len).1.toNat = min len.toNat (contents fifo).length ∧
      (kfifoGetahead fifo len).2 = (contents fifo).take len.toNat := by
  have copiedValue : (kfifoGetahead fifo len).1.toNat = min len.toNat (contents fifo).length := by
    change (minMacro len (kfifoLen fifo)).toNat = _
    rw [min_macro_toNat, valid.contents_length]
  refine ⟨copiedValue, ?_⟩
  let copied := (kfifoGetahead fifo len).1
  let l := minMacro copied (fifo.size - (fifo.outCount &&& (fifo.size - 1)))
  obtain ⟨lValue, lBound⟩ := valid.up_to_end fifo.outCount copied
  have whole := copyOut_eq_window fifo.buffer fifo.outCount.toNat copied.toNat
    (by rw [copiedValue, valid.storage]; have := valid.contents_le; omega)
  change (fifo.buffer.drop (fifo.outCount &&& (fifo.size - 1)).toNat).take l.toNat ++
    fifo.buffer.take (copied - l).toNat = _
  rw [copyOut, ← lValue] at whole
  rw [valid.mask, UInt32.toNat_sub_of_le _ _ lBound, whole, copiedValue, contents, window_take,
    ← contents, valid.contents_length]

theorem kfifo_get_spec {fifo : Kfifo} (valid : Valid fifo) (len : UInt32) :
    let copied := (kfifoGet fifo len).1
    let after := (kfifoGet fifo len).2.2
    copied.toNat = min len.toNat (contents fifo).length ∧
      (kfifoGet fifo len).2.1 = (contents fifo).take len.toNat ∧
      contents after = (contents fifo).drop copied.toNat ∧
      Valid after ∧ after.size = fifo.size ∧
      after.inCount = fifo.inCount ∧ after.outCount = fifo.outCount + copied := by
  intro copied after
  obtain ⟨copiedValue, bytes⟩ := kfifo_getahead_spec valid len
  have copiedLe : copied ≤ kfifoLen fifo := by
    rw [UInt32.le_iff_toNat_le, ← valid.contents_length]
    exact copiedValue.trans_le (Nat.min_le_right _ _)
  have lenAfter : (kfifoLen after).toNat = (contents fifo).length - copied.toNat := by
    have difference : kfifoLen after = kfifoLen fifo - copied := by
      change fifo.inCount - (fifo.outCount + copied) = fifo.inCount - fifo.outCount - copied
      grind
    rw [difference, UInt32.toNat_sub_of_le _ _ copiedLe, valid.contents_length]
  refine ⟨copiedValue, bytes, ?_, ⟨valid.power, valid.storage, ?_⟩, rfl, rfl, rfl⟩
  · have dropped := window_drop fifo.buffer fifo.outCount.toNat (contents fifo).length copied.toNat
      (by rw [valid.storage]; exact valid.contents_le)
      (copiedValue.trans_le (Nat.min_le_right _ _))
    have position : after.outCount.toNat = (fifo.outCount.toNat + copied.toNat) % 2 ^ 32 :=
      UInt32.toNat_add _ _
    have bufferKept : after.buffer = fifo.buffer := rfl
    rw [contents, lenAfter, position, bufferKept, window_mod_of_dvd _ _ _ _ valid.size_dvd,
      ← dropped, valid.contents_length, ← contents]
  · rw [lenAfter]
    exact (Nat.sub_le _ _).trans valid.contents_le

@[simp] theorem kfifo_pop_size (fifo : Kfifo) : (kfifoPop fifo).size = fifo.size := by
  unfold kfifoPop
  split <;> rfl

@[simp] theorem kfifo_pop_inCount (fifo : Kfifo) : (kfifoPop fifo).inCount = fifo.inCount := by
  unfold kfifoPop
  split <;> rfl

/-- With the counters in order, `kfifo_pop` removes exactly the first byte. -/
theorem kfifo_pop_in_order {fifo : Kfifo} (valid : Valid fifo)
    (order : fifo.outCount ≤ fifo.inCount) :
    contents (kfifoPop fifo) = (contents fifo).drop 1 ∧ Valid (kfifoPop fifo) ∧
      (kfifoPop fifo).outCount ≤ (kfifoPop fifo).inCount := by
  unfold kfifoPop
  split_ifs with nonempty
  · have one := kfifo_get_spec valid 1
    have lengthPos : 0 < (contents fifo).length := by
      have strict : fifo.outCount.toNat < fifo.inCount.toNat := nonempty
      rw [valid.contents_length, kfifoLen, UInt32.toNat_sub_of_le _ _ order]
      omega
    have copied : (kfifoGet fifo 1).1 = 1 := by
      apply UInt32.toNat_inj.mp
      have value := one.1
      rw [value]
      exact Nat.min_eq_left lengthPos
    have same : (kfifoGet fifo 1).2.2 = { fifo with outCount := fifo.outCount + 1 } := by
      change { fifo with outCount := fifo.outCount + (kfifoGet fifo 1).1 } = _
      rw [copied]
    rw [← same]
    refine ⟨?_, one.2.2.2.1, ?_⟩
    · rw [one.2.2.1, copied]
      rfl
    · have strict : fifo.outCount.toNat < fifo.inCount.toNat := nonempty
      have small : fifo.inCount.toNat < 2 ^ 32 := fifo.inCount.toNat_lt
      rw [same, UInt32.le_iff_toNat_le]
      simp only [UInt32.toNat_add, UInt32.toNat_one]
      omega
  · have none : contents fifo = [] := by
      apply List.eq_nil_of_length_eq_zero
      have reverse : ¬fifo.outCount.toNat < fifo.inCount.toNat := nonempty
      rw [valid.contents_length, kfifoLen, UInt32.toNat_sub_of_le _ _ order]
      omega
    exact ⟨by rw [none, List.drop_nil], valid, order⟩

/-- Once `in` has wrapped past `out`, `kfifo_pop` does nothing. -/
theorem kfifo_pop_wrapped {fifo : Kfifo} (wrapped : fifo.inCount < fifo.outCount) :
    kfifoPop fifo = fifo := by
  rw [kfifoPop, if_neg]
  intro order
  exact UInt32.lt_irrefl _ (UInt32.lt_trans wrapped order)

theorem contents_nonempty_of_wrapped {fifo : Kfifo} (valid : Valid fifo)
    (wrapped : fifo.inCount < fifo.outCount) : contents fifo ≠ [] := by
  intro none
  have length := valid.contents_length
  rw [none, List.length_nil] at length
  have zero : fifo.inCount - fifo.outCount = 0 := UInt32.toNat_inj.mp length.symm
  have same : fifo.inCount = fifo.outCount := by grind
  rw [same] at wrapped
  exact UInt32.lt_irrefl _ wrapped

end SmartHome.RingFifo
