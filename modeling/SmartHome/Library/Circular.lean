import Mathlib.Data.List.Rotate

/-!
# Circular storage and bounded queues

A circular store is a list of cells read and written modulo its length. The
logical contents are the first cells of a rotation; both the two-part copy out
and the two-part copy in are related to that view here, once, for arbitrary
items. `BoundedQueue` is the abstract value such a store implements.
-/

namespace SmartHome.Library.Circular

set_option autoImplicit false

variable {Item : Type*}

def window (cells : List Item) (start count : Nat) : List Item :=
  (cells.rotate start).take count

/-- One straight copy of `items` over the cells from `offset` on. -/
def overwrite (cells : List Item) (offset : Nat) (items : List Item) : List Item :=
  cells.take offset ++ items ++ cells.drop (offset + items.length)

/-- Copy in at `offset`; what does not fit before the end goes to the front. -/
def copyIn (cells : List Item) (offset : Nat) (items : List Item) : List Item :=
  let first := min items.length (cells.length - offset)
  overwrite (overwrite cells offset (items.take first)) 0 (items.drop first)

/-- Copy out from `offset`; what lies past the end comes from the front. -/
def copyOut (cells : List Item) (offset count : Nat) : List Item :=
  let first := min count (cells.length - offset)
  (cells.drop offset).take first ++ cells.take (count - first)

theorem wrapped_index (size start index : Nat) (positive : 0 < size) (bound : index ≤ size) :
    (index + start) % size =
      if index + start % size < size then index + start % size
      else index + start % size - size := by
  have remainder : start % size < size := Nat.mod_lt _ positive
  rw [← Nat.add_mod_mod]
  split_ifs with inside
  · exact Nat.mod_eq_of_lt inside
  · rw [Nat.mod_eq_sub_mod (by omega), Nat.mod_eq_of_lt (by omega)]

@[simp] theorem window_length (cells : List Item) (start count : Nat) :
    (window cells start count).length = min count cells.length := by
  simp [window]

@[simp] theorem window_zero (cells : List Item) (start : Nat) : window cells start 0 = [] := by
  simp [window]

theorem window_getElem? (cells : List Item) (start count index : Nat)
    (bound : index < count) (inside : index < cells.length) :
    (window cells start count)[index]? = cells[(index + start) % cells.length]? := by
  rw [window, List.getElem?_take_of_lt bound, List.getElem?_rotate inside]

theorem window_mod (cells : List Item) (start count : Nat) :
    window cells (start % cells.length) count = window cells start count := by
  rw [window, window, List.rotate_mod]

theorem window_mod_of_dvd (cells : List Item) (start count period : Nat)
    (divides : cells.length ∣ period) :
    window cells (start % period) count = window cells start count := by
  rw [← window_mod cells (start % period), Nat.mod_mod_of_dvd _ divides, window_mod]

theorem window_take (cells : List Item) (start count amount : Nat) :
    (window cells start count).take amount = window cells start (min amount count) := by
  simp [window, List.take_take]

theorem window_drop (cells : List Item) (start count amount : Nat)
    (bound : count ≤ cells.length) (available : amount ≤ count) :
    (window cells start count).drop amount = window cells (start + amount) (count - amount) := by
  apply List.ext_getElem?
  intro index
  by_cases inside : index < count - amount
  · rw [List.getElem?_drop, window_getElem? _ _ _ _ (by omega) (by omega),
      window_getElem? _ _ _ _ inside (by omega)]
    congr 2
    omega
  · rw [List.getElem?_eq_none (by simp; omega), List.getElem?_eq_none (by simp; omega)]

theorem overwrite_length (cells : List Item) (offset : Nat) (items : List Item)
    (bound : offset + items.length ≤ cells.length) :
    (overwrite cells offset items).length = cells.length := by
  simp only [overwrite, List.length_append, List.length_take, List.length_drop]
  omega

theorem overwrite_getElem? (cells : List Item) (offset : Nat) (items : List Item)
    (index : Nat) (bound : offset + items.length ≤ cells.length) :
    (overwrite cells offset items)[index]? =
      if offset ≤ index ∧ index < offset + items.length then items[index - offset]?
      else cells[index]? := by
  have headLength : (cells.take offset).length = offset := by simp; omega
  rw [overwrite, List.append_assoc]
  by_cases before : index < offset
  · rw [List.getElem?_append_left (by omega), List.getElem?_take_of_lt before,
      if_neg (by omega)]
  · rw [List.getElem?_append_right (by omega), headLength]
    by_cases within : index < offset + items.length
    · rw [List.getElem?_append_left (by omega), if_pos (by omega)]
    · rw [List.getElem?_append_right (by omega), List.getElem?_drop, if_neg (by omega)]
      congr 1
      omega

theorem copyIn_length (cells : List Item) (offset : Nat) (items : List Item)
    (inside : offset ≤ cells.length) (bound : items.length ≤ cells.length) :
    (copyIn cells offset items).length = cells.length := by
  have firstBound : offset + (items.take (min items.length (cells.length - offset))).length ≤
      cells.length := by simp; omega
  have first := overwrite_length cells offset _ firstBound
  rw [copyIn, overwrite_length _ _ _ (by rw [first]; simp; omega), first]

/-- Every cell after a wrapping copy in: the copied item where the copy went, else the old cell. -/
theorem copyIn_getElem? (cells : List Item) (offset : Nat) (items : List Item) (index : Nat)
    (inside : offset < cells.length) (bound : items.length ≤ cells.length)
    (valid : index < cells.length) :
    (copyIn cells offset items)[index]? =
      if offset ≤ index ∧ index < offset + items.length then items[index - offset]?
      else if index + cells.length < offset + items.length then
        items[index + cells.length - offset]?
      else cells[index]? := by
  have firstBound : offset + (items.take (min items.length (cells.length - offset))).length ≤
      cells.length := by simp; omega
  have firstLength := overwrite_length cells offset _ firstBound
  have secondBound : 0 + (items.drop (min items.length (cells.length - offset))).length ≤
      (overwrite cells offset (items.take (min items.length (cells.length - offset)))).length := by
    rw [firstLength]
    simp
    omega
  rw [copyIn, overwrite_getElem? _ _ _ _ secondBound, overwrite_getElem? _ _ _ _ firstBound]
  simp only [List.length_take, List.length_drop, List.getElem?_take, List.getElem?_drop]
  split_ifs <;> first | omega | rfl | (congr 1; omega)

/-- A copy in just behind the current window extends that window by the copied items. -/
theorem window_copyIn (cells : List Item) (start count : Nat) (items : List Item)
    (positive : 0 < cells.length) (bound : count + items.length ≤ cells.length) :
    window (copyIn cells ((start + count) % cells.length) items) start (count + items.length) =
      window cells start count ++ items := by
  have offsetBound : (start + count) % cells.length < cells.length := Nat.mod_lt _ positive
  have length := copyIn_length cells _ items offsetBound.le (by omega)
  have remainder : start % cells.length < cells.length := Nat.mod_lt _ positive
  have offset := wrapped_index cells.length start count positive (by omega)
  rw [Nat.add_comm count start] at offset
  apply List.ext_getElem?
  intro index
  by_cases inside : index < count + items.length
  · have position := wrapped_index cells.length start index positive (by omega)
    rw [window_getElem? _ _ _ _ inside (by omega), length,
      copyIn_getElem? _ _ _ _ offsetBound (by omega) (Nat.mod_lt _ positive)]
    by_cases old : index < count
    · rw [List.getElem?_append_left (by simp; omega), window_getElem? _ _ _ _ old (by omega),
        offset, position]
      split_ifs <;> first | omega | rfl
    · rw [List.getElem?_append_right (by simp; omega), window_length, offset, position]
      split_ifs <;> first | omega | (congr 1; omega)
  · rw [List.getElem?_eq_none (by simp; omega), List.getElem?_eq_none (by simp; omega)]

/-- The two-part copy out reads exactly the window. -/
theorem copyOut_eq_window (cells : List Item) (start count : Nat)
    (bound : count ≤ cells.length) :
    copyOut cells (start % cells.length) count = window cells start count := by
  rcases Nat.eq_zero_or_pos cells.length with empty | positive
  · have none : cells = [] := List.eq_nil_of_length_eq_zero empty
    subst none
    simp [copyOut, window]
  · have remainder : start % cells.length < cells.length := Nat.mod_lt _ positive
    have rotated : cells.rotate start =
        cells.drop (start % cells.length) ++ cells.take (start % cells.length) := by
      rw [← List.rotate_mod, List.rotate_eq_drop_append_take remainder.le]
    rw [window, rotated, List.take_append, copyOut, List.length_drop]
    congr 1
    · rcases Nat.le_total count (cells.length - start % cells.length) with short | long
      · rw [Nat.min_eq_left short]
      · rw [Nat.min_eq_right long, List.take_of_length_le (by simp),
          List.take_of_length_le (by simp; omega)]
    · rw [List.take_take]
      congr 1
      omega

structure BoundedQueue (Item : Type*) (capacity : Nat) where
  items : List Item
  bounded : items.length ≤ capacity

namespace BoundedQueue

variable {capacity : Nat}

@[ext] theorem ext {left right : BoundedQueue Item capacity}
    (same : left.items = right.items) : left = right := by
  cases left
  cases right
  cases same
  rfl

def empty : BoundedQueue Item capacity := ⟨[], by simp⟩

def put (queue : BoundedQueue Item capacity) (items : List Item) : BoundedQueue Item capacity :=
  ⟨queue.items ++ items.take (capacity - queue.items.length), by
    have bounded := queue.bounded
    simp only [List.length_append, List.length_take]
    omega⟩

def remove (queue : BoundedQueue Item capacity) (amount : Nat) : BoundedQueue Item capacity :=
  ⟨queue.items.drop amount, by
    have bounded := queue.bounded
    rw [List.length_drop]
    omega⟩

def accepted (queue : BoundedQueue Item capacity) (items : List Item) : Nat :=
  min items.length (capacity - queue.items.length)

end BoundedQueue

end SmartHome.Library.Circular
