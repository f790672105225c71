import SmartHome.Library.Circular

/-!
# Filling a buffer through a moving pointer

A buffer of fixed length that is written from its front on. `Filled` says which
bytes have been written for good; a store at the pointer leaves them alone, and one
that moves the pointer behind its own bytes extends them.
-/

namespace SmartHome.Library.OutputBuffer

open SmartHome.Library.Circular

set_option autoImplicit false

variable {Item : Type*}

structure Filling (Item : Type*) where
  cells : List Item
  pointer : Nat

/-- Store items at the pointer, then move it by `advance`. -/
def store (filling : Filling Item) (items : List Item) (advance : Nat) : Filling Item :=
  ⟨overwrite filling.cells filling.pointer items, filling.pointer + advance⟩

/-- The pointer stands behind these items, which are the front of the buffer. -/
def Filled (filling : Filling Item) (items : List Item) : Prop :=
  filling.pointer = items.length ∧ ∃ behind, filling.cells = items ++ behind

theorem filled_start (cells : List Item) : Filled ⟨cells, 0⟩ [] := ⟨rfl, cells, rfl⟩

theorem overwrite_append (front behind items : List Item) :
    overwrite (front ++ behind) front.length items =
      front ++ (items ++ behind.drop items.length) := by
  rw [overwrite, List.take_left, List.append_assoc, ← List.drop_drop, List.drop_left]

theorem Filled.store {filling : Filling Item} {front : List Item} (filled : Filled filling front)
    (items : List Item) : Filled (store filling items items.length) (front ++ items) := by
  rcases filled with ⟨pointer, behind, cells⟩
  refine ⟨?_, behind.drop items.length, ?_⟩
  · rw [OutputBuffer.store, pointer, List.length_append]
  · rw [OutputBuffer.store, cells, pointer, overwrite_append, List.append_assoc]

theorem store_nil (filling : Filling Item) : store filling [] 0 = filling := by
  rw [OutputBuffer.store, overwrite, List.length_nil, Nat.add_zero, List.append_nil,
    List.take_append_drop]

/-- What lies behind a store stays, also where the store itself lies behind the cells. -/
theorem overwrite_drop (cells items : List Item) (offset : Nat) {index : Nat}
    (behind : offset + items.length ≤ index) :
    (overwrite cells offset items).drop index = cells.drop index := by
  rw [overwrite, List.drop_append, List.drop_drop, List.length_append, List.length_take]
  have front : (cells.take offset ++ items).length ≤ index := by
    rw [List.length_append, List.length_take]
    omega
  rw [List.drop_eq_nil_of_le front, List.nil_append]
  by_cases inside : offset ≤ cells.length
  · rw [Nat.min_eq_left inside]
    congr 1
    omega
  · rw [List.drop_eq_nil_of_le (by omega), List.drop_eq_nil_of_le (by omega)]

theorem overwrite_take (cells items : List Item) (offset : Nat) :
    (overwrite cells offset items).take (offset + items.length) = cells.take offset ++ items := by
  by_cases inside : offset ≤ cells.length
  · have front : (cells.take offset ++ items).length = offset + items.length := by
      rw [List.length_append, List.length_take, Nat.min_eq_left inside]
    rw [overwrite, ← front, List.take_left]
  · rw [overwrite, List.drop_eq_nil_of_le (by omega), List.append_nil]
    apply List.take_of_length_le
    rw [List.length_append, List.length_take]
    omega

theorem store_store (filling : Filling Item) (first second : List Item) (advance : Nat) :
    store (store filling first first.length) second advance =
      store filling (first ++ second) (first.length + advance) := by
  have cells : overwrite (overwrite filling.cells filling.pointer first)
      (filling.pointer + first.length) second =
        overwrite filling.cells filling.pointer (first ++ second) := by
    rw [overwrite, overwrite_take, overwrite_drop _ _ _ (Nat.le_add_right _ _), overwrite,
      List.length_append, Nat.add_assoc]
    simp only [List.append_assoc]
  rw [OutputBuffer.store, OutputBuffer.store, OutputBuffer.store]
  simp only [cells, Nat.add_assoc]

structure Extends (before after : Filling Item) : Prop where
  pointer : before.pointer ≤ after.pointer
  length : after.cells.length = before.cells.length
  kept : after.cells.take before.pointer = before.cells.take before.pointer

theorem Extends.refl (filling : Filling Item) : Extends filling filling := ⟨le_rfl, rfl, rfl⟩

theorem Extends.trans {first second third : Filling Item} (front : Extends first second)
    (back : Extends second third) : Extends first third := by
  refine ⟨front.pointer.trans back.pointer, back.length.trans front.length, ?_⟩
  have kept := congrArg (List.take first.pointer) back.kept
  rw [List.take_take, List.take_take, Nat.min_eq_left front.pointer] at kept
  exact kept.trans front.kept

theorem store_extends (filling : Filling Item) (items : List Item) (advance : Nat)
    (room : filling.pointer + items.length ≤ filling.cells.length) :
    Extends filling (store filling items advance) := by
  have front : (filling.cells.take filling.pointer).length = filling.pointer := by
    rw [List.length_take]
    omega
  refine ⟨Nat.le_add_right _ _, overwrite_length _ _ _ room, ?_⟩
  rw [OutputBuffer.store, overwrite, List.append_assoc, List.take_left' front]

theorem Extends.get {before after : Filling Item} (extends_ : Extends before after) {index : Nat}
    (written : index < before.pointer) : after.cells[index]? = before.cells[index]? := by
  have kept := congrArg (fun cells => cells[index]?) extends_.kept
  simpa only [List.getElem?_take_of_lt written] using kept

theorem store_get (filling : Filling Item) (item : Item) (items : List Item) (advance : Nat)
    (inside : filling.pointer ≤ filling.cells.length) :
    (store filling (item :: items) advance).cells[filling.pointer]? = some item := by
  have front : (filling.cells.take filling.pointer).length = filling.pointer := by
    rw [List.length_take]
    omega
  rw [OutputBuffer.store, overwrite, List.append_assoc,
    List.getElem?_append_right front.le, front, Nat.sub_self]
  rfl

theorem Filled.full {filling : Filling Item} {items : List Item} (filled : Filled filling items)
    (length : filling.cells.length = items.length) : filling.cells = items := by
  rcases filled with ⟨-, behind, cells⟩
  have none : behind = [] := by
    rw [cells, List.length_append] at length
    exact List.eq_nil_of_length_eq_zero (by omega)
  rw [cells, none, List.append_nil]

end SmartHome.Library.OutputBuffer
