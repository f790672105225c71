import SmartHome.Library.OutputBuffer

/-!
# Buffers filled record by record

A fill pass loads one record behind the other through a moving pointer. The pointer moves
behind the head of a record, but not always behind its value. Then the buffer is left
with the records, whatever it held, exactly if the pointer does move behind all values
but the last.
-/

namespace SmartHome.Library.RecordBuffers

open SmartHome.Library.Circular
open SmartHome.Library.OutputBuffer

set_option autoImplicit false

variable {Item : Type*}

structure Piece (Item : Type*) where
  head : List Item
  value : List Item
  advance : Nat
  starts : head ≠ []
  bounded : advance ≤ value.length

def Piece.items (piece : Piece Item) : List Item := piece.head ++ piece.value

def Piece.Moves (piece : Piece Item) : Prop := piece.advance = piece.value.length

def load (filling : Filling Item) (piece : Piece Item) : Filling Item :=
  store (store filling piece.head piece.head.length) piece.value piece.advance

def loadAll (cells : List Item) (pieces : List (Piece Item)) : List Item :=
  (pieces.foldl load ⟨cells, 0⟩).cells

/-- A buffer of this size is left with exactly these items, whatever it held, and nothing is stored
behind it. -/
structure FillsExactly (size : Nat) (fill : List Item → List Item) (items : List Item) : Prop where
  inside : ∀ cells, cells.length = size → (fill cells).length = size
  filled : ∀ cells, cells.length = size → fill cells = items

theorem Piece.items_ne_nil (piece : Piece Item) : 0 < piece.items.length := by
  rw [Piece.items, List.length_append]
  have starts := List.length_pos_iff.mpr piece.starts
  omega

theorem load_drop (filling : Filling Item) (piece : Piece Item) {index : Nat}
    (behind : filling.pointer + piece.items.length ≤ index) :
    (load filling piece).cells.drop index = filling.cells.drop index := by
  rw [Piece.items, List.length_append] at behind
  rw [load, store, store, overwrite_drop _ _ _ (by simp only; omega),
    overwrite_drop _ _ _ (by omega)]

theorem load_pointer (filling : Filling Item) (piece : Piece Item) :
    (load filling piece).pointer = filling.pointer + piece.head.length + piece.advance := rfl

theorem load_pointer_le (filling : Filling Item) (piece : Piece Item) :
    (load filling piece).pointer ≤ filling.pointer + piece.items.length := by
  have bounded := piece.bounded
  rw [load_pointer, Piece.items, List.length_append]
  omega

theorem load_length {filling : Filling Item} {piece : Piece Item}
    (room : filling.pointer + piece.items.length ≤ filling.cells.length) :
    (load filling piece).cells.length = filling.cells.length := by
  rw [Piece.items, List.length_append] at room
  have first := overwrite_length filling.cells filling.pointer piece.head (by omega)
  rw [load, store, store, overwrite_length _ _ _ (by simp only [first]; omega), first]

theorem loads_length {pieces : List (Piece Item)} {filling : Filling Item}
    (room : filling.pointer + (pieces.flatMap Piece.items).length ≤ filling.cells.length) :
    (pieces.foldl load filling).cells.length = filling.cells.length := by
  induction pieces generalizing filling with
  | nil => rfl
  | cons piece rest induction =>
      rw [List.flatMap_cons, List.length_append] at room
      have one : (load filling piece).cells.length = filling.cells.length :=
        load_length (by omega)
      have moved := load_pointer_le filling piece
      rw [List.foldl_cons, induction (by omega), one]

theorem loads_drop {pieces : List (Piece Item)} {filling : Filling Item} {index : Nat}
    (behind : filling.pointer + (pieces.flatMap Piece.items).length ≤ index) :
    (pieces.foldl load filling).cells.drop index = filling.cells.drop index := by
  induction pieces generalizing filling with
  | nil => rfl
  | cons piece rest induction =>
      rw [List.flatMap_cons, List.length_append] at behind
      have moved := load_pointer_le filling piece
      rw [List.foldl_cons, induction (by omega), load_drop filling piece (by omega)]

/-- Once the pointer stays behind, the last cell is never reached. -/
theorem loads_drop_stuck {pieces : List (Piece Item)} {filling : Filling Item} {index : Nat}
    (stuck : ∃ piece ∈ pieces.dropLast, ¬piece.Moves)
    (behind : filling.pointer + (pieces.flatMap Piece.items).length ≤ index + 1) :
    (pieces.foldl load filling).cells.drop index = filling.cells.drop index := by
  induction pieces generalizing filling with
  | nil =>
      rcases stuck with ⟨piece, member, -⟩
      exact absurd member List.not_mem_nil
  | cons piece rest induction =>
      cases rest with
      | nil =>
          rcases stuck with ⟨piece', member, -⟩
          exact absurd member List.not_mem_nil
      | cons next later =>
          rw [List.flatMap_cons, List.length_append] at behind
          have some_ : 0 < ((next :: later).flatMap Piece.items).length := by
            rw [List.flatMap_cons, List.length_append]
            have nonempty := next.items_ne_nil
            omega
          have own : (load filling piece).cells.drop index = filling.cells.drop index :=
            load_drop filling piece (by omega)
          rw [List.foldl_cons, ← own]
          by_cases moves : piece.Moves
          · -- then a later piece is stuck
            refine induction ?_ ?_
            · rcases stuck with ⟨other, member, fails⟩
              rw [List.dropLast_cons_cons] at member
              rcases List.mem_cons.mp member with rfl | inRest
              · exact absurd moves fails
              · exact ⟨other, inRest, fails⟩
            · have moved := load_pointer_le filling piece
              omega
          · apply loads_drop
            have bounded := piece.bounded
            rw [Piece.Moves] at moves
            rw [load_pointer]
            rw [Piece.items, List.length_append] at behind
            omega

theorem load_filled {filling : Filling Item} {front : List Item} (filled : Filled filling front)
    {piece : Piece Item} (moves : piece.Moves) :
    Filled (load filling piece) (front ++ piece.items) := by
  rw [load, moves, Piece.items, ← List.append_assoc]
  exact (filled.store piece.head).store piece.value

theorem loads_filled {pieces : List (Piece Item)} {filling : Filling Item} {front : List Item}
    (filled : Filled filling front) (moves : ∀ piece ∈ pieces, piece.Moves) :
    Filled (pieces.foldl load filling) (front ++ pieces.flatMap Piece.items) := by
  induction pieces generalizing filling front with
  | nil => rwa [List.flatMap_nil, List.append_nil]
  | cons piece rest induction =>
      rw [List.forall_mem_cons] at moves
      rw [List.foldl_cons, List.flatMap_cons, ← List.append_assoc]
      exact induction (load_filled filled moves.1) moves.2

theorem load_all_filled {pieces : List (Piece Item)} {cells : List Item}
    (length : cells.length = (pieces.flatMap Piece.items).length)
    (moves : ∀ piece ∈ pieces.dropLast, piece.Moves) :
    loadAll cells pieces = pieces.flatMap Piece.items := by
  rcases List.eq_nil_or_concat pieces with rfl | ⟨front, last, rfl⟩
  · exact List.eq_nil_of_length_eq_zero length
  · rw [List.concat_eq_append, List.dropLast_concat] at moves
    rw [List.concat_eq_append] at length ⊢
    have kept : ((front ++ [last]).foldl load ⟨cells, 0⟩).cells.length = cells.length :=
      loads_length (by simp only [length, Nat.zero_add, le_refl])
    have filled := loads_filled (filled_start cells) moves
    have stored := (filled.store last.head).store last.value
    rw [List.foldl_append, List.foldl_cons, List.foldl_nil] at kept
    have items : (front ++ [last]).flatMap Piece.items =
        [] ++ front.flatMap Piece.items ++ last.head ++ last.value := by
      rw [List.flatMap_append, List.flatMap_singleton, Piece.items, List.nil_append,
        List.append_assoc]
    rw [loadAll, List.foldl_append, List.foldl_cons, List.foldl_nil, items]
    refine stored.full ?_
    rw [← items, ← length]
    exact kept

theorem load_all_fills_iff [Nontrivial Item] (size : Nat) (pieces : List (Piece Item)) :
    FillsExactly size (loadAll · pieces) (pieces.flatMap Piece.items) ↔
      size = (pieces.flatMap Piece.items).length ∧ ∀ piece ∈ pieces.dropLast, piece.Moves := by
  constructor
  · rintro ⟨inside, filled⟩
    rcases exists_pair_ne Item with ⟨first, second, differ⟩
    have size_eq : size = (pieces.flatMap Piece.items).length := by
      have length : (List.replicate size first).length = size := List.length_replicate
      rw [← filled _ length, inside _ length]
    refine ⟨size_eq, ?_⟩
    by_contra stuck
    push Not at stuck
    -- the last cell keeps what it held
    have last (item : Item) : (pieces.flatMap Piece.items).drop (size - 1) =
        (List.replicate size item).drop (size - 1) := by
      rw [← filled (List.replicate size item) List.length_replicate]
      exact loads_drop_stuck stuck (by simp only; omega)
    have same := (last first).symm.trans (last second)
    have positive : 0 < size := by
      rcases stuck with ⟨piece, member, -⟩
      have inPieces := List.mem_of_mem_dropLast member
      have sublist : piece.items.Sublist (pieces.map Piece.items).flatten :=
        List.sublist_flatten_of_mem (List.mem_map_of_mem inPieces)
      have nonempty := piece.items_ne_nil
      rw [size_eq, List.flatMap_def]
      exact nonempty.trans_le sublist.length_le
    rw [List.drop_replicate, List.drop_replicate, Nat.sub_sub_self positive] at same
    exact differ (List.head_eq_of_cons_eq same)
  · rintro ⟨rfl, moves⟩
    refine ⟨fun cells length => ?_, fun cells length => load_all_filled length moves⟩
    rw [loadAll, loads_length (by simp only [length, Nat.zero_add, le_refl])]
    exact length

end SmartHome.Library.RecordBuffers
