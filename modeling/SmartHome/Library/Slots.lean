import Mathlib.Data.List.Induction

/-!
# Slots for what is not wanted yet

A fixed number of slots holds entries until somebody takes them. An entry goes to the
first free slot, the taker empties all slots that are its own, and of these the last one
in the row counts. That is the latest entry only if none of its own lies behind the slot
it went to.
-/

namespace SmartHome.Library.Slots

set_option autoImplicit false

variable {Slot : Type*} {mine theirs : Slot → Bool} {front rest slots : List Slot}
  {free entry : Slot}

/-- The slot that counts for a taker. -/
def lastMine (mine : Slot → Bool) (slots : List Slot) : Option Slot := (slots.filter mine).getLast?

theorem foldl_last_mine {Value : Type*} (value : Slot → Value) (start : Value)
    (slots : List Slot) :
    slots.foldl (fun found slot => if mine slot then value slot else found) start =
      ((lastMine mine slots).map value).getD start := by
  induction slots using List.reverseRecOn with
  | nil => rfl
  | append_singleton slots slot induction =>
      rw [List.foldl_append, List.foldl_cons, List.foldl_nil, induction, lastMine, lastMine,
        List.filter_append]
      split_ifs with own
      · simp [own]
      · simp [own]

/-- An entry counts if the slots behind it hold nothing else for its taker. -/
theorem last_mine_put (own : mine entry = true)
    (behind : ∀ slot ∈ rest, mine slot = true → slot = entry) :
    lastMine mine (front ++ entry :: rest) = some entry := by
  have same : ∀ slot ∈ (entry :: rest).filter mine, slot = entry := by
    intro slot member
    rcases List.mem_filter.mp member with ⟨inside, owned⟩
    rcases List.mem_cons.mp inside with here | later
    · exact here
    · exact behind slot later owned
  have some_ : (entry :: rest).filter mine ≠ [] := by
    rw [List.filter_cons_of_pos own]
    exact List.cons_ne_nil _ _
  rw [lastMine, List.filter_append, List.getLast?_append,
    List.getLast?_eq_some_getLast some_, Option.some_or]
  exact congrArg some (same _ (List.getLast_mem some_))

/-- An entry does not matter to the other takers. -/
theorem last_mine_put_other (other : mine entry = false) (unused : mine free = false) :
    lastMine mine (front ++ entry :: rest) = lastMine mine (front ++ free :: rest) := by
  simp [lastMine, List.filter_append, other, unused]

theorem last_mine_clear (unused : mine free = false)
    (apart : ∀ slot ∈ slots, theirs slot = true → mine slot = false) :
    lastMine mine (slots.map fun slot => if theirs slot then free else slot) =
      lastMine mine slots := by
  have kept : (slots.map fun slot => if theirs slot then free else slot).filter mine =
      slots.filter mine := by
    induction slots with
    | nil => rfl
    | cons slot slots induction =>
        rcases List.forall_mem_cons.mp apart with ⟨first, later⟩
        rw [List.map_cons]
        by_cases taken : theirs slot = true
        · simp [taken, unused, first taken, induction later]
        · simp [taken, List.filter_cons, induction later]
  rw [lastMine, kept, lastMine]

theorem set_first {size : Nat} {array : Vector Slot size} {found : Slot → Bool}
    (split : array.toList = front ++ free :: rest) (passed : ∀ slot ∈ front, found slot = false)
    (here : found free = true) (value : Slot) :
    ∃ i, array.findFinIdx? found = some i ∧
      (array.set i value).toList = front ++ value :: rest := by
  have position : (array.findFinIdx? found).map Fin.val = some front.length := by
    have listed : array.toList.findIdx? found = (array.findFinIdx? found).map Fin.val := by
      rw [List.findIdx?_eq_map_findFinIdx?_val, Vector.findFinIdx?_toList, Option.map_map]
      rfl
    have none : front.findIdx? found = none := List.findIdx?_eq_none_iff.mpr passed
    rw [← listed, split, List.findIdx?_append, none, List.findIdx?_cons, here]
    simp
  rcases Option.map_eq_some_iff.mp position with ⟨i, search, index⟩
  refine ⟨i, search, ?_⟩
  rw [Vector.toList_set, split, index, List.set_append_right _ _ (Nat.le_refl _),
    Nat.sub_self]
  rfl

end SmartHome.Library.Slots
