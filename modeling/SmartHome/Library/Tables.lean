import Mathlib.Order.Lattice
import Mathlib.Data.List.Pairwise
import Mathlib.Tactic.SplitIfs

/-!
# Tables with a primary key

The rows of a table in the order of their keys, no key twice. A scan reads them in
that order; a statement that names one key finds at most one row. `lookup` is what
such a statement sees, and each operation is known by what it does to `lookup`.
-/

namespace SmartHome.Library.Tables

set_option autoImplicit false

variable {Key Value : Type*} [LinearOrder Key]

structure KeyedTable (Key Value : Type*) [LinearOrder Key] where
  rows : List (Key × Value)
  sorted : rows.Pairwise fun row other => row.1 < other.1

def lookupRow (key : Key) : List (Key × Value) → Option Value
  | [] => none
  | row :: rest => if row.1 = key then some row.2 else lookupRow key rest

/-- A key that is taken already violates the constraint, and nothing is inserted. -/
def insertRow (key : Key) (value : Value) : List (Key × Value) → List (Key × Value)
  | [] => [(key, value)]
  | row :: rest =>
      if key < row.1 then (key, value) :: row :: rest
      else if row.1 = key then row :: rest
      else row :: insertRow key value rest

def updateRow (key : Key) (change : Value → Value) (row : Key × Value) : Key × Value :=
  if row.1 = key then (row.1, change row.2) else row

theorem update_row_key (key : Key) (change : Value → Value) (row : Key × Value) :
    (updateRow key change row).1 = row.1 := by
  unfold updateRow
  split <;> rfl

theorem mem_insert_row {key : Key} {value : Value} {rows : List (Key × Value)} {row : Key × Value}
    (member : row ∈ insertRow key value rows) : row = (key, value) ∨ row ∈ rows := by
  induction rows with
  | nil => exact Or.inl (List.mem_singleton.mp member)
  | cons head rest induction =>
      unfold insertRow at member
      split_ifs at member with before same
      · exact List.mem_cons.mp member
      · exact Or.inr member
      · rcases List.mem_cons.mp member with here | later
        · exact Or.inr (here ▸ List.mem_cons_self)
        · rcases induction later with inserted | kept
          · exact Or.inl inserted
          · exact Or.inr (List.mem_cons_of_mem head kept)

theorem insert_row_sorted (key : Key) (value : Value) {rows : List (Key × Value)}
    (sorted : rows.Pairwise fun row other => row.1 < other.1) :
    (insertRow key value rows).Pairwise fun row other => row.1 < other.1 := by
  induction rows with
  | nil => exact List.pairwise_singleton _ _
  | cons head rest induction =>
      have split := List.pairwise_cons.mp sorted
      unfold insertRow
      split_ifs with before same
      · apply List.pairwise_cons.mpr
        refine ⟨?_, sorted⟩
        intro row member
        rcases List.mem_cons.mp member with here | later
        · exact here ▸ before
        · exact before.trans (split.1 row later)
      · exact sorted
      · apply List.pairwise_cons.mpr
        refine ⟨?_, induction split.2⟩
        intro row member
        rcases mem_insert_row member with inserted | kept
        · rw [inserted]
          exact lt_of_le_of_ne (not_lt.mp before) same
        · exact split.1 row kept

namespace KeyedTable

def empty : KeyedTable Key Value := ⟨[], List.Pairwise.nil⟩

def lookup (table : KeyedTable Key Value) (key : Key) : Option Value := lookupRow key table.rows

def keys (table : KeyedTable Key Value) : List Key := table.rows.map (·.1)

def insert (table : KeyedTable Key Value) (key : Key) (value : Value) : KeyedTable Key Value :=
  ⟨insertRow key value table.rows, insert_row_sorted key value table.sorted⟩

def update (table : KeyedTable Key Value) (key : Key) (change : Value → Value) :
    KeyedTable Key Value where
  rows := table.rows.map (updateRow key change)
  sorted := by
    apply List.pairwise_map.mpr
    apply table.sorted.imp
    intro row other before
    rwa [update_row_key, update_row_key]

def delete (table : KeyedTable Key Value) (key : Key) : KeyedTable Key Value :=
  ⟨table.rows.filter (·.1 ≠ key), table.sorted.filter _⟩

end KeyedTable

open KeyedTable

theorem eq_of_rows_eq {table other : KeyedTable Key Value} (same : table.rows = other.rows) :
    table = other := by
  cases table
  cases other
  cases same
  rfl

theorem lookup_row_eq_none {key : Key} {rows : List (Key × Value)} :
    lookupRow key rows = none ↔ ∀ row ∈ rows, row.1 ≠ key := by
  induction rows with
  | nil => simp [lookupRow]
  | cons head rest induction =>
      unfold lookupRow
      split_ifs with here
      · simp [here]
      · simp [induction, here]

theorem mem_of_lookup_row {key : Key} {value : Value} {rows : List (Key × Value)}
    (found : lookupRow key rows = some value) : (key, value) ∈ rows := by
  induction rows with
  | nil => simp [lookupRow] at found
  | cons head rest induction =>
      unfold lookupRow at found
      split_ifs at found with here
      · rw [Option.some.injEq] at found
        rw [← here, ← found]
        exact List.mem_cons_self
      · exact List.mem_cons_of_mem head (induction found)

/-- Under distinct keys a row is the one its key finds. -/
theorem lookup_row_of_mem {rows : List (Key × Value)} {row : Key × Value}
    (sorted : rows.Pairwise fun row other => row.1 < other.1) (member : row ∈ rows) :
    lookupRow row.1 rows = some row.2 := by
  induction rows with
  | nil => exact absurd member List.not_mem_nil
  | cons head rest induction =>
      have split := List.pairwise_cons.mp sorted
      rcases List.mem_cons.mp member with here | later
      · rw [lookupRow, if_pos (congrArg Prod.fst here.symm), here]
      · rw [lookupRow, if_neg (split.1 row later).ne]
        exact induction split.2 later

theorem lookup_row_insert {key : Key} {value : Value} {rows : List (Key × Value)}
    (absent : lookupRow key rows = none) (other : Key) :
    lookupRow other (insertRow key value rows) =
      if other = key then some value else lookupRow other rows := by
  induction rows with
  | nil => simp [insertRow, lookupRow, eq_comm]
  | cons head rest induction =>
      have different : head.1 ≠ key := lookup_row_eq_none.mp absent head List.mem_cons_self
      have restAbsent : lookupRow key rest = none := by
        rwa [lookupRow, if_neg different] at absent
      unfold insertRow
      split_ifs with before same same
      · simp [lookupRow, same]
      · simp [lookupRow, Ne.symm same]
      · rw [lookupRow, if_neg (same ▸ different), induction restAbsent, if_pos same]
      · rw [lookupRow, lookupRow, induction restAbsent, if_neg same]

theorem lookup_row_update (key other : Key) (change : Value → Value) (rows : List (Key × Value)) :
    lookupRow other (rows.map (updateRow key change)) =
      if other = key then (lookupRow other rows).map change else lookupRow other rows := by
  induction rows with
  | nil => simp [lookupRow]
  | cons head rest induction =>
      rw [List.map_cons, lookupRow, update_row_key, lookupRow, induction]
      by_cases here : head.1 = other
      · by_cases same : other = key
        · simp [here, same, updateRow]
        · simp [here, same, updateRow]
      · simp [here]

theorem lookup_row_delete (key other : Key) (rows : List (Key × Value)) :
    lookupRow other (rows.filter (·.1 ≠ key)) =
      if other = key then none else lookupRow other rows := by
  induction rows with
  | nil => simp [lookupRow]
  | cons head rest induction =>
      rw [List.filter_cons, lookupRow]
      by_cases here : head.1 = key
      · rw [if_neg (by simp [here]), induction]
        split_ifs with same found
        · rfl
        · exact absurd (found.symm.trans here) same
        · rfl
      · rw [if_pos (by simp [here]), lookupRow, induction]
        split_ifs with found same
        · exact absurd (found.trans same) here
        · rfl
        · rfl
        · rfl

theorem update_id (table : KeyedTable Key Value) (key : Key) : table.update key id = table := by
  have kept : table.rows.map (updateRow key id) = table.rows := by
    apply List.map_id''
    intro row
    unfold updateRow
    split <;> rfl
  exact eq_of_rows_eq kept

theorem update_update (table : KeyedTable Key Value) (key : Key) (first second : Value → Value) :
    (table.update key first).update key second =
      table.update key fun value => second (first value) := by
  have composed : (table.rows.map (updateRow key first)).map (updateRow key second) =
      table.rows.map (updateRow key fun value => second (first value)) := by
    rw [List.map_map]
    apply List.map_congr_left
    intro row _
    unfold updateRow
    by_cases here : row.1 = key
    · simp [here]
    · simp [here]
  exact eq_of_rows_eq composed

theorem map_update_row_absent {key : Key} {rows : List (Key × Value)}
    (absent : ∀ row ∈ rows, row.1 ≠ key) (change : Value → Value) :
    rows.map (updateRow key change) = rows := by
  induction rows with
  | nil => rfl
  | cons head rest induction =>
      rw [List.map_cons, updateRow, if_neg (absent head List.mem_cons_self), induction]
      intro row member
      exact absent row (List.mem_cons_of_mem head member)

theorem update_absent {table : KeyedTable Key Value} {key : Key}
    (absent : table.lookup key = none) (change : Value → Value) :
    table.update key change = table :=
  eq_of_rows_eq (map_update_row_absent (lookup_row_eq_none.mp absent) change)

theorem map_insert_row {key : Key} {rows : List (Key × Value)}
    (absent : ∀ row ∈ rows, row.1 ≠ key) (value : Value) (change : Value → Value) :
    (insertRow key value rows).map (updateRow key change) = insertRow key (change value) rows := by
  induction rows with
  | nil => simp [insertRow, updateRow]
  | cons head rest induction =>
      have different := absent head List.mem_cons_self
      have others : ∀ row ∈ rest, row.1 ≠ key := by
        intro row member
        exact absent row (List.mem_cons_of_mem head member)
      unfold insertRow
      split_ifs
      · rw [List.map_cons, map_update_row_absent absent, updateRow, if_pos rfl]
      · rw [List.map_cons, induction others, updateRow, if_neg different]

theorem insert_update {table : KeyedTable Key Value} {key : Key}
    (absent : table.lookup key = none) (value : Value) (change : Value → Value) :
    (table.insert key value).update key change = table.insert key (change value) :=
  eq_of_rows_eq (map_insert_row (lookup_row_eq_none.mp absent) value change)

theorem update_delete (table : KeyedTable Key Value) (key : Key) (change : Value → Value) :
    (table.update key change).delete key = table.delete key := by
  have same : ∀ rows : List (Key × Value),
      (rows.map (updateRow key change)).filter (·.1 ≠ key) = rows.filter (·.1 ≠ key) := by
    intro rows
    induction rows with
    | nil => rfl
    | cons head rest induction =>
        rw [List.map_cons, List.filter_cons, List.filter_cons, update_row_key, induction]
        split_ifs with other
        · rw [updateRow, if_neg (of_decide_eq_true other)]
        · rfl
  exact eq_of_rows_eq (same table.rows)

theorem lookup_insert {table : KeyedTable Key Value} {key : Key} (value : Value)
    (absent : table.lookup key = none) (other : Key) :
    (table.insert key value).lookup other = if other = key then some value else table.lookup other :=
  lookup_row_insert absent other

theorem lookup_update (table : KeyedTable Key Value) (key : Key) (change : Value → Value)
    (other : Key) :
    (table.update key change).lookup other =
      if other = key then (table.lookup other).map change else table.lookup other :=
  lookup_row_update key other change table.rows

theorem keys_update (table : KeyedTable Key Value) (key : Key) (change : Value → Value) :
    (table.update key change).keys = table.keys := by
  have kept : ((table.rows.map (updateRow key change)).map (·.1)) = table.rows.map (·.1) := by
    rw [List.map_map]
    apply List.map_congr_left
    intro row _
    exact update_row_key key change row
  exact kept

theorem lookup_delete (table : KeyedTable Key Value) (key other : Key) :
    (table.delete key).lookup other = if other = key then none else table.lookup other :=
  lookup_row_delete key other table.rows

theorem mem_rows_iff (table : KeyedTable Key Value) (key : Key) (value : Value) :
    (key, value) ∈ table.rows ↔ table.lookup key = some value :=
  ⟨lookup_row_of_mem table.sorted, mem_of_lookup_row⟩

theorem lookup_eq_none (table : KeyedTable Key Value) (key : Key) :
    table.lookup key = none ↔ key ∉ table.keys := by
  rw [lookup, lookup_row_eq_none, keys, List.mem_map]
  constructor
  · rintro absent ⟨row, member, same⟩
    exact absent row member same
  · intro absent row member same
    exact absent ⟨row, member, same⟩

end SmartHome.Library.Tables
