import Mathlib.Data.List.Nodup
import SmartHome.Library.CTypes
import SmartHome.Library.Tables

/-!
# A list in memory and its table

A program keeps items in a list and a row for each of them in a table. `Mirrors`
says that no key occurs twice in the list, that the same keys occur on both sides,
and that each item is related to its row. What is done to one key on both sides at
once keeps this if it keeps the relation for that key.
-/

namespace SmartHome.Library.Mirroring

open SmartHome.Library.CTypes
open SmartHome.Library.Tables

set_option autoImplicit false

variable {Item Key Value : Type*} [LinearOrder Key] {key : Item → Key}
  {related : Item → Value → Prop} {items : List Item} {table : KeyedTable Key Value}

def findKey (key : Item → Key) (wanted : Key) (items : List Item) : Option Item :=
  items.find? (key · = wanted)

structure Mirrors (key : Item → Key) (related : Item → Value → Prop) (items : List Item)
    (table : KeyedTable Key Value) : Prop where
  distinct : (items.map key).Nodup
  paired : ∀ wanted, Option.Rel related (findKey key wanted items) (table.lookup wanted)

theorem find_key_key {wanted : Key} {item : Item} (found : findKey key wanted items = some item) :
    key item = wanted := by
  have holds := List.find?_some found
  exact of_decide_eq_true holds

theorem find_key_eq_none {wanted : Key} :
    findKey key wanted items = none ↔ wanted ∉ items.map key := by
  rw [findKey, List.find?_eq_none, List.mem_map]
  constructor
  · rintro absent ⟨item, member, same⟩
    exact absent item member (decide_eq_true same)
  · intro absent item member same
    exact absent ⟨item, member, of_decide_eq_true same⟩

theorem find_key_of_mem (distinct : (items.map key).Nodup) {item : Item} (member : item ∈ items) :
    findKey key (key item) items = some item := by
  induction items with
  | nil => exact absurd member List.not_mem_nil
  | cons head rest induction =>
      have split := List.nodup_cons.mp distinct
      rcases List.mem_cons.mp member with here | later
      · rw [here]
        exact List.find?_cons_of_pos (decide_eq_true rfl)
      · have different : key head ≠ key item := by
          intro same
          exact split.1 (same ▸ List.mem_map_of_mem later)
        have step : findKey key (key item) (head :: rest) = findKey key (key item) rest :=
          List.find?_cons_of_neg (by simpa using different)
        rw [step]
        exact induction split.2 later

theorem find_key_append (wanted : Key) (item : Item)
    (absent : findKey key (key item) items = none) :
    findKey key wanted (items ++ [item]) =
      if wanted = key item then some item else findKey key wanted items := by
  rw [findKey, List.find?_append]
  split_ifs with same
  · subst same
    rw [findKey] at absent
    rw [absent]
    simp
  · have missed : [item].find? (key · = wanted) = none := by
      simp [Ne.symm same]
    rw [missed, Option.or_none]
    rfl

theorem map_modify_found {Item Value : Type*} {value : Item → Value} {change : Item → Item}
    {found : Item → Bool} {items : List Item}
    (kept : ∀ item, items.find? found = some item → value (change item) = value item) :
    (modifyFirst found change items).map value = items.map value := by
  induction items with
  | nil => rfl
  | cons head rest induction =>
      unfold modifyFirst
      split_ifs with here
      · rw [List.map_cons, kept head (List.find?_cons_of_pos here), List.map_cons]
      · rw [List.map_cons, List.map_cons, induction]
        intro item later
        exact kept item ((List.find?_cons_of_neg here).trans later)

omit [LinearOrder Key] in
theorem map_key_modify (change : Item → Item) (found : Item → Bool)
    (kept : ∀ item, found item = true → key (change item) = key item) (items : List Item) :
    (modifyFirst found change items).map key = items.map key :=
  map_modify_found fun item here => kept item (List.find?_some here)

theorem find_key_modify (wanted modified : Key) (change : Item → Item)
    (kept : ∀ item, key item = modified → key (change item) = modified) :
    findKey key wanted (modifyFirst (key · = modified) change items) =
      if wanted = modified then (findKey key wanted items).map change
      else findKey key wanted items := by
  split_ifs with same
  · subst same
    apply find_modify_first
    intro item found
    exact decide_eq_true (kept item (of_decide_eq_true found))
  · induction items with
    | nil => rfl
    | cons head rest induction =>
        unfold modifyFirst
        split_ifs with here
        · have missed : key head ≠ wanted := by
            intro found
            exact same (found.symm.trans (of_decide_eq_true here))
          have elsewhere : key (change head) ≠ wanted := by
            rw [kept head (of_decide_eq_true here)]
            exact Ne.symm same
          have changed : findKey key wanted (change head :: rest) = findKey key wanted rest :=
            List.find?_cons_of_neg (by simpa using elsewhere)
          have unchanged : findKey key wanted (head :: rest) = findKey key wanted rest :=
            List.find?_cons_of_neg (by simpa using missed)
          rw [changed, unchanged]
        · unfold findKey at induction ⊢
          rw [List.find?_cons, List.find?_cons, induction]

theorem find_key_erase (distinct : (items.map key).Nodup) (wanted erased : Key) :
    findKey key wanted (items.eraseP (key · = erased)) =
      if wanted = erased then none else findKey key wanted items := by
  induction items with
  | nil => simp [findKey]
  | cons head rest induction =>
      have split := List.nodup_cons.mp distinct
      rw [List.eraseP_cons]
      by_cases here : key head = erased
      · rw [decide_eq_true here, cond_true]
        split_ifs with same
        · rw [find_key_eq_none, same, ← here]
          exact split.1
        · have missed : ¬key head = wanted := fun found => same (found.symm.trans here)
          exact (List.find?_cons_of_neg (by simpa using missed)).symm
      · rw [decide_eq_false here, cond_false]
        have recursion := induction split.2
        unfold findKey at recursion ⊢
        rw [List.find?_cons, List.find?_cons, recursion]
        split_ifs with same
        · have missed : decide (key head = wanted) = false :=
            decide_eq_false fun found => here (found.trans same)
          rw [missed]
        · rfl

namespace Mirrors

theorem empty : Mirrors key related [] (KeyedTable.empty : KeyedTable Key Value) :=
  ⟨List.nodup_nil, fun _ => .none⟩

theorem row (mirrors : Mirrors key related items table) {wanted : Key} {item : Item}
    (found : findKey key wanted items = some item) :
    ∃ value, table.lookup wanted = some value ∧ related item value := by
  have pair := mirrors.paired wanted
  rw [found] at pair
  cases looked : table.lookup wanted with
  | none =>
      rw [looked] at pair
      cases pair
  | some value =>
      rw [looked] at pair
      cases pair with
      | some holds => exact ⟨value, rfl, holds⟩

theorem row_of_mem (mirrors : Mirrors key related items table) {item : Item}
    (member : item ∈ items) : ∃ value, table.lookup (key item) = some value ∧ related item value :=
  mirrors.row (find_key_of_mem mirrors.distinct member)

theorem absent_iff (mirrors : Mirrors key related items table) (wanted : Key) :
    findKey key wanted items = none ↔ table.lookup wanted = none := by
  have pair := mirrors.paired wanted
  cases found : findKey key wanted items with
  | none =>
      rw [found] at pair
      cases looked : table.lookup wanted with
      | none => simp
      | some value =>
          rw [looked] at pair
          cases pair
  | some item =>
      rcases mirrors.row found with ⟨value, looked, _⟩
      simp [looked]

theorem mem_keys_iff (mirrors : Mirrors key related items table) (wanted : Key) :
    wanted ∈ items.map key ↔ wanted ∈ table.keys := by
  rw [← not_iff_not, ← find_key_eq_none, mirrors.absent_iff, lookup_eq_none]

theorem append (mirrors : Mirrors key related items table) {item : Item} {value : Value}
    (absent : findKey key (key item) items = none) (holds : related item value) :
    Mirrors key related (items ++ [item]) (table.insert (key item) value) := by
  constructor
  · rw [List.map_append, List.map_singleton, ← List.concat_eq_append]
    exact List.Nodup.concat (find_key_eq_none.mp absent) mirrors.distinct
  · intro wanted
    rw [find_key_append wanted item absent,
      lookup_insert value ((mirrors.absent_iff (key item)).mp absent)]
    split_ifs
    · exact .some holds
    · exact mirrors.paired wanted

theorem modify {relatedAfter : Item → Value → Prop} (mirrors : Mirrors key related items table)
    (modified : Key) {change : Item → Item} {update : Value → Value}
    (kept : ∀ item, key item = modified → key (change item) = modified)
    (others : ∀ item value, key item ≠ modified → related item value → relatedAfter item value)
    (holds : ∀ item value, findKey key modified items = some item →
      table.lookup modified = some value → related item value →
      relatedAfter (change item) (update value)) :
    Mirrors key relatedAfter (modifyFirst (key · = modified) change items)
      (table.update modified update) := by
  constructor
  · rw [map_key_modify]
    · exact mirrors.distinct
    · intro item found
      have here : key item = modified := of_decide_eq_true found
      rw [kept item here, here]
  · intro wanted
    rw [find_key_modify wanted modified change kept, lookup_update]
    cases found : findKey key wanted items with
    | none =>
        rw [(mirrors.absent_iff wanted).mp found]
        split_ifs
        · exact .none
        · exact .none
    | some item =>
        rcases mirrors.row found with ⟨value, looked, before⟩
        rw [looked]
        split_ifs with same
        · subst same
          exact .some (holds item value found looked before)
        · rw [← find_key_key found] at same
          exact .some (others item value same before)

theorem erase (mirrors : Mirrors key related items table) (erased : Key) :
    Mirrors key related (items.eraseP (key · = erased)) (table.delete erased) := by
  constructor
  · exact mirrors.distinct.sublist (List.Sublist.map key List.eraseP_sublist)
  · intro wanted
    rw [find_key_erase mirrors.distinct, lookup_delete]
    split_ifs
    · exact .none
    · exact mirrors.paired wanted

theorem load {build : Key × Value → Item} (kept : ∀ row ∈ table.rows, key (build row) = row.1)
    (holds : ∀ row ∈ table.rows, related (build row) row.2) :
    Mirrors key related (table.rows.map build) table := by
  have keys : (table.rows.map build).map key = table.keys := by
    rw [List.map_map]
    exact List.map_congr_left kept
  have distinct : ((table.rows.map build).map key).Nodup := by
    rw [keys]
    apply List.pairwise_map.mpr
    apply table.sorted.imp
    intro row other before
    exact before.ne
  constructor
  · exact distinct
  · intro wanted
    cases looked : table.lookup wanted with
    | none =>
        have absent : findKey key wanted (table.rows.map build) = none := by
          rw [find_key_eq_none, keys]
          exact (lookup_eq_none table wanted).mp looked
        rw [absent]
        exact .none
    | some value =>
        have member := (mem_rows_iff table wanted value).mpr looked
        have built : key (build (wanted, value)) = wanted := kept _ member
        have found := find_key_of_mem distinct (List.mem_map_of_mem member)
        rw [built] at found
        rw [found]
        exact .some (holds _ member)

theorem imp {relatedAfter : Item → Value → Prop} (mirrors : Mirrors key related items table)
    (others : ∀ item value, findKey key (key item) items = some item → related item value →
      relatedAfter item value) :
    Mirrors key relatedAfter items table := by
  refine ⟨mirrors.distinct, ?_⟩
  intro wanted
  cases found : findKey key wanted items with
  | none =>
      rw [(mirrors.absent_iff wanted).mp found]
      exact .none
  | some item =>
      rcases mirrors.row found with ⟨value, looked, before⟩
      have own := found
      rw [← find_key_key found] at own
      rw [looked]
      exact .some (others item value own before)

/-- Two lists with the same table hold the same keys. -/
theorem common {relatedOther : Item → Value → Prop} {others : List Item}
    (mirrors : Mirrors key related items table) (second : Mirrors key relatedOther others table)
    (wanted : Key) :
    Option.Rel (fun item other => ∃ value, related item value ∧ relatedOther other value)
      (findKey key wanted items) (findKey key wanted others) := by
  cases found : findKey key wanted items with
  | none =>
      have absent := (mirrors.absent_iff wanted).mp found
      rw [(second.absent_iff wanted).mpr absent]
      exact .none
  | some item =>
      rcases mirrors.row found with ⟨value, looked, holds⟩
      cases there : findKey key wanted others with
      | none =>
          have absent := (second.absent_iff wanted).mp there
          rw [absent] at looked
          cases looked
      | some other =>
          rcases second.row there with ⟨same, again, otherHolds⟩
          rw [looked, Option.some.injEq] at again
          subst again
          exact .some ⟨value, holds, otherHolds⟩

end Mirrors

end SmartHome.Library.Mirroring
