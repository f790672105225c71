import SmartHome.Library.Bytes

/-!
# Cutting a memory into items

A loop that reads one item after the other until its pointer has reached an end. It may
come to stand behind the end, in the middle of what lies there: the last item need not
fit. Where every memory begins with exactly one item the loop meets exactly one list of
them.
-/

namespace SmartHome.Library.MemoryCuts

open SmartHome.Library.Bytes

set_option autoImplicit false

variable {Item : Type*}

/-- The items that a loop meets which starts at an address and goes on up to `stop`. -/
inductive Cut (encode : Item → List UInt8) (memory : Memory) (stop : Nat) :
    Nat → List Item → Prop
  | done {start : Nat} : stop ≤ start → Cut encode memory stop start []
  | item {start : Nat} {item : Item} {items : List Item} : start < stop →
      Holds memory start (encode item) →
      Cut encode memory stop (start + (encode item).length) items →
      Cut encode memory stop start (item :: items)

/-- Every place of a memory begins with one item, and with one only. -/
structure Readable (encode : Item → List UInt8) : Prop where
  nonempty : ∀ item, 0 < (encode item).length
  exist : ∀ memory start, ∃ item, Holds memory start (encode item)
  unique : ∀ {memory start item other}, Holds memory start (encode item) →
    Holds memory start (encode other) → item = other

variable {encode : Item → List UInt8} {memory : Memory} {start stop : Nat}

theorem Readable.exists_cut (readable : Readable encode) (memory : Memory) (start stop : Nat) :
    ∃ items, Cut encode memory stop start items := by
  -- the induction is on what is left; every item takes at least one byte of it
  induction left : stop - start using Nat.strong_induction_on generalizing start with
  | _ left induction =>
      by_cases further : start < stop
      · rcases readable.exist memory start with ⟨item, held⟩
        have positive := readable.nonempty item
        rcases induction (stop - (start + (encode item).length)) (by omega) _ rfl with
          ⟨items, cut⟩
        exact ⟨item :: items, .item further held cut⟩
      · exact ⟨[], .done (Nat.not_lt.mp further)⟩

theorem Cut.unique (readable : Readable encode) {items others : List Item}
    (cut : Cut encode memory stop start items) (other : Cut encode memory stop start others) :
    items = others := by
  induction cut generalizing others with
  | done reached =>
      cases other with
      | done _ => rfl
      | item further _ _ => exact absurd further (Nat.not_lt.mpr reached)
  | item further held _ induction =>
      cases other with
      | done reached => exact absurd further (Nat.not_lt.mpr reached)
      | item _ otherHeld rest =>
          obtain rfl := readable.unique held otherHeld
          rw [induction rest]

def cutEnd (encode : Item → List UInt8) (start : Nat) (items : List Item) : Nat :=
  start + (items.flatMap encode).length

@[simp] theorem cut_end_cons (start : Nat) (item : Item) (items : List Item) :
    cutEnd encode start (item :: items) = cutEnd encode (start + (encode item).length) items := by
  rw [cutEnd, cutEnd, List.flatMap_cons, List.length_append, Nat.add_assoc]

theorem Cut.stop_le {items : List Item} (cut : Cut encode memory stop start items) :
    stop ≤ cutEnd encode start items := by
  induction cut with
  | done reached => exact reached
  | item _ _ _ induction =>
      rw [cut_end_cons]
      exact induction

theorem Cut.holds {items : List Item} (cut : Cut encode memory stop start items) :
    Holds memory start (items.flatMap encode) := by
  induction cut with
  | done _ => trivial
  | item _ held _ induction =>
      rw [List.flatMap_cons, holds_append]
      exact ⟨held, induction⟩

theorem Readable.cut_of_holds (readable : Readable encode) {items : List Item}
    (held : Holds memory start (items.flatMap encode)) :
    Cut encode memory (cutEnd encode start items) start items := by
  induction items generalizing start with
  | nil => exact .done le_rfl
  | cons item items induction =>
      rw [List.flatMap_cons, holds_append] at held
      have positive := readable.nonempty item
      have further : start < cutEnd encode start (item :: items) := by
        rw [cutEnd, List.flatMap_cons, List.length_append]
        omega
      refine .item further held.1 ?_
      rw [cut_end_cons]
      exact induction held.2

/-- Whole items in front of the end, and whatever the loop meets behind them. -/
theorem Readable.cut_append (readable : Readable encode) {front items : List Item}
    (held : Holds memory start (front.flatMap encode)) (inside : cutEnd encode start front ≤ stop)
    (rest : Cut encode memory stop (cutEnd encode start front) items) :
    Cut encode memory stop start (front ++ items) := by
  induction front generalizing start with
  | nil => exact rest
  | cons item front induction =>
      rw [List.flatMap_cons, holds_append] at held
      rw [cut_end_cons] at inside rest
      have positive := readable.nonempty item
      have further : start < stop := by
        rw [cutEnd] at inside
        omega
      exact .item further held.1 (induction held.2 inside rest)

theorem holds_shift {offset : Nat} {bytes : List UInt8}
    (held : Holds (fun address => memory (offset + address)) start bytes) :
    Holds memory (offset + start) bytes := by
  induction bytes generalizing start with
  | nil => trivial
  | cons byte bytes induction => exact ⟨held.1, induction held.2⟩

theorem Cut.shift {items : List Item} (offset : Nat)
    (cut : Cut encode (fun address => memory (offset + address)) stop start items) :
    Cut encode memory (offset + stop) (offset + start) items := by
  induction cut with
  | done reached => exact .done (Nat.add_le_add_left reached offset)
  | item further held _ induction =>
      refine .item (Nat.add_lt_add_left further offset) (holds_shift held) ?_
      rw [Nat.add_assoc]
      exact induction

theorem Cut.length_le (readable : Readable encode) {items : List Item}
    (cut : Cut encode memory stop start items) : items.length ≤ stop - start := by
  induction cut with
  | done _ => exact Nat.zero_le _
  | @item start item items further _ _ induction =>
      have positive := readable.nonempty item
      rw [List.length_cons]
      omega

end SmartHome.Library.MemoryCuts
