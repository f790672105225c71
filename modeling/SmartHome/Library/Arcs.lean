import Mathlib.Data.Nat.Basic

/-!
# Arcs of a circle of places

The places from one to another on a circle of `size` places, both included, in the order
in which a hand that moves one place at a time comes to them.
-/

namespace SmartHome.Library.Arcs

set_option autoImplicit false

/-- The hand starts at `start` and stops at `stop`. -/
inductive OnArc (size start stop : Nat) : Nat → Prop
  | start : OnArc size start stop start
  | next {place : Nat} : OnArc size start stop place → place ≠ stop →
      OnArc size start stop ((place + 1) % size)

/-- How many places lie between one and the next time the hand comes to the other. -/
def gap (size start place : Nat) : Nat :=
  if place < start then place + size - start else place - start

variable {size start stop : Nat}

theorem gap_self (size start : Nat) : gap size start start = 0 := by
  rw [gap, if_neg (Nat.lt_irrefl start), Nat.sub_self]

/-- A step away from `start` makes the gap larger by one, until the hand is back. -/
theorem gap_next {place : Nat} (startInside : start < size) (inside : place < size)
    (around : (place + 1) % size ≠ start) :
    gap size start ((place + 1) % size) = gap size start place + 1 := by
  have wrapped : (place + 1) % size = if place + 1 = size then 0 else place + 1 := by
    split_ifs with last
    · rw [last, Nat.mod_self]
    · exact Nat.mod_eq_of_lt (by omega)
  rw [wrapped] at around ⊢
  unfold gap
  split_ifs at around ⊢ <;> omega

theorem gap_inj {place other : Nat} (startInside : start < size) (inside : place < size)
    (otherInside : other < size) (same : gap size start place = gap size start other) :
    place = other := by
  unfold gap at same
  split_ifs at same <;> omega

theorem OnArc.inside {place : Nat} (startInside : start < size)
    (onArc : OnArc size start stop place) : place < size := by
  cases onArc with
  | start => exact startInside
  | next _ _ => exact Nat.mod_lt _ (Nat.zero_lt_of_lt startInside)

theorem on_arc_iff {place : Nat} (startInside : start < size) (stopInside : stop < size) :
    OnArc size start stop place ↔
      place < size ∧ gap size start place ≤ gap size start stop := by
  constructor
  · intro onArc
    refine ⟨onArc.inside startInside, ?_⟩
    induction onArc with
    | start =>
        rw [gap_self]
        exact Nat.zero_le _
    | @next place before moving induction =>
        have inside := before.inside startInside
        by_cases around : (place + 1) % size = start
        · rw [around, gap_self]
          exact Nat.zero_le _
        · have apart : gap size start place ≠ gap size start stop := by
            intro same
            exact moving (gap_inj startInside inside stopInside same)
          rw [gap_next startInside inside around]
          exact Nat.lt_of_le_of_ne induction apart
  · rintro ⟨inside, near⟩
    -- the hand comes to a place after as many steps as the gap is wide
    have reached : ∀ steps ≤ gap size start stop,
        OnArc size start stop ((start + steps) % size) := by
      intro steps
      induction steps with
      | zero =>
          intro _
          rw [Nat.add_zero, Nat.mod_eq_of_lt startInside]
          exact .start
      | succ steps induction =>
          intro further
          have before := induction (Nat.le_of_succ_le further)
          have moving : (start + steps) % size ≠ stop := by
            have wrapped : (start + steps) % size =
                if start + steps < size then start + steps else start + steps - size := by
              have bound : gap size start stop < size := by
                unfold gap
                split_ifs <;> omega
              split_ifs with below
              · exact Nat.mod_eq_of_lt below
              · rw [Nat.mod_eq_sub_mod (by omega), Nat.mod_eq_of_lt (by omega)]
            rw [wrapped]
            unfold gap at further
            split_ifs at further ⊢ <;> omega
          have step := OnArc.next before moving
          rwa [Nat.mod_add_mod, Nat.add_assoc] at step
    have place_ : (start + gap size start place) % size = place := by
      unfold gap
      split_ifs with behind
      · rw [Nat.add_sub_cancel' (by omega), Nat.add_mod_right, Nat.mod_eq_of_lt inside]
      · rw [Nat.add_sub_cancel' (by omega), Nat.mod_eq_of_lt inside]
    rw [← place_]
    exact reached _ near

end SmartHome.Library.Arcs
