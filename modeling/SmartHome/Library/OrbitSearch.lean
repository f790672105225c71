import Mathlib.Logic.Function.Iterate

/-!
# Searching along an orbit

A loop that moves on before it tests, as a `do … while` does: it visits what lies
behind its start on the orbit of one function and ends at the first place where the
test holds. It ends as soon as the orbit has such a place at all.
-/

namespace SmartHome.Library.OrbitSearch

set_option autoImplicit false

variable {State : Type*} {next : State → State} {stop : State → Bool} {start final : State}
  {fuel count : Nat}

def firstAlong (next : State → State) (stop : State → Bool) : Nat → State → Option State
  | 0, _ => none
  | fuel + 1, state =>
      if stop (next state) then some (next state) else firstAlong next stop fuel (next state)

/-- With fuel for every place up to one that stops, the loop ends. -/
theorem first_along_terminates (inside : count < fuel)
    (stops : stop (next^[count + 1] start) = true) :
    (firstAlong next stop fuel start).isSome := by
  induction fuel generalizing start count with
  | zero => omega
  | succ fuel induction =>
      rw [firstAlong]
      split
      · rfl
      · rename_i goes_on
        cases count with
        | zero => exact absurd stops goes_on
        | succ count =>
            rw [Function.iterate_succ_apply] at stops
            exact induction (by omega) stops

/-- Where the loop ends, and what it has passed on the way. -/
theorem first_along_spec (found : firstAlong next stop fuel start = some final) :
    ∃ count < fuel, final = next^[count + 1] start ∧ stop final = true ∧
      ∀ earlier < count, stop (next^[earlier + 1] start) = false := by
  induction fuel generalizing start with
  | zero => cases found
  | succ fuel induction =>
      rw [firstAlong] at found
      split at found
      · rename_i stops
        rw [← Option.some.inj found]
        refine ⟨0, by omega, rfl, stops, ?_⟩
        intro earlier before
        omega
      · rename_i goes_on
        rcases induction found with ⟨count, inside, place, stops, passed⟩
        refine ⟨count + 1, by omega, place, stops, ?_⟩
        intro earlier before
        cases earlier with
        | zero => exact Bool.eq_false_iff.mpr goes_on
        | succ earlier => exact passed earlier (by omega)

end SmartHome.Library.OrbitSearch
