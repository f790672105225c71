import Mathlib.Data.Option.Basic

/-!
# Runs of a step function

A step function takes an event to the next state, or stops. Runs are considered
under a condition on each step: `Reachable` collects the states of all runs whose
steps meet it, `Meets` and `Always` speak about one run from its start. An invariant
is proved for one step and carried to runs here.
-/

namespace SmartHome.Library.Runs

set_option autoImplicit false

variable {State Event : Type*} {step : State → Event → Option State}
  {allowed : State → Event → Prop} {start : State → Prop}

def run (step : State → Event → Option State) (state : State) : List Event → Option State
  | [] => some state
  | event :: events => (step state event).bind (run step · events)

inductive Reachable (step : State → Event → Option State) (allowed : State → Event → Prop)
    (start : State → Prop) : State → Prop
  | start {state : State} : start state → Reachable step allowed start state
  | step {state next : State} {event : Event} : Reachable step allowed start state →
      allowed state event → step state event = some next → Reachable step allowed start next

/-- Every step of the run is taken where it is allowed. -/
def Meets (step : State → Event → Option State) (allowed : State → Event → Prop) :
    State → List Event → Prop
  | _, [] => True
  | state, event :: events =>
      allowed state event ∧ ∀ next, step state event = some next → Meets step allowed next events

/-- The property holds at the start and after every step. -/
def Always (step : State → Event → Option State) (property : State → Prop) :
    State → List Event → Prop
  | state, [] => property state
  | state, event :: events =>
      property state ∧
        ∀ next, step state event = some next → Always step property next events

/-- The rule of invariants. -/
theorem Reachable.invariant {holds : State → Prop} {state : State}
    (reachable : Reachable step allowed start state) (initial : ∀ state, start state → holds state)
    (preserved : ∀ state event next, holds state → allowed state event →
      step state event = some next → holds next) : holds state := by
  induction reachable with
  | start started => exact initial _ started
  | step _ permitted stepped induction => exact preserved _ _ _ induction permitted stepped

theorem Reachable.weaken {weaker : State → Event → Prop} {state : State}
    (reachable : Reachable step allowed start state)
    (implied : ∀ state event, allowed state event → weaker state event) :
    Reachable step weaker start state := by
  induction reachable with
  | start started => exact .start started
  | step _ permitted stepped induction => exact .step induction (implied _ _ permitted) stepped

theorem Reachable.map {Part Act : Type*} {part : State → Part} {act : Event → Act}
    {partStep : Part → Act → Option Part} {partAllowed : Part → Act → Prop}
    {partStart : Part → Prop} {state : State}
    (reachable : Reachable step (fun state event => partAllowed (part state) (act event)) start
      state)
    (initial : ∀ state, start state → partStart (part state))
    (moves : ∀ state event next, step state event = some next →
      partStep (part state) (act event) = some (part next)) :
    Reachable partStep partAllowed partStart (part state) := by
  induction reachable with
  | start started => exact .start (initial _ started)
  | step _ permitted stepped induction => exact .step induction permitted (moves _ _ _ stepped)

theorem reachable_run {state final : State} {events : List Event}
    (reachable : Reachable step allowed start state) (meets : Meets step allowed state events)
    (ran : run step state events = some final) : Reachable step allowed start final := by
  induction events generalizing state with
  | nil =>
      rw [run, Option.some.injEq] at ran
      exact ran ▸ reachable
  | cons event events induction =>
      rw [run, Option.bind_eq_some_iff] at ran
      rcases ran with ⟨next, stepped, later⟩
      exact induction (.step reachable meets.1 stepped) (meets.2 next stepped) later

theorem meets_of_forall {events : List Event}
    (permitted : ∀ event ∈ events, ∀ state, allowed state event) (state : State) :
    Meets step allowed state events := by
  induction events generalizing state with
  | nil => exact trivial
  | cons event events induction =>
      rcases List.forall_mem_cons.mp permitted with ⟨now, later⟩
      exact ⟨now state, fun next _ => induction later next⟩

theorem meets_and {other : State → Event → Prop} {state : State} {events : List Event}
    (first : Meets step allowed state events) (second : Meets step other state events) :
    Meets step (fun state event => allowed state event ∧ other state event) state events := by
  induction events generalizing state with
  | nil => exact trivial
  | cons event events induction =>
      refine ⟨⟨first.1, second.1⟩, ?_⟩
      intro next stepped
      exact induction (first.2 next stepped) (second.2 next stepped)

theorem meets_congr {other : State → Event → Prop}
    (same : ∀ state event, allowed state event ↔ other state event) (state : State)
    (events : List Event) : Meets step allowed state events ↔ Meets step other state events := by
  have equal : allowed = other := by
    funext state event
    exact propext (same state event)
  rw [equal]

theorem Always.first {property : State → Prop} {state : State} {events : List Event}
    (always : Always step property state events) : property state := by
  cases events with
  | nil => exact always
  | cons event events => exact always.1

theorem Always.last {property : State → Prop} {state final : State} {events : List Event}
    (always : Always step property state events) (ran : run step state events = some final) :
    property final := by
  induction events generalizing state with
  | nil =>
      rw [run, Option.some.injEq] at ran
      exact ran ▸ always
  | cons event events induction =>
      rw [run, Option.bind_eq_some_iff] at ran
      rcases ran with ⟨next, stepped, later⟩
      exact induction (always.2 next stepped) later

/-- An invariant that every allowed step preserves and every other step leaves by breaking the
property: the property lasts exactly as long as all steps are allowed. -/
theorem always_iff_meets {holds property : State → Prop}
    (implied : ∀ state, holds state → property state)
    (preserved : ∀ state event next, holds state → allowed state event →
      step state event = some next → holds next)
    (broken : ∀ state event, holds state → ¬allowed state event →
      ∃ next, step state event = some next ∧ ¬property next)
    {state : State} (initial : holds state) (events : List Event) :
    Always step property state events ↔ Meets step allowed state events := by
  induction events generalizing state with
  | nil => exact iff_of_true (implied state initial) trivial
  | cons event events induction =>
      constructor
      · intro always
        have permitted : allowed state event := by
          by_contra refused
          rcases broken state event initial refused with ⟨next, stepped, fails⟩
          exact fails (always.2 next stepped).first
        refine ⟨permitted, ?_⟩
        intro next stepped
        have kept := preserved state event next initial permitted stepped
        exact (induction kept).mp (always.2 next stepped)
      · intro meets
        refine ⟨implied state initial, ?_⟩
        intro next stepped
        have kept := preserved state event next initial meets.1 stepped
        exact (induction kept).mpr (meets.2 next stepped)

section Guarded

variable [∀ state event, Decidable (allowed state event)]

def guarded (step : State → Event → Option State) (allowed : State → Event → Prop)
    [∀ state event, Decidable (allowed state event)] (state : State) (event : Event) :
    Option State :=
  if allowed state event then step state event else none

/-- A run of allowed steps is found by evaluation. -/
theorem run_of_run_guarded {state final : State} {events : List Event}
    (ran : run (guarded step allowed) state events = some final) :
    Meets step allowed state events ∧ run step state events = some final := by
  induction events generalizing state with
  | nil => exact ⟨trivial, ran⟩
  | cons event events induction =>
      rw [run, Option.bind_eq_some_iff] at ran
      rcases ran with ⟨next, stepped, later⟩
      rw [guarded, Option.ite_none_right_eq_some] at stepped
      rcases stepped with ⟨permitted, stepped⟩
      rcases induction later with ⟨meets, ranLater⟩
      refine ⟨⟨permitted, ?_⟩, ?_⟩
      · intro other same
        rw [stepped, Option.some.injEq] at same
        exact same ▸ meets
      · rw [run, stepped]
        exact ranLater

end Guarded

/-- The run comes to its end, and every step of it is good. -/
def Proceeds (step : State → Event → Option State) (good : State → Event → State → Prop) :
    State → List Event → Prop
  | _, [] => True
  | state, event :: events =>
      ∃ next, step state event = some next ∧ good state event next ∧ Proceeds step good next events

theorem proceeds_iff_meets {good : State → Event → State → Prop}
    (succeeds : ∀ state event, allowed state event → ∃ next, step state event = some next)
    (stops : ∀ state event, ¬allowed state event → step state event = none)
    (sound : ∀ state event next, step state event = some next → good state event next)
    (state : State) (events : List Event) :
    Proceeds step good state events ↔ Meets step allowed state events := by
  induction events generalizing state with
  | nil => exact Iff.rfl
  | cons event events induction =>
      constructor
      · rintro ⟨next, stepped, -, later⟩
        have permitted : allowed state event := by
          by_contra refused
          rw [stops state event refused] at stepped
          cases stepped
        refine ⟨permitted, ?_⟩
        intro other same
        rw [stepped, Option.some.injEq] at same
        rw [← same]
        exact (induction next).mp later
      · rintro ⟨permitted, later⟩
        rcases succeeds state event permitted with ⟨next, stepped⟩
        exact ⟨next, stepped, sound state event next stepped, (induction next).mpr
          (later next stepped)⟩

theorem run_append (state : State) (front back : List Event) :
    run step state (front ++ back) = (run step state front).bind (run step · back) := by
  induction front generalizing state with
  | nil => rfl
  | cons event front induction =>
      simp only [List.cons_append, run, induction, Option.bind_assoc]

def observed {Note : Type*} (step : State → Event → Option State)
    (observe : State → Event → Option Note) : State → List Event → List Note
  | _, [] => []
  | state, event :: events =>
      (observe state event).toList ++
        ((step state event).map fun next => observed step observe next events).getD []

theorem observed_cons {Note : Type*} {observe : State → Event → Option Note} {state next : State}
    {event : Event} (stepped : step state event = some next) (events : List Event) :
    observed step observe state (event :: events) =
      (observe state event).toList ++ observed step observe next events := by
  rw [observed, stepped, Option.map_some, Option.getD_some]

theorem observed_map {Note Part : Type*} {observe : State → Event → Option Note}
    {seen : State → Event → Option Part} {part : Note → Part}
    (same : ∀ state event, (observe state event).map part = seen state event) (state : State)
    (events : List Event) :
    (observed step observe state events).map part = observed step seen state events := by
  induction events generalizing state with
  | nil => rfl
  | cons event events induction =>
      have first : (observe state event).toList.map part = (seen state event).toList := by
        rw [← same]
        cases observe state event <;> rfl
      rw [observed, observed, List.map_append, first]
      cases step state event with
      | none => rfl
      | some next => rw [Option.map_some, Option.map_some, Option.getD_some, Option.getD_some,
          induction]

theorem run_observed {Part Note : Type*} {part : State → Part}
    {partStep : Part → Note → Option Part} {observe : State → Event → Option Note}
    (moves : ∀ state event next, step state event = some next →
      run partStep (part state) (observe state event).toList = some (part next))
    {state final : State} {events : List Event} (ran : run step state events = some final) :
    run partStep (part state) (observed step observe state events) = some (part final) := by
  induction events generalizing state with
  | nil =>
      rw [run, Option.some.injEq] at ran
      rw [observed, run, ran]
  | cons event events induction =>
      rw [run, Option.bind_eq_some_iff] at ran
      rcases ran with ⟨next, stepped, later⟩
      rw [observed_cons stepped, run_append, moves state event next stepped, Option.bind_some]
      exact induction later

/-- A system that follows another one: it takes the step that an event stands for, or none if the event
is not to be noted. Its runs are made of such steps, and note the same. -/
theorem run_followed {Other Act Note : Type*} {otherStep : Other → Act → Option Other}
    {follows : Other → State → Prop} {erase : Event → Option Act} {noted : Event → Option Note}
    {notedOther : Act → Option Note}
    (simulates : ∀ other state event next, follows other state → step state event = some next →
      noted event = none ∧ follows other next ∨
        ∃ act after, erase event = some act ∧ notedOther act = noted event ∧
          otherStep other act = some after ∧ follows after next)
    {other : Other} {state final : State} {events : List Event} (start : follows other state)
    (ran : run step state events = some final) :
    ∃ acts after, acts.Sublist (events.filterMap erase) ∧
      acts.filterMap notedOther = events.filterMap noted ∧
      run otherStep other acts = some after ∧ follows after final := by
  induction events generalizing other state with
  | nil =>
      rw [run, Option.some.injEq] at ran
      exact ⟨[], other, List.Sublist.slnil, rfl, rfl, ran ▸ start⟩
  | cons event events induction =>
      rw [run, Option.bind_eq_some_iff] at ran
      rcases ran with ⟨next, stepped, later⟩
      cases simulates other state event next start stepped with
      | inl stays =>
          rcases induction stays.2 later with ⟨acts, after, within, notes, followed, last⟩
          refine ⟨acts, after, within.trans ?_, ?_, followed, last⟩
          · exact (List.sublist_cons_self event events).filterMap erase
          · rw [notes, List.filterMap_cons_none stays.1]
      | inr moves =>
          rcases moves with ⟨act, moved, erased, same, took, now⟩
          rcases induction now later with ⟨acts, after, within, notes, followed, last⟩
          refine ⟨act :: acts, after, ?_, ?_, ?_, last⟩
          · rw [List.filterMap_cons_some erased]
            exact within.cons_cons act
          · rw [List.filterMap_cons, List.filterMap_cons, same, notes]
          · rw [run, took]
            exact followed

end SmartHome.Library.Runs
