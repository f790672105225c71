import Mathlib.Algebra.Order.BigOperators.Group.Finset
import Mathlib.Data.Fintype.Basic
import Mathlib.Logic.Function.Basic

/-!
# Critical sections

Threads run pieces of code over a shared memory, one statement at a time and in any order,
but only while they hold a binary semaphore. Such a piece takes effect as a whole: what the
memory will be when the thread inside is through is settled from the moment it enters, and
no step of any thread changes it until the next one enters.
-/

namespace SmartHome.Library.CriticalSections

open Function

set_option autoImplicit false

variable {Thread Shared Registers : Type*}

/-- Code over shared memory and the registers of one thread. A statement without a result is an
access that the memory does not allow. -/
inductive Code (Shared Registers : Type*)
  | done
  | act (statement : Shared → Registers → Option (Shared × Registers))
      (rest : Code Shared Registers)
  | test (condition : Shared → Bool) (yes no : Code Shared Registers)

namespace Code

def next : Code Shared Registers → Shared → Registers →
    Option (Code Shared Registers × Shared × Registers)
  | done, _, _ => none
  | act statement rest, shared, registers =>
      (statement shared registers).map fun result => (rest, result.1, result.2)
  | test condition yes no, shared, registers =>
      some (if condition shared then yes else no, shared, registers)

/-- The code runs to its end without a forbidden access, what holds at the end is this, and at each
point of the way the memory is fit to be seen by others. -/
def Ensures (visible : Shared → Prop) (post : Shared → Registers → Prop) :
    Code Shared Registers → Shared → Registers → Prop
  | done, shared, registers => visible shared ∧ post shared registers
  | act statement rest, shared, registers =>
      visible shared ∧ ∃ result, statement shared registers = some result ∧
        Ensures visible post rest result.1 result.2
  | test condition yes no, shared, registers =>
      visible shared ∧
        if condition shared then Ensures visible post yes shared registers
        else Ensures visible post no shared registers

variable {visible : Shared → Prop} {post : Shared → Registers → Prop}

theorem Ensures.seen {code : Code Shared Registers} {shared : Shared} {registers : Registers}
    (ensures : code.Ensures visible post shared registers) : visible shared := by
  cases code with
  | done => exact ensures.1
  | act statement rest => exact ensures.1
  | test condition yes no => exact ensures.1

theorem Ensures.next {code rest : Code Shared Registers} {shared after : Shared}
    {registers left : Registers} (ensures : code.Ensures visible post shared registers)
    (stepped : code.next shared registers = some (rest, after, left)) :
    rest.Ensures visible post after left := by
  cases code with
  | done => cases stepped
  | act statement behind =>
      rcases ensures with ⟨_, result, ran, later⟩
      rw [Code.next, ran, Option.map_some, Option.some.injEq] at stepped
      cases stepped
      exact later
  | test condition yes no =>
      rw [Code.next, Option.some.injEq] at stepped
      cases stepped
      have chosen := ensures.2
      split_ifs at chosen ⊢ with holds
      · exact chosen
      · exact chosen

theorem Ensures.next_isSome {code : Code Shared Registers} {shared : Shared}
    {registers : Registers} (ensures : code.Ensures visible post shared registers)
    (going : code ≠ .done) : (code.next shared registers).isSome := by
  cases code with
  | done => exact absurd rfl going
  | act statement behind =>
      rcases ensures with ⟨_, result, ran, _⟩
      rw [Code.next, ran, Option.map_some, Option.isSome_some]
  | test condition yes no => rfl

end Code

/-- A shared memory, the semaphore that guards it, and the threads inside with the code that is
left to them. -/
structure Monitor (Thread Shared Registers : Type*) where
  shared : Shared
  semaphore : Nat
  inside : Thread → Option (Code Shared Registers × Registers)

namespace Monitor

/-- What the memory satisfies once the thread inside is through, who that is, and with which
registers it will leave. -/
inductive Settles (monitor : Monitor Thread Shared Registers) (visible after : Shared → Prop) :
    Option (Thread × Registers) → Prop
  | free (opened : monitor.semaphore = 1) (empty : ∀ thread, monitor.inside thread = none)
      (seen : visible monitor.shared) (holds : after monitor.shared) :
      Settles monitor visible after none
  | held (thread : Thread) (code : Code Shared Registers) (registers result : Registers)
      (closed : monitor.semaphore = 0) (here : monitor.inside thread = some (code, registers))
      (others : ∀ other, other ≠ thread → monitor.inside other = none)
      (ensures : code.Ensures visible (fun shared left => after shared ∧ left = result)
        monitor.shared registers) :
      Settles monitor visible after (some (thread, result))

variable {monitor next : Monitor Thread Shared Registers} {visible after : Shared → Prop}
  {who : Option (Thread × Registers)}

theorem Settles.seen (settles : monitor.Settles visible after who) : visible monitor.shared := by
  cases settles with
  | free opened empty seen holds => exact seen
  | held thread code registers result closed here others ensures => exact ensures.seen

theorem Settles.exclusive (settles : monitor.Settles visible after who) {one two : Thread}
    (first : monitor.inside one ≠ none) (second : monitor.inside two ≠ none) : one = two := by
  cases settles with
  | free opened empty seen holds => exact absurd (empty one) first
  | held thread code registers result closed here others ensures =>
      have isFirst : one = thread := by
        by_contra other
        exact first (others one other)
      have isSecond : two = thread := by
        by_contra other
        exact second (others two other)
      rw [isFirst, isSecond]

variable [DecidableEq Thread]

def enter (thread : Thread) (code : Code Shared Registers) (registers : Registers)
    (monitor : Monitor Thread Shared Registers) : Option (Monitor Thread Shared Registers) :=
  if 0 < monitor.semaphore then
    some { monitor with
      semaphore := monitor.semaphore - 1
      inside := update monitor.inside thread (some (code, registers)) }
  else none

def advance (thread : Thread) (monitor : Monitor Thread Shared Registers) :
    Option (Monitor Thread Shared Registers) :=
  (monitor.inside thread).bind fun section_ =>
    (section_.1.next monitor.shared section_.2).map fun result =>
      { monitor with
        shared := result.2.1
        inside := update monitor.inside thread (some (result.1, result.2.2)) }

def leave (thread : Thread) (monitor : Monitor Thread Shared Registers) :
    Option (Registers × Monitor Thread Shared Registers) :=
  match monitor.inside thread with
  | some (.done, registers) =>
      some (registers,
        { monitor with
          semaphore := monitor.semaphore + 1
          inside := update monitor.inside thread none })
  | _ => none

theorem enter_inside {thread : Thread} {code : Code Shared Registers} {registers : Registers}
    {monitor next : Monitor Thread Shared Registers}
    (entered : monitor.enter thread code registers = some next) :
    next.inside = update monitor.inside thread (some (code, registers)) := by
  rw [enter, Option.ite_none_right_eq_some, Option.some.injEq] at entered
  rcases entered with ⟨_, rfl⟩
  rfl

theorem advance_inside {thread : Thread} {monitor next : Monitor Thread Shared Registers}
    (advanced : monitor.advance thread = some next) (other : Thread) :
    next.inside other ≠ none ↔ monitor.inside other ≠ none := by
  rw [advance, Option.bind_eq_some_iff] at advanced
  rcases advanced with ⟨section_, here, stepped⟩
  rw [Option.map_eq_some_iff] at stepped
  rcases stepped with ⟨result, _, rfl⟩
  by_cases this : other = thread
  · subst this
    simp only [update_self, here, ne_eq, reduceCtorEq, not_false_iff]
  · simp only [update_of_ne this]

theorem leave_inside {thread : Thread} {registers : Registers}
    {monitor next : Monitor Thread Shared Registers}
    (left : monitor.leave thread = some (registers, next)) :
    next.inside = update monitor.inside thread none := by
  rw [leave] at left
  split at left
  · cases left
    rfl
  · cases left

/-- A thread inside is never stuck. -/
theorem Settles.advances (settles : monitor.Settles visible after who) {thread : Thread}
    {code : Code Shared Registers} {registers : Registers}
    (here : monitor.inside thread = some (code, registers)) (going : code ≠ .done) :
    (monitor.advance thread).isSome := by
  cases settles with
  | free opened empty seen holds =>
      rw [empty thread] at here
      cases here
  | held holder running left result closed inside others ensures =>
      have same : thread = holder := by
        by_contra other
        rw [others thread other] at here
        cases here
      subst same
      rw [here, Option.some.injEq, Prod.mk.injEq] at inside
      rcases inside with ⟨rfl, rfl⟩
      rw [advance, here, Option.bind_some, Option.isSome_map]
      exact ensures.next_isSome going

theorem Settles.enter (settles : monitor.Settles visible after who) {thread : Thread}
    {code : Code Shared Registers} {registers result : Registers}
    (entered : monitor.enter thread code registers = some next) {later seen : Shared → Prop}
    (ensures : after monitor.shared →
      code.Ensures seen (fun shared left => later shared ∧ left = result) monitor.shared
        registers) :
    who = none ∧ next.Settles seen later (some (thread, result)) := by
  rw [Monitor.enter, Option.ite_none_right_eq_some, Option.some.injEq] at entered
  rcases entered with ⟨positive, rfl⟩
  cases settles with
  | held holder running left result closed inside others ensures => omega
  | free opened empty seen holds =>
      refine ⟨rfl, .held thread code registers result ?_ ?_ ?_ (ensures holds)⟩
      · simp only [opened]
      · exact update_self _ _ _
      · intro other different
        exact (update_of_ne different _ _).trans (empty other)

theorem Settles.advance (settles : monitor.Settles visible after who) {thread : Thread}
    (advanced : monitor.advance thread = some next) : next.Settles visible after who := by
  rw [Monitor.advance, Option.bind_eq_some_iff] at advanced
  rcases advanced with ⟨⟨code, registers⟩, here, stepped⟩
  rw [Option.map_eq_some_iff] at stepped
  rcases stepped with ⟨⟨rest, shared, left⟩, ran, rfl⟩
  cases settles with
  | free opened empty seen holds =>
      rw [empty thread] at here
      cases here
  | held holder running registers' result closed inside others ensures =>
      have same : thread = holder := by
        by_contra other
        rw [others thread other] at here
        cases here
      subst same
      rw [here, Option.some.injEq, Prod.mk.injEq] at inside
      rcases inside with ⟨rfl, rfl⟩
      refine .held thread rest left result closed (update_self _ _ _) ?_ (ensures.next ran)
      intro other different
      exact (update_of_ne different _ _).trans (others other different)

theorem Settles.leave (settles : monitor.Settles visible after who) {thread : Thread}
    {registers : Registers} (left : monitor.leave thread = some (registers, next)) :
    who = some (thread, registers) ∧ next.Settles visible after none := by
  rw [Monitor.leave] at left
  split at left
  · next finished here =>
      rw [Option.some.injEq, Prod.mk.injEq] at left
      rcases left with ⟨rfl, rfl⟩
      cases settles with
      | free opened empty seen holds =>
          rw [empty thread] at here
          cases here
      | held holder running kept result closed inside others ensures =>
          have same : thread = holder := by
            by_contra other
            rw [others thread other] at here
            cases here
          subst same
          rw [here, Option.some.injEq, Prod.mk.injEq] at inside
          rcases inside with ⟨rfl, rfl⟩
          rcases ensures with ⟨seen, holds, rfl⟩
          refine ⟨rfl, .free (by simp only [closed]) ?_ seen holds⟩
          intro other
          by_cases this : other = thread
          · subst this
            exact update_self _ _ _
          · exact (update_of_ne this _ _).trans (others other this)
  · cases left

end Monitor

section Exclusion

variable {Local : Type*} {inside : Local → Prop} {threads : Thread → Local}
  {semaphore : Nat} {who : Option Thread} {thread : Thread} {now : Local}

inductive Sole (inside : Local → Prop) (threads : Thread → Local) (semaphore : Nat) :
    Option Thread → Prop
  | free (opened : semaphore = 1) (nobody : ∀ thread, ¬inside (threads thread)) :
      Sole inside threads semaphore none
  | held (thread : Thread) (closed : semaphore = 0) (here : inside (threads thread))
      (others : ∀ other, other ≠ thread → ¬inside (threads other)) :
      Sole inside threads semaphore (some thread)

theorem Sole.of_inside (sole : Sole inside threads semaphore who)
    (here : inside (threads thread)) : who = some thread := by
  cases sole with
  | free opened nobody => exact absurd here (nobody thread)
  | held holder closed held others =>
      by_contra different
      exact others thread (fun same => different (congrArg some same.symm)) here

variable [DecidableEq Thread]

theorem not_inside_update (others : ∀ other, other ≠ thread → ¬inside (threads other))
    (outside : ¬inside now) (other : Thread) : ¬inside (update threads thread now other) := by
  by_cases this : other = thread
  · rwa [this, update_self]
  · rw [update_of_ne this]
    exact others other this

theorem Sole.enter (sole : Sole inside threads semaphore who) (positive : 0 < semaphore)
    (enters : inside now) :
    who = none ∧ Sole inside (update threads thread now) (semaphore - 1) (some thread) := by
  cases sole with
  | held holder closed held others => omega
  | free opened nobody =>
      refine ⟨rfl, .held thread (by omega) (by rwa [update_self]) ?_⟩
      intro other different
      rw [update_of_ne different]
      exact nobody other

theorem Sole.stay (sole : Sole inside threads semaphore who) (here : inside (threads thread))
    (stays : inside now) : Sole inside (update threads thread now) semaphore (some thread) := by
  have mine := sole.of_inside here
  subst mine
  cases sole with
  | held holder closed held others =>
      refine .held thread closed (by rwa [update_self]) ?_
      intro other different
      rw [update_of_ne different]
      exact others other different

theorem Sole.leave (sole : Sole inside threads semaphore who) (here : inside (threads thread))
    (leaves : ¬inside now) : Sole inside (update threads thread now) (semaphore + 1) none := by
  have mine := sole.of_inside here
  subst mine
  cases sole with
  | held holder closed held others => exact .free (by omega) (not_inside_update others leaves)

theorem Sole.aside (sole : Sole inside threads semaphore who) (outside : ¬inside (threads thread))
    (stays : ¬inside now) :
    who ≠ some thread ∧ Sole inside (update threads thread now) semaphore who := by
  cases sole with
  | free opened nobody =>
      exact ⟨nofun, .free opened (not_inside_update (fun other _ => nobody other) stays)⟩
  | held holder closed held others =>
      have different : holder ≠ thread := fun same => outside (same ▸ held)
      refine ⟨fun same => different (Option.some.inj same), .held holder closed ?_ ?_⟩
      · rwa [update_of_ne different]
      · intro other elsewhere
        by_cases this : other = thread
        · rwa [this, update_self]
        · rw [update_of_ne this]
          exact others other elsewhere

end Exclusion

section Counting

variable {Local : Type*} [Fintype Thread]

def total (share : Local → Nat) (threads : Thread → Local) : Nat :=
  ∑ thread, share (threads thread)

theorem share_le_total (share : Local → Nat) (threads : Thread → Local) (thread : Thread) :
    share (threads thread) ≤ total share threads := by
  have single : ∑ other ∈ {thread}, share (threads other) = share (threads thread) :=
    Finset.sum_singleton _ thread
  rw [← single]
  exact Finset.sum_le_sum_of_subset (Finset.subset_univ _)

variable [DecidableEq Thread]

theorem total_update (share : Local → Nat) (threads : Thread → Local) (thread : Thread)
    (now : Local) :
    total share (update threads thread now) + share (threads thread) =
      total share threads + share now := by
  have rest : ∑ other ∈ Finset.univ.erase thread, share (update threads thread now other) =
      ∑ other ∈ Finset.univ.erase thread, share (threads other) := by
    apply Finset.sum_congr rfl
    intro other member
    rw [update_of_ne (Finset.ne_of_mem_erase member)]
  have whole := Finset.sum_erase_add Finset.univ (fun other => share (threads other))
    (Finset.mem_univ thread)
  have changed := Finset.sum_erase_add Finset.univ
    (fun other => share (update threads thread now other)) (Finset.mem_univ thread)
  rw [total, total, ← whole, ← changed, rest, update_self]
  omega

theorem shares_le_total (share : Local → Nat) (threads : Thread → Local) {one two : Thread}
    (different : one ≠ two) : share (threads one) + share (threads two) ≤ total share threads := by
  have pair : ∑ thread ∈ {one, two}, share (threads thread) =
      share (threads one) + share (threads two) := Finset.sum_pair different
  rw [← pair]
  exact Finset.sum_le_sum_of_subset (Finset.subset_univ _)

end Counting

end SmartHome.Library.CriticalSections
