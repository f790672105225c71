import SmartHome.QueueSections

/-!
# The queue under every schedule

Any number of threads add to the queue and take from it, and their statements come in any
order. All that happens is then what one deque does with whole operations, each at the
moment in which its thread gets access: nothing is lost, doubled or taken out of turn,
and the test of `head` without access never goes wrong.
-/

namespace SmartHome.Queue

open Function
open SmartHome.Library.CriticalSections
open SmartHome.Library.Runs

set_option autoImplicit false

variable {Thread : Type*}

inductive Operation (Thread : Type*)
  | add (data : List UInt8) (prio : Int)
  | receive (thread : Thread)

/-- The messages that wait, and those that were handed over, with the threads they went to. -/
structure Deque (Thread : Type*) where
  waiting : List (List UInt8)
  delivered : List (Thread × List UInt8)

def Deque.apply (deque : Deque Thread) : Operation Thread → Option (Deque Thread)
  | .add data prio =>
      some { deque with
        waiting := if prio = 1 then data :: deque.waiting else deque.waiting ++ [data] }
  | .receive thread =>
      match deque.waiting with
      | [] => none
      | message :: waiting => some ⟨waiting, deque.delivered ++ [(thread, message)]⟩

def takesEffect (state : State Thread) : Event Thread → Option (Operation Thread)
  | .enterAdd thread _ _ =>
      match state.phase thread with
      | .adding data prio => some (.add data prio)
      | _ => none
  | .enterReceive thread => some (.receive thread)
  | _ => none

/-- What a thread gets back from `llq_timedreceive`, unless that is a timeout. -/
def returns (state : State Thread) : Event Thread → Option (Thread × Registers)
  | .finish thread =>
      match state.phase thread with
      | .returning registers =>
          if registers.rLength = -1 then none else some (thread, registers)
      | _ => none
  | _ => none

namespace Phase

def Inside (phase : Phase) : Prop := phase = storing ∨ phase = taking

/-- A message that a thread has put in without counting it yet, or has counted off without taking it
out. -/
def share : Phase → Nat
  | storing | added | counted | tested => 1
  | _ => 0

def InHand : Phase → List Registers → Prop
  | taking, pending => pending.length = 1
  | returning registers, pending => pending = if registers.rLength = -1 then [] else [registers]
  | _, pending => pending = []

end Phase

def messageRegisters (message : List UInt8) : Registers := ⟨message, message.length⟩

def Explains (phase : Thread → Phase) (pending : Thread → List Registers)
    (before waiting : List (List UInt8)) : Option (Thread × Registers) → Prop
  | none => before = waiting
  | some (thread, result) =>
      phase thread = .storing ∧ before.length + 1 = waiting.length ∨
        phase thread = .taking ∧ before.length = waiting.length + 1 ∧
          pending thread = [result] ∧ result.rLength ≠ -1

section Refinement

variable [DecidableEq Thread] [Fintype Thread]

/-- The state carries out these operations of the deque, and has returned these messages. -/
structure Refines (state : State Thread) (deque : Deque Thread)
    (returned : List (Thread × Registers)) (pending : Thread → List Registers) : Prop where
  inside : ∀ thread, state.monitor.inside thread ≠ none ↔ (state.phase thread).Inside
  settled : ∃ before who,
    state.monitor.Settles (Guarded before deque.waiting) (Contents deque.waiting) who ∧
      Explains state.phase pending before deque.waiting who
  balanced : deque.waiting.length = state.llqCountSem + total Phase.share state.phase
  delivered : ∀ thread,
    (deque.delivered.filter (·.1 = thread)).map (fun found => messageRegisters found.2) =
      (returned.filter (·.1 = thread)).map Prod.snd ++ pending thread
  inHand : ∀ thread, (state.phase thread).InHand (pending thread)

variable {state next : State Thread} {deque : Deque Thread} {returned : List (Thread × Registers)}
  {pending : Thread → List Registers}

theorem refines_open (temp : Option Address) :
    Refines (llqOpen temp : State Thread) ⟨[], []⟩ [] fun _ => [] where
  inside thread := by
    refine iff_of_false (fun absent => absurd rfl absent) ?_
    rintro (wrong | wrong)
    · cases wrong
    · cases wrong
  settled := by
    have empty : Contents [] (llqOpen temp : State Thread).monitor.shared := by
      refine ⟨[], ⟨rfl, rfl, List.nodup_nil, ?_⟩, rfl⟩
      intro address allocated
      exact absurd rfl allocated
    exact ⟨[], none, .free rfl (fun _ => rfl) (empty.guarded []) empty, rfl⟩
  balanced := by
    have nobody : total Phase.share (llqOpen temp : State Thread).phase = 0 :=
      Finset.sum_const_zero
    rw [nobody]
    rfl
  delivered _ := rfl
  inHand _ := rfl

theorem Refines.move (refines : Refines state deque returned pending) {thread : Thread}
    {phase : Phase} {count : Nat} {later : List (Thread × Registers)} {hand : List Registers}
    (outside : ¬(state.phase thread).Inside) (stays : ¬phase.Inside)
    (counts : count + phase.share = state.llqCountSem + (state.phase thread).share)
    (inHand : phase.InHand hand)
    (mine : (later.filter (·.1 = thread)).map Prod.snd ++ hand =
      (returned.filter (·.1 = thread)).map Prod.snd ++ pending thread)
    (others : ∀ other, other ≠ thread →
      later.filter (·.1 = other) = returned.filter (·.1 = other)) :
    Refines ({ state with llqCountSem := count }.moveTo thread phase) deque later
      (update pending thread hand) where
  inside other := by
    rw [State.move_to_monitor, State.move_to_phase]
    by_cases this : other = thread
    · subst this
      rw [update_self]
      exact iff_of_false (fun inside => outside ((refines.inside other).mp inside)) stays
    · rw [update_of_ne this]
      exact refines.inside other
  settled := by
    rcases refines.settled with ⟨before, who, settles, explains⟩
    refine ⟨before, who, settles, ?_⟩
    match who, explains with
    | none, explains => exact explains
    | some (holder, result), explains =>
        have different : holder ≠ thread := by
          rintro rfl
          exact outside (explains.imp And.left And.left)
        simp only [Explains, State.move_to_phase, update_of_ne different]
        exact explains
  balanced := by
    have shared := total_update Phase.share state.phase thread phase
    have balanced := refines.balanced
    simp only [State.move_to_count, State.move_to_phase]
    omega
  delivered other := by
    by_cases this : other = thread
    · subst this
      rw [refines.delivered, update_self, mine]
    · rw [refines.delivered, update_of_ne this, others other this]
  inHand other := by
    rw [State.move_to_phase]
    by_cases this : other = thread
    · subst this
      rw [update_self, update_self]
      exact inHand
    · rw [update_of_ne this, update_of_ne this]
      exact refines.inHand other

/-- A thread with a share finds the queue nonempty, also while another thread is inside. -/
theorem Refines.head_ne_none (refines : Refines state deque returned pending) {thread : Thread}
    (outside : ¬(state.phase thread).Inside) (owed : (state.phase thread).share = 1) :
    state.monitor.shared.head ≠ none := by
  rcases refines.settled with ⟨before, who, settles, explains⟩
  have balanced := refines.balanced
  have mine := share_le_total Phase.share state.phase thread
  have some_ : deque.waiting ≠ [] := by
    intro empty
    rw [empty, List.length_nil] at balanced
    omega
  refine settles.seen ?_ some_
  match who, explains with
  | none, explains => rwa [show before = deque.waiting from explains]
  | some (holder, result), .inr explains =>
      intro empty
      have counted := explains.2.1
      rw [empty, List.length_nil] at counted
      omega
  | some (holder, result), .inl explains =>
      have different : thread ≠ holder := by
        rintro rfl
        exact outside (.inl explains.1)
      have both := shares_le_total Phase.share state.phase different
      have other : (state.phase holder).share = 1 := by rw [explains.1]; rfl
      intro empty
      have counted := explains.2
      rw [empty, List.length_nil] at counted
      omega

theorem Refines.inside_update (refines : Refines state deque returned pending) {thread : Thread}
    {phase : Phase} {left : Option (Code Llq Registers × Registers)}
    (agrees : left ≠ none ↔ phase.Inside) (other : Thread) :
    update state.monitor.inside thread left other ≠ none ↔
      (update state.phase thread phase other).Inside := by
  by_cases this : other = thread
  · subst this
    rw [update_self, update_self]
    exact agrees
  · rw [update_of_ne this, update_of_ne this]
    exact refines.inside other

/-- A message is put in when its thread gets access. -/
theorem Refines.enter_add (refines : Refines state deque returned pending) {thread : Thread}
    {data : List UInt8} {prio : Int} {fresh : Address} {stale : Node}
    (here : state.phase thread = .adding data prio)
    (unused : state.monitor.shared.nodes fresh = none)
    {monitor : Monitor Thread Llq Registers}
    (entered : state.monitor.enter thread (addSection data prio fresh stale) ⟨[], 0⟩ =
      some monitor) :
    ∃ after, deque.apply (.add data prio) = some after ∧
      Refines ({ state with monitor }.moveTo thread .storing) after returned pending := by
  rcases refines.settled with ⟨before, who, settles, explains⟩
  let waiting := if prio = 1 then data :: deque.waiting else deque.waiting ++ [data]
  have longer : waiting.length = deque.waiting.length + 1 := by
    simp only [waiting]
    split_ifs
    · rfl
    · rw [List.length_append, List.length_singleton]
  have ensures : Contents deque.waiting state.monitor.shared →
      (addSection data prio fresh stale).Ensures (Guarded deque.waiting waiting)
        (fun shared left => Contents waiting shared ∧ left = ⟨[], 0⟩) state.monitor.shared
        ⟨[], 0⟩ := by
    intro contents
    simp only [addSection, waiting]
    split_ifs
    · exact add_to_head_ensures contents unused data stale ⟨[], 0⟩
    · exact add_to_tail_ensures contents unused data stale ⟨[], 0⟩
  rcases settles.enter entered ensures with ⟨_, now⟩
  have hand := refines.inHand thread
  rw [here] at hand
  refine ⟨{ deque with waiting }, rfl, ?_⟩
  constructor
  case inside =>
    rw [State.move_to_monitor, State.move_to_phase, Monitor.enter_inside entered]
    exact refines.inside_update (iff_of_true (Option.some_ne_none _) (.inl rfl))
  case settled =>
    refine ⟨deque.waiting, _, now, .inl ⟨?_, longer.symm⟩⟩
    rw [State.move_to_phase, update_self]
  case balanced =>
    have shared := total_update Phase.share state.phase thread .storing
    have balanced := refines.balanced
    rw [here] at shared
    simp only [Phase.share] at shared
    change waiting.length =
      state.llqCountSem + total Phase.share (update state.phase thread .storing)
    omega
  case delivered => exact refines.delivered
  case inHand =>
    intro other
    rw [State.move_to_phase]
    by_cases this : other = thread
    · subst this
      rw [update_self]
      exact hand
    · rw [update_of_ne this]
      exact refines.inHand other

/-- A message is taken out when its thread gets access. -/
theorem Refines.enter_receive (refines : Refines state deque returned pending) {thread : Thread}
    (here : state.phase thread = .tested) {monitor : Monitor Thread Llq Registers}
    (entered : state.monitor.enter thread receiveSection ⟨[], 0⟩ = some monitor) :
    ∃ after hands, deque.apply (.receive thread) = some after ∧
      Refines ({ state with monitor }.moveTo thread .taking) after returned hands := by
  rcases refines.settled with ⟨before, who, settles, explains⟩
  have owed : (state.phase thread).share = 1 := by rw [here]; rfl
  have mine := share_le_total Phase.share state.phase thread
  have balanced := refines.balanced
  have hand : pending thread = [] := by
    have none_ := refines.inHand thread
    rwa [here] at none_
  cases filled : deque.waiting with
  | nil =>
      rw [filled, List.length_nil] at balanced
      omega
  | cons message waiting =>
      rw [filled] at settles balanced
      have ensures := fun contents => @receive_section_ensures state.monitor.shared waiting message
        contents ⟨[], 0⟩
      rcases settles.enter entered ensures with ⟨_, now⟩
      refine ⟨⟨waiting, deque.delivered ++ [(thread, message)]⟩,
        update pending thread [messageRegisters message], by rw [Deque.apply, filled], ?_⟩
      constructor
      case inside =>
        rw [State.move_to_monitor, State.move_to_phase, Monitor.enter_inside entered]
        exact refines.inside_update (iff_of_true (Option.some_ne_none _) (.inr rfl))
      case settled =>
        refine ⟨message :: waiting, _, now, .inr ⟨?_, rfl, update_self _ _ _, ?_⟩⟩
        · rw [State.move_to_phase, update_self]
        · simp only
          omega
      case balanced =>
        have shared := total_update Phase.share state.phase thread .taking
        rw [here] at shared
        rw [List.length_cons] at balanced
        simp only [Phase.share] at shared
        change waiting.length =
          state.llqCountSem + total Phase.share (update state.phase thread .taking)
        omega
      case delivered =>
        intro other
        rw [List.filter_append, List.map_append, refines.delivered other]
        by_cases this : other = thread
        · subst this
          rw [hand, update_self, List.filter_cons_of_pos (by simp), List.filter_nil, List.append_nil]
          rfl
        · rw [update_of_ne this, List.filter_cons_of_neg (by simpa using Ne.symm this),
            List.filter_nil, List.map_nil, List.append_nil]
      case inHand =>
        intro other
        rw [State.move_to_phase]
        by_cases this : other = thread
        · subst this
          rw [update_self, update_self]
          rfl
        · rw [update_of_ne this, update_of_ne this]
          exact refines.inHand other

theorem Refines.statement (refines : Refines state deque returned pending) {thread : Thread}
    {monitor : Monitor Thread Llq Registers}
    (advanced : state.monitor.advance thread = some monitor) :
    Refines { state with monitor } deque returned pending where
  inside other := (Monitor.advance_inside advanced other).trans (refines.inside other)
  settled := by
    rcases refines.settled with ⟨before, who, settles, explains⟩
    exact ⟨before, who, settles.advance advanced, explains⟩
  balanced := refines.balanced
  delivered := refines.delivered
  inHand := refines.inHand

theorem Refines.leave (refines : Refines state deque returned pending) {thread : Thread}
    {registers : Registers} {monitor : Monitor Thread Llq Registers}
    (left : state.monitor.leave thread = some (registers, monitor)) :
    (state.phase thread = .storing ∧
        Refines ({ state with monitor }.moveTo thread .added) deque returned pending) ∨
      (state.phase thread = .taking ∧
        Refines ({ state with monitor }.moveTo thread (.returning registers)) deque returned
          pending) := by
  rcases refines.settled with ⟨before, who, settles, explains⟩
  rcases settles.leave left with ⟨rfl, now⟩
  have inside : ∀ {phase : Phase}, ¬phase.Inside → ∀ other,
      monitor.inside other ≠ none ↔ (update state.phase thread phase other).Inside := by
    intro phase outside
    rw [Monitor.leave_inside left]
    exact refines.inside_update (iff_of_false (fun absent => absent rfl) outside)
  have settled : ∃ before who,
      monitor.Settles (Guarded before deque.waiting) (Contents deque.waiting) who ∧ who = none ∧
        before = deque.waiting := by
    cases now with
    | free opened empty seen holds =>
        exact ⟨_, none, .free opened empty (holds.guarded _) holds, rfl, rfl⟩
  have balanced : ∀ {phase : Phase}, phase.share = (state.phase thread).share →
      deque.waiting.length =
        state.llqCountSem + total Phase.share (update state.phase thread phase) := by
    intro phase same
    have shared := total_update Phase.share state.phase thread phase
    have balanced := refines.balanced
    omega
  have inHand : ∀ {phase : Phase}, phase.InHand (pending thread) → ∀ other,
      (update state.phase thread phase other).InHand (pending other) := by
    intro phase mine other
    by_cases this : other = thread
    · subst this
      rwa [update_self]
    · rw [update_of_ne this]
      exact refines.inHand other
  rcases settled with ⟨before, who, settles, rfl, rfl⟩
  rcases explains with ⟨here, _⟩ | ⟨here, _, hand, real⟩
  · refine .inl ⟨here, inside ?_, ⟨_, none, settles, rfl⟩, balanced (by rw [here]; rfl),
      refines.delivered, inHand ?_⟩
    · rintro (wrong | wrong) <;> cases wrong
    · have mine := refines.inHand thread
      rwa [here] at mine
  · refine .inr ⟨here, inside ?_, ⟨_, none, settles, rfl⟩, balanced (by rw [here]; rfl),
      refines.delivered, inHand ?_⟩
    · rintro (wrong | wrong) <;> cases wrong
    · rw [hand, Phase.InHand, if_neg real]

theorem outside_of_phase {phase : Phase} (notStoring : phase ≠ .storing)
    (notTaking : phase ≠ .taking) : ¬phase.Inside := fun inside =>
  inside.elim notStoring notTaking

theorem Refines.quiet (refines : Refines state deque returned pending) {thread : Thread}
    {old phase : Phase} {count : Nat} (here : state.phase thread = old) (outside : ¬old.Inside)
    (stays : ¬phase.Inside) (counts : count + phase.share = state.llqCountSem + old.share)
    (inHand : ∀ hands, old.InHand hands → phase.InHand hands) :
    ∃ hands, Refines ({ state with llqCountSem := count }.moveTo thread phase) deque
      (returned ++ []) hands := by
  subst here
  rw [List.append_nil]
  exact ⟨_, refines.move outside stays counts (inHand _ (refines.inHand thread)) rfl
    fun _ _ => rfl⟩

theorem refines_step (refines : Refines state deque returned pending) {event : Event Thread}
    (stepped : step state event = some next) :
    ∃ after hands, run Deque.apply deque (takesEffect state event).toList = some after ∧
      Refines next after (returned ++ (returns state event).toList) hands := by
  cases event with
  | callAdd thread data prio =>
      rw [step, Option.ite_none_right_eq_some, Option.some.injEq] at stepped
      rcases stepped with ⟨here, rfl⟩
      have moved := refines.quiet here (outside_of_phase (by simp) (by simp))
        (@outside_of_phase (.adding data prio) (by simp) (by simp)) rfl fun _ hand => hand
      exact ⟨deque, moved.imp fun _ after => ⟨rfl, after⟩⟩
  | callReceive thread =>
      rw [step, Option.ite_none_right_eq_some, Option.some.injEq] at stepped
      rcases stepped with ⟨here, rfl⟩
      have moved := refines.quiet here (outside_of_phase (by simp) (by simp))
        (@outside_of_phase .receiving (by simp) (by simp)) rfl fun _ hand => hand
      exact ⟨deque, moved.imp fun _ after => ⟨rfl, after⟩⟩
  | enterAdd thread fresh stale =>
      rw [step] at stepped
      split at stepped
      · next data prio here =>
          rw [Option.ite_none_right_eq_some, Option.map_eq_some_iff] at stepped
          rcases stepped with ⟨unused, monitor, entered, rfl⟩
          rcases refines.enter_add here unused entered with ⟨after, applied, now⟩
          rw [← List.append_nil returned] at now
          refine ⟨after, pending, ?_, now⟩
          rw [takesEffect, here]
          simp only [Option.toList_some, run, applied, Option.bind_some]
      · cases stepped
  | enterReceive thread =>
      rw [step, Option.ite_none_right_eq_some, Option.map_eq_some_iff] at stepped
      rcases stepped with ⟨here, monitor, entered, rfl⟩
      rcases refines.enter_receive here entered with ⟨after, hands, applied, now⟩
      rw [← List.append_nil returned] at now
      refine ⟨after, hands, ?_, now⟩
      rw [takesEffect, Option.toList_some, run, applied, Option.bind_some, run]
  | statement thread =>
      rw [step, Option.map_eq_some_iff] at stepped
      rcases stepped with ⟨monitor, advanced, rfl⟩
      have now := refines.statement advanced
      rw [← List.append_nil returned] at now
      exact ⟨deque, pending, rfl, now⟩
  | leave thread =>
      rw [step] at stepped
      split at stepped
      · cases stepped
      · next registers monitor left =>
          rw [← List.append_nil returned] at refines
          rcases refines.leave left with ⟨here, now⟩ | ⟨here, now⟩
          · rw [if_pos here, Option.some.injEq] at stepped
            exact ⟨deque, pending, rfl, stepped ▸ now⟩
          · rw [if_neg (by rw [here]; simp), Option.some.injEq] at stepped
            exact ⟨deque, pending, rfl, stepped ▸ now⟩
  | postCount thread =>
      rw [step, Option.ite_none_right_eq_some, Option.some.injEq] at stepped
      rcases stepped with ⟨here, rfl⟩
      have moved := refines.quiet here (outside_of_phase (by simp) (by simp))
        (@outside_of_phase .idle (by simp) (by simp)) rfl fun _ hand => hand
      exact ⟨deque, moved.imp fun _ after => ⟨rfl, after⟩⟩
  | takeCount thread =>
      rw [step, Option.ite_none_right_eq_some, Option.some.injEq] at stepped
      rcases stepped with ⟨⟨here, positive⟩, rfl⟩
      have moved := refines.quiet here (outside_of_phase (by simp) (by simp))
        (@outside_of_phase .counted (by simp) (by simp)) (Nat.sub_add_cancel positive)
        fun _ hand => hand
      exact ⟨deque, moved.imp fun _ after => ⟨rfl, after⟩⟩
  | timeout thread =>
      rw [step, Option.ite_none_right_eq_some, Option.some.injEq] at stepped
      rcases stepped with ⟨here, rfl⟩
      have moved := refines.quiet here (outside_of_phase (by simp) (by simp))
        (@outside_of_phase (.returning ⟨[], -1⟩) (by simp) (by simp)) rfl
        fun hands hand => by rw [Phase.InHand, if_pos rfl]; exact hand
      exact ⟨deque, moved.imp fun _ after => ⟨rfl, after⟩⟩
  | testHead thread =>
      rw [step, Option.ite_none_right_eq_some] at stepped
      rcases stepped with ⟨here, stepped⟩
      have outside : ¬(state.phase thread).Inside := by
        rw [here]
        exact outside_of_phase (by simp) (by simp)
      rw [if_pos (refines.head_ne_none outside (by rw [here]; rfl)), Option.some.injEq] at stepped
      subst stepped
      have moved := refines.quiet here (outside_of_phase (by simp) (by simp))
        (@outside_of_phase .tested (by simp) (by simp)) rfl fun _ hand => hand
      exact ⟨deque, moved.imp fun _ after => ⟨rfl, after⟩⟩
  | finish thread =>
      rw [step] at stepped
      split at stepped
      · next registers here =>
          rw [Option.some.injEq] at stepped
          subst stepped
          have hand := refines.inHand thread
          rw [here, Phase.InHand] at hand
          have seen : returns state (.finish thread) =
              if registers.rLength = -1 then none else some (thread, registers) := by
            rw [returns, here]
          refine ⟨deque, _, rfl, @Refines.move _ _ _ _ _ _ _ refines thread .idle
            state.llqCountSem _ [] (by rw [here]; exact outside_of_phase (by simp) (by simp))
            (outside_of_phase (by simp) (by simp)) (by rw [here]; rfl) rfl ?_ ?_⟩
          · rw [hand, seen]
            split_ifs with timeout
            · simp only [Option.toList_none, List.append_nil]
            · rw [Option.toList_some, List.filter_append, List.map_append,
                List.filter_cons_of_pos (by simp), List.filter_nil, List.append_nil]
              rfl
          · intro other different
            rw [seen, List.filter_append]
            split_ifs with timeout
            · rw [Option.toList_none, List.filter_nil, List.append_nil]
            · rw [Option.toList_some, List.filter_cons_of_neg (by simpa using Ne.symm different),
                List.filter_nil, List.append_nil]
      · cases stepped

theorem refines_run {events : List (Event Thread)}
    (refines : Refines state deque returned pending) (ran : run step state events = some next) :
    ∃ after hands,
      run Deque.apply deque (observed step takesEffect state events) = some after ∧
        Refines next after (returned ++ observed step returns state events) hands := by
  induction events generalizing state deque returned pending with
  | nil =>
      rw [run, Option.some.injEq] at ran
      refine ⟨deque, pending, rfl, ?_⟩
      rw [observed, List.append_nil]
      exact ran ▸ refines
  | cons event events induction =>
      rw [run, Option.bind_eq_some_iff] at ran
      rcases ran with ⟨middle, stepped, later⟩
      rcases refines_step refines stepped with ⟨between, hands, applied, kept⟩
      rcases induction kept later with ⟨after, left, ranLater, now⟩
      refine ⟨after, left, ?_, ?_⟩
      · rw [observed_cons stepped, run_append, applied, Option.bind_some, ranLater]
      · rwa [observed_cons stepped, ← List.append_assoc]

/-- Two threads are never at the list at once, none of them follows a pointer to nowhere, who has
counted a message finds one, the messages that wait are on the heap, and they are counted. -/
structure Sound (state : State Thread) (waiting : List (List UInt8)) : Prop where
  exclusive : ∀ one two, state.monitor.inside one ≠ none → state.monitor.inside two ≠ none →
    one = two
  proceeds : ∀ thread code registers, state.monitor.inside thread = some (code, registers) →
    code ≠ .done → (step state (.statement thread)).isSome
  found : ∀ thread, state.phase thread = .counted → state.monitor.shared.head ≠ none
  stored : (∀ thread, state.monitor.inside thread = none) → Contents waiting state.monitor.shared
  counted : (∀ thread, (state.phase thread).share = 0) → state.llqCountSem = waiting.length

theorem Refines.sound (refines : Refines state deque returned pending) :
    Sound state deque.waiting := by
  rcases refines.settled with ⟨before, who, settles, explains⟩
  refine ⟨fun one two => settles.exclusive, ?_, ?_, ?_, ?_⟩
  · intro thread code registers here going
    rw [step, Option.isSome_map]
    exact settles.advances here going
  · intro thread here
    refine refines.head_ne_none ?_ (by rw [here]; rfl)
    rw [here]
    exact outside_of_phase (by simp) (by simp)
  · intro nobody
    cases settles with
    | free opened empty seen holds => exact holds
    | held thread code registers result closed here others ensures =>
        rw [nobody thread] at here
        cases here
  · intro nothing
    have nobody : total Phase.share state.phase = 0 :=
      Finset.sum_eq_zero fun thread _ => nothing thread
    rw [refines.balanced, nobody, Nat.add_zero]

/-- Every run of the threads, in any order of their statements, is a run of one deque: the
operations take effect one at a time in the order in which they get access, and a thread gets back
exactly the messages that the deque delivers to it, in that order. -/
theorem llq_linearizable {temp : Option Address} {events : List (Event Thread)}
    (ran : run step (llqOpen temp) events = some next) :
    ∃ (deque : Deque Thread) (hands : Thread → List Registers),
      run Deque.apply ⟨[], []⟩ (observed step takesEffect (llqOpen temp) events) = some deque ∧
      (∀ thread, (next.phase thread).InHand (hands thread) ∧
        (deque.delivered.filter (·.1 = thread)).map (fun found => messageRegisters found.2) =
          ((observed step returns (llqOpen temp) events).filter (·.1 = thread)).map Prod.snd ++
            hands thread) ∧
      Sound next deque.waiting := by
  rcases refines_run (refines_open temp) ran with ⟨deque, hands, applied, refines⟩
  refine ⟨deque, hands, applied, fun thread => ⟨refines.inHand thread, ?_⟩, refines.sound⟩
  rw [refines.delivered, List.nil_append]

/-- One thread waits while the other adds, the second message in front. It gets this one; the other
gets the first and then waits in vain. -/
def handover : List (Event Bool) :=
  List.flatten
    [[.callReceive true, .callAdd false [0x61, 0x02] 0, .enterAdd false 8 ⟨[], none⟩],
      List.replicate 5 (.statement false),
      [.leave false, .postCount false, .callAdd false [0x45, 0xC1, 0x09] 1, .takeCount true,
        .enterAdd false 9 ⟨[], none⟩, .testHead true],
      List.replicate 5 (.statement false),
      [.leave false, .enterReceive true, .postCount false, .callReceive false],
      List.replicate 6 (.statement true),
      [.takeCount false, .leave true, .finish true, .testHead false, .enterReceive false],
      List.replicate 7 (.statement false),
      [.leave false, .finish false, .callReceive false, .timeout false, .finish false]]

theorem llq_linearizable_handover :
    ∃ next, run step (llqOpen none) handover = some next ∧
      ∃ (deque : Deque Bool) (hands : Bool → List Registers),
        run Deque.apply ⟨[], []⟩ (observed step takesEffect (llqOpen none) handover) = some deque ∧
        (∀ thread, (next.phase thread).InHand (hands thread) ∧
          (deque.delivered.filter (·.1 = thread)).map (fun found => messageRegisters found.2) =
            ((observed step returns (llqOpen none) handover).filter (·.1 = thread)).map Prod.snd ++
              hands thread) ∧
        Sound next deque.waiting := by
  have runs : (run step (llqOpen none) handover).isSome := by decide +kernel
  rcases Option.isSome_iff_exists.mp runs with ⟨next, ran⟩
  exact ⟨next, ran, llq_linearizable ran⟩

end Refinement

end SmartHome.Queue
