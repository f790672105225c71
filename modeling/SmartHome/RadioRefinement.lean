import SmartHome.RadioLine

/-!
# The line brings everything once

A run of the receiving side with its line, queue and bytes is a run of the indications as
they were made. So each of them is acted on once, whatever the order in which the threads
come, and in the order in which they were made if one thread takes them all.
-/

namespace SmartHome.RadioRefinement

open SmartHome.Library.Bytes
open SmartHome.Library.Runs
open SmartHome.Registry
open SmartHome.Rpc
open SmartHome.RpcStream
open SmartHome.Queue (Deque)
open SmartHome.Mt
open SmartHome.MtMessages
open SmartHome.Zones
open SmartHome.RadioThread
open SmartHome.RadioLine

set_option autoImplicit false

variable {Thread : Type}

section Simulation

/-- The indications of the air are those in the queue and those still on the line. -/
structure Tracks (air : AirState Thread) (line : LineState Thread) : Prop where
  steady : Steady line.port
  waiting : ∃ (left : List Sent) (labels : List (Option Indication)),
    line.port.incoming = wire (left.map Sent.transmission) ∧
      List.Forall₂ Carries line.queue.waiting labels ∧
      air.pending = labels.reduceOption ++ left.filterMap Sent.indication
  held : ∀ thread message, line.held thread = some message → Carries message (air.held thread)
  free : ∀ thread, line.held thread = none → air.held thread = none
  radio : air.radio = line.radio

theorem rpc_process_silent {outcomes : List ReadOutcome} (steady : Steady ⟨[], outcomes⟩)
    {expectedSrspCmdId : UInt8} {rpcBuff : Memory} {processed : Processed} {port : SerialPort}
    (called : rpcProcess expectedSrspCmdId rpcBuff ⟨[], outcomes⟩ = some (processed, port)) :
    processed = .failed ∧ port.incoming = [] ∧ Steady port := by
  cases outcomes with
  | nil => cases called
  | cons outcome outcomes =>
      rcases steady.delivers outcome List.mem_cons_self with ⟨count, positive, rfl⟩
      have later : Steady ⟨[], outcomes⟩ :=
        ⟨steady.delivers.mono (List.subset_cons_self _ _), Nat.zero_le _⟩
      simp only [rpcProcess, rpcTransportRead, transfer, List.take_nil, List.length_nil,
        List.drop_nil] at called
      rw [if_neg (by decide), Option.some.injEq, Prod.mk.injEq] at called
      rw [← called.1, ← called.2]
      exact ⟨rfl, rfl, later⟩

def lineStart (sends : List Sent) (outcomes : List ReadOutcome) (radio : RadioState) :
    LineState Thread :=
  ⟨⟨wire (sends.map Sent.transmission), outcomes⟩, ⟨[], []⟩, fun _ => none, radio⟩

def airStart (sends : List Sent) (radio : RadioState) : AirState Thread :=
  ⟨sends.filterMap Sent.indication, fun _ => none, radio⟩

theorem tracks_start {sends : List Sent} {outcomes : List ReadOutcome}
    (steady : Steady ⟨wire (sends.map Sent.transmission), outcomes⟩) (radio : RadioState) :
    Tracks (airStart sends radio : AirState Thread) (lineStart sends outcomes radio) :=
  ⟨steady, ⟨sends, [], rfl, .nil, rfl⟩, fun _ _ has => absurd has.symm (Option.some_ne_none _),
    fun _ _ => rfl, rfl⟩

variable [DecidableEq Thread] {air : AirState Thread} {line next : LineState Thread}

theorem Tracks.receive (tracks : Tracks air line) {around : Surroundings}
    (stepped : lineStep line (.receive around) = some next) : Tracks air next := by
  rcases line with ⟨⟨incoming, outcomes⟩, queue, held, radio⟩
  rcases tracks.waiting with ⟨left, labels, bytes, carries, pending⟩
  have steady := tracks.steady
  simp only at bytes carries steady
  rw [lineStep] at stepped
  simp only at stepped
  cases left with
  | nil =>
      rw [List.map_nil] at bytes
      rw [bytes] at steady stepped
      cases called : rpcProcess around.expectedSrspCmdId around.rpcBuff ⟨wire [], outcomes⟩ with
      | none =>
          rw [called] at stepped
          cases stepped
      | some result =>
          rcases result with ⟨processed, port⟩
          rcases rpc_process_silent steady called with ⟨rfl, silent, kept⟩
          rw [called] at stepped
          simp only [queued, Option.map_some, Option.some.injEq] at stepped
          rw [← stepped]
          exact ⟨kept, ⟨[], labels, silent, carries, pending⟩, tracks.held, tracks.free,
            tracks.radio⟩
  | cons sent left =>
      rw [bytes] at steady
      rcases rpc_process_transmission steady around.expectedSrspCmdId around.rpcBuff with
        ⟨after, kept, called⟩
      rw [bytes, List.map_cons, called, Option.map_eq_some_iff] at stepped
      rcases stepped with ⟨changed, added, rfl⟩
      rcases queued_carries carries sent added with ⟨behind, follows, same⟩
      refine ⟨kept, ⟨left, behind, rfl, follows, ?_⟩, tracks.held, tracks.free, tracks.radio⟩
      have first : (sent :: left).filterMap Sent.indication =
          sent.indication.toList ++ left.filterMap Sent.indication := by
        rw [List.filterMap_cons]
        cases sent.indication <;> rfl
      rw [pending, same, List.append_assoc, first]

theorem held_after {messages : Thread → Option (List UInt8)}
    {indications : Thread → Option Indication}
    (held : ∀ thread message, messages thread = some message → Carries message (indications thread))
    (free : ∀ thread, messages thread = none → indications thread = none) (thread : Thread)
    (item : Option (List UInt8)) (label : Option Indication)
    (carries : ∀ message, item = some message → Carries message label)
    (nothing : item = none → label = none) :
    (∀ other message, hold messages thread item other = some message →
        Carries message (hold indications thread label other)) ∧
      ∀ other, hold messages thread item other = none →
        hold indications thread label other = none := by
  constructor
  · intro other message has
    rw [hold] at has ⊢
    by_cases same : other = thread
    · rw [if_pos same] at has ⊢
      exact carries message has
    · rw [if_neg same] at has ⊢
      exact held other message has
  · intro other has
    rw [hold] at has ⊢
    by_cases same : other = thread
    · rw [if_pos same] at has ⊢
      exact nothing has
    · rw [if_neg same] at has ⊢
      exact free other has

theorem hold_same {α : Type} {held : Thread → Option α} {thread : Thread} {item : Option α}
    (same : held thread = item) : hold held thread item = held := by
  funext other
  rw [hold]
  by_cases found : other = thread
  · rw [if_pos found, found, same]
  · rw [if_neg found]

theorem Tracks.take (tracks : Tracks air line) {thread : Thread}
    (stepped : lineStep line (.take thread) = some next) :
    Tracks air next ∨ ∃ after, airStep air (.take thread) = some after ∧ Tracks after next := by
  rcases line with ⟨port, ⟨waiting, delivered⟩, messages, radio⟩
  rcases air with ⟨indications, labelled, airRadio⟩
  rcases tracks.waiting with ⟨left, labels, bytes, carries, pending⟩
  simp only at bytes carries pending
  cases free : messages thread with
  | some message =>
      simp only [lineStep, free] at stepped
      cases stepped
  | none =>
      have idle : labelled thread = none := tracks.free thread free
      cases carries with
      | nil =>
          simp only [lineStep, free] at stepped
          cases stepped
      | @cons message label waiting labels first rest =>
          simp only [lineStep, free, Deque.apply, Option.map_some, Option.some.injEq] at stepped
          have kept := held_after tracks.held tracks.free thread (some message) label
            (fun other same => Option.some.inj same ▸ first)
            (fun nothing => absurd nothing (Option.some_ne_none message))
          rw [← stepped]
          cases label with
          | none =>
              rw [hold_same idle] at kept
              exact .inl ⟨tracks.steady, ⟨left, labels, bytes, rest, pending⟩, kept.1, kept.2,
                tracks.radio⟩
          | some indication =>
              rw [List.reduceOption_cons_of_some, List.cons_append] at pending
              refine .inr ⟨⟨_, hold labelled thread (some indication), airRadio⟩, ?_,
                tracks.steady, ⟨left, labels, bytes, rest, rfl⟩, kept.1, kept.2, tracks.radio⟩
              simp only [airStep, idle, pending]

theorem Tracks.work (tracks : Tracks air line) {thread : Thread} {host : IncomingHost}
    {stack : Stack} {rpcFrame : Memory}
    (stepped : lineStep line (.work thread host stack rpcFrame) = some next) :
    Tracks air next ∨
      ∃ after, airStep air (.work thread host stack) = some after ∧ Tracks after next := by
  cases has : line.held thread with
  | none =>
      simp only [lineStep, has] at stepped
      cases stepped
  | some message =>
      have carries := tracks.held thread message has
      have kept := held_after tracks.held tracks.free thread none none
        (fun other has => absurd has.symm (Option.some_ne_none other)) (fun _ => rfl)
      cases label : air.held thread with
      | none =>
          rw [label] at carries
          rcases carries stack rpcFrame with ⟨callback, result, idle⟩
          rw [hold_same label] at kept
          refine .inl ?_
          cases callback with
          | none =>
              simp only [lineStep, has, result, Option.some.injEq] at stepped
              rw [← stepped]
              exact ⟨tracks.steady, tracks.waiting, kept.1, kept.2, tracks.radio⟩
          | some callback =>
              cases callback with
              | srsp copy =>
                  simp only [lineStep, has, result, perform, Option.map_some,
                    Option.some.injEq] at stepped
                  rw [← stepped]
                  exact ⟨tracks.steady, tracks.waiting, kept.1, kept.2, tracks.radio⟩
              | _ => cases idle
      | some indication =>
          rw [label] at carries
          simp only [lineStep, has, carries.process, Option.map_eq_some_iff] at stepped
          rcases stepped with ⟨radio, performed, rfl⟩
          refine .inr ⟨{ air with held := hold air.held thread none, radio }, ?_, tracks.steady,
            tracks.waiting, kept.1, kept.2, rfl⟩
          simp only [airStep, label, act, tracks.radio, performed, Option.map_some]

theorem Tracks.other (tracks : Tracks air line) {event : System.Event}
    (stepped : lineStep line (.other event) = some next) :
    ∃ after, airStep air (.other event) = some after ∧ Tracks after next := by
  rw [lineStep, Option.map_eq_some_iff] at stepped
  rcases stepped with ⟨radio, acted, rfl⟩
  refine ⟨{ air with radio }, ?_, tracks.steady, tracks.waiting, tracks.held, tracks.free, rfl⟩
  rw [airStep, tracks.radio, acted, Option.map_some]

theorem line_step_followed {event : LineEvent Thread} (tracks : Tracks air line)
    (stepped : lineStep line event = some next) :
    event.outer = none ∧ Tracks air next ∨
      ∃ airEvent after, event.erased = some airEvent ∧ airEvent.outer = event.outer ∧
        airStep air airEvent = some after ∧ Tracks after next := by
  cases event with
  | receive around => exact .inl ⟨rfl, tracks.receive stepped⟩
  | take thread =>
      cases tracks.take stepped with
      | inl stays => exact .inl ⟨rfl, stays⟩
      | inr moves =>
          rcases moves with ⟨after, took, follows⟩
          exact .inr ⟨.take thread, after, rfl, rfl, took, follows⟩
  | work thread host stack rpcFrame =>
      cases tracks.work stepped with
      | inl stays => exact .inl ⟨rfl, stays⟩
      | inr moves =>
          rcases moves with ⟨after, took, follows⟩
          exact .inr ⟨.work thread host stack, after, rfl, rfl, took, follows⟩
  | other event =>
      rcases tracks.other stepped with ⟨after, took, follows⟩
      exact .inr ⟨.other event, after, rfl, rfl, took, follows⟩

/-- A run of the line is a run without bytes, of the same steps as far as they are left. -/
theorem line_refines_air {sends : List Sent} {outcomes : List ReadOutcome}
    (steady : Steady ⟨wire (sends.map Sent.transmission), outcomes⟩) {radio : RadioState}
    {events : List (LineEvent Thread)} {final : LineState Thread}
    (ran : run lineStep (lineStart sends outcomes radio) events = some final) :
    ∃ airEvents air, airEvents.Sublist (events.filterMap LineEvent.erased) ∧
      airEvents.filterMap AirEvent.outer = events.filterMap LineEvent.outer ∧
      run airStep (airStart sends radio) airEvents = some air ∧ Tracks air final := by
  apply run_followed _ (tracks_start steady radio) ran
  intro air line event next tracks stepped
  exact line_step_followed tracks stepped

end Simulation

section Accounts

def acted (s : AirState Thread) : AirEvent Thread → Option Act
  | .take _ => none
  | .work thread host stack =>
      (s.held thread).map fun indication => .indicated indication host stack
  | .other event => some (.other event)

theorem acted_outer (s : AirState Thread) (event : AirEvent Thread) :
    (acted s event).toList.filterMap Act.outer = event.outer.toList := by
  cases event with
  | take thread => rfl
  | work thread host stack =>
      rw [acted]
      cases s.held thread <;> rfl
  | other event => rfl

variable [DecidableEq Thread]

theorem air_step_acts (s : AirState Thread) (event : AirEvent Thread) (next : AirState Thread)
    (stepped : airStep s event = some next) :
    run act s.radio (acted s event).toList = some next.radio := by
  cases event with
  | take thread =>
      rw [airStep] at stepped
      split at stepped
      · rw [← Option.some.inj stepped]
        rfl
      · cases stepped
  | work thread host stack =>
      cases has : s.held thread with
      | none =>
          simp only [airStep, has] at stepped
          cases stepped
      | some indication =>
          simp only [airStep, has, Option.map_eq_some_iff] at stepped
          rcases stepped with ⟨radio, performed, rfl⟩
          simp only [acted, has, Option.map_some, Option.toList_some, run, performed,
            Option.bind_some]
  | other event =>
      rw [airStep, Option.map_eq_some_iff] at stepped
      rcases stepped with ⟨radio, performed, rfl⟩
      simp only [acted, Option.toList_some, run, performed, Option.bind_some]

structure Holding (held : Thread → Option Indication) (holding : List (Thread × Indication)) :
    Prop where
  once : (holding.map Prod.fst).Nodup
  all : ∀ thread indication, held thread = some indication ↔ (thread, indication) ∈ holding

theorem Holding.take {held : Thread → Option Indication} {holding : List (Thread × Indication)}
    (holds : Holding held holding) {thread : Thread} (free : held thread = none)
    (indication : Indication) :
    Holding (hold held thread (some indication)) ((thread, indication) :: holding) := by
  constructor
  · rw [List.map_cons, List.nodup_cons]
    refine ⟨?_, holds.once⟩
    intro member
    rcases List.mem_map.mp member with ⟨⟨other, item⟩, inside, rfl⟩
    rw [(holds.all other item).mpr inside] at free
    cases free
  · intro other item
    rw [hold, List.mem_cons, Prod.mk.injEq]
    by_cases same : other = thread
    · have absent : (other, item) ∉ holding := by
        intro inside
        rw [same, ← holds.all, free] at inside
        cases inside
      rw [if_pos same, or_iff_left absent, Option.some.injEq, and_iff_right same]
      exact eq_comm
    · rw [if_neg same, holds.all, or_iff_right fun found => same found.1]

theorem Holding.put {held : Thread → Option Indication} {front back : List (Thread × Indication)}
    {thread : Thread} {indication : Indication}
    (holds : Holding held (front ++ (thread, indication) :: back)) :
    Holding (hold held thread none) (front ++ back) := by
  have once := holds.once
  rw [List.map_append, List.map_cons, List.nodup_middle, List.nodup_cons, ← List.map_append]
    at once
  refine ⟨once.2, ?_⟩
  intro other item
  rw [hold]
  by_cases same : other = thread
  · rw [if_pos same]
    refine iff_of_false (Option.some_ne_none item).symm ?_
    intro inside
    apply once.1
    rw [← same]
    exact List.mem_map.mpr ⟨(other, item), inside, rfl⟩
  · have different : (other, item) ≠ (thread, indication) := by
      intro pair
      exact same (Prod.mk.inj pair).1
    rw [if_neg same, holds.all, List.mem_append, List.mem_append, List.mem_cons,
      or_iff_right different]

/-- What was acted on in one step, with what is held and what is pending after it, is what was held
and pending before. -/
theorem air_step_accounts {s next : AirState Thread} {event : AirEvent Thread}
    {holding : List (Thread × Indication)} (holds : Holding s.held holding)
    (stepped : airStep s event = some next) :
    ∃ after, Holding next.held after ∧
      ((acted s event).toList.filterMap Act.indication ++ (after.map Prod.snd ++ next.pending)).Perm
        (holding.map Prod.snd ++ s.pending) := by
  cases event with
  | take thread =>
      cases free : s.held thread with
      | some indication =>
          simp only [airStep, free] at stepped
          cases stepped
      | none =>
          cases pending : s.pending with
          | nil =>
              simp only [airStep, free, pending] at stepped
              cases stepped
          | cons indication later =>
              simp only [airStep, free, pending, Option.some.injEq] at stepped
              rw [← stepped]
              exact ⟨(thread, indication) :: holding, holds.take free indication,
                List.perm_middle.symm⟩
  | work thread host stack =>
      cases has : s.held thread with
      | none =>
          simp only [airStep, has] at stepped
          cases stepped
      | some indication =>
          simp only [airStep, has, Option.map_eq_some_iff] at stepped
          rcases stepped with ⟨radio, _, rfl⟩
          rcases List.append_of_mem ((holds.all thread indication).mp has) with
            ⟨front, back, rfl⟩
          refine ⟨front ++ back, holds.put, ?_⟩
          have acts : (acted s (.work thread host stack)).toList.filterMap Act.indication =
              [indication] := by
            rw [acted, has]
            rfl
          simp only [acts, List.map_append, List.map_cons, List.append_assoc, List.cons_append,
            List.nil_append]
          exact List.perm_middle.symm
  | other event =>
      rw [airStep, Option.map_eq_some_iff] at stepped
      rcases stepped with ⟨radio, _, rfl⟩
      exact ⟨holding, holds, .refl _⟩

def acts (s : AirState Thread) (events : List (AirEvent Thread)) : List Act :=
  observed airStep acted s events

theorem air_run_accounts {s final : AirState Thread} {events : List (AirEvent Thread)}
    {holding : List (Thread × Indication)} (holds : Holding s.held holding)
    (ran : run airStep s events = some final) :
    ∃ after, Holding final.held after ∧
      ((acts s events).filterMap Act.indication ++ (after.map Prod.snd ++ final.pending)).Perm
        (holding.map Prod.snd ++ s.pending) := by
  induction events generalizing s holding with
  | nil =>
      rw [run, Option.some.injEq] at ran
      exact ⟨holding, ran ▸ holds, ran ▸ .refl _⟩
  | cons event events induction =>
      rw [run, Option.bind_eq_some_iff] at ran
      rcases ran with ⟨next, stepped, later⟩
      rcases air_step_accounts holds stepped with ⟨between, held, now⟩
      rcases induction held later with ⟨after, last, rest⟩
      refine ⟨after, last, ?_⟩
      rw [acts, observed_cons stepped, List.filterMap_append, List.append_assoc]
      exact (rest.append_left _).trans now

def OnlyHolder (thread : Thread) (held : Thread → Option Indication) : Prop :=
  ∀ other, other ≠ thread → held other = none

theorem OnlyHolder.hold {thread : Thread} {held : Thread → Option Indication}
    (only : OnlyHolder thread held) (item : Option Indication) :
    OnlyHolder thread (RadioLine.hold held thread item) := by
  intro other different
  rw [RadioLine.hold, if_neg different]
  exact only other different

theorem air_step_in_order {s next : AirState Thread} {event : AirEvent Thread} {thread : Thread}
    (only : OnlyHolder thread s.held) (taker : ∀ other, event = .take other → other = thread)
    (stepped : airStep s event = some next) :
    OnlyHolder thread next.held ∧
      (acted s event).toList.filterMap Act.indication ++
          ((next.held thread).toList ++ next.pending) =
        (s.held thread).toList ++ s.pending := by
  cases event with
  | take other =>
      have same : other = thread := taker other rfl
      subst same
      cases free : s.held other with
      | some indication =>
          simp only [airStep, free] at stepped
          cases stepped
      | none =>
          cases pending : s.pending with
          | nil =>
              simp only [airStep, free, pending] at stepped
              cases stepped
          | cons indication later =>
              simp only [airStep, free, pending, Option.some.injEq] at stepped
              rw [← stepped]
              refine ⟨only.hold _, ?_⟩
              simp only [hold, if_true]
              rfl
  | work other host stack =>
      cases has : s.held other with
      | none =>
          simp only [airStep, has] at stepped
          cases stepped
      | some indication =>
          have same : other = thread := by
            by_contra different
            rw [only other different] at has
            cases has
          subst same
          simp only [airStep, has, Option.map_eq_some_iff] at stepped
          rcases stepped with ⟨radio, _, rfl⟩
          refine ⟨only.hold _, ?_⟩
          simp only [acted, has, hold, if_true]
          rfl
  | other event =>
      rw [airStep, Option.map_eq_some_iff] at stepped
      rcases stepped with ⟨radio, _, rfl⟩
      exact ⟨only, rfl⟩

theorem air_run_in_order {s final : AirState Thread} {events : List (AirEvent Thread)}
    {thread : Thread} (only : OnlyHolder thread s.held)
    (taker : ∀ other, .take other ∈ events → other = thread)
    (ran : run airStep s events = some final) :
    (acts s events).filterMap Act.indication ++ ((final.held thread).toList ++ final.pending) =
      (s.held thread).toList ++ s.pending := by
  induction events generalizing s with
  | nil =>
      rw [run, Option.some.injEq] at ran
      rw [ran]
      rfl
  | cons event events induction =>
      rw [run, Option.bind_eq_some_iff] at ran
      rcases ran with ⟨next, stepped, later⟩
      have now := air_step_in_order only
        (fun other same => taker other (same ▸ List.mem_cons_self)) stepped
      have rest := induction now.1 (fun other member => taker other (List.mem_cons_of_mem _ member))
        later
      rw [acts, observed_cons stepped, List.filterMap_append, List.append_assoc, ← now.2]
      exact congrArg _ rest

/-- A run in terms of its acts. -/
theorem air_run_acts {s final : AirState Thread} {events : List (AirEvent Thread)}
    (ran : run airStep s events = some final) :
    run act s.radio (acts s events) = some final.radio ∧
      (acts s events).filterMap Act.outer = events.filterMap AirEvent.outer := by
  refine ⟨run_observed air_step_acts ran, ?_⟩
  induction events generalizing s with
  | nil => rfl
  | cons event events induction =>
      rw [run, Option.bind_eq_some_iff] at ran
      rcases ran with ⟨next, stepped, later⟩
      have first : (event :: events).filterMap AirEvent.outer =
          event.outer.toList ++ events.filterMap AirEvent.outer := by
        rw [List.filterMap_cons]
        cases event.outer <;> rfl
      rw [acts, observed_cons stepped, List.filterMap_append, acted_outer, first]
      exact congrArg _ (induction later)

end Accounts

section Results

/-- Nothing is on the line, in the queue or in the hands of a thread. -/
structure Drained (line : LineState Thread) : Prop where
  silent : line.port.incoming = []
  empty : line.queue.waiting = []
  free : ∀ thread, line.held thread = none

theorem wire_eq_nil {transmissions : List Transmission} (silent : wire transmissions = []) :
    transmissions = [] := by
  have scanned := scan_wire transmissions
  have nothing := scan_wire []
  have empty : wire [] = [] := rfl
  rw [empty] at nothing
  rw [silent, nothing, Prod.mk.injEq] at scanned
  exact List.map_eq_nil_iff.mp scanned.1.symm

theorem Tracks.drained {air : AirState Thread} {line : LineState Thread} (tracks : Tracks air line)
    (drained : Drained line) : air.pending = [] ∧ ∀ thread, air.held thread = none := by
  refine ⟨?_, fun thread => tracks.free thread (drained.free thread)⟩
  rcases tracks.waiting with ⟨left, labels, bytes, carries, pending⟩
  rw [drained.silent] at bytes
  rw [drained.empty] at carries
  have done := List.map_eq_nil_iff.mp (wire_eq_nil bytes.symm)
  cases carries
  rw [pending, done]
  rfl

theorem Holding.nil {held : Thread → Option Indication} {holding : List (Thread × Indication)}
    (holds : Holding held holding) (free : ∀ thread, held thread = none) : holding = [] := by
  rw [List.eq_nil_iff_forall_not_mem]
  intro entry member
  rw [← Prod.eta entry, ← holds.all, free entry.1] at member
  cases member

variable [DecidableEq Thread] {sends : List Sent} {outcomes : List ReadOutcome}
  {radio : RadioState} {events : List (LineEvent Thread)} {final : LineState Thread}

/-- Whatever the threads do, and whatever else the gateway does meanwhile: its state is what callbacks
for the indications make of it, each of them called once at most, and for all of them in the end. -/
theorem line_acts_once (steady : Steady ⟨wire (sends.map Sent.transmission), outcomes⟩)
    (ran : run lineStep (lineStart sends outcomes radio) events = some final) :
    ∃ acts, run act radio acts = some final.radio ∧
      acts.filterMap Act.outer = events.filterMap LineEvent.outer ∧
      (acts.filterMap Act.indication).Subperm (sends.filterMap Sent.indication) ∧
      (Drained final →
        (acts.filterMap Act.indication).Perm (sends.filterMap Sent.indication)) := by
  rcases line_refines_air steady ran with ⟨airEvents, air, _, outer, moved, tracks⟩
  have nothing : Holding (airStart sends radio : AirState Thread).held [] :=
    ⟨List.nodup_nil, fun _ item => iff_of_false (Option.some_ne_none item).symm List.not_mem_nil⟩
  rcases air_run_accounts nothing moved with ⟨holding, holds, accounts⟩
  rcases air_run_acts moved with ⟨performed, same⟩
  rw [List.map_nil, List.nil_append] at accounts
  refine ⟨acts (airStart sends radio) airEvents, ?_, same.trans outer, ?_, ?_⟩
  · rw [← tracks.radio]
    exact performed
  · exact (List.sublist_append_left _ _).subperm.trans accounts.subperm
  · intro drained
    rcases tracks.drained drained with ⟨pending, free⟩
    rw [holds.nil free, pending, List.map_nil, List.append_nil, List.append_nil] at accounts
    exact accounts

/-- Noise, a response, a device that announces itself, and the state of the network processor. -/
def busySends : List Sent :=
  [.noise 0x00 (by decide),
    .quiet 0x61 0x02 [] (by decide) (quiet_response (by decide) rfl []),
    .indicated (.endDeviceAnnceInd ⟨0x1234, 0x1234, 0x00137A00000156D5⟩ 0x8E) [] trivial (by decide),
    .indicated (.stateChangeInd 9) [] trivial (by decide)]

def busyOutcomes : List ReadOutcome := List.replicate 30 (.delivered 3)

def busyRadio : RadioState := ⟨⟨twoContacts, .empty⟩, noZones, 0, [], [], []⟩

def busyHost : IncomingHost := ⟨fun _ => 0, 0, [], 0, ⟨true, 0⟩⟩

def workOf {Thread : Type} (thread : Thread) : LineEvent Thread :=
  .work thread busyHost zeroStack fun _ => 0

def busyEvents : List (LineEvent Bool) :=
  List.replicate 4 (.receive ⟨1, fun _ => 0⟩) ++
    [.take true, .take false, workOf true, .take true, workOf true, .other .restart, workOf false]

theorem busy_steady : Steady ⟨wire (busySends.map Sent.transmission), busyOutcomes⟩ :=
  ⟨delivers_replicate 3 30 (by decide), by decide +kernel⟩

theorem line_acts_once_busy :
    ∃ final, run lineStep (lineStart busySends busyOutcomes busyRadio) busyEvents = some final ∧
      ∃ acts, run act busyRadio acts = some final.radio ∧
        acts.filterMap Act.outer = busyEvents.filterMap LineEvent.outer ∧
        (acts.filterMap Act.indication).Subperm (busySends.filterMap Sent.indication) ∧
        (Drained final →
          (acts.filterMap Act.indication).Perm (busySends.filterMap Sent.indication)) := by
  have runs : (run lineStep (lineStart busySends busyOutcomes busyRadio) busyEvents).isSome := by
    decide +kernel
  rcases Option.isSome_iff_exists.mp runs with ⟨final, ran⟩
  exact ⟨final, ran, line_acts_once busy_steady ran⟩

/-- If one thread takes all messages, the callbacks come in the order of the indications. -/
theorem line_acts_in_order (steady : Steady ⟨wire (sends.map Sent.transmission), outcomes⟩)
    {thread : Thread} (taker : ∀ other, .take other ∈ events → other = thread)
    (ran : run lineStep (lineStart sends outcomes radio) events = some final) :
    ∃ acts, run act radio acts = some final.radio ∧
      acts.filterMap Act.outer = events.filterMap LineEvent.outer ∧
      acts.filterMap Act.indication <+: sends.filterMap Sent.indication ∧
      (Drained final → acts.filterMap Act.indication = sends.filterMap Sent.indication) := by
  rcases line_refines_air steady ran with ⟨airEvents, air, within, outer, moved, tracks⟩
  have only : OnlyHolder thread (airStart sends radio : AirState Thread).held := fun _ _ => rfl
  have airTaker (other : Thread) (member : .take other ∈ airEvents) : other = thread := by
    rcases List.mem_filterMap.mp (within.subset member) with ⟨event, inside, erased⟩
    cases event with
    | take another =>
        rw [LineEvent.erased, Option.some.injEq, AirEvent.take.injEq] at erased
        exact taker other (erased ▸ inside)
    | _ => cases erased
  have ordered := air_run_in_order only airTaker moved
  rcases air_run_acts moved with ⟨performed, same⟩
  refine ⟨acts (airStart sends radio) airEvents, ?_, same.trans outer, ⟨_, ordered⟩, ?_⟩
  · rw [← tracks.radio]
    exact performed
  · intro drained
    rcases tracks.drained drained with ⟨pending, free⟩
    rw [free thread, pending, Option.toList_none, List.append_nil, List.append_nil] at ordered
    exact ordered

def orderedEvents : List (LineEvent Unit) :=
  List.replicate 4 (.receive ⟨1, fun _ => 0⟩) ++
    [.take (), workOf (), .take (), workOf (), .other .restart, .take (), workOf ()]

theorem line_acts_in_order_busy :
    ∃ final, run lineStep (lineStart busySends busyOutcomes busyRadio) orderedEvents = some final ∧
      ∃ acts, run act busyRadio acts = some final.radio ∧
        acts.filterMap Act.outer = orderedEvents.filterMap LineEvent.outer ∧
        acts.filterMap Act.indication <+: busySends.filterMap Sent.indication ∧
        (Drained final →
          acts.filterMap Act.indication = busySends.filterMap Sent.indication) := by
  have runs : (run lineStep (lineStart busySends busyOutcomes busyRadio) orderedEvents).isSome := by
    decide +kernel
  rcases Option.isSome_iff_exists.mp runs with ⟨final, ran⟩
  exact ⟨final, ran, line_acts_in_order busy_steady (fun other _ => PUnit.ext other ()) ran⟩

end Results

end SmartHome.RadioRefinement
