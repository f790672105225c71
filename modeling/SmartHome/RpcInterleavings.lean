import SmartHome.RpcProtocol

/-!
# The protocol under every schedule

Whatever the threads, the reading thread and the network processor do, and in whatever order:
frames reach the line one behind the other, each as it would alone, and a response is let
through only while a request to its subsystem is under way. If the network processor answers
each synchronous request at most once and no wait runs out, then every response is expected
when it comes in, and each success belongs to the answer to its own request.
-/

namespace SmartHome.RpcProtocol

open Function
open SmartHome.Library.CriticalSections
open SmartHome.Library.StreamScanner
open SmartHome.Library.Runs
open SmartHome.Rpc
open SmartHome.RpcStream

set_option autoImplicit false

variable {Thread : Type*}

def enters (state : State Thread) : Event Thread → Option Request
  | .enter thread =>
      match state.sending thread with
      | .blocked request => some request
      | _ => none
  | _ => none

def accepts (state : State Thread) : Event Thread → Option Message
  | .check =>
      match state.receiving with
      | .checking message =>
          if Srsp message ∧ state.expectedSrspCmdId = subsystemOf message then some message else none
      | _ => none
  | _ => none

def succeeds (state : State Thread) : Event Thread → Option Request
  | .takeSrsp thread =>
      match state.sending thread with
      | .awaiting request => some request
      | _ => none
  | _ => none

def answers (state : State Thread) : Event Thread → Option (Request × Message)
  | .answer message =>
      match state.znp with
      | request :: _ => some (request, message)
      | [] => none
  | _ => none

namespace Sending

def Inside : Sending → Prop
  | idle | blocked _ | returning _ _ => False
  | _ => True

def awaited : Sending → List Request
  | awaiting request => [request]
  | _ => []

theorem awaited_cases (sending : Sending) :
    sending.awaited = [] ∨ ∃ request, sending = .awaiting request := by
  cases sending with
  | awaiting request => exact .inr ⟨request, rfl⟩
  | _ => exact .inl rfl

def Successful : Sending → Prop
  | clearing _ status | posting _ status | returning _ status => status = mtRpcSuccess
  | _ => True

end Sending

namespace Receiving

/-- A response that is let through but not announced yet. -/
def tokens : Receiving → Nat
  | matched _ => 1
  | _ => 0

def unchecked : Receiving → List Message
  | checking message => if Srsp message then [message] else []
  | _ => []

end Receiving

def framesOf (requests : List Request) : List UInt8 := (requests.map Request.frame).flatten

theorem frames_of_concat (requests : List Request) (request : Request) :
    framesOf (requests ++ [request]) = framesOf requests ++ request.frame := by
  rw [framesOf, framesOf, List.map_append, List.flatten_append, List.map_singleton,
    List.flatten_singleton]

/-- What may be left of a piece: anything from its start on, or all of it. -/
def Torn (_ : List UInt8) (_ : Nat) : Prop := True

def Whole (piece : List UInt8) (count : Nat) : Prop := piece.length ≤ count

variable {passes : List UInt8 → Nat → Prop}

/-- What comes out for a request, of each of its pieces what may be left. -/
def Leaves (passes : List UInt8 → Nat → Prop) (request : Request) (out : List UInt8) : Prop :=
  ∃ buf pieces sent, sentPieces buf request.cmd0 request.cmd1 request.payload = some pieces ∧
    List.Forall₂ passes pieces sent ∧ out = transmitted pieces sent

def Lines (passes : List UInt8 → Nat → Prop) (requests : List Request) (wire : List UInt8) : Prop :=
  ∃ outs, List.Forall₂ (Leaves passes) requests outs ∧ wire = outs.flatten

theorem lines_nil : Lines passes [] [] := ⟨[], .nil, rfl⟩

theorem Lines.concat {requests : List Request} {wire : List UInt8}
    (lines : Lines passes requests wire) {request : Request} {out : List UInt8}
    (leaves : Leaves passes request out) : Lines passes (requests ++ [request]) (wire ++ out) := by
  rcases lines with ⟨outs, each, rfl⟩
  refine ⟨outs ++ [out], List.rel_append each (.cons leaves .nil), ?_⟩
  rw [List.flatten_append, List.flatten_singleton]

def Midway (passes : List UInt8 → Nat → Prop) (done : List Request) (request : Request)
    (pieces : List (List UInt8)) (wire : List UInt8) : Prop :=
  ∃ before buf gone sent, Lines passes done before ∧
    sentPieces buf request.cmd0 request.cmd1 request.payload = some (gone ++ pieces) ∧
    List.Forall₂ passes gone sent ∧ wire = before ++ transmitted gone sent

theorem transmitted_concat {pieces : List (List UInt8)} {sent : List Nat}
    (each : pieces.length = sent.length) (piece : List UInt8) (count : Nat) :
    transmitted (pieces ++ [piece]) (sent ++ [count]) =
      transmitted pieces sent ++ piece.take count := by
  rw [transmitted, List.zipWith_append each, List.flatten_append, transmitted]
  simp only [List.zipWith_cons_cons, List.zipWith_nil_right, List.flatten_singleton]

theorem Midway.write {done : List Request} {request : Request} {piece : List UInt8}
    {pieces : List (List UInt8)} {wire : List UInt8}
    (midway : Midway passes done request (piece :: pieces) wire) {count : Nat}
    (passed : passes piece count) : Midway passes done request pieces (wire ++ piece.take count) := by
  rcases midway with ⟨before, buf, gone, sent, lines, built, each, rfl⟩
  refine ⟨before, buf, gone ++ [piece], sent ++ [count], lines, ?_,
    List.rel_append each (.cons passed .nil), ?_⟩
  · rw [built, List.append_assoc, List.singleton_append]
  · rw [transmitted_concat each.length_eq, List.append_assoc]

theorem Midway.finish {done : List Request} {request : Request} {wire : List UInt8}
    (midway : Midway passes done request [] wire) : Lines passes (done ++ [request]) wire := by
  rcases midway with ⟨before, buf, gone, sent, lines, built, each, rfl⟩
  rw [List.append_nil] at built
  exact lines.concat ⟨buf, gone, sent, built, each, rfl⟩

def Written (passes : List UInt8 → Nat → Prop) (wire : List UInt8) (entered : List Request) :
    Sending → Prop
  | .entered request => ∃ done, entered = done ++ [request] ∧ Lines passes done wire
  | .writing request pieces =>
      ∃ done, entered = done ++ [request] ∧ Midway passes done request pieces wire
  | _ => Lines passes entered wire

/-- No response is expected, unless it be from the subsystem 0, which is reserved. -/
def Unset (expectedSrspCmdId : UInt8) : Prop := expectedSrspCmdId = 0xFF ∨ expectedSrspCmdId = 0

def Expects (expectedSrspCmdId : UInt8) : Sending → Prop
  | .writing request _ | .clearing request _ =>
      if request.Sreq then expectedSrspCmdId = request.subsystem else Unset expectedSrspCmdId
  | .awaiting request => request.Sreq ∧ expectedSrspCmdId = request.subsystem
  | _ => Unset expectedSrspCmdId

theorem expects_clearing {expectedSrspCmdId : UInt8} {request : Request} (status : UInt8)
    (expects : Expects expectedSrspCmdId (.awaiting request)) :
    Expects expectedSrspCmdId (.clearing request status) := by
  rw [Expects, if_pos expects.1]
  exact expects.2

def holding (state : State Thread) : Option Thread → Sending
  | none => .idle
  | some thread => state.sending thread

structure Orderly (passes : List UInt8 → Nat → Prop) (state : State Thread)
    (who : Option Thread) (entered : List Request)
    (accepted : List Message) (succeeded : List Request) : Prop where
  sole : Sole Sending.Inside state.sending state.rpcSem who
  written : Written passes state.wire entered (holding state who)
  expects : Expects state.expectedSrspCmdId (holding state who)
  tokens : accepted.length = state.srspSem + state.receiving.tokens + succeeded.length

structure Matched (state : State Thread) (who : Option Thread)
    (answered : List (Request × Message)) (accepted : List Message) (succeeded : List Request) :
    Prop where
  pipeline : accepted ++ (state.receiving.unchecked ++ state.line.filter (Srsp ·)) =
    answered.map Prod.snd
  requests : answered.map Prod.fst ++ state.znp = succeeded ++ (holding state who).awaited
  fitting : ∀ answer ∈ answered, Srsp answer.2 ∧ subsystemOf answer.2 = answer.1.subsystem
  successful : ∀ thread, (state.sending thread).Successful

def lets (passes : List UInt8 → Nat → Prop) (state : State Thread) : Event Thread → Prop
  | .write thread sent =>
      ∀ request piece pieces, state.sending thread = .writing request (piece :: pieces) →
        passes piece sent
  | _ => True

/-- The network processor answers only what it was asked, and no wait runs out. -/
def disciplined (_ : State Thread) : Event Thread → Prop
  | .arrive message => ¬Srsp message
  | .timeout _ => False
  | _ => True

section Invariant

variable {state next : State Thread} {who : Option Thread} {entered succeeded : List Request}
  {accepted : List Message} {answered : List (Request × Message)}

theorem orderly_open : Orderly passes (rpcOpen : State Thread) none [] [] [] where
  sole := .free rfl fun _ => id
  written := lines_nil
  expects := .inr rfl
  tokens := rfl

theorem matched_open : Matched (rpcOpen : State Thread) none [] [] [] where
  pipeline := rfl
  requests := rfl
  fitting := nofun
  successful _ := trivial

theorem Matched.expected (matched : Matched state who answered accepted succeeded)
    (orderly : Orderly passes state who entered accepted succeeded) {message : Message}
    (checking : state.receiving = .checking message) (response : Srsp message) :
    state.expectedSrspCmdId = subsystemOf message := by
  have pipeline := matched.pipeline
  have requests := matched.requests
  have tokens := orderly.tokens
  rw [checking, Receiving.unchecked, if_pos response] at pipeline
  have messages := congrArg List.length pipeline
  have numbers := congrArg List.length requests
  simp only [List.length_append, List.length_map, List.length_singleton] at messages numbers
  rcases (holding state who).awaited_cases with nobody | ⟨request, phase⟩
  · rw [nobody, List.length_nil] at numbers
    omega
  · have expects := orderly.expects
    rw [phase, Expects] at expects
    rw [phase, Sending.awaited] at requests numbers
    rw [List.length_singleton] at numbers
    have noneMore : state.znp = [] := List.length_eq_zero_iff.mp (by omega)
    have noneBehind : state.line.filter (Srsp ·) = [] := List.length_eq_zero_iff.mp (by omega)
    rw [noneMore, List.append_nil] at requests
    rw [noneBehind, List.append_nil] at pipeline
    rcases List.eq_nil_or_concat' answered with rfl | ⟨front, last, rfl⟩
    · rw [List.length_nil] at messages
      omega
    rw [List.map_append] at requests pipeline
    have sameRequest := (List.append_inj' requests rfl).2
    have sameMessage := (List.append_inj' pipeline rfl).2
    rw [List.map_singleton, List.cons.injEq] at sameRequest sameMessage
    have fitting := matched.fitting last (by simp)
    rw [expects.2, ← sameRequest.1, ← fitting.2, sameMessage.1]

theorem Orderly.elsewhere (orderly : Orderly passes state who entered accepted succeeded)
    (sending : next.sending = state.sending) (semaphore : next.rpcSem = state.rpcSem)
    (wire : next.wire = state.wire)
    (expected : next.expectedSrspCmdId = state.expectedSrspCmdId) {later : List Message}
    (tokens : later.length = next.srspSem + next.receiving.tokens + succeeded.length) :
    Orderly passes next who entered later succeeded := by
  have same : holding next who = holding state who := by
    cases who with
    | none => rfl
    | some holder => rw [holding, holding, sending]
  refine ⟨?_, ?_, ?_, tokens⟩
  · rw [sending, semaphore]
    exact orderly.sole
  · rw [same, wire]
    exact orderly.written
  · rw [same, expected]
    exact orderly.expects

theorem Matched.elsewhere (matched : Matched state who answered accepted succeeded)
    (sending : next.sending = state.sending) {later : List Message}
    {answeredLater : List (Request × Message)}
    (pipeline : later ++ (next.receiving.unchecked ++ next.line.filter (Srsp ·)) =
      answeredLater.map Prod.snd)
    (requests : answeredLater.map Prod.fst ++ next.znp = answered.map Prod.fst ++ state.znp)
    (fitting : ∀ answer ∈ answeredLater,
      Srsp answer.2 ∧ subsystemOf answer.2 = answer.1.subsystem) :
    Matched next who answeredLater later succeeded := by
  have same : holding next who = holding state who := by
    cases who with
    | none => rfl
    | some holder => rw [holding, holding, sending]
  refine ⟨pipeline, ?_, fitting, ?_⟩
  · rw [same, requests]
    exact matched.requests
  · rw [sending]
    exact matched.successful

def Keeps (passes : List UInt8 → Nat → Prop) (state next : State Thread) (event : Event Thread)
    (who : Option Thread)
    (entered : List Request) (accepted : List Message) (succeeded : List Request) : Prop :=
  ∃ after,
    Orderly passes next after (entered ++ (enters state event).toList)
      (accepted ++ (accepts state event).toList) (succeeded ++ (succeeds state event).toList) ∧
    ∀ answered, Matched state who answered accepted succeeded → disciplined state event →
      Matched next after (answered ++ (answers state event).toList)
        (accepted ++ (accepts state event).toList) (succeeded ++ (succeeds state event).toList)

structure Quiet (state : State Thread) (event : Event Thread) : Prop where
  entry : enters state event = none
  message : accepts state event = none
  success : succeeds state event = none
  answer : answers state event = none

theorem Quiet.keeps {event : Event Thread} (quiet : Quiet state event) {after : Option Thread}
    (orderly : Orderly passes next after entered accepted succeeded)
    (matched : ∀ answered, Matched state who answered accepted succeeded →
      disciplined state event → Matched next after answered accepted succeeded) :
    Keeps passes state next event who entered accepted succeeded := by
  refine ⟨after, ?_, ?_⟩
  · rw [quiet.entry, quiet.message, quiet.success]
    simpa only [Option.toList_none, List.append_nil] using orderly
  · rw [quiet.answer, quiet.message, quiet.success]
    simpa only [Option.toList_none, List.append_nil] using matched

variable [DecidableEq Thread]

theorem holding_self {state next : State Thread} {thread : Thread} {sending : Sending}
    (moved : next.sending = update state.sending thread sending) :
    holding next (some thread) = sending := by
  rw [holding, moved, update_self]

theorem holding_other {state next : State Thread} {who : Option Thread} {thread : Thread}
    {sending : Sending} (moved : next.sending = update state.sending thread sending)
    (other : who ≠ some thread) : holding next who = holding state who := by
  cases who with
  | none => rfl
  | some holder =>
      have different : holder ≠ thread := fun same => other (congrArg some same)
      rw [holding, holding, moved, update_of_ne different]

theorem Orderly.aside (orderly : Orderly passes state who entered accepted succeeded) {thread : Thread}
    {sending : Sending} (outside : ¬(state.sending thread).Inside) (stays : ¬sending.Inside) :
    who ≠ some thread ∧ Orderly passes (state.moveTo thread sending) who entered accepted succeeded := by
  rcases orderly.sole.aside outside stays with ⟨other, sole⟩
  have same := holding_other (State.move_to_sending state thread sending) other
  refine ⟨other, sole, ?_, ?_, orderly.tokens⟩
  · rw [same]
    exact orderly.written
  · rw [same]
    exact orderly.expects

theorem Orderly.within (orderly : Orderly passes state who entered accepted succeeded) {thread : Thread}
    (sending : Sending) {old : Sending} (here : state.sending thread = old) (inside : old.Inside)
    (stays : sending.Inside) (moved : next.sending = update state.sending thread sending)
    (semaphore : next.rpcSem = state.rpcSem) (receiving : next.receiving = state.receiving)
    (written : Written passes state.wire entered old → Written passes next.wire entered sending)
    (expects : Expects state.expectedSrspCmdId old → Expects next.expectedSrspCmdId sending)
    {later : List Request}
    (tokens : next.srspSem + later.length = state.srspSem + succeeded.length) :
    who = some thread ∧ Orderly passes next (some thread) entered accepted later := by
  subst here
  have mine := orderly.sole.of_inside inside
  subst mine
  have sole := orderly.sole.stay inside stays
  refine ⟨rfl, ?_, ?_, ?_, ?_⟩
  · rwa [moved, semaphore]
  · rw [holding_self moved]
    exact written orderly.written
  · rw [holding_self moved]
    exact expects orderly.expects
  · have before := orderly.tokens
    rw [receiving]
    omega

theorem Matched.move (matched : Matched state who answered accepted succeeded) (thread : Thread)
    (sending : Sending) (moved : next.sending = update state.sending thread sending)
    (receiving : next.receiving = state.receiving) (line : next.line = state.line)
    (successful : sending.Successful) {after : Option Thread} {later : List Request}
    (requests : answered.map Prod.fst ++ next.znp = later ++ (holding next after).awaited) :
    Matched next after answered accepted later where
  pipeline := by
    rw [receiving, line]
    exact matched.pipeline
  requests := requests
  fitting := matched.fitting
  successful other := by
    rw [moved]
    by_cases this : other = thread
    · rwa [this, update_self]
    · rw [update_of_ne this]
      exact matched.successful other

theorem Quiet.keeps_aside {event : Event Thread} (quiet : Quiet state event)
    (orderly : Orderly passes state who entered accepted succeeded) {thread : Thread}
    {old sending : Sending} (here : state.sending thread = old) (outside : ¬old.Inside)
    (stays : ¬sending.Inside) (successful : old.Successful → sending.Successful) :
    Keeps passes state (state.moveTo thread sending) event who entered accepted succeeded := by
  subst here
  rcases @Orderly.aside _ _ _ _ _ _ _ _ orderly thread sending outside stays with ⟨other, moved⟩
  refine quiet.keeps moved ?_
  intro answered matched _
  refine matched.move thread sending (by rfl) (by rfl) (by rfl)
    (successful (matched.successful thread)) ?_
  rw [holding_other rfl other]
  exact matched.requests

theorem Quiet.keeps_within {event : Event Thread} (quiet : Quiet state event)
    (orderly : Orderly passes state who entered accepted succeeded) {thread : Thread}
    (sending : Sending) {old : Sending} (here : state.sending thread = old) (inside : old.Inside)
    (stays : sending.Inside) (moved : next.sending = update state.sending thread sending)
    (semaphore : next.rpcSem = state.rpcSem) (tokens : next.srspSem = state.srspSem)
    (receiving : next.receiving = state.receiving) (line : next.line = state.line)
    (written : Written passes state.wire entered old → Written passes next.wire entered sending)
    (expects : Expects state.expectedSrspCmdId old → Expects next.expectedSrspCmdId sending)
    (successful : disciplined state event → old.Successful → sending.Successful)
    (awaits : ∀ asked : List Request, asked ++ state.znp = succeeded ++ old.awaited →
      asked ++ next.znp = succeeded ++ sending.awaited) :
    Keeps passes state next event who entered accepted succeeded := by
  rcases orderly.within sending here inside stays moved semaphore receiving written expects
    (by rw [tokens]) with ⟨rfl, kept⟩
  refine quiet.keeps kept ?_
  intro answered matched allowed
  have mine := matched.successful thread
  rw [here] at mine
  refine matched.move thread sending moved receiving line (successful allowed mine) ?_
  have requests := matched.requests
  rw [holding, here] at requests
  rw [holding_self moved]
  exact awaits _ requests

theorem keeps_call (orderly : Orderly passes state who entered accepted succeeded) {thread : Thread}
    {request : Request} (stepped : step state (.call thread request) = some next) :
    Keeps passes state next (.call thread request) who entered accepted succeeded := by
  rw [step] at stepped
  split at stepped
  · next here =>
      cases stepped
      exact Quiet.keeps_aside ⟨rfl, rfl, rfl, rfl⟩ orderly here id id fun _ => trivial
  · cases stepped

theorem keeps_finish (orderly : Orderly passes state who entered accepted succeeded) {thread : Thread}
    (stepped : step state (.finish thread) = some next) :
    Keeps passes state next (.finish thread) who entered accepted succeeded := by
  rw [step] at stepped
  split at stepped
  · next request status here =>
      cases stepped
      exact Quiet.keeps_aside ⟨rfl, rfl, rfl, rfl⟩ orderly here id id fun _ => trivial
  · cases stepped

theorem keeps_enter (orderly : Orderly passes state who entered accepted succeeded) {thread : Thread}
    (stepped : step state (.enter thread) = some next) :
    Keeps passes state next (.enter thread) who entered accepted succeeded := by
  rw [step] at stepped
  split at stepped
  · next request here =>
      rw [Option.ite_none_right_eq_some, Option.some.injEq] at stepped
      rcases stepped with ⟨positive, rfl⟩
      have seen : enters state (.enter thread) = some request := by rw [enters, here]
      have goesIn : Sending.Inside (.entered request) := trivial
      rcases orderly.sole.enter positive goesIn with ⟨rfl, sole⟩
      refine ⟨some thread, ⟨sole, ?_, ?_, ?_⟩, ?_⟩
      · rw [holding_self rfl, seen]
        exact ⟨entered, rfl, orderly.written⟩
      · rw [holding_self rfl]
        exact orderly.expects
      · simp only [accepts, succeeds, Option.toList_none, List.append_nil]
        exact orderly.tokens
      · intro answered matched _
        simp only [accepts, succeeds, answers, Option.toList_none, List.append_nil]
        refine matched.move thread (.entered request) (by rfl) (by rfl) (by rfl) trivial ?_
        rw [holding_self rfl]
        exact matched.requests
  · cases stepped

theorem keeps_expect (orderly : Orderly passes state who entered accepted succeeded)
    {thread : Thread} {buf : Library.Bytes.Memory}
    (stepped : step state (.expect thread buf) = some next) :
    Keeps passes state next (.expect thread buf) who entered accepted succeeded := by
  rw [step] at stepped
  split at stepped
  · next request here =>
      rw [Option.map_eq_some_iff] at stepped
      rcases stepped with ⟨pieces, built, rfl⟩
      refine Quiet.keeps_within ⟨rfl, rfl, rfl, rfl⟩ orderly (.writing request pieces) here trivial
        (by trivial) (by rfl) (by rfl) (by rfl) (by rfl) (by rfl) ?_ ?_ (fun _ _ => trivial)
        (fun _ same => same)
      · rintro ⟨done, rfl, lines⟩
        exact ⟨done, rfl, state.wire, buf, [], [], lines, built, .nil, (List.append_nil _).symm⟩
      · intro unset
        rw [Expects]
        split_ifs with sreq
        · simp only [State.moveTo]
        · simp only [State.moveTo]
          exact unset
  · cases stepped

theorem keeps_write (orderly : Orderly passes state who entered accepted succeeded)
    {thread : Thread} {sent : Nat} (passed : lets passes state (.write thread sent))
    (stepped : step state (.write thread sent) = some next) :
    Keeps passes state next (.write thread sent) who entered accepted succeeded := by
  rw [step] at stepped
  split at stepped
  · next request piece here =>
      have last : Written passes state.wire entered (.writing request [piece]) →
          Lines passes entered (state.wire ++ piece.take sent) := by
        rintro ⟨done, rfl, midway⟩
        exact (midway.write (passed request piece [] here)).finish
      cases stepped
      by_cases sreq : request.Sreq
      · rw [afterFrame, if_pos sreq, if_pos sreq]
        refine Quiet.keeps_within ⟨rfl, rfl, rfl, rfl⟩ orderly (.awaiting request) here trivial
          (by trivial) (by rfl) (by rfl) (by rfl) (by rfl) (by rfl) last ?_ (fun _ _ => trivial) ?_
        · intro expects
          rw [Expects, if_pos sreq] at expects
          exact ⟨sreq, expects⟩
        · intro asked same
          have asked_eq : asked ++ state.znp = succeeded := same.trans (List.append_nil _)
          change asked ++ (state.znp ++ [request]) = succeeded ++ [request]
          rw [← List.append_assoc, asked_eq]
      · rw [afterFrame, if_neg sreq, if_neg sreq]
        refine Quiet.keeps_within ⟨rfl, rfl, rfl, rfl⟩ orderly (.posting request mtRpcSuccess) here
          trivial (by trivial) (by rfl) (by rfl) (by rfl) (by rfl) (by rfl) last ?_ (fun _ _ => rfl)
          (fun _ same => same)
        intro expects
        rw [Expects, if_neg sreq] at expects
        exact expects
  · next request piece pieces _ here =>
      cases stepped
      refine Quiet.keeps_within ⟨rfl, rfl, rfl, rfl⟩ orderly (.writing request pieces) here trivial
        (by trivial) (by rfl) (by rfl) (by rfl) (by rfl) (by rfl) ?_ id (fun _ _ => trivial)
        (fun _ same => same)
      rintro ⟨done, rfl, midway⟩
      exact ⟨done, rfl, midway.write (passed request piece pieces here)⟩
  · cases stepped

theorem keeps_timeout (orderly : Orderly passes state who entered accepted succeeded) {thread : Thread}
    (stepped : step state (.timeout thread) = some next) :
    Keeps passes state next (.timeout thread) who entered accepted succeeded := by
  rw [step] at stepped
  split at stepped
  · next request here =>
      cases stepped
      have kept := @Orderly.within _ _ state
        (state.moveTo thread (.clearing request mtRpcErrSubsystem)) _ _ _ _ _ orderly thread
        (.clearing request mtRpcErrSubsystem) _ here trivial trivial rfl rfl rfl id
        (expects_clearing mtRpcErrSubsystem) _ rfl
      exact Quiet.keeps ⟨rfl, rfl, rfl, rfl⟩ kept.2 fun _ _ never => absurd never id
  · cases stepped

theorem keeps_clear (orderly : Orderly passes state who entered accepted succeeded) {thread : Thread}
    (stepped : step state (.clear thread) = some next) :
    Keeps passes state next (.clear thread) who entered accepted succeeded := by
  rw [step] at stepped
  split at stepped
  · next request status here =>
      cases stepped
      exact Quiet.keeps_within ⟨rfl, rfl, rfl, rfl⟩ orderly (.posting request status) here trivial
        (by trivial) (by rfl)
        (by rfl) (by rfl) (by rfl) (by rfl) id (fun _ => .inl rfl) (fun _ status => status)
        (fun _ same => same)
  · cases stepped

theorem keeps_take_srsp (orderly : Orderly passes state who entered accepted succeeded) {thread : Thread}
    (stepped : step state (.takeSrsp thread) = some next) :
    Keeps passes state next (.takeSrsp thread) who entered accepted succeeded := by
  rw [step] at stepped
  split at stepped
  · next request here =>
      rw [Option.ite_none_right_eq_some, Option.some.injEq] at stepped
      rcases stepped with ⟨positive, rfl⟩
      have seen : succeeds state (.takeSrsp thread) = some request := by rw [succeeds, here]
      have tokens : state.srspSem - 1 + (succeeded ++ [request]).length =
          state.srspSem + succeeded.length := by
        rw [List.length_append, List.length_singleton]
        omega
      rcases @Orderly.within _ _ state
        ({ state with srspSem := state.srspSem - 1 }.moveTo thread (.clearing request mtRpcSuccess))
        _ _ _ _ _ orderly thread (.clearing request mtRpcSuccess) _ here trivial trivial rfl rfl rfl
        id (expects_clearing mtRpcSuccess) _ tokens with ⟨rfl, kept⟩
      refine ⟨some thread, ?_, ?_⟩
      · simp only [enters, accepts, seen, Option.toList_none, Option.toList_some, List.append_nil]
        exact kept
      · intro answered matched _
        simp only [answers, accepts, seen, Option.toList_none, Option.toList_some, List.append_nil]
        refine matched.move thread (.clearing request mtRpcSuccess) (by rfl) (by rfl) (by rfl) rfl ?_
        have requests := matched.requests
        rw [holding, here, Sending.awaited] at requests
        rw [holding_self rfl]
        exact requests.trans (List.append_nil _).symm
  · cases stepped

theorem keeps_post (orderly : Orderly passes state who entered accepted succeeded) {thread : Thread}
    (stepped : step state (.post thread) = some next) :
    Keeps passes state next (.post thread) who entered accepted succeeded := by
  rw [step] at stepped
  split at stepped
  · next request status here =>
      cases stepped
      have inside : (state.sending thread).Inside := by
        rw [here]
        trivial
      have goesOut : ¬Sending.Inside (.returning request status) := id
      have mine := orderly.sole.of_inside inside
      subst mine
      have written := orderly.written
      have expects := orderly.expects
      rw [holding, here] at written expects
      refine Quiet.keeps ⟨rfl, rfl, rfl, rfl⟩
        ⟨orderly.sole.leave inside goesOut, written, expects, orderly.tokens⟩ ?_
      intro answered matched _
      have status := matched.successful thread
      have requests := matched.requests
      rw [here] at status
      rw [holding, here] at requests
      exact matched.move thread (.returning request _) (by rfl) (by rfl) (by rfl) status requests
  · cases stepped

theorem keeps_answer (orderly : Orderly passes state who entered accepted succeeded) {message : Message}
    (stepped : step state (.answer message) = some next) :
    Keeps passes state next (.answer message) who entered accepted succeeded := by
  rw [step] at stepped
  split at stepped
  · next request znp asked =>
      rw [Option.ite_none_right_eq_some, Option.some.injEq] at stepped
      rcases stepped with ⟨fits, rfl⟩
      have seen : answers state (.answer message) = some (request, message) := by
        rw [answers, asked]
      refine ⟨who, ?_, ?_⟩
      · simp only [enters, accepts, succeeds, Option.toList_none, List.append_nil]
        exact orderly.elsewhere (by rfl) (by rfl) (by rfl) (by rfl) (by exact orderly.tokens)
      · intro answered matched _
        simp only [accepts, succeeds, seen, Option.toList_none, Option.toList_some, List.append_nil]
        refine matched.elsewhere (by rfl) ?_ ?_ ?_
        · simp only [List.filter_append, List.map_append, ← matched.pipeline, List.append_assoc]
          simp only [List.filter_cons, fits.1, decide_true, if_true, List.filter_nil, List.map_cons,
            List.map_nil]
        · simp only [List.map_append, List.map_cons, List.map_nil, asked, List.append_assoc,
            List.singleton_append]
        · intro answer member
          rcases List.mem_append.mp member with old | new
          · exact matched.fitting answer old
          · rw [List.mem_singleton.mp new]
            exact fits
  · cases stepped

theorem keeps_arrive (orderly : Orderly passes state who entered accepted succeeded) {message : Message}
    (stepped : step state (.arrive message) = some next) :
    Keeps passes state next (.arrive message) who entered accepted succeeded := by
  rw [step, Option.some.injEq] at stepped
  subst stepped
  refine Quiet.keeps ⟨rfl, rfl, rfl, rfl⟩
    (orderly.elsewhere (by rfl) (by rfl) (by rfl) (by rfl) (by exact orderly.tokens)) ?_
  intro answered matched other
  refine matched.elsewhere (by rfl) ?_ (by rfl) matched.fitting
  have noResponse : ¬Srsp message := other
  rw [← matched.pipeline]
  simp only [List.filter_append, List.filter_cons, noResponse, decide_false, List.filter_nil,
    List.append_nil, Bool.false_eq_true, if_false]

theorem keeps_receive (orderly : Orderly passes state who entered accepted succeeded)
    (stepped : step state .receive = some next) :
    Keeps passes state next .receive who entered accepted succeeded := by
  rw [step] at stepped
  split at stepped
  · next message line idle arrived =>
      cases stepped
      have tokens := orderly.tokens
      rw [idle] at tokens
      refine Quiet.keeps ⟨rfl, rfl, rfl, rfl⟩
        (orderly.elsewhere (by rfl) (by rfl)
        (by rfl) (by rfl) (by exact tokens)) ?_
      intro answered matched _
      refine matched.elsewhere (by rfl) ?_ (by rfl) matched.fitting
      rw [← matched.pipeline, idle, arrived]
      simp only [Receiving.unchecked, List.filter_cons, List.nil_append, decide_eq_true_eq]
      split_ifs
      · rfl
      · rfl
  · cases stepped

theorem keeps_post_srsp (orderly : Orderly passes state who entered accepted succeeded)
    (stepped : step state .postSrsp = some next) :
    Keeps passes state next .postSrsp who entered accepted succeeded := by
  rw [step] at stepped
  split at stepped
  · next message here =>
      cases stepped
      have tokens := orderly.tokens
      rw [here] at tokens
      refine Quiet.keeps ⟨rfl, rfl, rfl, rfl⟩ (orderly.elsewhere (by rfl) (by rfl)
        (by rfl) (by rfl) (by exact tokens)) ?_
      intro answered matched _
      refine matched.elsewhere (by rfl) ?_ (by rfl) matched.fitting
      rw [← matched.pipeline, here]
      rfl
  · cases stepped

theorem keeps_pass (orderly : Orderly passes state who entered accepted succeeded)
    (stepped : step state .pass = some next) :
    Keeps passes state next .pass who entered accepted succeeded := by
  rw [step] at stepped
  split at stepped
  · next message prio here =>
      cases stepped
      have tokens := orderly.tokens
      rw [here] at tokens
      refine Quiet.keeps ⟨rfl, rfl, rfl, rfl⟩ (orderly.elsewhere (by rfl) (by rfl)
        (by rfl) (by rfl) (by exact tokens)) ?_
      intro answered matched _
      refine matched.elsewhere (by rfl) ?_ (by rfl) matched.fitting
      rw [← matched.pipeline, here]
      rfl
  · cases stepped

theorem keeps_check (orderly : Orderly passes state who entered accepted succeeded)
    (stepped : step state .check = some next) :
    Keeps passes state next .check who entered accepted succeeded := by
  rw [step] at stepped
  split at stepped
  · next message here =>
      have tokens := orderly.tokens
      rw [here] at tokens
      by_cases response : Srsp message
      · rw [if_pos response] at stepped
        by_cases expected : state.expectedSrspCmdId = subsystemOf message
        · rw [if_pos expected] at stepped
          cases stepped
          have seen : accepts state (.check : Event Thread) = some message := by
            simp only [accepts, here, response, expected, and_self, if_true]
          refine ⟨who, ?_, ?_⟩
          · simp only [enters, succeeds, seen, Option.toList_none, Option.toList_some,
              List.append_nil]
            refine orderly.elsewhere (by rfl) (by rfl) (by rfl) (by rfl) ?_
            rw [List.length_append, List.length_singleton, tokens]
            simp only [Receiving.tokens]
            omega
          · intro answered matched _
            simp only [answers, succeeds, seen, Option.toList_none, Option.toList_some,
              List.append_nil]
            refine matched.elsewhere (by rfl) ?_ (by rfl) matched.fitting
            rw [← matched.pipeline, here]
            simp only [Receiving.unchecked, if_pos response, List.append_assoc, List.nil_append]
        · rw [if_neg expected] at stepped
          cases stepped
      · rw [if_neg response] at stepped
        cases stepped
        have unseen : accepts state (.check : Event Thread) = none := by
          simp only [accepts, here, response, false_and, if_false]
        refine Quiet.keeps ⟨rfl, unseen, rfl, rfl⟩ (orderly.elsewhere (by rfl) (by rfl)
        (by rfl) (by rfl) (by exact tokens)) ?_
        intro answered matched _
        refine matched.elsewhere (by rfl) ?_ (by rfl) matched.fitting
        rw [← matched.pipeline, here]
        simp only [Receiving.unchecked, if_neg response]
  · cases stepped

theorem keeps_step (orderly : Orderly passes state who entered accepted succeeded)
    {event : Event Thread} (passed : lets passes state event)
    (stepped : step state event = some next) :
    Keeps passes state next event who entered accepted succeeded := by
  cases event with
  | call thread request => exact keeps_call orderly stepped
  | enter thread => exact keeps_enter orderly stepped
  | expect thread buf => exact keeps_expect orderly stepped
  | write thread sent => exact keeps_write orderly passed stepped
  | takeSrsp thread => exact keeps_take_srsp orderly stepped
  | timeout thread => exact keeps_timeout orderly stepped
  | clear thread => exact keeps_clear orderly stepped
  | post thread => exact keeps_post orderly stepped
  | finish thread => exact keeps_finish orderly stepped
  | answer message => exact keeps_answer orderly stepped
  | arrive message => exact keeps_arrive orderly stepped
  | receive => exact keeps_receive orderly stepped
  | check => exact keeps_check orderly stepped
  | postSrsp => exact keeps_post_srsp orderly stepped
  | pass => exact keeps_pass orderly stepped

theorem keeps_run {events : List (Event Thread)}
    (orderly : Orderly passes state who entered accepted succeeded)
    (passed : Meets step (lets passes) state events) (ran : run step state events = some next) :
    ∃ after,
      Orderly passes next after (entered ++ observed step enters state events)
        (accepted ++ observed step accepts state events)
        (succeeded ++ observed step succeeds state events) ∧
      ∀ answered, Matched state who answered accepted succeeded →
        Meets step disciplined state events →
        Matched next after (answered ++ observed step answers state events)
          (accepted ++ observed step accepts state events)
          (succeeded ++ observed step succeeds state events) := by
  induction events generalizing state who entered accepted succeeded with
  | nil =>
      rw [run, Option.some.injEq] at ran
      subst ran
      refine ⟨who, ?_, ?_⟩
      · simpa only [observed, List.append_nil] using orderly
      · intro answered matched _
        simpa only [observed, List.append_nil] using matched
  | cons event events induction =>
      rw [run, Option.bind_eq_some_iff] at ran
      rcases ran with ⟨middle, stepped, later⟩
      rcases keeps_step orderly passed.1 stepped with ⟨between, kept, keptMatched⟩
      rcases induction kept (passed.2 middle stepped) later with ⟨after, now, nowMatched⟩
      refine ⟨after, ?_, ?_⟩
      · simpa only [observed_cons stepped, List.append_assoc] using now
      · intro answered matched meets
        have last := nowMatched _ (keptMatched answered matched meets.1) (meets.2 middle stepped)
        simpa only [observed_cons stepped, List.append_assoc] using last

theorem meets_torn (events : List (Event Thread)) (state : State Thread) :
    Meets step (lets Torn) state events := by
  apply meets_of_forall
  intro event _ state
  cases event with
  | write thread sent => exact fun _ _ _ _ => trivial
  | _ => exact trivial

section Frames

/-- What a call of `rpcSendFrame` by itself may bring onto the line for the request. -/
def Outcome (request : Request) (out : List UInt8) : Prop :=
  ∃ buf sent, sentBytes buf request.cmd0 request.cmd1 request.payload sent = some out

theorem sent_bytes_eq (buf : Library.Bytes.Memory) (cmd0 cmd1 : UInt8) (payload : List UInt8)
    (sent : List Nat) :
    sentBytes buf cmd0 cmd1 payload sent =
      (sentPieces buf cmd0 cmd1 payload).map (transmitted · sent) := by
  rw [sentBytes, sentPieces, Option.map_map]
  rfl

theorem transmitted_unfinished {gone : List (List UInt8)} {sent : List Nat}
    (each : gone.length = sent.length) (pieces : List (List UInt8)) :
    transmitted (gone ++ pieces) sent = transmitted gone sent := by
  rw [← List.append_nil sent, transmitted, List.zipWith_append each, List.zipWith_nil_right,
    List.append_nil, List.append_nil, transmitted]

theorem Leaves.outcome {request : Request} {out : List UInt8} (leaves : Leaves passes request out) :
    Outcome request out := by
  rcases leaves with ⟨buf, pieces, sent, built, each, rfl⟩
  exact ⟨buf, sent, by rw [sent_bytes_eq, built, Option.map_some]⟩

theorem Lines.outcomes {requests : List Request} {wire : List UInt8}
    (lines : Lines passes requests wire) :
    ∃ outs, List.Forall₂ Outcome requests outs ∧ wire = outs.flatten := by
  rcases lines with ⟨outs, each, rfl⟩
  exact ⟨outs, each.imp fun _ _ => Leaves.outcome, rfl⟩

theorem Lines.outcomes_concat {done : List Request} {before : List UInt8}
    (lines : Lines passes done before) {request : Request} {out : List UInt8}
    (outcome : Outcome request out) :
    ∃ outs, List.Forall₂ Outcome (done ++ [request]) outs ∧ before ++ out = outs.flatten := by
  rcases lines.outcomes with ⟨outs, each, rfl⟩
  refine ⟨outs ++ [out], List.rel_append each (.cons outcome .nil), ?_⟩
  rw [List.flatten_append, List.flatten_singleton]

/-- In the middle of a request too, the line is as if the rest of it had been thrown away. -/
theorem Written.outcomes {wire : List UInt8} {sending : Sending}
    (written : Written passes wire entered sending) :
    ∃ outs, List.Forall₂ Outcome entered outs ∧ wire = outs.flatten := by
  cases sending with
  | entered request =>
      rcases written with ⟨done, rfl, lines⟩
      have nothing : Outcome request [] := by
        rcases sent_pieces_flatten request.fits (fun _ => 0) request.cmd0 request.cmd1 with
          ⟨pieces, built, _⟩
        exact ⟨fun _ => 0, [], by rw [sent_bytes_eq, built, Option.map_some, transmitted_nil_right]⟩
      rw [← List.append_nil wire]
      exact lines.outcomes_concat nothing
  | writing request pieces =>
      rcases written with ⟨done, rfl, before, buf, gone, sent, lines, built, each, rfl⟩
      refine lines.outcomes_concat ⟨buf, sent, ?_⟩
      rw [sent_bytes_eq, built, Option.map_some, transmitted_unfinished each.length_eq]
  | _ => exact Lines.outcomes written

theorem transmitted_whole {pieces : List (List UInt8)} {sent : List Nat}
    (each : List.Forall₂ Whole pieces sent) : transmitted pieces sent = pieces.flatten := by
  induction each with
  | nil => rfl
  | cons first _ induction =>
      rw [transmitted_cons, List.flatten_cons, induction, List.take_of_length_le first]

theorem Leaves.whole {request : Request} {out : List UInt8} (leaves : Leaves Whole request out) :
    out = request.frame := by
  rcases leaves with ⟨buf, pieces, sent, built, each, rfl⟩
  rcases sent_pieces_flatten request.fits buf request.cmd0 request.cmd1 with ⟨found, again, flat⟩
  rw [built, Option.some.injEq] at again
  rw [transmitted_whole each, again, flat, Request.frame]

theorem Lines.whole {requests : List Request} {wire : List UInt8}
    (lines : Lines Whole requests wire) : wire = framesOf requests := by
  rcases lines with ⟨outs, each, rfl⟩
  have same : List.Forall₂ (fun request out => out = request.frame) requests outs :=
    each.imp fun _ _ => Leaves.whole
  rw [framesOf]
  congr 1
  induction same with
  | nil => rfl
  | cons first _ induction =>
      cases each with
      | cons _ later => rw [List.map_cons, first, induction later]

theorem Written.is_prefix {wire : List UInt8} {sending : Sending}
    (written : Written Whole wire entered sending) : wire <+: framesOf entered := by
  cases sending with
  | entered request =>
      rcases written with ⟨done, rfl, lines⟩
      rw [frames_of_concat, lines.whole]
      exact List.prefix_append _ _
  | writing request pieces =>
      rcases written with ⟨done, rfl, before, buf, gone, sent, lines, built, each, rfl⟩
      rcases sent_pieces_flatten request.fits buf request.cmd0 request.cmd1 with
        ⟨found, again, flat⟩
      rw [built, Option.some.injEq] at again
      rw [frames_of_concat, lines.whole, transmitted_whole each, Request.frame, ← flat, ← again,
        List.flatten_append, List.prefix_append_right_inj]
      exact List.prefix_append _ _
  | _ => exact (Lines.whole written) ▸ List.prefix_refl _

end Frames

theorem scan_frames_of (requests : List Request) :
    rpcScanner.scan (framesOf requests) =
      (requests.map fun request => .record () request.frame, []) := by
  induction requests with
  | nil => exact rpcScanner.scan_hold [] rpcScanner.empty_holds
  | cons request requests induction =>
      have split : framesOf (request :: requests) = request.frame ++ framesOf requests := rfl
      have fits := request.fits
      rw [split, Request.frame, frameOf, List.cons_append, List.cons_append,
        scan_record (message_of_length (by omega) _ _), induction]
      rfl

/-- If the network processor answers each synchronous request at most once, and no wait runs out,
every response is expected when it comes in: the successes are those of the requests in the order in
which they were answered, each behind the response to it. -/
theorem rpc_responses_matched {events : List (Event Thread)}
    (ran : run step rpcOpen events = some next) (meets : Meets step disciplined rpcOpen events) :
    (∀ message, next.receiving = .checking message → Srsp message →
        next.expectedSrspCmdId = subsystemOf message) ∧
      observed step succeeds rpcOpen events <+:
        (observed step answers rpcOpen events).map Prod.fst ∧
      observed step accepts rpcOpen events <+:
        (observed step answers rpcOpen events).map Prod.snd ∧
      (observed step succeeds rpcOpen events).length ≤
        (observed step accepts rpcOpen events).length ∧
      (∀ answer ∈ observed step answers rpcOpen events,
        Srsp answer.2 ∧ subsystemOf answer.2 = answer.1.subsystem) ∧
      ∀ thread, (next.sending thread).Successful := by
  rcases keeps_run orderly_open (meets_torn events rpcOpen) ran with ⟨who, orderly, matches_⟩
  have matched := matches_ [] matched_open meets
  simp only [List.nil_append] at orderly matched
  have tokens := orderly.tokens
  have accepted : observed step accepts rpcOpen events <+:
      (observed step answers rpcOpen events).map Prod.snd := ⟨_, matched.pipeline⟩
  have fewer := accepted.length_le
  rw [List.length_map] at fewer
  refine ⟨fun message checking response => matched.expected orderly checking response, ?_, accepted,
    by omega, matched.fitting, matched.successful⟩
  have succeeded : observed step succeeds rpcOpen events <+:
      (observed step answers rpcOpen events).map Prod.fst ++ next.znp := ⟨_, matched.requests.symm⟩
  refine List.prefix_of_prefix_length_le succeeded (List.prefix_append _ _) ?_
  rw [List.length_map]
  omega

/-- Two threads and a third one: the frame of the first is torn by a port that is too slow, the second
one pings and is answered while an indication comes in, the third one waits for its turn. -/
def pinged : List (Event Nat) :=
  [.call 0 ⟨0x41, 0x00, [1, 2, 3, 4], by decide⟩, .call 1 ⟨0x21, 0x01, [], Nat.zero_le _⟩,
    .enter 0, .call 2 ⟨0x41, 0x02, [7], by decide⟩, .expect 0 fun _ => 0, .write 0 5, .write 0 1,
    .arrive [0x45, 0xC1, 9, 0x8D], .post 0, .enter 1, .receive, .expect 1 fun _ => 0, .check,
    .write 1 8, .answer [0x61, 0x01, 0x60], .pass, .receive, .check, .postSrsp, .takeSrsp 1, .pass,
    .clear 1, .post 1, .finish 1, .enter 2]

theorem rpc_responses_matched_ping :
    ∃ next, run step rpcOpen pinged = some next ∧
      observed step succeeds rpcOpen pinged <+:
        (observed step answers rpcOpen pinged).map Prod.fst := by
  have runs : (run step rpcOpen pinged).isSome := by decide +kernel
  have meets : Meets step disciplined rpcOpen pinged := by
    apply meets_of_forall
    intro event member state
    have allowed : ∀ event ∈ pinged, (∀ thread, event ≠ .timeout thread) ∧
        ∀ message, event = .arrive message → ¬Srsp message := by
      simp only [pinged, List.forall_mem_cons]
      simp [Srsp, mtRpcCmdTypeMask, mtRpcCmdSrsp]
      decide
    cases event with
    | arrive message => exact (allowed _ member).2 message rfl
    | timeout thread => exact absurd rfl ((allowed _ member).1 thread)
    | _ => exact trivial
  rcases Option.isSome_iff_exists.mp runs with ⟨next, ran⟩
  exact ⟨next, ran, (rpc_responses_matched ran meets).2.1⟩

end Invariant

end SmartHome.RpcProtocol
