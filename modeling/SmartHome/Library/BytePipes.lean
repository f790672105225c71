import SmartHome.Library.Bytes

/-!
# Messages over a byte pipe

A pipe is a queue of bytes without message boundaries. A writer puts the bytes of a whole
message into it in one step; the reader takes bytes off its front and decides by them how
far a message goes. If the reader gets every written message back and stops where the next
one starts, then it gets all of them back, whatever the interleaving.
-/

namespace SmartHome.Library.BytePipes

open SmartHome.Library.Bytes

set_option autoImplicit false

/-- What is written for a message depends on the memory of the writer's variable, what is read on
that of the reader's variable. -/
structure Framing (Message : Type*) where
  frame : Memory → Message → List UInt8
  read : Memory → List UInt8 → Option Message × List UInt8
  read_frame : ∀ held message stack rest,
    read stack (frame held message ++ rest) = (some message, rest)
  read_empty : ∀ stack, read stack [] = (none, [])

inductive Event (Message : Type*)
  | write (held : Memory) (message : Message)
  | read (stack : Memory)

structure Channel (Message : Type*) where
  bytes : List UInt8
  written : List Message
  received : List Message

def Channel.empty {Message : Type*} : Channel Message := ⟨[], [], []⟩

variable {Message : Type*} (framing : Framing Message)

def step (channel : Channel Message) : Event Message → Channel Message
  | .write held message =>
      { channel with
        bytes := channel.bytes ++ framing.frame held message
        written := channel.written ++ [message] }
  | .read stack =>
      let got := framing.read stack channel.bytes
      { channel with bytes := got.2, received := channel.received ++ got.1.toList }

/-- What was read is what was written first, and the bytes in the pipe are those of the messages
after that, from the first byte of the next one on. -/
def Faithful (channel : Channel Message) : Prop :=
  ∃ waiting : List (Memory × Message),
    channel.written = channel.received ++ waiting.map Prod.snd ∧
      channel.bytes = waiting.flatMap fun sent => framing.frame sent.1 sent.2

theorem empty_faithful : Faithful framing .empty := ⟨[], rfl, rfl⟩

theorem read_nothing {channel : Channel Message} (stack : Memory) (bytes : channel.bytes = []) :
    step framing channel (.read stack) = channel := by
  simp only [step, bytes, framing.read_empty, Option.toList_none, List.append_nil]
  rw [← bytes]

theorem read_next {channel : Channel Message} (stack : Memory) {sent : Memory × Message}
    {waiting : List (Memory × Message)}
    (bytes : channel.bytes = (sent :: waiting).flatMap fun sent => framing.frame sent.1 sent.2) :
    step framing channel (.read stack) =
      { channel with
        bytes := waiting.flatMap fun sent => framing.frame sent.1 sent.2
        received := channel.received ++ [sent.2] } := by
  simp only [step, bytes, List.flatMap_cons, framing.read_frame, Option.toList_some]

theorem step_faithful {channel : Channel Message} (faithful : Faithful framing channel)
    (event : Event Message) : Faithful framing (step framing channel event) := by
  rcases faithful with ⟨waiting, written, bytes⟩
  cases event with
  | write held message =>
      refine ⟨waiting ++ [(held, message)], ?_, ?_⟩
      · simp only [step, written, List.map_append, List.map_cons, List.map_nil, List.append_assoc]
      · simp only [step, bytes, List.flatMap_append, List.flatMap_singleton]
  | read stack =>
      cases waiting with
      | nil =>
          rw [read_nothing framing stack bytes]
          exact ⟨[], written, bytes⟩
      | cons sent waiting =>
          rw [read_next framing stack bytes]
          refine ⟨waiting, ?_, rfl⟩
          rw [written, List.map_cons, List.append_assoc, List.singleton_append]

/-- A reader that is called often enough gets everything. -/
theorem drained {channel : Channel Message} (faithful : Faithful framing channel)
    (calls : List Memory)
    (enough : channel.written.length ≤ channel.received.length + calls.length) :
    (calls.foldl (fun channel stack => step framing channel (.read stack)) channel).received =
      channel.written := by
  induction calls generalizing channel with
  | nil =>
      rcases faithful with ⟨waiting, written, -⟩
      have none : waiting.map Prod.snd = [] := by
        rw [← List.length_eq_zero_iff]
        rw [written, List.length_append, List.length_nil] at enough
        omega
      rw [List.foldl_nil, written, none, List.append_nil]
  | cons stack calls induction =>
      have next := step_faithful framing faithful (.read stack)
      rcases faithful with ⟨waiting, written, bytes⟩
      rw [List.foldl_cons]
      cases waiting with
      | nil =>
          rw [read_nothing framing stack bytes] at next ⊢
          refine induction next ?_
          rw [written, List.map_nil, List.append_nil]
          exact Nat.le_add_right _ _
      | cons sent waiting =>
          rw [read_next framing stack bytes] at next ⊢
          refine induction next ?_
          simp only [List.length_append, List.length_cons, List.length_nil] at enough ⊢
          omega

end SmartHome.Library.BytePipes
