import SmartHome.Receive

/-!
# The ring FIFO as a bounded queue

Every sequence of FIFO operations is run next to the same sequence on a bounded
queue. All operations but `kfifo_pop` work on the difference of the counters and
agree with the queue across every wrap; `kfifo_pop` compares the counters and agrees
only while `in` is not below `out`.
-/

namespace SmartHome.FifoRefinement

open SmartHome.Library.Circular
open SmartHome.RingFifo
open SmartHome.Connections
open SmartHome.Protocol
open SmartHome.Receive

set_option autoImplicit false

/-- The operations of `kfifo.c`; the bytes put come from a buffer that a 32-bit length describes. -/
inductive Operation
  | put (buffer : List UInt8) (bound : buffer.length < 2 ^ 32)
  | get (len : UInt32)
  | getahead (len : UInt32)
  | pop
  | len
  | reset

structure Answer where
  count : Nat
  bytes : List UInt8
  deriving DecidableEq

def kfifoStep (fifo : Kfifo) : Operation → Answer × Kfifo
  | .put buffer _ =>
      let (count, after) := kfifoPut fifo buffer (UInt32.ofNat buffer.length)
      (⟨count.toNat, []⟩, after)
  | .get len =>
      let (count, bytes, after) := kfifoGet fifo len
      (⟨count.toNat, bytes⟩, after)
  | .getahead len =>
      let (count, bytes) := kfifoGetahead fifo len
      (⟨count.toNat, bytes⟩, fifo)
  | .pop => (⟨0, []⟩, kfifoPop fifo)
  | .len => (⟨(kfifoLen fifo).toNat, []⟩, fifo)
  | .reset => (⟨0, []⟩, kfifoReset fifo)

def queueStep {capacity : Nat} (queue : BoundedQueue UInt8 capacity) :
    Operation → Answer × BoundedQueue UInt8 capacity
  | .put buffer _ => (⟨queue.accepted buffer, []⟩, queue.put buffer)
  | .get len =>
      (⟨min len.toNat queue.items.length, queue.items.take len.toNat⟩, queue.remove len.toNat)
  | .getahead len => (⟨min len.toNat queue.items.length, queue.items.take len.toNat⟩, queue)
  | .pop => (⟨0, []⟩, queue.remove 1)
  | .len => (⟨queue.items.length, []⟩, queue)
  | .reset => (⟨0, []⟩, .empty)

/-- Run side by side, the FIFO holds the queue's bytes throughout and every answer agrees. -/
def Simulates {capacity : Nat} : Kfifo → BoundedQueue UInt8 capacity → List Operation → Prop
  | fifo, queue, [] => contents fifo = queue.items
  | fifo, queue, operation :: operations =>
      contents fifo = queue.items ∧
        (kfifoStep fifo operation).1 = (queueStep queue operation).1 ∧
        Simulates (kfifoStep fifo operation).2 (queueStep queue operation).2 operations

def PopsInOrder : Kfifo → List Operation → Prop
  | _, [] => True
  | fifo, operation :: operations =>
      (operation = .pop → fifo.outCount ≤ fifo.inCount) ∧
        PopsInOrder (kfifoStep fifo operation).2 operations

def kfifoRun (fifo : Kfifo) (operations : List Operation) : Kfifo :=
  operations.foldl (fun fifo operation => (kfifoStep fifo operation).2) fifo

theorem kfifo_pop_valid {fifo : Kfifo} (valid : Valid fifo) : Valid (kfifoPop fifo) := by
  by_cases order : fifo.outCount ≤ fifo.inCount
  · exact (kfifo_pop_in_order valid order).2.1
  · rw [kfifo_pop_wrapped (UInt32.not_le.mp order)]
    exact valid

theorem kfifo_step_valid {fifo : Kfifo} (valid : Valid fifo) (operation : Operation) :
    Valid (kfifoStep fifo operation).2 ∧ (kfifoStep fifo operation).2.size = fifo.size := by
  cases operation with
  | put buffer bound =>
      have spec := kfifo_put_whole_spec valid buffer bound
      exact ⟨spec.2.2.1, spec.2.2.2.1⟩
  | get len =>
      have spec := kfifo_get_spec valid len
      exact ⟨spec.2.2.2.1, spec.2.2.2.2.1⟩
  | getahead len => exact ⟨valid, rfl⟩
  | pop => exact ⟨kfifo_pop_valid valid, kfifo_pop_size fifo⟩
  | len => exact ⟨valid, rfl⟩
  | reset => exact ⟨kfifo_reset_valid valid, rfl⟩

/-- One operation on a FIFO that holds the queue's bytes. -/
theorem kfifo_step_agrees {fifo : Kfifo} (valid : Valid fifo)
    {queue : BoundedQueue UInt8 fifo.size.toNat} (same : contents fifo = queue.items)
    (operation : Operation) :
    (kfifoStep fifo operation).1 = (queueStep queue operation).1 ∧
      (contents (kfifoStep fifo operation).2 = (queueStep queue operation).2.items ↔
        (operation = .pop → fifo.outCount ≤ fifo.inCount)) := by
  cases operation with
  | put buffer bound =>
      obtain ⟨stored, appended, -⟩ := kfifo_put_whole_spec valid buffer bound
      rw [same] at stored
      refine ⟨?_, iff_of_true ?_ (by simp)⟩
      · simp only [kfifoStep, queueStep, BoundedQueue.accepted, stored]
      · simp only [kfifoStep, queueStep, BoundedQueue.put, appended, same]
  | get len =>
      obtain ⟨copied, bytes, dropped, -⟩ := kfifo_get_spec valid len
      rw [same] at copied bytes
      refine ⟨?_, iff_of_true ?_ (by simp)⟩
      · simp only [kfifoStep, queueStep, copied, bytes]
      · simp only [kfifoStep, queueStep, BoundedQueue.remove, dropped, same, copied]
        rcases Nat.le_total len.toNat queue.items.length with short | long
        · rw [Nat.min_eq_left short]
        · rw [Nat.min_eq_right long, List.drop_of_length_le long, List.drop_length]
  | getahead len =>
      obtain ⟨copied, bytes⟩ := kfifo_getahead_spec valid len
      rw [same] at copied bytes
      exact ⟨by simp only [kfifoStep, queueStep, copied, bytes], iff_of_true same (by simp)⟩
  | pop =>
      refine ⟨rfl, ?_⟩
      have target : (queueStep queue .pop).2.items = (contents fifo).drop 1 := by
        rw [same]
        rfl
      rw [target]
      constructor
      · intro removed _
        by_contra disorder
        have wrapped := UInt32.not_le.mp disorder
        have nonempty := contents_nonempty_of_wrapped valid wrapped
        have kept : (kfifoStep fifo .pop).2 = fifo := kfifo_pop_wrapped wrapped
        rw [kept] at removed
        have lengths := congrArg List.length removed
        have positive := List.length_pos_of_ne_nil nonempty
        rw [List.length_drop] at lengths
        omega
      · intro order
        exact (kfifo_pop_in_order valid (order rfl)).1
  | len =>
      refine ⟨?_, iff_of_true same (by simp)⟩
      simp only [kfifoStep, queueStep, ← valid.contents_length, same]
  | reset => exact ⟨rfl, iff_of_true (kfifo_reset_contents fifo) (by simp)⟩

theorem simulates_iff_pops_in_order {capacity : Nat} {fifo : Kfifo} (valid : Valid fifo)
    (size : fifo.size.toNat = capacity) {queue : BoundedQueue UInt8 capacity}
    (same : contents fifo = queue.items) (operations : List Operation) :
    Simulates fifo queue operations ↔ PopsInOrder fifo operations := by
  induction operations generalizing fifo queue with
  | nil => exact iff_of_true same trivial
  | cons operation operations induction =>
      subst size
      obtain ⟨answer, state⟩ := kfifo_step_agrees valid same operation
      obtain ⟨validAfter, sizeAfter⟩ := kfifo_step_valid valid operation
      rw [Simulates, PopsInOrder, ← state]
      constructor
      · rintro ⟨-, -, later⟩
        have held : contents (kfifoStep fifo operation).2 = (queueStep queue operation).2.items := by
          cases operations with
          | nil => exact later
          | cons _ _ => exact later.1
        exact ⟨held, (induction validAfter (by rw [sizeAfter]) held).mp later⟩
      · rintro ⟨held, later⟩
        exact ⟨same, answer, (induction validAfter (by rw [sizeAfter]) held).mpr later⟩

def CursorFollows (c : Connection) : Prop :=
  ∀ passes ≤ skipCount (pending c),
    pending (connectionReadbufPop^[passes] c) = (pending c).drop passes

theorem cursor_follows_iff {c : Connection} (formed : WellFormed c) :
    CursorFollows c ↔
      c.rawfifo.outCount ≤ c.rawfifo.inCount ∨ checkHead (pending c) ≠ .drop := by
  constructor
  · intro follows
    by_contra neither
    obtain ⟨disorder, given⟩ := not_or.mp neither
    have wrapped := UInt32.not_le.mp disorder
    have nonempty : pending c ≠ [] := contents_nonempty_of_wrapped formed.valid wrapped
    have first := follows 1 (skip_count_pos nonempty (not_not.mp given))
    have kept : connectionReadbufPop^[1] c = c := by
      rw [Function.iterate_one, connectionReadbufPop, kfifo_pop_wrapped wrapped]
    have lengths := congrArg List.length first
    have positive := List.length_pos_of_ne_nil nonempty
    rw [kept, List.length_drop] at lengths
    omega
  · rintro (order | stays)
    · intro passes _
      clear * - formed order
      induction passes generalizing c with
      | zero => rfl
      | succ passes induction =>
          obtain ⟨removed, valid, ordered⟩ := kfifo_pop_in_order formed.valid order
          have poppedFormed : WellFormed (connectionReadbufPop c) :=
            ⟨valid, (kfifo_pop_size c.rawfifo).trans formed.size⟩
          have poppedPending : pending (connectionReadbufPop c) = (pending c).drop 1 := removed
          rw [Function.iterate_succ_apply, induction poppedFormed ordered, poppedPending,
            List.drop_drop, Nat.add_comm]
    · intro passes bound
      rw [skip_count_zero stays, Nat.le_zero] at bound
      rw [bound]
      rfl

/-- Where the cursor follows the FIFO, the frame that was validated is the one extracted. -/
theorem extraction_eq_validated {c : Connection} (formed : WellFormed c)
    (follows : CursorFollows c) :
    (extraction c).2.1 =
      ((pending c).drop (skipCount (pending c))).take (protocolCheck c illegal).messagelen.toNat := by
  obtain ⟨-, formedChecked, within, -⟩ := protocol_check_spec formed
  have extracted := (connection_get_spec formedChecked _ within).1
  rw [extraction, extracted]
  have left : pending (protocolCheck c illegal).connection =
      (pending c).drop (skipCount (pending c)) := by
    rw [protocol_check_eq_loop formed]
    by_cases order : c.rawfifo.outCount ≤ c.rawfifo.inCount
    · exact (protocol_check_loop_in_order illegal formed order).1
    · rcases (cursor_follows_iff formed).mp follows with ordered | stays
      · exact absurd ordered order
      · rw [(protocol_check_loop_wrapped illegal (UInt32.not_le.mp order) (pending c)).1,
          skip_count_zero stays]
        rfl
  rw [left]

/-- The FIFO refines the queue exactly in the runs whose pops all find the counters in order, and
`protocol_check` keeps its cursor on the FIFO head under the same condition. -/
theorem ring_fifo_refines_queue_iff (storage : List UInt8) (size : UInt32) (exponent : Nat)
    (power : size.toNat = 2 ^ exponent) (length : storage.length = size.toNat)
    (operations : List Operation) :
    (Simulates (kfifoInit storage size) (.empty : BoundedQueue UInt8 size.toNat) operations ↔
        PopsInOrder (kfifoInit storage size) operations) ∧
      ∀ c, WellFormed c →
        (CursorFollows c ↔
          c.rawfifo.outCount ≤ c.rawfifo.inCount ∨ checkHead (pending c) ≠ .drop) ∧
        (CursorFollows c → (extraction c).2.1 = ((pending c).drop (skipCount (pending c))).take
          (protocolCheck c illegal).messagelen.toNat) :=
  ⟨simulates_iff_pops_in_order (kfifo_init_valid storage size exponent power length) rfl
      (kfifo_init_contents storage size) operations,
    fun _ formed => ⟨cursor_follows_iff formed, extraction_eq_validated formed⟩⟩

theorem ring_fifo_refines_queue_iff_pop :
    Simulates (kfifoInit (List.replicate 4 0) 4) (.empty : BoundedQueue UInt8 4)
        [.put [1, 2, 3] (by decide), .pop, .get 4] ↔
      PopsInOrder (kfifoInit (List.replicate 4 0) 4)
        [.put [1, 2, 3] (by decide), .pop, .get 4] :=
  (ring_fifo_refines_queue_iff (List.replicate 4 0) 4 2 rfl rfl _).1

theorem pops_in_order_append (fifo : Kfifo) (front back : List Operation) :
    PopsInOrder fifo (front ++ back) ↔
      PopsInOrder fifo front ∧ PopsInOrder (kfifoRun fifo front) back := by
  induction front generalizing fifo with
  | nil => simp [PopsInOrder, kfifoRun]
  | cons operation front induction =>
      simp only [List.cons_append, PopsInOrder, induction, and_assoc]
      rfl

def fullPut : Operation := .put (List.replicate 1024 0) (by rw [List.length_replicate]; decide)

theorem full_put_step (fifo : Kfifo) :
    (kfifoStep fifo fullPut).2 = (kfifoPut fifo (List.replicate 1024 0) 1024).2 := by
  rw [fullPut, kfifoStep, List.length_replicate]
  rfl

theorem full_put_empty {fifo : Kfifo} (valid : Valid fifo) (size : fifo.size = 1024)
    (empty : fifo.inCount = fifo.outCount) :
    let after := (kfifoPut fifo (List.replicate 1024 0) 1024).2
    Valid after ∧ after.size = 1024 ∧ (contents after).length = 1024 ∧
      after.inCount = fifo.inCount + 1024 ∧ after.outCount = fifo.outCount := by
  intro after
  have none : (contents fifo).length = 0 := by
    rw [valid.contents_length, kfifoLen, empty, UInt32.sub_self]
    rfl
  obtain ⟨stored, appended, validAfter, sizeAfter, inAfter, outAfter⟩ :=
    kfifo_put_spec valid (List.replicate 1024 0) 1024 (by rw [List.length_replicate]; decide)
  have storedAll : (kfifoPut fifo (List.replicate 1024 0) 1024).1 = 1024 := by
    apply UInt32.toNat_inj.mp
    rw [stored, none, size]
    rfl
  rw [storedAll] at appended inAfter
  refine ⟨validAfter, sizeAfter.trans size, ?_, inAfter, outAfter⟩
  rw [appended, List.length_append, none, List.length_take, List.length_replicate]
  rfl

def roundsOf (rounds : Nat) : List Operation :=
  (List.replicate rounds [fullPut, .get 1024]).flatten

/-- One round moves both counters on by 1024, modulo 2^32. -/
theorem kfifo_run_round {fifo : Kfifo} (valid : Valid fifo) (size : fifo.size = 1024)
    (empty : fifo.inCount = fifo.outCount) :
    let after := kfifoRun fifo [fullPut, .get 1024]
    Valid after ∧ after.size = 1024 ∧ after.inCount = fifo.inCount + 1024 ∧
      after.inCount = after.outCount := by
  intro after
  obtain ⟨validPut, sizePut, full, inPut, outPut⟩ := full_put_empty valid size empty
  obtain ⟨copied, -, -, validGet, sizeGet, inGet, outGet⟩ := kfifo_get_spec validPut 1024
  have copiedAll : (kfifoGet (kfifoPut fifo (List.replicate 1024 0) 1024).2 1024).1 = 1024 := by
    apply UInt32.toNat_inj.mp
    rw [copied, full]
    rfl
  have result : after =
      (kfifoGet (kfifoPut fifo (List.replicate 1024 0) 1024).2 1024).2.2 := by
    change (kfifoStep (kfifoStep fifo fullPut).2 (.get 1024)).2 = _
    rw [full_put_step]
    rfl
  rw [result]
  refine ⟨validGet, sizeGet.trans sizePut, inGet.trans inPut, ?_⟩
  rw [inGet, outGet, copiedAll, inPut, outPut, empty]

theorem kfifo_run_rounds (rounds : Nat) {fifo : Kfifo} (valid : Valid fifo)
    (size : fifo.size = 1024) (empty : fifo.inCount = fifo.outCount) :
    let after := kfifoRun fifo (roundsOf rounds)
    Valid after ∧ after.size = 1024 ∧
      after.inCount = fifo.inCount + UInt32.ofNat (1024 * rounds) ∧
      after.inCount = after.outCount := by
  induction rounds generalizing fifo with
  | zero => exact ⟨valid, size, by simp [roundsOf, kfifoRun], empty⟩
  | succ rounds induction =>
      obtain ⟨validRound, sizeRound, inRound, emptyRound⟩ := kfifo_run_round valid size empty
      obtain ⟨validAfter, sizeAfter, inAfter, emptyAfter⟩ :=
        induction validRound sizeRound emptyRound
      have unfolded : kfifoRun fifo (roundsOf (rounds + 1)) =
          kfifoRun (kfifoRun fifo [fullPut, .get 1024]) (roundsOf rounds) := by
        rw [roundsOf, List.replicate_succ, List.flatten_cons, kfifoRun, List.foldl_append]
        rfl
      rw [unfolded]
      refine ⟨validAfter, sizeAfter, ?_, emptyAfter⟩
      rw [inAfter, inRound, Nat.mul_succ, UInt32.ofNat_add, UInt32.add_assoc, UInt32.add_comm 1024]
      rfl

/-- Four gibibytes later: the FIFO is full with `in` at zero, and a pop removes nothing. -/
theorem ring_fifo_pop_stuck_after_wrap :
    ¬Simulates (kfifoInit (List.replicate 1024 0) 1024) (.empty : BoundedQueue UInt8 1024)
      (roundsOf 4194303 ++ [fullPut, .pop]) := by
  have valid : Valid (kfifoInit (List.replicate 1024 0) 1024) :=
    kfifo_init_valid (List.replicate 1024 0) 1024 10 rfl List.length_replicate
  have same : contents (kfifoInit (List.replicate 1024 0) 1024) =
      (BoundedQueue.empty : BoundedQueue UInt8 1024).items := kfifo_init_contents _ _
  have capacity : (kfifoInit (List.replicate 1024 0) 1024).size.toNat = 1024 := rfl
  rw [simulates_iff_pops_in_order valid capacity same, pops_in_order_append]
  rintro ⟨-, -, order, -⟩
  obtain ⟨validRun, size, inCount, empty⟩ := kfifo_run_rounds 4194303 valid rfl rfl
  have inValue : (kfifoRun (kfifoInit (List.replicate 1024 0) 1024)
      (roundsOf 4194303)).inCount = 4294966272 := inCount
  obtain ⟨-, -, -, inPut, outPut⟩ := full_put_empty validRun size empty
  have inOrder := order rfl
  rw [full_put_step, inPut, outPut, ← empty, inValue] at inOrder
  exact absurd inOrder (by decide)

end SmartHome.FifoRefinement
