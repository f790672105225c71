import SmartHome.Library.StreamScanner
import SmartHome.Rpc

/-!
# Frames over a serial line

What `rpcProcess` makes of a stream of bytes does not depend on the reads that bring it in:
it is decided by a scan of the stream, up to the first frame that the task does not survive.
What `rpcSendFrame` brings onto the line whole is found again by that scan, behind any bytes
that are no start of a frame.
-/

namespace SmartHome.RpcStream

open SmartHome.Library.Bytes
open SmartHome.Library.StreamScanner
open SmartHome.Rpc

set_option autoImplicit false

def bodyLength (len : UInt8) : Nat :=
  (len + (rpcCmd0FieldLen + rpcCmd1FieldLen + rpcUartFcsLen)).toNat

theorem byte_of_length {count : Nat} (small : count < 256) : (UInt8.ofNat count).toNat = count :=
  UInt8.toNat_ofNat_of_lt' small

section Filling

theorem stored_nil (memory : Memory) (address : Nat) : stored memory address [] = memory := by
  funext place
  have outside : ¬(address ≤ place ∧ place < address + ([] : List UInt8).length) := by
    simp only [List.length_nil]
    omega
  rw [stored, if_neg outside]

theorem fill_buffer_done {reading : Reading} (done : reading.rpcTempLen.toNat = 0)
    (incoming : List UInt8) (outcomes : List ReadOutcome) :
    fillBuffer reading incoming outcomes = some (some reading.rpcBuff, ⟨incoming, outcomes⟩) := by
  have stop : ¬0 < reading.rpcTempLen := by
    rw [UInt8.lt_iff_toNat_lt, done]
    exact Nat.lt_irrefl 0
  cases outcomes with
  | nil => rw [fillBuffer, if_neg stop]
  | cons outcome outcomes => rw [fillBuffer, if_neg stop]

theorem fill_buffer_retry {reading : Reading} (pending : 0 < reading.rpcTempLen.toNat)
    (narrow : reading.rpcTempLen.toNat < 255) (few : reading.retryAttempts.toNat < 5)
    (incoming : List UInt8) (outcomes : List ReadOutcome) :
    fillBuffer reading incoming (.failed :: outcomes) =
      fillBuffer { reading with retryAttempts := reading.retryAttempts + 1 } incoming outcomes := by
  have going : 0 < reading.rpcTempLen := UInt8.lt_iff_toNat_lt.mpr pending
  have error : (255 : UInt8) > reading.rpcTempLen := UInt8.lt_iff_toNat_lt.mpr narrow
  have again : reading.retryAttempts < 5 := UInt8.lt_iff_toNat_lt.mpr few
  rw [fillBuffer, if_pos going]
  simp only [transfer, if_pos error, if_pos again, stored_nil, List.length_nil, List.drop_zero]

theorem transfer_delivered {len : UInt8} {body : List UInt8} (length : body.length = len.toNat)
    (rest : List UInt8) (count : Nat) :
    transfer len (body ++ rest) (.delivered count) =
      ⟨UInt8.ofNat (body.take count).length, body.take count⟩ := by
  have taken : (body ++ rest).take (min count len.toNat) = body.take count := by
    rw [← length, List.take_append_of_le_length (Nat.min_le_right _ _), ← List.take_take,
      List.take_length]
  rw [transfer, taken]

theorem fill_buffer_take {reading : Reading} {body : List UInt8} {count : Nat}
    (length : body.length = reading.rpcTempLen.toNat) (nonempty : body ≠ [])
    (rest : List UInt8) (outcomes : List ReadOutcome) :
    fillBuffer reading (body ++ rest) (.delivered count :: outcomes) =
      fillBuffer
        { reading with
          rpcBuff := stored reading.rpcBuff reading.rpcBuffIdx.toNat (body.take count)
          rpcTempLen := UInt8.ofNat (body.drop count).length
          rpcBuffIdx := reading.rpcBuffIdx + UInt8.ofNat (body.take count).length }
        (body.drop count ++ rest) outcomes := by
  have small : body.length < 256 := length ▸ reading.rpcTempLen.toNat_lt
  have going : 0 < reading.rpcTempLen :=
    UInt8.lt_iff_toNat_lt.mpr (length ▸ List.length_pos_of_ne_nil nonempty)
  have fewer : (body.take count).length ≤ body.length := List.length_take_le' count body
  have moved : (UInt8.ofNat (body.take count).length).toNat = (body.take count).length :=
    byte_of_length (by omega)
  have fine : ¬UInt8.ofNat (body.take count).length > reading.rpcTempLen := by
    rw [gt_iff_lt, UInt8.lt_iff_toNat_lt, moved, ← length]
    omega
  have left : (body.drop count).length = body.length - (body.take count).length := by
    rw [List.length_drop, List.length_take]
    omega
  have remaining :
      (if reading.rpcTempLen > UInt8.ofNat (body.take count).length then
        reading.rpcTempLen - UInt8.ofNat (body.take count).length else 0) =
        UInt8.ofNat (body.drop count).length := by
    rw [left, UInt8.ofNat_sub fewer, length, UInt8.ofNat_toNat]
    split_ifs with more
    · rfl
    · rw [gt_iff_lt, UInt8.lt_iff_toNat_lt, moved, ← length] at more
      have all : (body.take count).length = reading.rpcTempLen.toNat := by omega
      rw [all, UInt8.ofNat_toNat, UInt8.sub_self]
  have behind : (body ++ rest).drop (body.take count).length = body.drop count ++ rest := by
    rw [List.drop_append_of_le_length fewer, List.length_take]
    congr 1
    rcases Nat.le_total count body.length with inside | larger
    · rw [Nat.min_eq_left inside]
    · rw [Nat.min_eq_right larger, List.drop_length, List.drop_eq_nil_of_le larger]
  rw [fillBuffer, if_pos going]
  simp only [transfer_delivered length, if_neg fine, remaining, behind]

theorem fill_buffer_fills {cuts : List ReadOutcome}
    (taking : ∀ count, .delivered count ∈ cuts → 0 < count) (later : List ReadOutcome)
    (rest : List UInt8) {reading : Reading} {before body : List UInt8}
    (holds : Holds reading.rpcBuff 0 before)
    (place : body ≠ [] → reading.rpcBuffIdx.toNat = before.length)
    (length : body.length = reading.rpcTempLen.toNat)
    (room : before.length + body.length ≤ rpcMaxLen)
    (few : reading.retryAttempts.toNat + cuts.count .failed ≤ 5)
    (narrow : body.length < 255 ∨ .failed ∉ cuts)
    (enough : body.length ≤ cuts.countP (· ≠ .failed)) :
    ∃ used unused rpcBuff, cuts = used ++ unused ∧ used.countP (· ≠ .failed) ≤ body.length ∧
      fillBuffer reading (body ++ rest) (cuts ++ later) =
        some (some rpcBuff, ⟨rest, unused ++ later⟩) ∧
      Holds rpcBuff 0 (before ++ body) := by
  induction cuts generalizing reading before body with
  | nil =>
      have done : body = [] := List.length_eq_zero_iff.mp (Nat.le_zero.mp enough)
      have stop : reading.rpcTempLen.toNat = 0 := by rw [← length, done, List.length_nil]
      refine ⟨[], [], reading.rpcBuff, rfl, Nat.zero_le _, ?_, ?_⟩
      · rw [fill_buffer_done stop, done, List.nil_append]
      · rwa [done, List.append_nil]
  | cons outcome cuts induction =>
      by_cases done : body = []
      · have stop : reading.rpcTempLen.toNat = 0 := by rw [← length, done, List.length_nil]
        refine ⟨[], outcome :: cuts, reading.rpcBuff, rfl, Nat.zero_le _, ?_, ?_⟩
        · rw [fill_buffer_done stop, done, List.nil_append]
        · rwa [done, List.append_nil]
      have placed := place done
      have positive := List.length_pos_of_ne_nil done
      have takingLater : ∀ count, .delivered count ∈ cuts → 0 < count :=
        fun count member => taking count (List.mem_cons_of_mem _ member)
      cases outcome with
      | failed =>
          have shorter : body.length < 255 := by
            refine narrow.resolve_right (fun absent => absent List.mem_cons_self)
          rw [List.count_cons_self] at few
          have counted : (reading.retryAttempts + 1).toNat = reading.retryAttempts.toNat + 1 := by
            rw [UInt8.toNat_add]
            exact Nat.mod_eq_of_lt (by rw [UInt8.toNat_one]; omega)
          rw [List.countP_cons_of_neg (by simp)] at enough
          have again := @induction takingLater
            { reading with retryAttempts := reading.retryAttempts + 1 } before body holds place length
            room (by rw [counted]; omega) (.inl shorter) enough
          rcases again with ⟨used, unused, rpcBuff, cut, bound, filled, kept⟩
          refine ⟨.failed :: used, unused, rpcBuff, by rw [cut]; rfl, ?_, ?_, kept⟩
          · rwa [List.countP_cons_of_neg (by simp)]
          · rw [List.cons_append, fill_buffer_retry (length ▸ positive) (length ▸ shorter) (by omega),
              filled]
      | delivered count =>
          have takes := taking count List.mem_cons_self
          have parts : body.take count ++ body.drop count = body := List.take_append_drop count body
          have sizes : (body.take count).length + (body.drop count).length = body.length := by
            rw [← List.length_append, parts]
          have moved : 0 < (body.take count).length := by
            rw [List.length_take]
            omega
          have small : body.length < 256 := length ▸ reading.rpcTempLen.toNat_lt
          rw [List.countP_cons_of_pos (by simp)] at enough
          rw [List.count_cons_of_ne (by simp)] at few
          have again := @induction takingLater
            { reading with
              rpcBuff := stored reading.rpcBuff reading.rpcBuffIdx.toNat (body.take count)
              rpcTempLen := UInt8.ofNat (body.drop count).length
              rpcBuffIdx := reading.rpcBuffIdx + UInt8.ofNat (body.take count).length }
            (before ++ body.take count) (body.drop count)
            (holds.extend (by rw [placed, Nat.zero_add]))
            (by
              intro remains
              have positive := List.length_pos_of_ne_nil remains
              have within : before.length + (body.take count).length < 256 := by
                rw [rpcMaxLen] at room
                omega
              rw [UInt8.toNat_add, byte_of_length (by omega), placed,
                Nat.mod_eq_of_lt within, List.length_append])
            (byte_of_length (by omega)).symm
            (by rw [List.length_append]; omega) few
            (narrow.imp (fun shorter => by omega) (fun absent member =>
              absent (List.mem_cons_of_mem _ member)))
            (by omega)
          rcases again with ⟨used, unused, rpcBuff, cut, bound, filled, kept⟩
          refine ⟨.delivered count :: used, unused, rpcBuff, by rw [cut]; rfl, ?_, ?_, ?_⟩
          · rw [List.countP_cons_of_pos (by simp)]
            omega
          · rw [List.cons_append, fill_buffer_take length done, filled]
          · rwa [List.append_assoc, parts] at kept

end Filling

section Calls

def recordResult (expectedSrspCmdId len : UInt8) (body : List UInt8) : Processed :=
  passOn expectedSrspCmdId len (placed (len :: body) fun _ => 0)

theorem body_length_eq {len : UInt8} (small : len.toNat + 3 < 256) :
    bodyLength len = len.toNat + 3 := by
  rw [bodyLength, UInt8.toNat_add]
  exact Nat.mod_eq_of_lt small

theorem read_bytes_of_holds {left right : Memory} {bytes : List UInt8} (inLeft : Holds left 0 bytes)
    (inRight : Holds right 0 bytes) {start count : Nat} (within : start + count ≤ bytes.length) :
    readBytes left start count = readBytes right start count := by
  apply read_bytes_congr
  intro index below
  have inside : start + index < bytes.length := by omega
  have leftCell := inLeft.get inside
  have rightCell := inRight.get inside
  rw [Nat.zero_add] at leftCell rightCell
  rw [leftCell, rightCell]

theorem pass_on_of_holds {rpcBuff : Memory} {len : UInt8} {body : List UInt8}
    (holds : Holds rpcBuff 0 (len :: body)) (length : body.length = bodyLength len)
    (expectedSrspCmdId : UInt8) :
    passOn expectedSrspCmdId len rpcBuff = recordResult expectedSrspCmdId len body := by
  have reference := holds_placed (len :: body) fun _ => 0
  rw [recordResult, passOn, passOn]
  by_cases endless : 256 ≤ len.toNat + 2
  · rw [if_pos endless, if_pos endless]
  by_cases outside : rpcMaxLen ≤ len.toNat + 3
  · rw [if_neg endless, if_neg endless, if_pos outside, if_pos outside]
  have small : len.toNat + 3 < 256 := Nat.lt_of_not_le outside
  have sum : (len + 3).toNat = len.toNat + 3 := body_length_eq small
  have all : (len :: body).length = len.toNat + 4 := by
    rw [List.length_cons, length, body_length_eq small]
  have last := read_bytes_of_holds holds reference
    (show (len.toNat + 3) + 1 ≤ (len :: body).length by omega)
  have second := read_bytes_of_holds holds reference (show 1 + 1 ≤ (len :: body).length by omega)
  have covered := read_bytes_of_holds holds reference
    (show 0 + (len + 3).toNat ≤ (len :: body).length by omega)
  have message := read_bytes_of_holds holds reference
    (show 1 + (len + 3).toNat ≤ (len :: body).length by omega)
  simp only [readBytes, List.cons.injEq, and_true] at last second
  have width : rpcCmd0FieldLen + rpcCmd1FieldLen + rpcUartFcsLen = 3 := rfl
  rw [if_neg endless, if_neg endless, if_neg outside, if_neg outside, calcFcs, calcFcs, last, second,
    covered]
  simp only [width, message]

theorem read_one_byte {count : Nat} (positive : 0 < count) (byte : UInt8) (rest : List UInt8)
    (outcomes : List ReadOutcome) :
    rpcTransportRead 1 ⟨byte :: rest, .delivered count :: outcomes⟩ =
      some (⟨1, [byte]⟩, ⟨rest, outcomes⟩) := by
  have one : min count (1 : UInt8).toNat = 1 := Nat.min_eq_right positive
  simp only [rpcTransportRead, transfer, one, List.take_succ_cons, List.take_zero]
  rfl

theorem rpc_process_skip {count : Nat} (positive : 0 < count) {byte : UInt8}
    (other : byte ≠ mtRpcSof) (rest : List UInt8) (outcomes : List ReadOutcome)
    (expectedSrspCmdId : UInt8) (rpcBuff : Memory) :
    rpcProcess expectedSrspCmdId rpcBuff ⟨byte :: rest, .delivered count :: outcomes⟩ =
      some (.failed, ⟨rest, outcomes⟩) := by
  have different : ¬[byte] = [mtRpcSof] := by
    rw [List.cons.injEq]
    exact fun same => other same.1
  rw [rpcProcess, read_one_byte positive]
  simp only [if_neg different]

/-- One call on a whole record, which is read in any number of pieces. -/
theorem rpc_process_record {first second : Nat} (one : 0 < first) (two : 0 < second)
    {cuts : List ReadOutcome} (taking : ∀ count, .delivered count ∈ cuts → 0 < count)
    (later : List ReadOutcome) {len : UInt8} {body : List UInt8}
    (length : body.length = bodyLength len) (rest : List UInt8)
    (few : cuts.count .failed ≤ 5) (narrow : body.length < 255 ∨ .failed ∉ cuts)
    (enough : body.length ≤ cuts.countP (· ≠ .failed)) (expectedSrspCmdId : UInt8)
    (rpcBuff : Memory) :
    ∃ used unused, cuts = used ++ unused ∧ used.countP (· ≠ .failed) ≤ body.length ∧
      rpcProcess expectedSrspCmdId rpcBuff
        ⟨mtRpcSof :: len :: (body ++ rest),
          .delivered first :: .delivered second :: (cuts ++ later)⟩ =
      some (recordResult expectedSrspCmdId len body, ⟨rest, unused ++ later⟩) := by
  have room : [len].length + body.length ≤ rpcMaxLen := by
    have small : body.length < 256 := length ▸ UInt8.toNat_lt _
    rw [List.length_singleton, rpcMaxLen]
    omega
  have filled := @fill_buffer_fills cuts taking later rest
    ⟨stored rpcBuff 0 [len], 1, len + (rpcCmd0FieldLen + rpcCmd1FieldLen + rpcUartFcsLen), 0⟩
    [len] body (holds_stored rpcBuff 0 [len]) (fun _ => rfl) length room
    (by rwa [UInt8.toNat_zero, Nat.zero_add]) narrow enough
  rcases filled with ⟨used, unused, result, cut, bound, fills, holds⟩
  refine ⟨used, unused, cut, bound, ?_⟩
  rw [rpcProcess, read_one_byte one]
  simp only [if_true]
  rw [read_one_byte two]
  have result_eq := @pass_on_of_holds result len body holds length expectedSrspCmdId
  simp only [fills, result_eq]

end Calls

section Stream

def rpcVerdict : List UInt8 → Verdict Unit
  | [] => .hold
  | [first] => if first ≠ mtRpcSof then .skip else .hold
  | first :: len :: body =>
      if first ≠ mtRpcSof then .skip
      else if body.length < bodyLength len then .hold
      else .cut () (bodyLength len + 2)

theorem rpc_verdict_skip {first : UInt8} (other : first ≠ mtRpcSof) (rest : List UInt8) :
    rpcVerdict (first :: rest) = .skip := by
  cases rest with
  | nil => rw [rpcVerdict, if_pos other]
  | cons len body => rw [rpcVerdict, if_pos other]

theorem rpc_verdict_record {len : UInt8} {body : List UInt8} (length : bodyLength len ≤ body.length) :
    rpcVerdict (mtRpcSof :: len :: body) = .cut () (bodyLength len + 2) := by
  rw [rpcVerdict, if_neg (not_not_intro rfl), if_neg (Nat.not_lt.mpr length)]

theorem rpc_verdict_cases {pending : List UInt8} (decided : rpcVerdict pending ≠ .hold) :
    (∃ first rest, pending = first :: rest ∧ first ≠ mtRpcSof) ∨
      ∃ len body rest, pending = mtRpcSof :: len :: (body ++ rest) ∧
        body.length = bodyLength len := by
  cases pending with
  | nil => exact absurd rfl decided
  | cons first rest =>
      by_cases other : first ≠ mtRpcSof
      · exact .inl ⟨first, rest, rfl, other⟩
      rw [not_not] at other
      subst other
      cases rest with
      | nil =>
          rw [rpcVerdict, if_neg (not_not_intro rfl)] at decided
          exact absurd rfl decided
      | cons len body =>
          rw [rpcVerdict, if_neg (not_not_intro rfl)] at decided
          by_cases short : body.length < bodyLength len
          · rw [if_pos short] at decided
            exact absurd rfl decided
          refine .inr ⟨len, body.take (bodyLength len), body.drop (bodyLength len), ?_, ?_⟩
          · rw [List.take_append_drop]
          · rw [List.length_take, Nat.min_eq_left (Nat.not_lt.mp short)]

/-- A start byte, a length, and as many bytes as it says. -/
def rpcScanner : Scanner UInt8 Unit where
  verdict := rpcVerdict
  empty_holds := rfl
  cut_within := by
    intro pending tag count decision
    rcases rpc_verdict_cases (by rw [decision]; simp) with ⟨first, rest, rfl, other⟩ | ⟨len, body,
      rest, rfl, length⟩
    · rw [rpc_verdict_skip other] at decision
      cases decision
    · rw [rpc_verdict_record (by rw [List.length_append]; omega)] at decision
      cases decision
      refine ⟨Nat.succ_pos _, ?_⟩
      simp only [List.length_cons, List.length_append]
      omega
  stable := by
    intro pending later decided
    rcases rpc_verdict_cases decided with ⟨first, rest, rfl, other⟩ | ⟨len, body, rest, rfl, length⟩
    · rw [List.cons_append, rpc_verdict_skip other, rpc_verdict_skip other]
    · rw [List.cons_append, List.cons_append,
        rpc_verdict_record (by simp only [List.length_append]; omega),
        rpc_verdict_record (by rw [List.length_append]; omega)]

def eventResult (expectedSrspCmdId : UInt8) : Event UInt8 Unit → Processed
  | .skipped _ => .failed
  | .record _ items => recordResult expectedSrspCmdId (items.getD 1 0) (items.drop 2)

theorem scan_record {len : UInt8} {body : List UInt8} (length : body.length = bodyLength len)
    (rest : List UInt8) :
    rpcScanner.scan (mtRpcSof :: len :: (body ++ rest)) =
      (.record () (mtRpcSof :: len :: body) :: (rpcScanner.scan rest).1,
        (rpcScanner.scan rest).2) := by
  have decision : rpcScanner.verdict (mtRpcSof :: len :: (body ++ rest)) =
      .cut () (bodyLength len + 2) := rpc_verdict_record (by rw [List.length_append]; omega)
  rw [rpcScanner.scan_cut _ _ _ decision]
  simp only [List.take_succ_cons, List.drop_succ_cons, ← length, List.take_left, List.drop_left]

def Delivers (outcomes : List ReadOutcome) : Prop :=
  ∀ outcome ∈ outcomes, ∃ count, 0 < count ∧ outcome = .delivered count

theorem Delivers.taking {outcomes : List ReadOutcome} (delivers : Delivers outcomes) (count : Nat)
    (member : .delivered count ∈ outcomes) : 0 < count := by
  rcases delivers _ member with ⟨other, positive, same⟩
  cases same
  exact positive

theorem Delivers.failed_not_mem {outcomes : List ReadOutcome} (delivers : Delivers outcomes) :
    .failed ∉ outcomes := by
  intro member
  rcases delivers _ member with ⟨count, _, same⟩
  cases same

theorem Delivers.count_eq_length {outcomes : List ReadOutcome} (delivers : Delivers outcomes) :
    outcomes.countP (· ≠ .failed) = outcomes.length := by
  rw [List.countP_eq_length]
  intro outcome member
  rcases delivers outcome member with ⟨count, _, rfl⟩
  rfl

theorem Delivers.mono {front outcomes : List ReadOutcome} (delivers : Delivers outcomes)
    (within : front ⊆ outcomes) : Delivers front :=
  fun outcome member => delivers outcome (within member)

theorem delivers_replicate (count reads : Nat) (positive : 0 < count) :
    Delivers (List.replicate reads (.delivered count)) := by
  intro outcome member
  exact ⟨count, positive, List.eq_of_mem_replicate member⟩

/-- A line on which there is a read for each byte at least. -/
structure Steady (port : SerialPort) : Prop where
  delivers : Delivers port.outcomes
  enough : port.incoming.length ≤ port.outcomes.length

theorem rpc_process_event {port : SerialPort} (steady : Steady port)
    (decided : rpcVerdict port.incoming ≠ .hold) (expectedSrspCmdId : UInt8) (rpcBuff : Memory) :
    ∃ event rest outcomes, Steady ⟨rest, outcomes⟩ ∧
      rpcScanner.scan port.incoming =
        (event :: (rpcScanner.scan rest).1, (rpcScanner.scan rest).2) ∧
      rest.length < port.incoming.length ∧
      rpcProcess expectedSrspCmdId rpcBuff port =
        some (eventResult expectedSrspCmdId event, ⟨rest, outcomes⟩) := by
  rcases port with ⟨incoming, outcomes⟩
  rcases steady with ⟨delivers, enough⟩
  simp only at delivers enough decided
  rcases rpc_verdict_cases decided with ⟨first, rest, rfl, other⟩ | ⟨len, body, rest, rfl, length⟩
  · cases outcomes with
    | nil => exact absurd enough (Nat.not_succ_le_zero _)
    | cons outcome outcomes =>
        rcases delivers outcome List.mem_cons_self with ⟨count, positive, rfl⟩
        refine ⟨.skipped first, rest, outcomes, ⟨?_, Nat.le_of_succ_le_succ enough⟩, ?_,
          Nat.lt_succ_self _, ?_⟩
        · exact delivers.mono (List.subset_cons_self _ _)
        · exact rpcScanner.scan_skip first rest (rpc_verdict_skip other rest)
        · exact rpc_process_skip positive other rest outcomes _ _
  · simp only [List.length_cons, List.length_append] at enough
    match outcomes, delivers, enough with
    | one :: two :: cuts, delivers, enough =>
        rcases delivers one (by simp) with ⟨first, firstPositive, rfl⟩
        rcases delivers two (by simp) with ⟨second, secondPositive, rfl⟩
        have later : Delivers cuts := delivers.mono fun _ member => by simp [member]
        simp only [List.length_cons] at enough
        have called := rpc_process_record firstPositive secondPositive later.taking [] length rest
          (by rw [List.count_eq_zero_of_not_mem later.failed_not_mem]; omega)
          (.inr later.failed_not_mem) (by rw [later.count_eq_length]; omega) expectedSrspCmdId
          rpcBuff
        rcases called with ⟨used, unused, rfl, bound, called⟩
        have usedDelivers : Delivers used := later.mono (List.subset_append_left _ _)
        rw [usedDelivers.count_eq_length] at bound
        rw [List.length_append] at enough
        refine ⟨.record () (mtRpcSof :: len :: body), rest, unused, ⟨?_, ?_⟩,
          scan_record length rest, ?_, ?_⟩
        · exact later.mono (List.subset_append_right _ _)
        · simp only
          omega
        · simp only [List.length_cons, List.length_append]
          omega
        · rwa [List.append_nil, List.append_nil] at called

/-- The results there are: up to the first one behind which the task is gone. -/
def reached : List Processed → List Processed
  | [] => []
  | processed :: later => if processed.returns then processed :: reached later else [processed]

theorem reached_cons_of_returns {processed : Processed} (returns : processed.returns)
    (later : List Processed) : reached (processed :: later) = processed :: reached later := by
  rw [reached, if_pos returns]

theorem reached_cons_of_stays {processed : Processed} (stays : ¬processed.returns)
    (later : List Processed) : reached (processed :: later) = [processed] := by
  rw [reached, if_neg stays]

def eventResults (arounds : List Surroundings) (events : List (Event UInt8 Unit)) :
    List Processed :=
  List.zipWith (fun around => eventResult around.expectedSrspCmdId) arounds events

/-- However the bytes come in: each call takes the next event of the scan, as long as the calls
return. -/
theorem rpctask_reads_stream {port : SerialPort} (steady : Steady port)
    {arounds : List Surroundings}
    (calls : arounds.length = (rpcScanner.scan port.incoming).1.length) :
    ∃ left, rpctask arounds port =
        some (reached (eventResults arounds (rpcScanner.scan port.incoming).1), left) ∧
      ((∀ processed ∈ eventResults arounds (rpcScanner.scan port.incoming).1,
          processed.returns) →
        left.incoming = (rpcScanner.scan port.incoming).2) := by
  induction arounds generalizing port with
  | nil =>
      have held : rpcVerdict port.incoming = .hold := by
        by_contra decided
        rcases rpc_process_event steady decided 0 fun _ => 0 with ⟨event, rest, _, _, scanned, _⟩
        rw [scanned] at calls
        cases calls
      have scanned : rpcScanner.scan port.incoming = ([], port.incoming) :=
        rpcScanner.scan_hold port.incoming held
      refine ⟨port, rfl, ?_⟩
      intro _
      rw [scanned]
  | cons around arounds induction =>
      have decided : rpcVerdict port.incoming ≠ .hold := by
        intro held
        have scanned : rpcScanner.scan port.incoming = ([], port.incoming) :=
          rpcScanner.scan_hold port.incoming held
        rw [scanned] at calls
        cases calls
      rcases rpc_process_event steady decided around.expectedSrspCmdId around.rpcBuff with
        ⟨event, rest, outcomes, kept, scanned, _, called⟩
      rw [scanned, List.length_cons, List.length_cons] at calls
      have results : eventResults (around :: arounds) (rpcScanner.scan port.incoming).1 =
          eventResult around.expectedSrspCmdId event ::
            eventResults arounds (rpcScanner.scan rest).1 := by
        rw [scanned]
        rfl
      rw [results, rpctask, called]
      simp only
      by_cases returns : (eventResult around.expectedSrspCmdId event).returns
      · rcases induction kept (Nat.succ.inj calls) with ⟨left, ran, empty⟩
        simp only at ran empty
        refine ⟨left, ?_, ?_⟩
        · rw [if_pos returns, ran, reached_cons_of_returns returns, Option.map_some]
        · intro all
          rw [empty (List.forall_mem_cons.mp all).2, scanned]
      · refine ⟨⟨rest, outcomes⟩, ?_, ?_⟩
        · rw [if_neg returns, reached_cons_of_stays returns]
        · intro all
          exact absurd (List.forall_mem_cons.mp all).1 returns

/-- A byte that starts nothing, a frame, and a response that no one waits for: the calls end
there. -/
theorem rpctask_reads_stream_record :
    ∃ left, rpctask [⟨1, fun _ => 0⟩, ⟨1, fun _ => 0⟩, ⟨0xFF, fun _ => 0⟩, ⟨0xFF, fun _ => 0⟩]
        ⟨[0x00, 0xFE, 0x00, 0x61, 0x02, 0x63, 0xFE, 0x00, 0x61, 0x02, 0x63, 0x07],
          List.replicate 12 (.delivered 2)⟩ =
      some ([.failed, .queued [0x61, 0x02, 0x63] 1, .crashed], left) := by
  have scanned : rpcScanner.scan
        [0x00, 0xFE, 0x00, 0x61, 0x02, 0x63, 0xFE, 0x00, 0x61, 0x02, 0x63, 0x07] =
      ([.skipped 0x00, .record () [0xFE, 0x00, 0x61, 0x02, 0x63],
        .record () [0xFE, 0x00, 0x61, 0x02, 0x63], .skipped 0x07], []) := by
    rw [rpcScanner.scan_skip _ _ (rpc_verdict_skip (by decide) _)]
    have last := rpcScanner.scan_skip 0x07 [] (@rpc_verdict_skip 0x07 (by decide) [])
    rw [rpcScanner.scan_hold [] rpcScanner.empty_holds] at last
    have second := @scan_record 0x00 [0x61, 0x02, 0x63] (by decide) [0x07]
    have first := @scan_record 0x00 [0x61, 0x02, 0x63] (by decide)
      [0xFE, 0x00, 0x61, 0x02, 0x63, 0x07]
    rw [last] at second
    exact congrArg (fun found => (Event.skipped (0x00 : UInt8) :: found.1, found.2))
      (first.trans (congrArg (fun found : List (Event UInt8 Unit) × List UInt8 =>
        (Event.record () [0xFE, 0x00, 0x61, 0x02, 0x63] :: found.1, found.2)) second))
  have steady : Steady
      ⟨[0x00, 0xFE, 0x00, 0x61, 0x02, 0x63, 0xFE, 0x00, 0x61, 0x02, 0x63, 0x07],
        List.replicate 12 (.delivered 2)⟩ :=
    ⟨delivers_replicate 2 12 (by decide), by decide⟩
  have ran := @rpctask_reads_stream _ steady
    [⟨1, fun _ => 0⟩, ⟨1, fun _ => 0⟩, ⟨0xFF, fun _ => 0⟩, ⟨0xFF, fun _ => 0⟩]
    (by rw [scanned]; rfl)
  rcases ran with ⟨left, ran, _⟩
  rw [scanned] at ran
  exact ⟨left, ran⟩

end Stream

section Sending

def covered (cmd0 cmd1 : UInt8) (payload : List UInt8) : List UInt8 :=
  UInt8.ofNat payload.length :: cmd0 :: cmd1 :: payload

/-- The message that is queued for a frame: all of it behind the length. -/
def messageOf (cmd0 cmd1 : UInt8) (payload : List UInt8) : List UInt8 :=
  cmd0 :: cmd1 :: (payload ++ [(covered cmd0 cmd1 payload).foldl (· ^^^ ·) 0])

def frameOf (cmd0 cmd1 : UInt8) (payload : List UInt8) : List UInt8 :=
  mtRpcSof :: UInt8.ofNat payload.length :: messageOf cmd0 cmd1 payload

theorem frame_of_eq (cmd0 cmd1 : UInt8) (payload : List UInt8) :
    frameOf cmd0 cmd1 payload =
      mtRpcSof :: covered cmd0 cmd1 payload ++ [(covered cmd0 cmd1 payload).foldl (· ^^^ ·) 0] := by
  rw [frameOf, messageOf, covered]
  rfl

theorem frame_of_length (cmd0 cmd1 : UInt8) (payload : List UInt8) :
    (frameOf cmd0 cmd1 payload).length = payload.length + 5 := by
  simp only [frameOf, messageOf, List.length_cons, List.length_append, List.length_nil]

def received (expectedSrspCmdId cmd0 cmd1 : UInt8) (payload : List UInt8) : Processed :=
  if cmd0 &&& mtRpcCmdTypeMask = mtRpcCmdSrsp then
    if expectedSrspCmdId = cmd0 &&& mtRpcSubsystemMask then
      .queued (messageOf cmd0 cmd1 payload) 1
    else .crashed
  else .queued (messageOf cmd0 cmd1 payload) 0

theorem write_pieces_flatten (buf : Memory) (offset remain : Nat) :
    (writePieces buf offset remain).flatten = readBytes buf offset remain := by
  fun_induction writePieces buf offset remain with
  | case1 offset remain positive induction =>
      rw [List.flatten_cons, induction]
      split_ifs with whole
      · rw [← read_bytes_add, Nat.add_sub_cancel' whole]
      · have last : remain - 8 = 0 := by omega
        rw [last, readBytes, List.append_nil]
  | case2 offset remain none_left =>
      have done : remain = 0 := by omega
      rw [done, readBytes, List.flatten_nil]

theorem build_frame {payload : List UInt8} (fits : payload.length ≤ 251) (buf : Memory)
    (cmd0 cmd1 : UInt8) :
    ∃ frame, buildFrame buf cmd0 cmd1 payload = some frame ∧
      Holds frame 0 (frameOf cmd0 cmd1 payload) := by
  have len : (UInt8.ofNat payload.length).toNat = payload.length := byte_of_length (by omega)
  have header : rpcUartHdrLen.toNat = 4 := rfl
  have room : payload.length + 4 < rpcMaxLen := by
    rw [rpcMaxLen]
    omega
  have head := holds_stored buf 0 [mtRpcSof, UInt8.ofNat payload.length, cmd0, cmd1]
  have whole := @Holds.extend _ _ 4 _ payload head rfl
  have size : (UInt8.ofNat payload.length + rpcHdrLen).toNat = payload.length + 3 := by
    rw [UInt8.toNat_add, len]
    exact Nat.mod_eq_of_lt (by change payload.length + 3 < 256; omega)
  have body := whole
  rw [show [mtRpcSof, UInt8.ofNat payload.length, cmd0, cmd1] ++ payload =
    [mtRpcSof] ++ covered cmd0 cmd1 payload from rfl, holds_append] at body
  have sum := body.2.read_length (show (covered cmd0 cmd1 payload).length = payload.length + 3 from
    rfl)
  rw [Nat.zero_add, List.length_singleton] at sum
  have built : buildFrame buf cmd0 cmd1 payload =
      some (stored (stored (stored buf 0 [mtRpcSof, UInt8.ofNat payload.length, cmd0, cmd1]) 4 payload)
        (payload.length + 4) [(covered cmd0 cmd1 payload).foldl (· ^^^ ·) 0]) := by
    rw [← sum, ← size, buildFrame]
    simp only [len, header, if_pos room, List.take_length, calcFcs]
  refine ⟨_, built, ?_⟩
  rw [frame_of_eq]
  have behind : payload.length + 4 = 0 +
      ([mtRpcSof, UInt8.ofNat payload.length, cmd0, cmd1] ++ payload).length := by
    simp only [List.length_append, List.length_cons, List.length_nil]
    omega
  exact whole.extend behind

theorem frame_length_eq {payload : List UInt8} (fits : payload.length ≤ 250) :
    (frameLength payload).toNat = payload.length + 5 := by
  rw [frameLength, UInt8.add_assoc, UInt8.toNat_add, byte_of_length (by omega)]
  exact Nat.mod_eq_of_lt (by change payload.length + 5 < 256; omega)

theorem sent_pieces_flatten {payload : List UInt8} (fits : payload.length ≤ 250) (buf : Memory)
    (cmd0 cmd1 : UInt8) :
    ∃ pieces, sentPieces buf cmd0 cmd1 payload = some pieces ∧
      pieces.flatten = frameOf cmd0 cmd1 payload := by
  rcases build_frame (Nat.le_succ_of_le fits) buf cmd0 cmd1 with ⟨frame, built, holds⟩
  refine ⟨_, by rw [sentPieces, built, Option.map_some], ?_⟩
  rw [write_pieces_flatten, frame_length_eq fits]
  exact holds.read_length (frame_of_length cmd0 cmd1 payload)

theorem transmitted_cons (piece : List UInt8) (pieces : List (List UInt8)) (count : Nat)
    (sent : List Nat) :
    transmitted (piece :: pieces) (count :: sent) = piece.take count ++ transmitted pieces sent := by
  rw [transmitted, List.zipWith_cons_cons, List.flatten_cons, transmitted]

theorem transmitted_nil_right (pieces : List (List UInt8)) : transmitted pieces [] = [] := by
  rw [transmitted, List.zipWith_nil_right, List.flatten_nil]

theorem transmitted_length_le (pieces : List (List UInt8)) (sent : List Nat) :
    (transmitted pieces sent).length ≤ pieces.flatten.length := by
  induction pieces generalizing sent with
  | nil => exact Nat.le_refl 0
  | cons piece pieces induction =>
      cases sent with
      | nil =>
          rw [transmitted_nil_right]
          exact Nat.zero_le _
      | cons count sent =>
          rw [transmitted_cons, List.flatten_cons, List.length_append, List.length_append]
          have later := induction sent
          have first : (piece.take count).length ≤ piece.length := List.length_take_le' _ _
          omega

theorem take_append_eq_iff {front back part : List UInt8} (shorter : part.length ≤ back.length)
    (count : Nat) : front.take count ++ part = front ++ back ↔ front.length ≤ count ∧ part = back := by
  constructor
  · intro same
    have lengths := congrArg List.length same
    simp only [List.length_append, List.length_take] at lengths
    have all : front.length ≤ count := by omega
    rw [List.take_of_length_le all] at same
    exact ⟨all, List.append_cancel_left same⟩
  · rintro ⟨all, rfl⟩
    rw [List.take_of_length_le all]

/-- Nothing is lost exactly if every piece leaves the port before the rest is thrown away. -/
theorem transmitted_write_pieces_iff (buf : Memory) (offset remain : Nat) (sent : List Nat) :
    transmitted (writePieces buf offset remain) sent = readBytes buf offset remain ↔
      ∀ index, 8 * index < remain → min 8 (remain - 8 * index) ≤ sent.getD index 0 := by
  fun_induction writePieces buf offset remain generalizing sent with
  | case1 offset remain positive induction =>
      have size : (if 8 ≤ remain then 8 else remain) = min 8 remain := by
        split_ifs with whole
        · exact (Nat.min_eq_left whole).symm
        · exact (Nat.min_eq_right (by omega)).symm
      have split : readBytes buf offset remain =
          readBytes buf offset (min 8 remain) ++ readBytes buf (offset + 8) (remain - 8) := by
        by_cases whole : 8 ≤ remain
        · rw [Nat.min_eq_left whole, ← read_bytes_add, Nat.add_sub_cancel' whole]
        · have last : remain - 8 = 0 := by omega
          rw [last, Nat.min_eq_right (by omega), readBytes, List.append_nil]
      cases sent with
      | nil =>
          refine iff_of_false ?_ ?_
          · intro same
            have lengths := congrArg List.length same
            rw [transmitted_nil_right, read_bytes_length, List.length_nil] at lengths
            omega
          · intro all
            have first := all 0 positive
            rw [List.getD_nil] at first
            omega
      | cons count sent =>
          have shorter := transmitted_length_le (writePieces buf (offset + 8) (remain - 8)) sent
          rw [write_pieces_flatten] at shorter
          rw [transmitted_cons, size, split, take_append_eq_iff shorter, induction,
            read_bytes_length]
          constructor
          · rintro ⟨first, later⟩ index below
            cases index with
            | zero => exact first
            | succ index =>
                have now := later index (by omega)
                rwa [Nat.mul_succ, Nat.add_comm, ← Nat.sub_sub]
          · intro all
            refine ⟨all 0 positive, ?_⟩
            intro index below
            have now := all (index + 1) (by omega)
            rwa [Nat.mul_succ, Nat.add_comm, ← Nat.sub_sub] at now
  | case2 offset remain none_left =>
      have done : remain = 0 := by omega
      subst done
      exact iff_of_true rfl fun index below => absurd below (Nat.not_lt_zero _)

/-- The frame comes out whole exactly if its payload has at most 250 bytes and every piece is gone
before the rest of it is thrown away. One byte more and nothing at all is written, still more and
the buffer is overrun. -/
theorem sent_whole_iff {payload : List UInt8} (small : payload.length < 256) (buf : Memory)
    (cmd0 cmd1 : UInt8) (sent : List Nat) :
    (sentBytes buf cmd0 cmd1 payload sent = some (frameOf cmd0 cmd1 payload) ↔
        payload.length ≤ 250 ∧ ∀ index, 8 * index < payload.length + 5 →
          min 8 (payload.length + 5 - 8 * index) ≤ sent.getD index 0) ∧
      (sentPieces buf cmd0 cmd1 payload = some [] ↔ payload.length = 251) ∧
      (sentBytes buf cmd0 cmd1 payload sent = none ↔ 252 ≤ payload.length) := by
  have len : (UInt8.ofNat payload.length).toNat = payload.length := byte_of_length small
  have header : rpcUartHdrLen.toNat = 4 := rfl
  have overrun : 252 ≤ payload.length → buildFrame buf cmd0 cmd1 payload = none := by
    intro long
    have outside : ¬payload.length + 4 < rpcMaxLen := by
      rw [rpcMaxLen]
      omega
    rw [buildFrame]
    simp only [len, header, if_neg outside]
  rcases Nat.lt_trichotomy payload.length 251 with fits | length | long
  · have within : payload.length ≤ 250 := by omega
    rcases build_frame (Nat.le_succ_of_le within) buf cmd0 cmd1 with ⟨frame, built, holds⟩
    have whole := holds.read_length (frame_of_length cmd0 cmd1 payload)
    rcases sent_pieces_flatten within buf cmd0 cmd1 with ⟨pieces, written, flat⟩
    refine ⟨?_, iff_of_false ?_ (by omega), iff_of_false ?_ (by omega)⟩
    · rw [sentBytes, built, Option.map_some, Option.some.injEq, rpcTransportWrite,
        frame_length_eq within, ← whole, transmitted_write_pieces_iff, and_iff_right within]
    · intro none_written
      rw [written, Option.some.injEq] at none_written
      rw [none_written, List.flatten_nil] at flat
      exact List.cons_ne_nil _ _ flat.symm
    · rw [sentBytes, built]
      exact Option.some_ne_none _
  · rcases build_frame length.le buf cmd0 cmd1 with ⟨frame, built, _⟩
    have wrapped : (frameLength payload).toNat = 0 := by
      rw [frameLength, length]
      rfl
    refine ⟨iff_of_false ?_ (by omega), iff_of_true ?_ length, iff_of_false ?_ (by omega)⟩
    · rw [sentBytes, built, Option.map_some, rpcTransportWrite, wrapped, writePieces,
        if_neg (Nat.lt_irrefl 0), transmitted, Option.some.injEq]
      exact (List.cons_ne_nil _ _).symm
    · rw [sentPieces, built, Option.map_some, wrapped, writePieces, if_neg (Nat.lt_irrefl 0)]
    · rw [sentBytes, built]
      exact Option.some_ne_none _
  · have missing := overrun long
    refine ⟨iff_of_false ?_ (by omega), iff_of_false ?_ (by omega), iff_of_true ?_ long⟩
    · rw [sentBytes, missing]
      exact (Option.some_ne_none _).symm
    · rw [sentPieces, missing]
      exact (Option.some_ne_none _).symm
    · rw [sentBytes, missing, Option.map_none]

theorem sent_whole_iff_pieces :
    sentBytes (fun _ => 0) 0x24 0x01 [1, 2, 3, 4, 5, 6] [8, 3] =
        some (frameOf 0x24 0x01 [1, 2, 3, 4, 5, 6]) ∧
      sentBytes (fun _ => 0) 0x24 0x01 [1, 2, 3, 4, 5, 6] [8, 2] ≠
        some (frameOf 0x24 0x01 [1, 2, 3, 4, 5, 6]) ∧
      sentPieces (fun _ => 0) 0x24 0x01 (List.replicate 251 0) = some [] := by
  have six : ([1, 2, 3, 4, 5, 6] : List UInt8).length < 256 := by decide
  refine ⟨?_, ?_, ?_⟩
  · refine (sent_whole_iff six _ _ _ _).1.mpr ⟨by decide, ?_⟩
    intro index below
    rw [show ([1, 2, 3, 4, 5, 6] : List UInt8).length = 6 from rfl] at below
    cases (show index = 0 ∨ index = 1 by omega) with
    | inl first =>
        rw [first]
        decide
    | inr second =>
        rw [second]
        decide
  · intro whole
    have second := ((sent_whole_iff six _ _ _ _).1.mp whole).2 1 (by decide)
    exact absurd second (by decide)
  · exact (sent_whole_iff (by rw [List.length_replicate]; decide) _ _ _ []).2.1.mpr
      List.length_replicate

theorem message_of_length {payload : List UInt8} (fits : payload.length ≤ 252) (cmd0 cmd1 : UInt8) :
    (messageOf cmd0 cmd1 payload).length = bodyLength (UInt8.ofNat payload.length) := by
  have len : (UInt8.ofNat payload.length).toNat = payload.length := byte_of_length (by omega)
  rw [body_length_eq (by rw [len]; omega), len]
  simp only [messageOf, List.length_cons, List.length_append, List.length_nil]

theorem record_result_message {payload : List UInt8} (fits : payload.length ≤ 252)
    (expectedSrspCmdId cmd0 cmd1 : UInt8) :
    recordResult expectedSrspCmdId (UInt8.ofNat payload.length) (messageOf cmd0 cmd1 payload) =
      received expectedSrspCmdId cmd0 cmd1 payload := by
  have len : (UInt8.ofNat payload.length).toNat = payload.length := byte_of_length (by omega)
  have bodySize := body_length_eq (show (UInt8.ofNat payload.length).toNat + 3 < 256 by omega)
  have sum : (UInt8.ofNat payload.length + 3).toNat = payload.length + 3 := by
    have width : bodyLength (UInt8.ofNat payload.length) =
        (UInt8.ofNat payload.length + 3).toNat := rfl
    rw [← width, bodySize, len]
  have holds := holds_placed (UInt8.ofNat payload.length :: messageOf cmd0 cmd1 payload) fun _ => 0
  have frame : UInt8.ofNat payload.length :: messageOf cmd0 cmd1 payload =
      covered cmd0 cmd1 payload ++ [(covered cmd0 cmd1 payload).foldl (· ^^^ ·) 0] := rfl
  have parts := holds
  rw [frame, holds_append] at parts
  have coveredSize : (covered cmd0 cmd1 payload).length = payload.length + 3 := rfl
  have summed := parts.1.read_length coveredSize
  have fcs := parts.2.1
  rw [Nat.zero_add, coveredSize] at fcs
  have message := holds.2.read_length (message_of_length fits cmd0 cmd1)
  rw [bodySize, len] at message
  have first : placed (UInt8.ofNat payload.length :: messageOf cmd0 cmd1 payload) (fun _ => 0) 1 =
      cmd0 := holds.2.1
  have width : rpcCmd0FieldLen + rpcCmd1FieldLen + rpcUartFcsLen = 3 := rfl
  rw [← frame] at fcs summed
  rw [recordResult, passOn, if_neg (by omega), if_neg (by rw [rpcMaxLen]; omega), calcFcs, sum,
    summed, len, fcs, if_neg (not_not_intro rfl)]
  simp only [width, first, sum, message, received]

/-- What travels over the line: a byte that starts no frame, or what a call of `rpcSendFrame`
wrote. -/
inductive Transmission
  | noise (byte : UInt8) (other : byte ≠ mtRpcSof)
  | sent (buf : Memory) (cmd0 cmd1 : UInt8) (payload : List UInt8) (fits : payload.length ≤ 250)

namespace Transmission

def bytes : Transmission → List UInt8
  | noise byte _ => [byte]
  | sent buf cmd0 cmd1 payload _ => ((sentPieces buf cmd0 cmd1 payload).getD []).flatten

def result (expectedSrspCmdId : UInt8) : Transmission → Processed
  | noise _ _ => .failed
  | sent _ cmd0 cmd1 payload _ => received expectedSrspCmdId cmd0 cmd1 payload

def event : Transmission → Event UInt8 Unit
  | noise byte _ => .skipped byte
  | sent _ cmd0 cmd1 payload _ => .record () (frameOf cmd0 cmd1 payload)

theorem scan_bytes (transmission : Transmission) (rest : List UInt8) :
    rpcScanner.scan (transmission.bytes ++ rest) =
      (transmission.event :: (rpcScanner.scan rest).1, (rpcScanner.scan rest).2) := by
  cases transmission with
  | noise byte other => exact rpcScanner.scan_skip byte rest (rpc_verdict_skip other rest)
  | sent buf cmd0 cmd1 payload fits =>
      rcases sent_pieces_flatten fits buf cmd0 cmd1 with ⟨pieces, written, flat⟩
      rw [bytes, written, Option.getD_some, flat, frameOf, List.cons_append, List.cons_append,
        scan_record (message_of_length (by omega) cmd0 cmd1)]
      rfl

theorem event_items (transmission : Transmission) :
    transmission.event.items = transmission.bytes := by
  cases transmission with
  | noise byte other => rfl
  | sent buf cmd0 cmd1 payload fits =>
      rcases sent_pieces_flatten fits buf cmd0 cmd1 with ⟨pieces, written, flat⟩
      rw [bytes, written, Option.getD_some, flat]
      rfl

theorem event_result (transmission : Transmission) (expectedSrspCmdId : UInt8) :
    eventResult expectedSrspCmdId transmission.event = transmission.result expectedSrspCmdId := by
  cases transmission with
  | noise byte other => rfl
  | sent buf cmd0 cmd1 payload fits =>
      exact record_result_message (by omega) expectedSrspCmdId cmd0 cmd1

end Transmission

def wire (transmissions : List Transmission) : List UInt8 :=
  (transmissions.map Transmission.bytes).flatten

theorem scan_wire (transmissions : List Transmission) :
    rpcScanner.scan (wire transmissions) = (transmissions.map Transmission.event, []) := by
  induction transmissions with
  | nil => exact rpcScanner.scan_hold [] rpcScanner.empty_holds
  | cons transmission transmissions induction =>
      have split : wire (transmission :: transmissions) =
          transmission.bytes ++ wire transmissions := rfl
      rw [split, transmission.scan_bytes, induction, List.map_cons]

/-- One call takes the next transmission off a steady line. -/
theorem rpc_process_transmission {transmission : Transmission} {later : List Transmission}
    {outcomes : List ReadOutcome} (steady : Steady ⟨wire (transmission :: later), outcomes⟩)
    (expectedSrspCmdId : UInt8) (rpcBuff : Memory) :
    ∃ left, Steady ⟨wire later, left⟩ ∧
      rpcProcess expectedSrspCmdId rpcBuff ⟨wire (transmission :: later), outcomes⟩ =
        some (transmission.result expectedSrspCmdId, ⟨wire later, left⟩) := by
  have scanned := scan_wire (transmission :: later)
  have decided : rpcVerdict (wire (transmission :: later)) ≠ .hold := by
    intro held
    rw [rpcScanner.scan_hold _ held] at scanned
    cases scanned
  rcases rpc_process_event steady decided expectedSrspCmdId rpcBuff with
    ⟨event, rest, left, kept, split, _, called⟩
  rw [split, List.map_cons, Prod.mk.injEq, List.cons.injEq] at scanned
  have content := rpcScanner.scan_content rest
  have same : rest = wire later := by
    rw [← content, scanned.1.2, scanned.2, List.append_nil, List.flatMap_map, wire,
      ← List.flatMap_def]
    simp only [Transmission.event_items]
  rw [scanned.1.1, Transmission.event_result] at called
  exact ⟨left, same ▸ kept, same ▸ called⟩

/-- A response is there when its call of `rpcSendFrame` waits for it. -/
def Transmission.Expected (expectedSrspCmdId : UInt8) : Transmission → Prop
  | .noise _ _ => True
  | .sent _ cmd0 _ _ _ =>
      cmd0 &&& mtRpcCmdTypeMask = mtRpcCmdSrsp → expectedSrspCmdId = cmd0 &&& mtRpcSubsystemMask

theorem received_returns_iff (expectedSrspCmdId cmd0 cmd1 : UInt8) (payload : List UInt8) :
    (received expectedSrspCmdId cmd0 cmd1 payload).returns ↔
      (cmd0 &&& mtRpcCmdTypeMask = mtRpcCmdSrsp →
        expectedSrspCmdId = cmd0 &&& mtRpcSubsystemMask) := by
  rw [received]
  split_ifs with response expected
  · exact iff_of_true rfl fun _ => expected
  · exact iff_of_false Bool.false_ne_true fun expects => expected (expects response)
  · exact iff_of_true rfl fun is => absurd is response

theorem Transmission.returns_iff (transmission : Transmission) (expectedSrspCmdId : UInt8) :
    (transmission.result expectedSrspCmdId).returns ↔
      transmission.Expected expectedSrspCmdId := by
  cases transmission with
  | noise byte other => exact iff_of_true rfl trivial
  | sent buf cmd0 cmd1 payload fits => exact received_returns_iff expectedSrspCmdId cmd0 cmd1 payload

/-- Frames that were sent are received, each by a call of its own, whatever noise lies between
them and however the line cuts them up. -/
theorem rpctask_receives_sent {transmissions : List Transmission} {outcomes : List ReadOutcome}
    (steady : Steady ⟨wire transmissions, outcomes⟩) {arounds : List Surroundings}
    (calls : arounds.length = transmissions.length)
    (expected : ∀ pair ∈ arounds.zip transmissions, pair.2.Expected pair.1.expectedSrspCmdId) :
    ∃ left, rpctask arounds ⟨wire transmissions, outcomes⟩ =
      some (List.zipWith (fun around transmission => transmission.result around.expectedSrspCmdId)
          arounds transmissions, ⟨[], left⟩) := by
  induction transmissions generalizing outcomes arounds with
  | nil =>
      have nobody : arounds = [] := List.length_eq_zero_iff.mp calls
      subst nobody
      exact ⟨outcomes, rfl⟩
  | cons transmission later induction =>
      cases arounds with
      | nil => cases calls
      | cons around arounds =>
          rw [List.zip_cons_cons, List.forall_mem_cons] at expected
          rcases rpc_process_transmission steady around.expectedSrspCmdId around.rpcBuff with
            ⟨between, kept, called⟩
          rcases induction kept (Nat.succ.inj calls) expected.2 with ⟨left, ran⟩
          refine ⟨left, ?_⟩
          rw [rpctask, called]
          simp only
          rw [if_pos ((transmission.returns_iff _).mpr expected.1), ran, Option.map_some,
            List.zipWith_cons_cons]

/-- Noise, an indication in two pieces, and the response that is waited for. -/
theorem rpctask_receives_sent_ping :
    ∃ left, rpctask [⟨1, fun _ => 0⟩, ⟨1, fun _ => 0⟩, ⟨1, fun _ => 0⟩]
        ⟨wire [.noise 0x00 (by decide), .sent (fun _ => 0) 0x45 0xC1 [1, 2, 3, 4, 5] (by decide),
            .sent (fun _ => 0) 0x61 0x02 [] (by decide)],
          List.replicate 16 (.delivered 3)⟩ =
      some ([.failed, .queued [0x45, 0xC1, 1, 2, 3, 4, 5, 0x80] 0, .queued [0x61, 0x02, 0x63] 1],
        ⟨[], left⟩) :=
  rpctask_receives_sent ⟨delivers_replicate 3 16 (by decide), by decide +kernel⟩ rfl (by
    intro pair member
    simp only [List.zip_cons_cons, List.zip_nil_right, List.mem_cons, List.not_mem_nil,
      or_false] at member
    rcases member with rfl | rfl | rfl
    · exact trivial
    · exact fun response => absurd response (by decide)
    · exact fun _ => rfl)

/-- A frame is received through at most five failed reads behind its length. (A response that no one
waits for is too, and ends the program.) -/
theorem rpc_process_retries {first second : Nat} (one : 0 < first) (two : 0 < second)
    {cuts : List ReadOutcome} (taking : ∀ count, .delivered count ∈ cuts → 0 < count)
    (few : cuts.count .failed ≤ 5) {payload : List UInt8} (fits : payload.length ≤ 250)
    (enough : payload.length + 3 ≤ cuts.countP (· ≠ .failed)) (buf rpcBuff : Memory)
    (cmd0 cmd1 expectedSrspCmdId : UInt8) (rest : List UInt8) (later : List ReadOutcome) :
    ∃ pieces unused, sentPieces buf cmd0 cmd1 payload = some pieces ∧ unused <:+ cuts ∧
      rpcProcess expectedSrspCmdId rpcBuff
        ⟨pieces.flatten ++ rest, .delivered first :: .delivered second :: (cuts ++ later)⟩ =
      some (received expectedSrspCmdId cmd0 cmd1 payload, ⟨rest, unused ++ later⟩) := by
  rcases sent_pieces_flatten fits buf cmd0 cmd1 with ⟨pieces, written, flat⟩
  have length := message_of_length (show payload.length ≤ 252 by omega) cmd0 cmd1
  have size : (messageOf cmd0 cmd1 payload).length = payload.length + 3 := by
    simp only [messageOf, List.length_cons, List.length_append, List.length_nil]
  have called := rpc_process_record one two taking later length rest few (.inl (by omega))
    (by omega) expectedSrspCmdId rpcBuff
  rcases called with ⟨used, unused, cut, _, called⟩
  refine ⟨pieces, unused, written, ⟨used, cut.symm⟩, ?_⟩
  rw [flat, frameOf, List.cons_append, List.cons_append, called,
    record_result_message (by omega)]

theorem rpc_process_retries_five :
    ∃ pieces unused, sentPieces (fun _ => 0) 0x45 0xC1 [1, 2, 3, 4, 5] = some pieces ∧
      unused <:+ List.replicate 2 ReadOutcome.failed ++ List.replicate 4 (.delivered 1) ++
        List.replicate 3 ReadOutcome.failed ++ List.replicate 4 (.delivered 2) ∧
      rpcProcess 1 (fun _ => 0)
        ⟨pieces.flatten ++ [0xFE], .delivered 1 :: .delivered 1 ::
          ((List.replicate 2 ReadOutcome.failed ++ List.replicate 4 (.delivered 1) ++
            List.replicate 3 ReadOutcome.failed ++ List.replicate 4 (.delivered 2)) ++ [])⟩ =
      some (received 1 0x45 0xC1 [1, 2, 3, 4, 5], ⟨[0xFE], unused ++ []⟩) :=
  rpc_process_retries Nat.one_pos Nat.one_pos (by simp) (by decide) (by decide) (by decide)
    (fun _ => 0) (fun _ => 0) 0x45 0xC1 1 [0xFE] []

end Sending

end SmartHome.RpcStream
