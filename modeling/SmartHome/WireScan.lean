import SmartHome.Protocol

/-!
# The reference scan of a received stream

What the receive path is for, stated on the stream alone: a left-to-right scan that
knows nothing of FIFOs, counters or reads. The decision of `protocol_check` on the
bytes under its cursor is the decision of this scan.
-/

namespace SmartHome.WireScan

open SmartHome.Library.Bytes
open SmartHome.Library.StreamScanner
open SmartHome.Bytebuffer
open SmartHome.Protocol

set_option autoImplicit false

def xorSum (bytes : List UInt8) : UInt8 := bytes.foldl (· ^^^ ·) 0

def lengthField (stream : List UInt8) : Nat := ofBytesBE ((stream.drop 1).take 2)

def idField (stream : List UInt8) : UInt16 := UInt16.ofNat (ofBytesBE ((stream.drop 3).take 2))

/-- The first `length` bytes end in their checksum and an end flag. -/
def Sealed (stream : List UInt8) (length : Nat) : Prop :=
  xorSum (stream.take (length - 2)) = stream.getD (length - 2) 0 ∧
    stream.getD (length - 1) 0 = protocolEndFlag

instance (stream : List UInt8) (length : Nat) : Decidable (Sealed stream length) :=
  inferInstanceAs (Decidable (_ ∧ _))

def referenceVerdict (stream : List UInt8) : Verdict UInt16 :=
  match stream with
  | [] => .hold
  | start :: rest =>
      if start ≠ 0xCE then .skip
      else if rest.length < 2 then .hold
      else if lengthField stream < 8 ∨ 2048 < lengthField stream then .skip
      else if stream.length < lengthField stream then .hold
      else if ¬Sealed stream (lengthField stream) then .skip
      else if idField stream = 0x0000 ∨ idField stream = 0x00FF then .hold
      else .cut (idField stream) (lengthField stream)

structure CompleteFrame (id : UInt16) (frame : List UInt8) : Prop where
  start : frame.headD 0 = 0xCE
  length : lengthField frame = frame.length
  lower : 8 ≤ frame.length
  upper : frame.length ≤ 2048
  closed : Sealed frame frame.length
  id : idField frame = id

theorem xor_sum_eq_checksum (stream : List UInt8) (length : Nat) (positive : 0 < length)
    (nonempty : stream ≠ []) :
    protocolChecksum stream length = xorSum (stream.take length) := by
  obtain ⟨byte, rest, rfl⟩ := List.exists_cons_of_ne_nil nonempty
  obtain ⟨count, rfl⟩ := Nat.exists_eq_succ_of_ne_zero positive.ne'
  simp [protocolChecksum, xorSum]

theorem length_field_eq (stream : List UInt8) :
    lengthField stream = (bytebufferGetword (stream.drop 1)).toNat :=
  (bytebuffer_getword_toNat _).symm

/-- The checker's decision, with the two reserved ids taken as a stop. -/
def ofHeadCheck : HeadCheck → Verdict UInt16
  | .drop => .skip
  | .half => .hold
  | .frame cmdid messagelen =>
      if cmdid = illegal ∨ cmdid = halfpack then .hold else .cut cmdid messagelen.toNat

theorem reference_verdict_eq (stream : List UInt8) (nonempty : stream ≠ []) :
    referenceVerdict stream = ofHeadCheck (checkHead stream) := by
  obtain ⟨start, rest, rfl⟩ := List.exists_cons_of_ne_nil nonempty
  have shortIff : rest.length < 2 ↔ ¬(start :: rest).length > 2 := by
    rw [List.length_cons]
    omega
  have rangeIff : (lengthField (start :: rest) < 8 ∨ 2048 < lengthField (start :: rest)) ↔
      (bytebufferGetword ((start :: rest).drop 1) < 8 ∨
        bytebufferGetword ((start :: rest).drop 1) > 2048) := by
    rw [length_field_eq]
    rfl
  rw [referenceVerdict, checkHead, List.headD_cons]
  by_cases flag : start ≠ protocolStartFlag
  · have noStart : start ≠ 0xCE := flag
    rw [if_pos flag, if_pos noStart, ofHeadCheck]
  have isStart : ¬start ≠ 0xCE := flag
  rw [if_neg flag, if_neg isStart]
  by_cases long : (start :: rest).length > 2
  swap
  · rw [if_neg long, if_pos (shortIff.mpr long), ofHeadCheck]
  rw [if_pos long, if_neg (fun short => shortIff.mp short long)]
  by_cases range : lengthField (start :: rest) < 8 ∨ 2048 < lengthField (start :: rest)
  · rw [if_pos range]
    simp only [if_pos (rangeIff.mp range), ofHeadCheck]
  have lower : 8 ≤ lengthField (start :: rest) := by omega
  have covered : 0 < lengthField (start :: rest) - 2 := by omega
  simp only [if_neg range, if_neg (fun wrong => range (rangeIff.mpr wrong)), ← length_field_eq,
    xor_sum_eq_checksum _ _ covered nonempty]
  by_cases half : (start :: rest).length < lengthField (start :: rest)
  · rw [if_pos half, if_pos half, ofHeadCheck]
  rw [if_neg half, if_neg half]
  by_cases closed : Sealed (start :: rest) (lengthField (start :: rest))
  · rw [if_neg (not_not_intro closed), if_pos (show _ ∧ _ from closed), ofHeadCheck,
      ← length_field_eq]
    rfl
  · rw [if_pos closed, if_neg (show ¬(_ ∧ _) from closed), ofHeadCheck]

theorem check_head_frame {id : UInt16} {frame : List UInt8} (complete : CompleteFrame id frame)
    (later : List UInt8) :
    checkHead (frame ++ later) = .frame id (UInt16.ofNat frame.length) := by
  have nonempty : frame ≠ [] := by
    rintro rfl
    exact absurd complete.lower (by decide)
  have long : frame.length > 2 := by
    have lower := complete.lower
    omega
  have field : (bytebufferGetword (frame.drop 1)).toNat = frame.length := by
    rw [← length_field_eq, complete.length]
  have messagelen : bytebufferGetword (frame.drop 1) = UInt16.ofNat frame.length := by
    rw [← field, UInt16.ofNat_toNat]
  have range : ¬(bytebufferGetword (frame.drop 1) < 8 ∨
      bytebufferGetword (frame.drop 1) > 2048) := by
    rw [not_or, UInt16.not_lt, UInt16.not_lt, UInt16.le_iff_toNat_le, UInt16.le_iff_toNat_le,
      field]
    exact ⟨complete.lower, complete.upper⟩
  have decision : checkHead frame = .frame id (UInt16.ofNat frame.length) := by
    have closed := complete.closed
    have positive : 0 < frame.length - 2 := by omega
    rw [Sealed, ← xor_sum_eq_checksum _ _ positive nonempty] at closed
    have flag : ¬frame.headD 0 ≠ protocolStartFlag := not_not_intro complete.start
    rw [checkHead, if_neg flag, if_pos long]
    simp only [if_neg range, field, gt_iff_lt, lt_irrefl, if_false]
    apply (if_pos closed).trans
    rw [messagelen, ← complete.id]
    rfl
  rw [check_head_append later nonempty (by rw [decision]; simp), decision]

theorem field_take (stream : List UInt8) {offset length : Nat} (within : offset + 2 ≤ length) :
    ((stream.take length).drop offset).take 2 = (stream.drop offset).take 2 := by
  rw [List.drop_take, List.take_take, Nat.min_eq_left (by omega)]

theorem check_head_complete {stream : List UInt8} {id messagelen : UInt16}
    (decision : checkHead stream = .frame id messagelen) :
    CompleteFrame id (stream.take messagelen.toNat) := by
  obtain ⟨lower, upper, within⟩ := check_head_frame_bounds decision
  have length : (stream.take messagelen.toNat).length = messagelen.toNat := by
    rw [List.length_take]
    exact Nat.min_eq_left within
  have nonempty : stream ≠ [] := by
    rintro rfl
    rw [List.length_nil] at within
    omega
  have byte : ∀ index < messagelen.toNat,
      (stream.take messagelen.toNat).getD index 0 = stream.getD index 0 := by
    intro index inside
    rw [List.getD_eq_getElem?_getD, List.getD_eq_getElem?_getD, List.getElem?_take_of_lt inside]
  simp only [checkHead] at decision
  split_ifs at decision with start long range short sums
  rw [HeadCheck.frame.injEq] at decision
  rcases decision with ⟨rfl, rfl⟩
  rw [xor_sum_eq_checksum _ _ (by omega) nonempty] at sums
  refine ⟨?_, ?_, length.symm ▸ lower, length.symm ▸ upper, ⟨?_, ?_⟩, ?_⟩
  · rw [List.headD_eq_getD, byte 0 (by omega), ← List.headD_eq_getD]
    exact not_not.mp start
  · rw [lengthField, field_take _ (by omega), length, ← length_field_eq, lengthField]
  · rw [length, List.take_take, Nat.min_eq_left (by omega), byte _ (by omega)]
    exact sums.1
  · rw [length, byte _ (by omega)]
    exact sums.2
  · rw [idField, field_take _ (by omega)]
    rfl

def wireScanner : Scanner UInt8 UInt16 where
  verdict := referenceVerdict
  empty_holds := rfl
  cut_within pending tag count decision := by
    have nonempty : pending ≠ [] := by
      rintro rfl
      contradiction
    rw [reference_verdict_eq pending nonempty] at decision
    cases head : checkHead pending with
    | drop => rw [head] at decision; contradiction
    | half => rw [head] at decision; contradiction
    | frame cmdid messagelen =>
        have bounds := check_head_frame_bounds head
        rw [head, ofHeadCheck] at decision
        split_ifs at decision
        cases decision
        omega
  stable pending later settled := by
    have nonempty : pending ≠ [] := by
      rintro rfl
      exact settled rfl
    rw [reference_verdict_eq pending nonempty] at settled
    have waits : checkHead pending ≠ .half := by
      intro half
      rw [half] at settled
      exact settled rfl
    rw [reference_verdict_eq _ (by simp [nonempty]), reference_verdict_eq _ nonempty,
      check_head_append later nonempty waits]

/-- The scan skips what the walk of `protocol_check` gives up. -/
theorem scan_skip_count (stream : List UInt8) :
    wireScanner.scan stream =
      ((stream.take (skipCount stream)).map .skipped ++
          (wireScanner.scan (stream.drop (skipCount stream))).1,
        (wireScanner.scan (stream.drop (skipCount stream))).2) := by
  induction stream with
  | nil => rfl
  | cons byte rest induction =>
      unfold skipCount
      split_ifs with given
      · have verdict : wireScanner.verdict (byte :: rest) = .skip := by
          change referenceVerdict (byte :: rest) = _
          rw [reference_verdict_eq _ (by simp), given, ofHeadCheck]
        rw [wireScanner.scan_skip _ _ verdict, induction]
        simp
      · simp

theorem verdict_of_outcome (stream : List UInt8)
    (stopped : stream ≠ [] → checkHead stream ≠ .drop) :
    wireScanner.verdict stream =
      if (outcome illegal stream).2 = illegal ∨ (outcome illegal stream).2 = halfpack then .hold
      else .cut (outcome illegal stream).2 (outcome illegal stream).1.toNat := by
  change referenceVerdict stream = _
  by_cases empty : stream = []
  · subst empty
    rfl
  rw [reference_verdict_eq stream empty, outcome, if_neg empty]
  cases decision : checkHead stream with
  | drop => exact absurd decision (stopped empty)
  | half => rfl
  | frame cmdid messagelen =>
      simp only [ofHeadCheck, UInt16.toNat_toUInt32]

end SmartHome.WireScan
