import SmartHome.Bytebuffer
import SmartHome.Connections
import SmartHome.Library.StreamScanner
import Mathlib.Data.List.GetD

/-!
# The frame checker of `protocol.c`

`protocol_check` walks a private copy of the pending bytes with `pbuf` and `len`
and pops the FIFO once for every byte it gives up. What it decides about the byte
under the cursor is `checkHead`; the walk is the recursion over the copy.
-/

namespace SmartHome.Protocol

open SmartHome.RingFifo
open SmartHome.Bytebuffer
open SmartHome.Connections
open SmartHome.Library.StreamScanner

set_option autoImplicit false

def illegal : UInt16 := 0
def halfpack : UInt16 := 255

def protocolStartFlag : UInt8 := 0xCE
def protocolEndFlag : UInt8 := 0xCE

def bufLen : UInt32 := 1024

def protocolChecksum (buf : List UInt8) (buflen : Nat) : UInt8 :=
  ((buf.take buflen).drop 1).foldl (· ^^^ ·) (buf.headD 0)

inductive HeadCheck
  | drop
  | half
  | frame (cmdid messagelen : UInt16)
  deriving DecidableEq

/-- The decision of one pass of the `while` loop over the bytes from `pbuf` on. -/
def checkHead (pbuf : List UInt8) : HeadCheck :=
  if pbuf.headD 0 ≠ protocolStartFlag then .drop
  else if pbuf.length > 2 then
    let messagelen := bytebufferGetword (pbuf.drop 1)
    if messagelen < 8 ∨ messagelen > 2048 then .drop
    else if messagelen.toNat > pbuf.length then .half
    else
      let checksum := protocolChecksum pbuf (messagelen.toNat - 2)
      if checksum = pbuf.getD (messagelen.toNat - 2) 0 ∧
          pbuf.getD (messagelen.toNat - 1) 0 = protocolEndFlag then
        .frame (bytebufferGetword (pbuf.drop 3)) messagelen
      else .drop
  else .half

/-- `messagelen` is the value `protocol_check` returns and `messageid` what it leaves in
`*messageid`. `discarded` records the bytes that `kfifo_pop` took out of the FIFO. -/
structure Checked where
  messagelen : UInt32
  messageid : UInt16
  connection : Connection
  discarded : List UInt8

def popped (fifo : Kfifo) : List UInt8 :=
  if fifo.inCount > fifo.outCount then (kfifoGetahead fifo 1).2 else []

def protocolCheckLoop (messageid : UInt16) (c : Connection) : List UInt8 → Checked
  | [] => ⟨0, messageid, c, []⟩
  | byte :: rest =>
      match checkHead (byte :: rest) with
      | .drop =>
          let checked := protocolCheckLoop messageid (connectionReadbufPop c) rest
          { checked with discarded := popped c.rawfifo ++ checked.discarded }
      | .half => ⟨0, halfpack, c, []⟩
      | .frame cmdid messagelen => ⟨messagelen.toUInt32, cmdid, c, []⟩

/-- With nothing pending the source assigns `ILLEGAL` to the pointer, so `*messageid` stays. -/
def protocolCheck (c : Connection) (messageid : UInt16) : Checked :=
  let (len, buf) := connectionReadbufGetahead c bufLen
  if len = 0 then ⟨0, messageid, c, []⟩
  else protocolCheckLoop messageid c buf

theorem check_head_frame_bounds {pbuf : List UInt8} {cmdid messagelen : UInt16}
    (decision : checkHead pbuf = .frame cmdid messagelen) :
    8 ≤ messagelen.toNat ∧ messagelen.toNat ≤ 2048 ∧ messagelen.toNat ≤ pbuf.length := by
  simp only [checkHead] at decision
  split_ifs at decision with start long range short sums
  rw [HeadCheck.frame.injEq] at decision
  rw [decision.2, not_or, UInt16.not_lt, UInt16.not_lt] at range
  rw [decision.2] at short
  exact ⟨range.1, range.2, Nat.le_of_not_lt short⟩

theorem protocol_checksum_append (buf later : List UInt8) (buflen : Nat) (positive : 0 < buflen)
    (complete : buflen ≤ buf.length) :
    protocolChecksum (buf ++ later) buflen = protocolChecksum buf buflen := by
  cases buf with
  | nil => simp at complete; omega
  | cons byte rest =>
      rw [protocolChecksum, List.take_append_of_le_length complete, protocolChecksum]
      rfl

/-- A decision that is not to wait does not change when more bytes arrive. -/
theorem check_head_append {pbuf : List UInt8} (later : List UInt8) (nonempty : pbuf ≠ [])
    (settled : checkHead pbuf ≠ .half) : checkHead (pbuf ++ later) = checkHead pbuf := by
  have head : (pbuf ++ later).headD 0 = pbuf.headD 0 := by
    obtain ⟨byte, rest, rfl⟩ := List.exists_cons_of_ne_nil nonempty
    rfl
  simp only [checkHead, head] at settled ⊢
  split_ifs at settled with start long range short sums
  any_goals contradiction
  · rw [if_pos start, if_pos start]
  all_goals rw [if_neg start, if_neg start]
  all_goals
    have longer : (pbuf ++ later).length > 2 := by
      rw [List.length_append]
      omega
    have field : bytebufferGetword ((pbuf ++ later).drop 1) = bytebufferGetword (pbuf.drop 1) := by
      rw [List.drop_append_of_le_length (by omega)]
      exact bytebuffer_getword_append _ _ (by rw [List.length_drop]; omega)
    rw [if_pos long, if_pos longer, field]
  · rw [if_pos range, if_pos range]
  all_goals
    have lower : 8 ≤ (bytebufferGetword (pbuf.drop 1)).toNat := by
      rw [not_or, UInt16.not_lt] at range
      exact range.1
    have whole : ¬(bytebufferGetword (pbuf.drop 1)).toNat > (pbuf ++ later).length := by
      rw [List.length_append]
      omega
    have sum := protocol_checksum_append pbuf later
      ((bytebufferGetword (pbuf.drop 1)).toNat - 2) (by omega) (by omega)
    have cmdid : bytebufferGetword ((pbuf ++ later).drop 3) = bytebufferGetword (pbuf.drop 3) := by
      rw [List.drop_append_of_le_length (by omega)]
      exact bytebuffer_getword_append _ _ (by rw [List.length_drop]; omega)
    rw [if_neg range, if_neg range, if_neg short, if_neg whole, sum, cmdid,
      List.getD_append _ _ _ _ (by omega), List.getD_append _ _ _ _ (by omega)]

def skipCount : List UInt8 → Nat
  | [] => 0
  | byte :: rest => if checkHead (byte :: rest) = .drop then skipCount rest + 1 else 0

theorem skip_count_zero {pbuf : List UInt8} (stays : checkHead pbuf ≠ .drop) :
    skipCount pbuf = 0 := by
  cases pbuf with
  | nil => rfl
  | cons byte rest => rw [skipCount, if_neg stays]

theorem skip_count_pos {pbuf : List UInt8} (nonempty : pbuf ≠ [])
    (given : checkHead pbuf = .drop) : 1 ≤ skipCount pbuf := by
  obtain ⟨byte, rest, rfl⟩ := List.exists_cons_of_ne_nil nonempty
  rw [skipCount, if_pos given]
  exact Nat.le_add_left _ _

/-- What is left where the walk stops is not given up. -/
theorem check_head_at_skip_count (pbuf : List UInt8) (left : pbuf.drop (skipCount pbuf) ≠ []) :
    checkHead (pbuf.drop (skipCount pbuf)) ≠ .drop := by
  induction pbuf with
  | nil => exact absurd rfl left
  | cons byte rest induction =>
      rw [skipCount] at left ⊢
      split_ifs at left ⊢ with given
      · exact induction left
      · exact given

def outcome (messageid : UInt16) (pbuf : List UInt8) : UInt32 × UInt16 :=
  if pbuf = [] then (0, messageid)
  else
    match checkHead pbuf with
    | .frame cmdid messagelen => (messagelen.toUInt32, cmdid)
    | _ => (0, halfpack)

theorem protocol_check_loop_outcome (messageid : UInt16) (c : Connection) (pbuf : List UInt8) :
    let checked := protocolCheckLoop messageid c pbuf
    (checked.messagelen, checked.messageid) =
      outcome messageid (pbuf.drop (skipCount pbuf)) := by
  induction pbuf generalizing c with
  | nil => rfl
  | cons byte rest induction =>
      rw [protocolCheckLoop, skipCount]
      cases decision : checkHead (byte :: rest) with
      | drop => exact induction (connectionReadbufPop c)
      | half => simp [outcome, decision]
      | frame cmdid messagelen => simp [outcome, decision]

theorem popped_head {fifo : Kfifo} (valid : Valid fifo) (order : fifo.outCount ≤ fifo.inCount)
    {byte : UInt8} {rest : List UInt8} (stored : contents fifo = byte :: rest) :
    popped fifo = [byte] := by
  have ahead := (kfifo_getahead_spec valid 1).2
  have strict : fifo.inCount > fifo.outCount := by
    rcases UInt32.lt_or_eq_of_le order with strict | same
    · exact strict
    · have length := valid.contents_length
      rw [stored, kfifoLen, same, UInt32.sub_self] at length
      contradiction
  rw [popped, if_pos strict, ahead, stored]
  rfl

theorem protocol_check_loop_in_order (messageid : UInt16) {c : Connection} (formed : WellFormed c)
    (order : c.rawfifo.outCount ≤ c.rawfifo.inCount) :
    let checked := protocolCheckLoop messageid c (pending c)
    pending checked.connection = (pending c).drop (skipCount (pending c)) ∧
      checked.discarded = (pending c).take (skipCount (pending c)) ∧
      WellFormed checked.connection ∧
      checked.connection.rawfifo.outCount ≤ checked.connection.rawfifo.inCount ∧
      checked.connection.rawfifo.inCount = c.rawfifo.inCount := by
  induction stored : pending c generalizing c with
  | nil => exact ⟨stored, rfl, formed, order, rfl⟩
  | cons byte rest induction =>
      rw [protocolCheckLoop, skipCount]
      cases decision : checkHead (byte :: rest) with
      | drop =>
          obtain ⟨removed, valid, ordered⟩ := kfifo_pop_in_order formed.valid order
          have poppedFormed : WellFormed (connectionReadbufPop c) :=
            ⟨valid, (kfifo_pop_size c.rawfifo).trans formed.size⟩
          have poppedPending : pending (connectionReadbufPop c) = rest := by
            have storedRaw : contents c.rawfifo = byte :: rest := stored
            change contents (kfifoPop c.rawfifo) = rest
            rw [removed, storedRaw]
            rfl
          have poppedByte : popped c.rawfifo = [byte] := popped_head formed.valid order stored
          obtain ⟨left, gone, formedAfter, orderAfter, inAfter⟩ :=
            induction poppedFormed ordered poppedPending
          refine ⟨left, ?_, formedAfter, orderAfter,
            inAfter.trans (kfifo_pop_inCount c.rawfifo)⟩
          simp only [poppedByte, gone, if_true, List.take_succ_cons, List.singleton_append]
      | half => exact ⟨stored, rfl, formed, order, rfl⟩
      | frame cmdid messagelen => exact ⟨stored, rfl, formed, order, rfl⟩

theorem protocol_check_loop_wrapped (messageid : UInt16) {c : Connection}
    (wrapped : c.rawfifo.inCount < c.rawfifo.outCount) (pbuf : List UInt8) :
    let checked := protocolCheckLoop messageid c pbuf
    checked.connection = c ∧ checked.discarded = [] := by
  have unpopped : connectionReadbufPop c = c := by
    rw [connectionReadbufPop, kfifo_pop_wrapped wrapped]
  have nothing : popped c.rawfifo = [] := by
    rw [popped, if_neg]
    exact fun order => UInt32.lt_irrefl _ (UInt32.lt_trans wrapped order)
  induction pbuf with
  | nil => exact ⟨rfl, rfl⟩
  | cons byte rest induction =>
      unfold protocolCheckLoop
      cases decision : checkHead (byte :: rest) with
      | drop => simpa only [unpopped, nothing, List.nil_append] using induction
      | half => exact ⟨rfl, rfl⟩
      | frame cmdid messagelen => exact ⟨rfl, rfl⟩

/-- The private copy holds everything that is pending. -/
theorem protocol_check_eq_loop {c : Connection} (formed : WellFormed c) (messageid : UInt16) :
    protocolCheck c messageid = protocolCheckLoop messageid c (pending c) := by
  obtain ⟨len, buf⟩ := connection_readbuf_getahead_spec formed bufLen
  have whole : (connectionReadbufGetahead c bufLen).2 = pending c :=
    buf.trans (List.take_of_length_le formed.pending_le)
  simp only [protocolCheck, whole]
  split_ifs with empty
  · have none : pending c = [] := by
      rw [empty] at len
      have bound := formed.pending_le
      apply List.eq_nil_of_length_eq_zero
      change 0 = min 1024 _ at len
      omega
    rw [none, protocolCheckLoop]
  · rfl

theorem outcome_bounds {pbuf : List UInt8} {messageid : UInt16} :
    (outcome messageid pbuf).1.toNat ≤ pbuf.length ∧
      ((outcome messageid pbuf).1 = 0 ∧ ((outcome messageid pbuf).2 = messageid ∨
        (outcome messageid pbuf).2 = halfpack) ∨ 8 ≤ (outcome messageid pbuf).1.toNat) := by
  rw [outcome]
  split_ifs with empty
  · exact ⟨Nat.zero_le _, .inl ⟨rfl, .inl rfl⟩⟩
  cases decision : checkHead pbuf with
  | drop => exact ⟨Nat.zero_le _, .inl ⟨rfl, .inr rfl⟩⟩
  | half => exact ⟨Nat.zero_le _, .inl ⟨rfl, .inr rfl⟩⟩
  | frame cmdid messagelen =>
      have bounds := check_head_frame_bounds decision
      simp only [UInt16.toNat_toUInt32]
      exact ⟨bounds.2.2, .inr bounds.1⟩

/-- In every state `protocol_check` only moves bytes from the FIFO to `discarded`, and a frame it
returns lies within what is left. -/
theorem protocol_check_spec {c : Connection} (formed : WellFormed c) :
    let checked := protocolCheck c illegal
    checked.discarded ++ pending checked.connection = pending c ∧ WellFormed checked.connection ∧
      checked.messagelen.toNat ≤ (pending checked.connection).length ∧
      (checked.messageid ≠ illegal → checked.messageid ≠ halfpack →
        8 ≤ checked.messagelen.toNat) := by
  rw [protocol_check_eq_loop formed]
  intro checked
  have results := protocol_check_loop_outcome illegal c (pending c)
  rw [Prod.ext_iff] at results
  obtain ⟨within, cases⟩ := @outcome_bounds ((pending c).drop (skipCount (pending c))) illegal
  rw [← results.1, ← results.2] at cases
  rw [← results.1] at within
  have frameLong : checked.messageid ≠ illegal → checked.messageid ≠ halfpack →
      8 ≤ checked.messagelen.toNat := by
    intro legal full
    rcases cases with ⟨-, zero | half⟩ | long
    · exact absurd zero legal
    · exact absurd half full
    · exact long
  by_cases order : c.rawfifo.outCount ≤ c.rawfifo.inCount
  · obtain ⟨left, gone, formedAfter, -, -⟩ := protocol_check_loop_in_order illegal formed order
    refine ⟨?_, formedAfter, ?_, frameLong⟩
    · rw [left, gone, List.take_append_drop]
    · rw [left]
      exact within
  · obtain ⟨same, nothing⟩ :=
      protocol_check_loop_wrapped illegal (UInt32.not_le.mp order) (pending c)
    refine ⟨?_, same ▸ formed, ?_, frameLong⟩
    · rw [same, nothing, List.nil_append]
    · rw [same]
      exact within.trans (by rw [List.length_drop]; exact Nat.sub_le _ _)

end SmartHome.Protocol
