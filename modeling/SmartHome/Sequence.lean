import SmartHome.LoginSnapshot
import SmartHome.Library.Decimal
import SmartHome.Library.Tokens

/-!
# The gateway's serial number

`sequence.c` reads a text file with the serial number of the box, three numbers with
dots between them, the first behind a prefix of four characters, and packs them into the
gateway id of the login and heartbeat messages.
-/

namespace SmartHome.Sequence

open SmartHome.Library.Bytes
open SmartHome.Library.CTypes
open SmartHome.Library.Decimal
open SmartHome.Library.Tokens
open SmartHome.Bytebuffer
open SmartHome.Registry
open SmartHome.Encode
open SmartHome.LoginSnapshot

set_option autoImplicit false

def pagesize : Nat := 512

def dot : UInt8 := 0x2E

theorem dot_ne_zero : dot ≠ 0 := by decide

def packSeqnum (seqnumH seqnumM seqnumL : Nat) : UInt64 :=
  UInt64.ofNat seqnumH <<< 40 ||| UInt64.ofNat seqnumM <<< 32 ||| UInt64.ofNat seqnumL

/-- The source goes on with one or two tokens as well: it reads a pointer that `strtok_r` returned
as NULL, or that nothing was stored in, and has no result. -/
def xlateSeqstr2seqnum (width : LongWidth) (str : List UInt8) : Option UInt64 :=
  let (subp, scan) := strtokLoop dot 3 ⟨str, 0⟩
  match subp with
  | [] => some 0
  | [subp0, subp1, subp2] =>
      let seqnumH := strtoul width (stringAt scan.buffer (subp0 + 4))
      let seqnumM := strtoul width (stringAt scan.buffer subp1)
      let seqnumL := strtoul width (stringAt scan.buffer subp2)
      some (packSeqnum seqnumH seqnumM seqnumL)
  | _ => none

/-- Where the terminator is written, and what is answered. -/
structure Loaded where
  terminator : Option Nat
  seqnum : Option UInt64

/-- A file that cannot be opened or read has no content; `behind` is the byte behind the buffer. -/
def loadSequence (width : LongWidth) (behind : UInt8) : Option (List UInt8) → Loaded
  | none => ⟨none, some 0⟩
  | some content =>
      let bytes := content.take pagesize
      let size := bytes.length
      let buf := bytes ++ List.replicate (pagesize - size) 0
      let memory := (buf ++ [behind]).set size 0
      ⟨some size, xlateSeqstr2seqnum width memory⟩

/-- Three tokens, the first longer than its prefix. -/
def HasSerialTokens (text : List UInt8) : Prop :=
  ∃ first second third others,
    tokens dot text = first :: second :: third :: others ∧ 4 < first.length

structure SerialText where
  prefixBytes : List UInt8
  high : List UInt8
  middle : List UInt8
  low : List UInt8
  tail : List UInt8
  four : prefixBytes.length = 4
  plain : dot ∉ prefixBytes
  highDigits : high ≠ [] ∧ ∀ c ∈ high, isDigit c
  middleDigits : middle ≠ [] ∧ ∀ c ∈ middle, isDigit c
  lowDigits : low ≠ [] ∧ ∀ c ∈ low, isDigit c
  ends : ∀ c ∈ tail.head?, isDigit c = false

namespace SerialText

def bytes (serial : SerialText) : List UInt8 :=
  serial.prefixBytes ++ serial.high ++ dot :: (serial.middle ++ dot :: (serial.low ++ serial.tail))

def numbers (serial : SerialText) : Nat × Nat × Nat :=
  (digitsValue serial.high, digitsValue serial.middle, digitsValue serial.low)

def InRange (serial : SerialText) : Prop :=
  digitsValue serial.high < 256 ∧ digitsValue serial.middle < 256 ∧
    digitsValue serial.low < 2 ^ 32

def gatewayid (serial : SerialText) : UInt64 :=
  UInt64.ofNat (digitsValue serial.high * 2 ^ 40 + digitsValue serial.middle * 2 ^ 32 +
    digitsValue serial.low)

end SerialText

structure LoadsRight (loaded : Loaded) (content : List UInt8) : Prop where
  inside : ∀ index ∈ loaded.terminator, index < pagesize
  answers : loaded.seqnum ≠ none
  refuses : ∀ seqnum ∈ loaded.seqnum, seqnum ≠ 0 → HasSerialTokens (upToNul content)
  identifies : ∀ serial : SerialText, serial.InRange → upToNul content = serial.bytes →
    loaded.seqnum = some serial.gatewayid

/-- The string four bytes behind the start of the first token, where the separators behind the
tokens have become NULs. -/
def behindPrefix (text : List UInt8) : List UInt8 :=
  stringAt (cut dot 3 text) ((gap dot text).length + 4)

/-- The texts that are read without a missing token, and answered with 0 if the first token is
too short: then the numbers found must be shifted out of the word, or be 0. -/
def SafelyRead (width : LongWidth) (text : List UInt8) : Prop :=
  tokens dot text = [] ∨ ∃ first second third others,
    tokens dot text = first :: second :: third :: others ∧
      (4 < first.length ∨ (strtoul width (behindPrefix text) % 2 ^ 24 = 0 ∧
        strtoul width second % 2 ^ 32 = 0 ∧ strtoul width third = 0))

section Tokenised

variable {text : List UInt8} (width : LongWidth) (behind : List UInt8)

theorem xlate_no_token (nonul : (0 : UInt8) ∉ text) (none_ : tokens dot text = []) :
    xlateSeqstr2seqnum width (text ++ 0 :: behind) = some 0 := by
  rcases strtok_calls dot_ne_zero 3 behind nonul with ⟨_, strings, _⟩
  rw [none_, List.take_nil, List.map_eq_nil_iff] at strings
  unfold xlateSeqstr2seqnum
  simp only [strings]

theorem xlate_missing_token (nonul : (0 : UInt8) ∉ text) (some_ : tokens dot text ≠ [])
    (few : (tokens dot text).length < 3) :
    xlateSeqstr2seqnum width (text ++ 0 :: behind) = none := by
  rcases strtok_calls dot_ne_zero 3 behind nonul with ⟨_, strings, _⟩
  have length := congrArg List.length strings
  have positive := List.length_pos_iff.mpr some_
  rw [List.length_map, List.length_take] at length
  unfold xlateSeqstr2seqnum
  generalize strtokLoop dot 3 ⟨text ++ 0 :: behind, 0⟩ = calls at length ⊢
  rcases calls with ⟨subp, scan⟩
  dsimp only at length ⊢
  split
  · rw [List.length_nil] at length
    omega
  · simp only [List.length_cons, List.length_nil] at length
    omega
  · rfl

theorem xlate_three_tokens (nonul : (0 : UInt8) ∉ text) {first second third : List UInt8}
    {others : List (List UInt8)} (pieces : tokens dot text = first :: second :: third :: others) :
    xlateSeqstr2seqnum width (text ++ 0 :: behind) =
      some (packSeqnum (strtoul width (behindPrefix text)) (strtoul width second)
        (strtoul width third)) := by
  rcases strtok_calls dot_ne_zero 3 behind nonul with ⟨buffer, strings, head⟩
  have room : (gap dot text).length + 4 ≤ (cut dot 3 text).length := by
    have least := gap_length_le pieces
    have nonempty : first ≠ [] := by
      have member : first ∈ tokens dot text := pieces ▸ List.mem_cons_self
      simpa using (List.mem_filter.mp member).2
    have positive := List.length_pos_iff.mpr nonempty
    rw [cut_length]
    simp only [List.length_cons] at least
    omega
  unfold xlateSeqstr2seqnum
  generalize strtokLoop dot 3 ⟨text ++ 0 :: behind, 0⟩ = calls at buffer strings head ⊢
  rcases calls with ⟨subp, scan⟩
  rw [pieces] at strings
  dsimp only at buffer strings head ⊢
  have three := congrArg List.length strings
  rw [List.length_map] at three
  rcases List.length_eq_three.mp three with ⟨subp0, subp1, subp2, rfl⟩
  simp only [List.map_cons, List.map_nil, List.take_succ_cons, List.take_zero, List.cons.injEq,
    and_true] at strings
  dsimp only
  rw [buffer, strings.2.1, strings.2.2, head subp0 rfl, string_at_behind _ _ room, behindPrefix]

/-- Behind a prefix of its full length lies the rest of the first token. -/
theorem behind_prefix_eq (nonul : (0 : UInt8) ∉ text) {first second third : List UInt8}
    {others : List (List UInt8)} (pieces : tokens dot text = first :: second :: third :: others)
    (long : 4 ≤ first.length) : behindPrefix text = first.drop 4 := by
  rcases strtok_calls dot_ne_zero 3 [] nonul with ⟨_, strings, head⟩
  have room : (gap dot text).length + 4 ≤ (cut dot 3 text).length := by
    have least := gap_length_le pieces
    rw [cut_length]
    omega
  rw [pieces] at strings
  rcases starts : (strtokLoop dot 3 ⟨text ++ 0 :: [], 0⟩).1 with _ | ⟨subp0, later⟩
  · rw [starts] at strings
    cases strings
  · rw [starts] at strings head
    have token : stringAt (cut dot 3 text ++ [0]) (gap dot text).length = first := by
      rw [← head subp0 rfl]
      exact (List.cons.inj strings).1
    rw [behindPrefix, ← string_at_behind _ [] room, string_at_add (by rw [token]; exact long),
      token]

end Tokenised

theorem load_sequence_eq (width : LongWidth) (behind : UInt8) {content : List UInt8}
    (short : content.length < pagesize) :
    ∃ rest, loadSequence width behind (some content) =
      ⟨some content.length, xlateSeqstr2seqnum width (upToNul content ++ 0 :: rest)⟩ := by
  have taken : content.take pagesize = content := List.take_of_length_le (Nat.le_of_lt short)
  have zeros : List.replicate (pagesize - content.length) (0 : UInt8) =
      0 :: List.replicate (pagesize - content.length - 1) 0 := by
    rw [← List.replicate_succ]
    congr 1
    omega
  have memory : ((content ++ List.replicate (pagesize - content.length) 0) ++ [behind]).set
      content.length 0 =
        content ++ 0 :: (List.replicate (pagesize - content.length - 1) 0 ++ [behind]) := by
    rw [zeros, List.append_assoc, List.set_append_right _ _ (Nat.le_refl _), Nat.sub_self]
    rfl
  rcases up_to_nul_split content (List.replicate (pagesize - content.length - 1) 0 ++ [behind])
    with ⟨rest, split⟩
  exact ⟨rest, by simp only [loadSequence, taken, memory, split]⟩

theorem pack_seqnum_toNat (seqnumH seqnumM seqnumL : Nat) :
    (packSeqnum seqnumH seqnumM seqnumL).toNat =
      seqnumH * 2 ^ 40 % 2 ^ 64 ||| seqnumM * 2 ^ 32 % 2 ^ 64 ||| seqnumL % 2 ^ 64 := by
  have shift (number : Nat) {count : UInt64} {places : Nat} (same : count.toNat % 64 = places) :
      (UInt64.ofNat number <<< count).toNat = number * 2 ^ places % 2 ^ 64 := by
    rw [UInt64.toNat_shiftLeft, UInt64.toNat_ofNat', same, Nat.shiftLeft_eq, Nat.mod_mul_mod]
  have places40 : (40 : UInt64).toNat % 64 = 40 := by decide
  have places32 : (32 : UInt64).toNat % 64 = 32 := by decide
  rw [packSeqnum, UInt64.toNat_or, UInt64.toNat_or, shift seqnumH places40,
    shift seqnumM places32, UInt64.toNat_ofNat']

theorem pack_seqnum_eq_zero_iff (seqnumH seqnumM seqnumL : Nat) :
    packSeqnum seqnumH seqnumM seqnumL = 0 ↔
      seqnumH % 2 ^ 24 = 0 ∧ seqnumM % 2 ^ 32 = 0 ∧ seqnumL % 2 ^ 64 = 0 := by
  rw [← UInt64.toNat_inj, pack_seqnum_toNat, UInt64.toNat_zero, Nat.or_eq_zero_iff,
    Nat.or_eq_zero_iff]
  omega

theorem pack_seqnum_eq {seqnumH seqnumM seqnumL : Nat} (high : seqnumH < 256)
    (middle : seqnumM < 256) (low : seqnumL < 2 ^ 32) :
    packSeqnum seqnumH seqnumM seqnumL =
      UInt64.ofNat (seqnumH * 2 ^ 40 + seqnumM * 2 ^ 32 + seqnumL) := by
  have fits : seqnumH * 2 ^ 40 < 2 ^ 64 ∧ seqnumM * 2 ^ 32 < 2 ^ 64 ∧ seqnumL < 2 ^ 64 ∧
      seqnumH * 2 ^ 40 + seqnumM * 2 ^ 32 + seqnumL < 2 ^ 64 ∧
        seqnumM * 2 ^ 32 + seqnumL < 2 ^ 40 := by
    refine ⟨?_, ?_, ?_, ?_, ?_⟩ <;> omega
  rcases fits with ⟨highFits, middleFits, lowFits, allFits, lower⟩
  have outer := Nat.shiftLeft_add_eq_or_of_lt lower seqnumH
  have inner := Nat.shiftLeft_add_eq_or_of_lt low seqnumM
  rw [Nat.shiftLeft_eq] at outer inner
  rw [← UInt64.toNat_inj, pack_seqnum_toNat, UInt64.toNat_ofNat', Nat.mod_eq_of_lt highFits,
    Nat.mod_eq_of_lt middleFits, Nat.mod_eq_of_lt lowFits, Nat.mod_eq_of_lt allFits,
    Nat.or_assoc, ← inner, ← outer, Nat.add_assoc]

namespace SerialText

theorem tokens_eq (serial : SerialText) :
    ∃ others, tokens dot serial.bytes =
      (serial.prefixBytes ++ serial.high) :: serial.middle ::
        (serial.low ++ serial.tail.takeWhile (· ≠ dot)) :: others := by
  have plainDigits {digits : List UInt8} (all : ∀ c ∈ digits, isDigit c) : dot ∉ digits :=
    fun member => absurd (all dot member) (by decide)
  let first : Lead dot := {
    gap := []
    token := serial.prefixBytes ++ serial.high
    separators := fun _ member => absurd member List.not_mem_nil
    nonempty := fun none => serial.highDigits.1 (List.append_eq_nil_iff.mp none).2
    whole := fun member => (List.mem_append.mp member).elim serial.plain
      (plainDigits serial.highDigits.2) }
  let second : Lead dot := {
    gap := []
    token := serial.middle
    separators := fun _ member => absurd member List.not_mem_nil
    nonempty := serial.middleDigits.1
    whole := plainDigits serial.middleDigits.2 }
  rcases tokens_word serial.lowDigits.1 (plainDigits serial.lowDigits.2) serial.tail
    with ⟨others, third⟩
  have pieces := tokens_lead first (serial.middle ++ dot :: (serial.low ++ serial.tail))
  have later := tokens_lead second (serial.low ++ serial.tail)
  rw [third] at later
  exact ⟨others, pieces.trans (congrArg _ later)⟩

theorem xlate_eq (serial : SerialText) (width : LongWidth) (behind : List UInt8)
    (nonul : (0 : UInt8) ∉ serial.bytes) (range : serial.InRange) :
    xlateSeqstr2seqnum width (serial.bytes ++ 0 :: behind) = some serial.gatewayid := by
  rcases serial.tokens_eq with ⟨others, pieces⟩
  rcases range with ⟨high, middle, low⟩
  have fits {number : Nat} (small : number < 2 ^ 32) : number ≤ ulongMax width := by
    cases width with
    | ilp32 => exact Nat.le_of_lt_succ small
    | lp64 => exact Nat.le_trans (Nat.le_of_lt_succ small) (by decide)
  have long : 4 ≤ (serial.prefixBytes ++ serial.high).length := by
    rw [List.length_append, serial.four]
    exact Nat.le_add_right _ _
  have noTail : ∀ c ∈ ([] : List UInt8).head?, isDigit c = false := fun c member => by cases member
  have highRead := @strtoul_digits width serial.high [] serial.highDigits.1 serial.highDigits.2
    noTail (fits (by omega))
  have middleRead := @strtoul_digits width serial.middle [] serial.middleDigits.1
    serial.middleDigits.2 noTail (fits (by omega))
  have ends : ∀ c ∈ (serial.tail.takeWhile (· ≠ dot)).head?, isDigit c = false := by
    intro c member
    apply serial.ends c
    cases tail : serial.tail with
    | nil =>
        rw [tail] at member
        cases member
    | cons first rest =>
        rw [tail, List.takeWhile_cons] at member
        split_ifs at member
        · exact member
        · cases member
  have lowRead := @strtoul_digits width serial.low _ serial.lowDigits.1 serial.lowDigits.2 ends
    (fits low)
  rw [List.append_nil] at highRead middleRead
  rw [xlate_three_tokens width behind nonul pieces, behind_prefix_eq nonul pieces long,
    ← serial.four, List.drop_left, highRead, middleRead, lowRead,
    pack_seqnum_eq high middle low, gatewayid]

theorem gatewayid_toNat {serial : SerialText} (range : serial.InRange) :
    serial.gatewayid.toNat = digitsValue serial.high * 2 ^ 40 +
      digitsValue serial.middle * 2 ^ 32 + digitsValue serial.low := by
  rcases range with ⟨high, middle, low⟩
  rw [gatewayid, UInt64.toNat_ofNat']
  exact Nat.mod_eq_of_lt (by omega)

theorem numbers_eq {serial other : SerialText} (range : serial.InRange)
    (otherRange : other.InRange) (same : serial.gatewayid = other.gatewayid) :
    serial.numbers = other.numbers := by
  have numbers := congrArg UInt64.toNat same
  rw [gatewayid_toNat range, gatewayid_toNat otherRange] at numbers
  rcases range with ⟨high, middle, low⟩
  rcases otherRange with ⟨otherHigh, otherMiddle, otherLow⟩
  unfold SerialText.numbers
  rw [Prod.mk.injEq, Prod.mk.injEq]
  omega

theorem gatewayid_lt {serial : SerialText} (range : serial.InRange) :
    serial.gatewayid.toNat < 2 ^ 48 := by
  rw [gatewayid_toNat range]
  rcases range with ⟨high, middle, low⟩
  omega

end SerialText

/-- The six bytes of a frame behind its message id. -/
def frameGatewayid (frame : List UInt8) : Nat := ofBytesBE ((frame.drop 5).take 6)

theorem frame_gatewayid_eq (len id : UInt16) {gatewayid : UInt64} (small : gatewayid.toNat < 2 ^ 48)
    (later : List UInt8) :
    frameGatewayid (closeFrame (header len id ++ (bytebufferWritemac gatewayid ++ later))) =
      gatewayid.toNat := by
  have front : ∃ rest, closeFrame (header len id ++ (bytebufferWritemac gatewayid ++ later)) =
      header len id ++ (bytebufferWritemac gatewayid ++ rest) := by
    simp only [closeFrame, List.append_assoc]
    exact ⟨_, rfl⟩
  rcases front with ⟨rest, frame⟩
  rw [frameGatewayid, frame, List.drop_left' (header_length len id),
    List.take_left' (bytebuffer_writemac_length gatewayid), bytebufferWritemac, of_to_bytes_be]
  exact Nat.mod_eq_of_lt small

theorem frames_gatewayid (gw : Gateway) (small : gw.gatewayid.toNat < 2 ^ 48) :
    frameGatewayid (protocolEncodeHeart gw) = gw.gatewayid.toNat ∧
      frameGatewayid (protocolEncodeLogin gw) = gw.gatewayid.toNat := by
  constructor
  · have heartbeat := frame_gatewayid_eq 0x0D heart small []
    rw [List.append_nil] at heartbeat
    exact heartbeat
  · rw [protocol_encode_login_eq, encode_frame_eq]
    exact frame_gatewayid_eq _ login small _

theorem terminator_inside_iff (width : LongWidth) (behind : UInt8) (content : List UInt8) :
    (∀ index ∈ (loadSequence width behind (some content)).terminator, index < pagesize) ↔
      content.length < pagesize := by
  have written : (loadSequence width behind (some content)).terminator =
      some (min pagesize content.length) := congrArg some List.length_take
  rw [written]
  constructor
  · intro inside
    have bound := inside _ rfl
    omega
  · intro short index member
    cases member
    omega

theorem strtoul_mod (width : LongWidth) (text : List UInt8) :
    strtoul width text % 2 ^ 64 = strtoul width text := by
  have bound := strtoul_le width text
  apply Nat.mod_eq_of_lt
  cases width with
  | ilp32 => exact Nat.lt_of_le_of_lt bound (by decide)
  | lp64 => exact Nat.lt_of_le_of_lt bound (by decide)

section Reading

variable {width : LongWidth} {behind : UInt8} {content : List UInt8}

theorem safely_read_of_right (short : content.length < pagesize)
    (right : LoadsRight (loadSequence width behind (some content)) content) :
    SafelyRead width (upToNul content) := by
  have nonul := zero_not_mem_up_to_nul content
  rcases load_sequence_eq width behind short with ⟨rest, loaded⟩
  rw [loaded] at right
  match pieces : tokens dot (upToNul content) with
  | [] => exact .inl pieces
  | [_] | [_, _] =>
      refine absurd ?_ right.answers
      exact xlate_missing_token width rest nonul (by rw [pieces]; exact List.cons_ne_nil _ _)
        (by simp only [pieces, List.length_cons, List.length_nil]; omega)
  | first :: second :: third :: others =>
      refine .inr ⟨first, second, third, others, pieces, ?_⟩
      by_cases long : 4 < first.length
      · exact .inl long
      · have answer := xlate_three_tokens width rest nonul pieces
        have zero : packSeqnum (strtoul width (behindPrefix (upToNul content)))
            (strtoul width second) (strtoul width third) = 0 := by
          by_contra nonzero
          rcases right.refuses _ answer nonzero with ⟨first', _, _, _, pieces', long'⟩
          rw [pieces] at pieces'
          cases pieces'
          exact long long'
        rw [pack_seqnum_eq_zero_iff, strtoul_mod] at zero
        exact .inr zero

theorem right_of_safely_read (short : content.length < pagesize)
    (safe : SafelyRead width (upToNul content)) :
    LoadsRight (loadSequence width behind (some content)) content := by
  have nonul := zero_not_mem_up_to_nul content
  have inside := (terminator_inside_iff width behind content).mpr short
  rcases load_sequence_eq width behind short with ⟨rest, loaded⟩
  rw [loaded] at inside ⊢
  have identifies : ∀ serial : SerialText, serial.InRange → upToNul content = serial.bytes →
      xlateSeqstr2seqnum width (upToNul content ++ 0 :: rest) = some serial.gatewayid := by
    intro serial range same
    rw [same] at nonul ⊢
    exact serial.xlate_eq width rest nonul range
  rcases safe with none_ | ⟨first, second, third, others, pieces, reads⟩
  · have answer := xlate_no_token width rest nonul none_
    refine ⟨inside, by rw [answer]; exact Option.some_ne_none _, ?_, identifies⟩
    intro seqnum member nonzero
    rw [answer] at member
    cases member
    exact absurd rfl nonzero
  · have answer := xlate_three_tokens width rest nonul pieces
    refine ⟨inside, by rw [answer]; exact Option.some_ne_none _, ?_, identifies⟩
    intro seqnum member nonzero
    refine ⟨first, second, third, others, pieces, ?_⟩
    rcases reads with long | vanish
    · exact long
    · rw [answer] at member
      cases member
      rw [← strtoul_mod width third, ← pack_seqnum_eq_zero_iff] at vanish
      exact absurd vanish nonzero

end Reading

/-- A file is read as it should be just if it leaves a byte of the buffer free, and holds no token
or at least three, the first of them longer than its prefix or the numbers read out as 0.
Serial numbers in range have ids of their own, which six bytes of a frame hold. -/
theorem serial_file_iff (width : LongWidth) (behind : UInt8) (content : List UInt8) :
    (LoadsRight (loadSequence width behind (some content)) content ↔
      content.length < pagesize ∧ SafelyRead width (upToNul content)) ∧
    ∀ serial : SerialText, serial.InRange →
      serial.gatewayid.toNat = digitsValue serial.high * 2 ^ 40 +
          digitsValue serial.middle * 2 ^ 32 + digitsValue serial.low ∧
        serial.gatewayid.toNat < 2 ^ 48 ∧
        (∀ other : SerialText, other.InRange → serial.gatewayid = other.gatewayid →
          serial.numbers = other.numbers) ∧
        ∀ gw : Gateway, gw.gatewayid = serial.gatewayid →
          frameGatewayid (protocolEncodeHeart gw) = serial.gatewayid.toNat ∧
            frameGatewayid (protocolEncodeLogin gw) = serial.gatewayid.toNat := by
  constructor
  · constructor
    · intro right
      have short := (terminator_inside_iff width behind content).mp right.inside
      exact ⟨short, safely_read_of_right short right⟩
    · rintro ⟨short, safe⟩
      exact right_of_safely_read short safe
  · intro serial range
    have small := SerialText.gatewayid_lt range
    refine ⟨SerialText.gatewayid_toNat range, small,
      fun other otherRange same => SerialText.numbers_eq range otherRange same, ?_⟩
    intro gw same
    rw [← same] at small ⊢
    exact frames_gatewayid gw small

/-- "GATE1.7" and "a.1.7" -/
def twoNumbers : List UInt8 := [0x47, 0x41, 0x54, 0x45, 0x31, 0x2E, 0x37]
def shortPrefix : List UInt8 := [0x61, 0x2E, 0x31, 0x2E, 0x37]

/-- The third number is missing and used; an id is made up behind a prefix that is not there; and a
file that fills the buffer has its terminator written behind it. -/
theorem serial_files_misread :
    ¬ LoadsRight (loadSequence .ilp32 0 (some twoNumbers)) twoNumbers ∧
      ¬ LoadsRight (loadSequence .ilp32 0 (some shortPrefix)) shortPrefix ∧
        ∀ byte : UInt8, ¬ LoadsRight (loadSequence .ilp32 0 (some (List.replicate 512 byte)))
          (List.replicate 512 byte) := by
  refine ⟨fun right => ?_, fun right => ?_, fun byte right => ?_⟩
  · have missing : (loadSequence .ilp32 0 (some twoNumbers)).seqnum = none := by decide +kernel
    exact right.answers missing
  · have answer : (loadSequence .ilp32 0 (some shortPrefix)).seqnum = some 0x070100000007 := by
      decide +kernel
    rcases right.refuses _ answer (by decide) with ⟨first, _, _, _, pieces, long⟩
    have same : tokens dot (upToNul shortPrefix) = [[0x61], [0x31], [0x37]] := by decide +kernel
    rw [same] at pieces
    cases pieces
    exact absurd long (by decide)
  · have short := (terminator_inside_iff .ilp32 0 (List.replicate 512 byte)).mp right.inside
    rw [List.length_replicate] at short
    exact absurd short (Nat.lt_irrefl 512)

end SmartHome.Sequence
