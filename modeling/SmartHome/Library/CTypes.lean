import Mathlib.Data.List.TakeWhile
import Mathlib.Tactic.SplitIfs

/-!
# C values

What C leaves to the platform or builds from raw memory: plain `char`, whose
signedness the compiler chooses, and NUL-terminated strings in fixed buffers.
-/

namespace SmartHome.Library.CTypes

set_option autoImplicit false

inductive CharSign
  | signed
  | unsigned
  deriving DecidableEq

/-- The value of a plain `char` after promotion to `int`. -/
def charInt : CharSign → UInt8 → Int
  | .unsigned, c => c.toNat
  | .signed, c => if c.toNat < 128 then c.toNat else c.toNat - 256

theorem char_int_emod (sign : CharSign) (c : UInt8) : charInt sign c % 256 = c.toNat := by
  have bound : c.toNat < 256 := c.toNat_lt
  cases sign with
  | unsigned => simp only [charInt]; omega
  | signed => simp only [charInt]; split <;> omega

/-- The text of a NUL-terminated string in a `char[size]` buffer. -/
structure CString (size : Nat) where
  text : List UInt8
  nonul : (0 : UInt8) ∉ text
  fits : text.length < size
  deriving DecidableEq

namespace CString

variable {size : Nat}

def strlen (string : CString size) : Nat := string.text.length

theorem strlen_lt (string : CString size) : string.strlen < size := string.fits

def empty (positive : 0 < size) : CString size := ⟨[], by simp, positive⟩

end CString

/-- What `strlen` and the functions that stop at NUL see of a buffer. -/
def upToNul (buffer : List UInt8) : List UInt8 := buffer.takeWhile (· ≠ 0)

theorem zero_not_mem_up_to_nul (buffer : List UInt8) : (0 : UInt8) ∉ upToNul buffer := by
  intro member
  have nonzero := List.mem_takeWhile_imp member
  simp at nonzero

theorem up_to_nul_length_le {buffer : List UInt8} {index : Nat} (nul : buffer[index]? = some 0) :
    (upToNul buffer).length ≤ index := by
  induction buffer generalizing index with
  | nil => simp at nul
  | cons byte rest induction =>
      cases index with
      | zero =>
          rw [List.getElem?_cons_zero, Option.some.injEq] at nul
          subst nul
          exact le_rfl
      | succ index =>
          rw [List.getElem?_cons_succ] at nul
          rw [upToNul, List.takeWhile_cons]
          split_ifs
          · exact Nat.succ_le_succ (induction nul)
          · exact Nat.zero_le _

theorem up_to_nul_eq {buffer text : List UInt8} (front : buffer.take text.length = text)
    (nul : buffer[text.length]? = some 0) (nonul : (0 : UInt8) ∉ text) : upToNul buffer = text := by
  rcases List.getElem?_eq_some_iff.mp nul with ⟨bound, zero⟩
  rw [← List.take_append_drop text.length buffer, front, List.drop_eq_getElem_cons bound, zero,
    upToNul, List.takeWhile_append_of_pos]
  · rw [List.takeWhile_cons_of_neg (by simp), List.append_nil]
  · intro byte member
    exact decide_eq_true fun same => nonul (same ▸ member)

/-- Bytes copied into a zeroed array, as far as there is room in front of the last NUL. -/
def CString.copy (size : Nat) (bytes : List UInt8) : CString (size + 1) where
  text := upToNul (bytes.take size)
  nonul := zero_not_mem_up_to_nul _
  fits := by
    have prefix_ : (upToNul (bytes.take size)).length ≤ (bytes.take size).length :=
      (List.takeWhile_prefix _).length_le
    exact Nat.lt_succ_of_le (prefix_.trans (List.length_take_le size bytes))

theorem CString.copy_text {size : Nat} (string : CString (size + 1)) :
    CString.copy size string.text = string := by
  have whole : upToNul (string.text.take size) = string.text := by
    rw [List.take_of_length_le (Nat.le_of_lt_succ string.fits), upToNul,
      List.takeWhile_eq_self_iff]
    intro byte member
    have nonzero : byte ≠ 0 := fun zero => string.nonul (zero ▸ member)
    exact decide_eq_true nonzero
  cases string with
  | mk text nonul fits =>
      unfold CString.copy
      congr

def flagSet (word flag : UInt32) : Bool := word &&& flag ≠ 0

theorem flag_set_zero (flag : UInt32) : flagSet 0 flag = false := by
  rw [flagSet, UInt32.zero_and]
  rfl

theorem flag_set_or_self {flag : UInt32} (nonzero : flag ≠ 0) (word : UInt32) :
    flagSet (word ||| flag) flag = true := by
  have whole : (word ||| flag) &&& flag = flag := by
    apply UInt32.toBitVec_inj.mp
    ext index
    simp
    grind
  rw [flagSet, whole]
  exact decide_eq_true nonzero

theorem flag_set_or_other {flag other : UInt32} (disjoint : flag &&& other = 0) (word : UInt32) :
    flagSet (word ||| flag) other = flagSet word other := by
  have same : (word ||| flag) &&& other = word &&& other := by
    apply UInt32.toBitVec_inj.mp
    ext index
    have cell := congrArg (fun bits : UInt32 => bits.toBitVec[index]) disjoint
    simp at cell ⊢
    grind
  rw [flagSet, same, flagSet]

theorem flag_set_clear_self (word flag : UInt32) : flagSet (word &&& ~~~flag) flag = false := by
  have none : (word &&& ~~~flag) &&& flag = 0 := by
    apply UInt32.toBitVec_inj.mp
    ext index
    simp
  rw [flagSet, none]
  rfl

theorem flag_set_clear_other {flag other : UInt32} (disjoint : flag &&& other = 0)
    (word : UInt32) : flagSet (word &&& ~~~flag) other = flagSet word other := by
  have same : (word &&& ~~~flag) &&& other = word &&& other := by
    apply UInt32.toBitVec_inj.mp
    ext index
    have cell := congrArg (fun bits : UInt32 => bits.toBitVec[index]) disjoint
    simp at cell ⊢
    grind
  rw [flagSet, same, flagSet]

theorem and_of_flag_clear {word flag : UInt32} (clear : flagSet word flag = false) :
    word &&& flag = 0 := by
  rw [flagSet] at clear
  simpa using clear

theorem flag_set_and {word flag : UInt32} (clear : flagSet word flag = false) (mask : UInt32) :
    flagSet (word &&& mask) flag = false := by
  have none : (word &&& mask) &&& flag = 0 := by
    rw [UInt32.and_assoc, UInt32.and_comm mask, ← UInt32.and_assoc, and_of_flag_clear clear,
      UInt32.zero_and]
  rw [flagSet, none]
  rfl

theorem low_byte_eq (word : UInt32) : word.toUInt8.toUInt32 = word &&& 255 := by
  apply UInt32.toNat_inj.mp
  rw [UInt32.toUInt32_toUInt8, UInt32.toNat_and]
  exact (Nat.and_two_pow_sub_one_eq_mod word.toNat 8).symm

theorem low_byte_eq_iff {word above rest : UInt32} (cover : ~~~255 = above ||| rest)
    (clear : flagSet word rest = false) :
    word.toUInt8.toUInt32 = word ↔ flagSet word above = false := by
  have noRest := and_of_flag_clear clear
  rw [low_byte_eq]
  generalize (255 : UInt32) = byte at cover ⊢
  constructor
  · intro same
    have none : word &&& above = 0 := by
      rw [← same]
      apply UInt32.toBitVec_inj.mp
      ext index
      have coverBit := congrArg (fun bits : UInt32 => bits.toBitVec[index]) cover
      simp at coverBit ⊢
      grind
    rw [flagSet, none]
    rfl
  · intro aboveClear
    have noAbove := and_of_flag_clear aboveClear
    apply UInt32.toBitVec_inj.mp
    ext index
    have aboveBit := congrArg (fun bits : UInt32 => bits.toBitVec[index]) noAbove
    have restBit := congrArg (fun bits : UInt32 => bits.toBitVec[index]) noRest
    have coverBit := congrArg (fun bits : UInt32 => bits.toBitVec[index]) cover
    simp at aboveBit restBit coverBit ⊢
    grind

/-- The ASCII letters; other bytes are kept. -/
def tolower (c : UInt8) : UInt8 := if 0x41 ≤ c ∧ c ≤ 0x5A then c + 0x20 else c

/-- `strncasecmp` says zero: the first `count` characters agree up to case. -/
def sameCaseless (left right : List UInt8) (count : Nat) : Bool :=
  (left.take count).map tolower = (right.take count).map tolower

/-- Assignment through a pointer to the first element that a search found. -/
def modifyFirst {Item : Type*} (found : Item → Bool) (change : Item → Item) :
    List Item → List Item
  | [] => []
  | item :: rest =>
      if found item then change item :: rest else item :: modifyFirst found change rest

theorem find_modify_first {Item : Type*} (found : Item → Bool) (change : Item → Item)
    (kept : ∀ item, found item = true → found (change item) = true) (items : List Item) :
    (modifyFirst found change items).find? found = (items.find? found).map change := by
  induction items with
  | nil => rfl
  | cons item rest induction =>
      unfold modifyFirst
      split_ifs with here
      · rw [List.find?_cons_of_pos (kept item here), List.find?_cons_of_pos here]
        rfl
      · rw [List.find?_cons_of_neg here, List.find?_cons_of_neg here, induction]

theorem modify_first_append {Item : Type*} {found : Item → Bool} {front : List Item}
    (none : front.find? found = none) (change : Item → Item) (rest : List Item) :
    modifyFirst found change (front ++ rest) = front ++ modifyFirst found change rest := by
  induction front with
  | nil => rfl
  | cons item front induction =>
      rw [List.find?_cons] at none
      split at none
      · cases none
      · next missed =>
          rw [List.cons_append, modifyFirst, missed, if_neg Bool.false_ne_true, induction none]
          rfl

/-- What lies behind the element that a search finds is not assigned to. -/
theorem modify_first_append_of_find {Item : Type*} {found : Item → Bool} {front : List Item}
    {item : Item} (here : front.find? found = some item) (change : Item → Item)
    (rest : List Item) :
    modifyFirst found change (front ++ rest) = modifyFirst found change front ++ rest := by
  induction front with
  | nil => cases here
  | cons head front induction =>
      rw [List.cons_append, modifyFirst, modifyFirst]
      split_ifs with this
      · rfl
      · rw [List.find?_cons_of_neg this] at here
        rw [induction here, List.cons_append]

theorem modify_first_split {Item : Type*} {found : Item → Bool} {items : List Item} {item : Item}
    (here : items.find? found = some item) :
    ∃ front back, items = front ++ item :: back ∧ (∀ other ∈ front, found other = false) ∧
      items.findIdx? found = some front.length ∧
      ∀ change, modifyFirst found change items = front ++ change item :: back := by
  induction items with
  | nil => cases here
  | cons head rest induction =>
      cases this : found head with
      | true =>
          rw [List.find?_cons_of_pos this, Option.some.injEq] at here
          subst here
          refine ⟨[], rest, rfl, fun _ absent => absurd absent List.not_mem_nil, ?_, ?_⟩
          · rw [List.findIdx?_cons, this]
            rfl
          · intro change
            rw [modifyFirst, if_pos this, List.nil_append]
      | false =>
          rw [List.find?_cons_of_neg (Bool.eq_false_iff.mp this)] at here
          rcases induction here with ⟨front, back, split, missed, index, changed⟩
          refine ⟨head :: front, back, by rw [split, List.cons_append], ?_, ?_, ?_⟩
          · intro other member
            rcases List.mem_cons.mp member with first | later
            · rw [first, this]
            · exact missed other later
          · rw [List.findIdx?_cons, this, if_neg Bool.false_ne_true, index]
            rfl
          · intro change
            rw [modifyFirst, if_neg (Bool.eq_false_iff.mp this), changed, List.cons_append]

theorem modify_first_eq_modify {Item : Type*} (found : Item → Bool) (change : Item → Item)
    (items : List Item) :
    modifyFirst found change items =
      match items.findIdx? found with
      | some index => items.modify index change
      | none => items := by
  induction items with
  | nil => rfl
  | cons item rest induction =>
      rw [modifyFirst, List.findIdx?_cons, induction]
      split_ifs with here
      · rfl
      · cases rest.findIdx? found <;> rfl

theorem char_int_bounds (sign : CharSign) :
    ∃ lowest : Int, ∀ c, lowest ≤ charInt sign c ∧ charInt sign c < lowest + 256 := by
  cases sign with
  | unsigned =>
      refine ⟨0, fun c => ?_⟩
      have bound : c.toNat < 256 := c.toNat_lt
      simp only [charInt]
      omega
  | signed =>
      refine ⟨-128, fun c => ?_⟩
      have bound : c.toNat < 256 := c.toNat_lt
      simp only [charInt]
      split <;> omega

end SmartHome.Library.CTypes
