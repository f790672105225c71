import Mathlib.Data.Int.Notation
import Mathlib.Data.List.TakeWhile

/-!
# Decimal text

Integers as `printf` writes them with `%d` and as a reader of number literals takes
them: an optional minus sign and decimal digits. `strtoul` reads the digits at the front
of a string, and what it cannot hold it replaces by the largest number.
-/

namespace SmartHome.Library.Decimal

set_option autoImplicit false

def printDecimal : Int → List Char
  | .ofNat value => Nat.toDigits 10 value
  | .negSucc value => '-' :: Nat.toDigits 10 (value + 1)

def readDecimal : List Char → Int
  | '-' :: digits => -(Nat.ofDigitChars 10 digits 0 : Int)
  | digits => Nat.ofDigitChars 10 digits 0

theorem to_digits_head (value : Nat) : ∀ digits, Nat.toDigits 10 value ≠ '-' :: digits := by
  intro digits same
  have member : '-' ∈ Nat.toDigits 10 value := same ▸ List.mem_cons_self
  have digit := Nat.isDigit_of_mem_toDigits (by decide) (by decide) member
  exact absurd digit (by decide)

/-- A minus sign and digits, and so characters of the lower half of a byte. -/
theorem print_decimal_char {value : Int} {c : Char} (member : c ∈ printDecimal value) :
    45 ≤ c.toNat ∧ c.toNat ≤ 57 := by
  have digits : ∀ value : Nat, c ∈ Nat.toDigits 10 value → 45 ≤ c.toNat ∧ c.toNat ≤ 57 := by
    intro value inside
    have digit := Nat.isDigit_of_mem_toDigits (by decide) (by decide) inside
    simp only [Char.isDigit, Bool.and_eq_true, decide_eq_true_eq, ge_iff_le,
      UInt32.le_iff_toNat_le] at digit
    exact ⟨Nat.le_trans (by decide) digit.1, digit.2⟩
  cases value with
  | ofNat value => exact digits value member
  | negSucc value =>
      rcases List.mem_cons.mp member with rfl | inside
      · decide
      · exact digits _ inside

theorem read_print_decimal (value : Int) : readDecimal (printDecimal value) = value := by
  cases value with
  | ofNat value =>
      unfold printDecimal readDecimal
      split
      · rename_i digits same
        exact absurd same (to_digits_head value _)
      · rw [Nat.ofDigitChars_ten_toDigits]
        rfl
  | negSucc value =>
      have digits : readDecimal (printDecimal (.negSucc value)) =
          -(Nat.ofDigitChars 10 (Nat.toDigits 10 (value + 1)) 0 : Int) := rfl
      rw [digits, Nat.ofDigitChars_ten_toDigits]
      rfl

inductive LongWidth
  | ilp32
  | lp64
  deriving DecidableEq

def ulongMax : LongWidth → Nat
  | .ilp32 => 0xFFFFFFFF
  | .lp64 => 0xFFFFFFFFFFFFFFFF

/-- `isspace` and `isdigit` of the C locale. -/
def isSpace (c : UInt8) : Bool := c = 0x20 ∨ (0x09 ≤ c ∧ c ≤ 0x0D)

def isDigit (c : UInt8) : Bool := 0x30 ≤ c ∧ c ≤ 0x39

def digitsValue (digits : List UInt8) : Nat :=
  Nat.ofDigitChars 10 (digits.map Char.ofUInt8) 0

/-- `strtoul(text, NULL, 10)`. A minus sign negates within `unsigned long`. -/
def strtoul (width : LongWidth) (text : List UInt8) : Nat :=
  let value (digits : List UInt8) := digitsValue (digits.takeWhile isDigit)
  match text.dropWhile isSpace with
  | 0x2D :: digits =>
      if ulongMax width < value digits then ulongMax width
      else (ulongMax width + 1 - value digits) % (ulongMax width + 1)
  | 0x2B :: digits => min (value digits) (ulongMax width)
  | digits => min (value digits) (ulongMax width)

theorem strtoul_le (width : LongWidth) (text : List UInt8) :
    strtoul width text ≤ ulongMax width := by
  unfold strtoul
  dsimp only
  split
  · split_ifs
    · exact Nat.le_refl _
    · exact Nat.le_of_lt_succ (Nat.mod_lt _ (Nat.succ_pos _))
  · exact Nat.min_le_right _ _
  · exact Nat.min_le_right _ _

theorem strtoul_digits {width : LongWidth} {digits tail : List UInt8} (nonempty : digits ≠ [])
    (all : ∀ c ∈ digits, isDigit c) (ends : ∀ c ∈ tail.head?, isDigit c = false)
    (fits : digitsValue digits ≤ ulongMax width) :
    strtoul width (digits ++ tail) = digitsValue digits := by
  have taken : (digits ++ tail).takeWhile isDigit = digits := by
    rw [List.takeWhile_append_of_pos all]
    cases tail with
    | nil => exact List.append_nil _
    | cons c rest =>
        rw [List.takeWhile_cons_of_neg (by rw [ends c rfl]; exact Bool.false_ne_true),
          List.append_nil]
  rcases List.exists_cons_of_ne_nil nonempty with ⟨first, rest, rfl⟩
  have digit := all first List.mem_cons_self
  simp only [isDigit, Bool.decide_and, Bool.and_eq_true, decide_eq_true_eq, UInt8.le_iff_toNat_le,
    UInt8.reduceToNat] at digit
  have nospace : ¬ isSpace first = true := by
    simp only [isSpace, Bool.decide_or, Bool.decide_and, Bool.or_eq_true, Bool.and_eq_true,
      decide_eq_true_eq, UInt8.le_iff_toNat_le, UInt8.reduceToNat, ← UInt8.toNat_inj]
    omega
  unfold strtoul
  rw [List.cons_append, List.dropWhile_cons_of_neg nospace, ← List.cons_append]
  dsimp only
  split
  · rename_i same
    have minus : first = 0x2D := (List.cons.inj same).1
    rw [minus] at digit
    exact absurd digit.1 (by decide)
  · rename_i same
    have plus : first = 0x2B := (List.cons.inj same).1
    rw [plus] at digit
    exact absurd digit.1 (by decide)
  · rw [taken, Nat.min_eq_left fits]

end SmartHome.Library.Decimal
