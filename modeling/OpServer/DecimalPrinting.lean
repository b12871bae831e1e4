import OpServer.DecimalNumerals
import Mathlib.Data.Nat.Digits.Lemmas

/-!
# Printing decimal numbers

`%d` of ISO C: a minus sign where it is needed and the digits of the magnitude,
without leading zeros.  The text is a numeral for the number that is printed.
-/

namespace OpServer

namespace Decimal

def digitOf (digit : Nat) : Byte :=
  BitVec.ofNat 8 (48 + digit)

/-- The digits of a natural number. -/
def digitText (number : Nat) : List Byte :=
  if number = 0 then [digitOf 0] else (Nat.digits 10 number).reverse.map digitOf

/-- The text that `%d` prints. -/
def printed (number : Int) : List Byte :=
  if number < 0 then 45 :: digitText number.natAbs else digitText number.natAbs

theorem toNat_digitOf {digit : Nat} (small : digit < 10) : (digitOf digit).toNat = 48 + digit := by
  rw [digitOf, BitVec.toNat_ofNat, Nat.mod_eq_of_lt (by omega)]

theorem isDigit_digitOf {digit : Nat} (small : digit < 10) : isDigit (digitOf digit) := by
  rw [isDigit, toNat_digitOf small]
  exact decide_eq_true (by omega)

theorem digitValue_digitOf {digit : Nat} (small : digit < 10) :
    digitValue (digitOf digit) = digit := by
  rw [digitValue, toNat_digitOf small, Nat.add_sub_cancel_left]

theorem digitText_isDigit (number : Nat) : ∀ character ∈ digitText number, isDigit character := by
  intro character member
  unfold digitText at member
  split at member
  · cases List.mem_singleton.mp member
    exact isDigit_digitOf (by decide)
  · obtain ⟨digit, inside, rfl⟩ := List.mem_map.mp member
    exact isDigit_digitOf (Nat.digits_lt_base (by decide) (List.mem_reverse.mp inside))

theorem digitText_ne_nil (number : Nat) : digitText number ≠ [] := by
  unfold digitText
  split
  · exact List.cons_ne_nil _ _
  · rename_i positive
    simpa using Nat.digits_ne_nil_iff_ne_zero.mpr positive

/-- Read from the first digit on, the digits make up the number. -/
theorem foldl_digits {digits : List Nat} (small : ∀ digit ∈ digits, digit < 10) :
    (digits.reverse.map digitOf).foldl
      (fun number character => 10 * number + digitValue character) 0 = Nat.ofDigits 10 digits := by
  induction digits with
  | nil => rfl
  | cons digit digits ih =>
      obtain ⟨first, later⟩ := List.forall_mem_cons.mp small
      rw [List.reverse_cons, List.map_append, List.foldl_append, ih later, Nat.ofDigits_cons]
      simp only [List.map_cons, List.map_nil, List.foldl_cons, List.foldl_nil,
        digitValue_digitOf first]
      exact Nat.add_comm _ _

theorem foldl_digitText (number : Nat) :
    (digitText number).foldl (fun number character => 10 * number + digitValue character) 0 =
      number := by
  unfold digitText
  split
  · rename_i zero
    rw [zero]
    rfl
  · rw [foldl_digits fun digit member => Nat.digits_lt_base (by decide) member,
      Nat.ofDigits_digits]

/-- The numeral of a printed number. -/
def printedNumeral (number : Int) : Numeral where
  spaces := []
  sign := if number < 0 then .minus else .none
  digits := digitText number.natAbs
  spaces_isSpace := fun _ impossible => (by cases impossible)
  digits_isDigit := digitText_isDigit _
  digits_ne_nil := digitText_ne_nil _

theorem denotes_printed (number : Int) : Denotes (printed number) number := by
  refine ⟨printedNumeral number, ?_, ?_⟩
  · by_cases negative : number < 0
    · simp [Numeral.text, printedNumeral, printed, negative, Sign.text]
    · simp [Numeral.text, printedNumeral, printed, negative, Sign.text]
  · have magnitude : (printedNumeral number).magnitude = number.natAbs := foldl_digitText _
    have sign : (printedNumeral number).sign = if number < 0 then .minus else .none := rfl
    rw [Numeral.number, magnitude, sign]
    split
    · change -(number.natAbs : Int) = number
      omega
    · change (number.natAbs : Int) = number
      omega

theorem zero_notMem_printed (number : Int) : 0 ∉ printed number := by
  have digits : 0 ∉ digitText number.natAbs := by
    intro member
    exact absurd (digitText_isDigit _ _ member) (by decide)
  unfold printed
  split
  · intro member
    rcases List.mem_cons.mp member with minus | inside
    · cases minus
    · exact digits inside
  · exact digits

/-! ## Lengths -/

theorem length_digitText_le_iff {number size : Nat} (positive : 0 < size) :
    (digitText number).length ≤ size ↔ number < 10 ^ size := by
  unfold digitText
  split
  · rename_i zero
    rw [zero]
    exact iff_of_true positive (Nat.pow_pos (by decide))
  · rw [List.length_map, List.length_reverse]
    exact Nat.digits_length_le_iff (by decide) number

theorem length_printed_le_iff {number : Int} {size : Nat} (positive : 0 < size) :
    (printed number).length ≤ size + 1 ↔
      -(10 ^ size : Int) < number ∧ number < (10 ^ (size + 1) : Int) := by
  have power : (0 : Int) < 10 ^ size := by positivity
  have powerNext : (10 : Int) ^ (size + 1) = 10 * 10 ^ size := by ring
  have cast (exponent : Nat) : ((10 ^ exponent : Nat) : Int) = 10 ^ exponent := by push_cast; rfl
  unfold printed
  split
  · rename_i negative
    rw [List.length_cons, Nat.add_le_add_iff_right, length_digitText_le_iff positive,
      ← Int.ofNat_lt, cast]
    omega
  · rename_i nonnegative
    rw [length_digitText_le_iff (Nat.succ_pos size), ← Int.ofNat_lt, cast]
    omega

end Decimal

end OpServer
