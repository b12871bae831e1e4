import OpServer.BigEndianWords
import Mathlib.Data.Nat.ModEq
import Mathlib.Data.Nat.Prime.Basic
import Mathlib.Order.Interval.Finset.Nat
import Mathlib.Tactic.Ring

/-!
# Numbers that differ in a window of their bits

Modulo one less than a power of two, the powers of two are units.  A change of
neighbouring bits, at most as many as the power has, therefore changes the
residue, unless it turns all of them from 0 to 1 or from 1 to 0.
-/

namespace OpServer

namespace BitWindow

/-- The number that `width` bits from `shift` on make. -/
def window (shift width number : Nat) : Nat :=
  number / 2 ^ shift % 2 ^ width

/-- Two numbers have the same bits below and above a window. -/
def AgreeOutside (shift width first second : Nat) : Prop :=
  ∀ index, index < shift ∨ shift + width ≤ index → first.testBit index = second.testBit index

variable {shift width first second : Nat}

theorem testBit_window (number index : Nat) :
    (window shift width number).testBit index =
      (decide (index < width) && number.testBit (shift + index)) := by
  rw [window, Nat.testBit_mod_two_pow, Nat.testBit_div_two_pow, Nat.add_comm index shift]

theorem window_lt (number : Nat) : window shift width number < 2 ^ width :=
  Nat.mod_lt _ (Nat.two_pow_pos width)

/-- A number consists of what is above, in and below a window. -/
theorem eq_split (shift width number : Nat) :
    number = number / 2 ^ (shift + width) * 2 ^ (shift + width) +
      window shift width number * 2 ^ shift + number % 2 ^ shift := by
  have upper := Nat.div_add_mod (number / 2 ^ shift) (2 ^ width)
  have lower := Nat.div_add_mod number (2 ^ shift)
  rw [Nat.div_div_eq_div_mul, ← pow_add] at upper
  calc number = 2 ^ shift * (number / 2 ^ shift) + number % 2 ^ shift := lower.symm
    _ = 2 ^ shift * (2 ^ width * (number / 2 ^ (shift + width)) + number / 2 ^ shift % 2 ^ width) +
        number % 2 ^ shift := by rw [upper]
    _ = _ := by rw [window, pow_add]; ring

/-! ## Which numbers agree outside of a window -/

theorem AgreeOutside.high (agree : AgreeOutside shift width first second) :
    first / 2 ^ (shift + width) = second / 2 ^ (shift + width) := by
  apply Nat.eq_of_testBit_eq
  intro index
  rw [Nat.testBit_div_two_pow, Nat.testBit_div_two_pow]
  exact agree _ (.inr (Nat.le_add_left _ _))

theorem AgreeOutside.low (agree : AgreeOutside shift width first second) :
    first % 2 ^ shift = second % 2 ^ shift := by
  apply Nat.eq_of_testBit_eq
  intro index
  rw [Nat.testBit_mod_two_pow, Nat.testBit_mod_two_pow]
  by_cases below : index < shift
  · rw [agree index (.inl below)]
  · simp [below]

theorem AgreeOutside.eq_of_window (agree : AgreeOutside shift width first second)
    (same : window shift width first = window shift width second) : first = second := by
  rw [eq_split shift width first, eq_split shift width second, agree.high, agree.low, same]

/-! ## Residues modulo one less than a power of two -/

theorem coprime_two_pow (positive : 0 < width) : Nat.Coprime (2 ^ width - 1) (2 ^ shift) := by
  apply Nat.Coprime.pow_right
  rw [Nat.coprime_two_right]
  obtain ⟨less, rfl⟩ := Nat.exists_eq_add_one_of_ne_zero positive.ne'
  have power := Nat.two_pow_pos less
  exact ⟨2 ^ less - 1, by rw [pow_succ]; omega⟩

theorem AgreeOutside.modEq_iff (agree : AgreeOutside shift width first second)
    (positive : 0 < width) :
    first ≡ second [MOD 2 ^ width - 1] ↔
      window shift width first ≡ window shift width second [MOD 2 ^ width - 1] := by
  have split := eq_split shift width
  constructor
  · intro same
    rw [split first, split second, agree.high, agree.low] at same
    have scaled := (same.add_right_cancel' _).add_left_cancel' _
    exact Nat.ModEq.cancel_right_of_coprime (coprime_two_pow positive) scaled
  · intro same
    rw [split first, split second, agree.high, agree.low]
    exact ((same.mul_right _).add_left _).add_right _

/-- Among the numbers below a power of two, only zero and the largest one have
the same residue. -/
theorem modEq_iff_of_lt (firstLt : first < 2 ^ width) (secondLt : second < 2 ^ width) :
    first ≡ second [MOD 2 ^ width - 1] ↔
      first = second ∨ first = 0 ∧ second = 2 ^ width - 1 ∨
        first = 2 ^ width - 1 ∧ second = 0 := by
  generalize limitEq : 2 ^ width - 1 = limit
  rcases Nat.lt_or_eq_of_le (show first ≤ limit by omega) with firstBelow | rfl
  · rcases Nat.lt_or_eq_of_le (show second ≤ limit by omega) with secondBelow | rfl
    · rw [Nat.ModEq, Nat.mod_eq_of_lt firstBelow, Nat.mod_eq_of_lt secondBelow]
      omega
    · rw [Nat.ModEq, Nat.mod_eq_of_lt firstBelow, Nat.mod_self]
      omega
  · rcases Nat.lt_or_eq_of_le (show second ≤ first by omega) with secondBelow | rfl
    · rw [Nat.ModEq, Nat.mod_eq_of_lt secondBelow, Nat.mod_self]
      omega
    · simp [Nat.ModEq]

theorem window_eq_zero_iff (number : Nat) :
    window shift width number = 0 ↔ ∀ index < width, number.testBit (shift + index) = false := by
  constructor
  · intro zero index inside
    have bit := @testBit_window shift width number index
    rw [zero, Nat.zero_testBit] at bit
    simpa [inside] using bit.symm
  · intro clear
    apply Nat.eq_of_testBit_eq
    intro index
    rw [testBit_window, Nat.zero_testBit]
    by_cases inside : index < width
    · simp [clear index inside]
    · simp [inside]

theorem window_eq_full_iff (number : Nat) :
    window shift width number = 2 ^ width - 1 ↔
      ∀ index < width, number.testBit (shift + index) = true := by
  constructor
  · intro full index inside
    have bit := @testBit_window shift width number index
    rw [full, Nat.testBit_two_pow_sub_one] at bit
    simpa [inside] using bit.symm
  · intro set
    apply Nat.eq_of_testBit_eq
    intro index
    rw [testBit_window, Nat.testBit_two_pow_sub_one]
    by_cases inside : index < width
    · simp [set index inside]
    · simp [inside]

/-- A change within a window keeps the residue if it turns every bit of the window
from one value to the other. -/
theorem AgreeOutside.modEq_iff_flipped (agree : AgreeOutside shift width first second)
    (positive : 0 < width) (different : first ≠ second) :
    first ≡ second [MOD 2 ^ width - 1] ↔
      ∃ bit, ∀ index < width, first.testBit (shift + index) = bit ∧
        second.testBit (shift + index) = !bit := by
  have changed : window shift width first ≠ window shift width second :=
    fun same => different (agree.eq_of_window same)
  rw [agree.modEq_iff positive, modEq_iff_of_lt (window_lt first) (window_lt second),
    or_iff_right changed, window_eq_zero_iff, window_eq_zero_iff, window_eq_full_iff,
    window_eq_full_iff]
  constructor
  · rintro (⟨clear, set⟩ | ⟨set, clear⟩)
    · exact ⟨false, fun index inside => ⟨clear index inside, set index inside⟩⟩
    · exact ⟨true, fun index inside => ⟨set index inside, clear index inside⟩⟩
  · rintro ⟨bit, flipped⟩
    cases bit with
    | false => exact .inl ⟨fun index inside => (flipped index inside).1,
        fun index inside => (flipped index inside).2⟩
    | true => exact .inr ⟨fun index inside => (flipped index inside).1,
        fun index inside => (flipped index inside).2⟩

end BitWindow

/-! ## Bits of byte strings -/

namespace BigEndian

/-- A bit of a byte string, the most significant bit of each byte first. -/
def bitAt (data : List Byte) (position : Nat) : Bool :=
  (data.getD (position / 8) 0).getMsbD (position % 8)

/-- The bits of one byte to flip. -/
def flipMask (flips : Finset Nat) (index : Nat) : Byte :=
  BitVec.ofBoolListBE ((List.range 8).map fun bit => decide (8 * index + bit ∈ flips))

/-- A byte string with the bits at some positions flipped. -/
def flipBits (flips : Finset Nat) (data : List Byte) : List Byte :=
  data.mapIdx fun index byte => byte ^^^ flipMask flips index

theorem getMsbD_flipMask (flips : Finset Nat) (index bit : Nat) (inside : bit < 8) :
    (flipMask flips index).getMsbD bit = decide (8 * index + bit ∈ flips) := by
  refine BitVec.getMsbD_ofBoolListBE.trans ?_
  simp [List.getD_eq_getElem?_getD, inside]

@[simp]
theorem flipBits_length (flips : Finset Nat) (data : List Byte) :
    (flipBits flips data).length = data.length := by
  simp [flipBits]

theorem bitAt_flipBits (flips : Finset Nat) (data : List Byte) {position : Nat}
    (inside : position < 8 * data.length) :
    bitAt (flipBits flips data) position =
      (bitAt data position ^^ decide (position ∈ flips)) := by
  have byteInside : position / 8 < data.length := by omega
  have whole : 8 * (position / 8) + position % 8 = position := Nat.div_add_mod position 8
  rw [bitAt, bitAt, List.getD_eq_getElem _ _ byteInside,
    List.getD_eq_getElem _ _ (by rwa [flipBits_length])]
  simp only [flipBits, List.getElem_mapIdx, BitVec.getMsbD_xor,
    getMsbD_flipMask flips _ _ (Nat.mod_lt position (by decide : 8 > 0)), whole]

example : flipBits (Finset.Ico 4 12) [0xF0, 0x0F] = [0xFF, 0xFF] := by decide

theorem bitAt_cons_of_lt (byte : Byte) (data : List Byte) {position : Nat}
    (first : position < 8) : bitAt (byte :: data) position = byte.getMsbD position := by
  rw [bitAt, Nat.div_eq_of_lt first, Nat.mod_eq_of_lt first, List.getD_cons_zero]

theorem bitAt_cons_add (byte : Byte) (data : List Byte) (position : Nat) :
    bitAt (byte :: data) (position + 8) = bitAt data position := by
  rw [bitAt, Nat.add_div_right position (by decide), Nat.add_mod_right, List.getD_cons_succ, bitAt]

theorem pow_256 (count : Nat) : 256 ^ count = 2 ^ (8 * count) :=
  (pow_mul 2 8 count).symm

theorem value_lt (data : List Byte) : value data < 2 ^ (8 * data.length) := by
  induction data with
  | nil => simp [value]
  | cons byte data ih =>
      rw [value, List.length_cons, pow_256]
      calc byte.toNat * 2 ^ (8 * data.length) + value data
          < byte.toNat * 2 ^ (8 * data.length) + 2 ^ (8 * data.length) := Nat.add_lt_add_left ih _
        _ = (byte.toNat + 1) * 2 ^ (8 * data.length) := (Nat.succ_mul _ _).symm
        _ ≤ 2 ^ 8 * 2 ^ (8 * data.length) := Nat.mul_le_mul_right _ byte.isLt
        _ = 2 ^ (8 * (data.length + 1)) := by rw [← pow_add, Nat.mul_succ, Nat.add_comm]

/-- The bits of a byte string are those of its value, from the top. -/
theorem testBit_value (data : List Byte) {index : Nat} (inside : index < 8 * data.length) :
    (value data).testBit index = bitAt data (8 * data.length - 1 - index) := by
  induction data with
  | nil => simp at inside
  | cons byte data ih =>
      rw [List.length_cons] at inside ⊢
      rw [value, pow_256, Nat.mul_comm byte.toNat, Nat.testBit_two_pow_mul_add _ (value_lt data)]
      split
      · rename_i below
        have position : 8 * (data.length + 1) - 1 - index = 8 * data.length - 1 - index + 8 := by
          omega
        rw [ih below, position, bitAt_cons_add]
      · rename_i above
        have position : 8 * (data.length + 1) - 1 - index = 8 - 1 - (index - 8 * data.length) := by
          omega
        have first : index - 8 * data.length < 8 := by omega
        rw [position, bitAt_cons_of_lt byte data (by omega), BitVec.getMsbD,
          decide_eq_true (by omega : 8 - 1 - (index - 8 * data.length) < 8), Bool.true_and,
          BitVec.getLsbD]
        congr 1
        omega

theorem testBit_value_of_le (data : List Byte) {index : Nat} (above : 8 * data.length ≤ index) :
    (value data).testBit index = false :=
  Nat.testBit_lt_two_pow ((value_lt data).trans_le (Nat.pow_le_pow_right (by decide) above))

/-! ## Flips within eight neighbouring bits -/

section Flips

variable {flips : Finset Nat} {data : List Byte} {start : Nat}

theorem agreeOutside_flipBits (within : flips ⊆ Finset.Ico start (start + 8))
    (inside : start + 8 ≤ 8 * data.length) :
    BitWindow.AgreeOutside (8 * data.length - (start + 8)) 8 (value data)
      (value (flipBits flips data)) := by
  intro index outside
  have length := flipBits_length flips data
  by_cases above : 8 * data.length ≤ index
  · rw [testBit_value_of_le data above, testBit_value_of_le _ (by rwa [length])]
  · have unflipped : 8 * data.length - 1 - index ∉ flips := by
      intro flipped
      have bounds := Finset.mem_Ico.mp (within flipped)
      omega
    rw [testBit_value data (by omega), testBit_value _ (by rw [length]; omega), length,
      bitAt_flipBits _ _ (by omega), decide_eq_false unflipped, Bool.xor_false]

theorem value_flipBits_ne (nonempty : flips.Nonempty)
    (within : ∀ position ∈ flips, position < 8 * data.length) :
    value data ≠ value (flipBits flips data) := by
  intro same
  obtain ⟨position, flipped⟩ := nonempty
  have inside := within position flipped
  have length := flipBits_length flips data
  have bit := congrArg (fun number => number.testBit (8 * data.length - 1 - position)) same
  have back : 8 * data.length - 1 - (8 * data.length - 1 - position) = position := by omega
  simp only [testBit_value data (by omega : 8 * data.length - 1 - position < 8 * data.length),
    testBit_value (flipBits flips data) (by rw [length]; omega :
      8 * data.length - 1 - position < 8 * (flipBits flips data).length), length, back,
    bitAt_flipBits _ _ inside, decide_eq_true flipped] at bit
  simp at bit

theorem testBit_window_flipBits (inside : start + 8 ≤ 8 * data.length) {index : Nat}
    (low : index < 8) :
    (value data).testBit (8 * data.length - (start + 8) + index) =
        bitAt data (start + 7 - index) ∧
      (value (flipBits flips data)).testBit (8 * data.length - (start + 8) + index) =
        (bitAt data (start + 7 - index) ^^ decide (start + 7 - index ∈ flips)) := by
  have length := flipBits_length flips data
  have position : 8 * data.length - 1 - (8 * data.length - (start + 8) + index) =
      start + 7 - index := by omega
  constructor
  · rw [testBit_value data (by omega), position]
  · rw [testBit_value _ (by rw [length]; omega), length, position, bitAt_flipBits _ _ (by omega)]

/-- Flips within eight neighbouring bits keep the value modulo 255 only if they
flip all of them, and these were all equal. -/
theorem value_flipBits_modEq_iff (nonempty : flips.Nonempty)
    (within : flips ⊆ Finset.Ico start (start + 8)) (inside : start + 8 ≤ 8 * data.length) :
    value data ≡ value (flipBits flips data) [MOD 255] ↔
      flips = Finset.Ico start (start + 8) ∧
        ∃ bit, ∀ position ∈ Finset.Ico start (start + 8), bitAt data position = bit := by
  have different := value_flipBits_ne nonempty fun position flipped =>
    (Finset.mem_Ico.mp (within flipped)).2.trans_le inside
  refine ((agreeOutside_flipBits within inside).modEq_iff_flipped (by decide) different).trans ?_
  constructor
  · rintro ⟨bit, flipped⟩
    have both (position : Nat) (member : position ∈ Finset.Ico start (start + 8)) :
        bitAt data position = bit ∧ (bitAt data position ^^ decide (position ∈ flips)) = !bit := by
      have bounds := Finset.mem_Ico.mp member
      have bits := @testBit_window_flipBits flips data start inside (start + 7 - position) (by omega)
      rw [show start + 7 - (start + 7 - position) = position by omega] at bits
      rw [← bits.2, ← bits.1]
      exact flipped _ (by omega)
    refine ⟨within.antisymm fun position member => ?_, bit, fun position member => ?_⟩
    · obtain ⟨before, after⟩ := both position member
      by_contra kept
      rw [before, decide_eq_false kept] at after
      simp at after
    · exact (both position member).1
  · rintro ⟨all, bit, equal⟩
    refine ⟨bit, fun index low => ?_⟩
    have member : start + 7 - index ∈ Finset.Ico start (start + 8) :=
      Finset.mem_Ico.mpr (by omega)
    have bits := @testBit_window_flipBits flips data start inside index low
    rw [equal _ member, decide_eq_true (by rwa [all]), Bool.xor_true] at bits
    exact bits

end Flips

end BigEndian

end OpServer
