import Mathlib.Tactic.Ring
import Mathlib.Data.Nat.Bitwise

/-!
# Big-endian bytes of fixed-width words

A wire format that writes the most significant byte first is described twice
here.  `value` and `encode` relate byte strings to natural numbers, at any
width.  `lane` and `setLane` read and overwrite eight neighbouring bits of a
machine word, which is how code with shifts and masks does the same work.  The
last section connects the two descriptions.
-/

namespace OpServer

/-- One octet. -/
abbrev Byte := BitVec 8

namespace BigEndian

/-- The natural number whose base-256 digits are the given bytes, most
significant first. -/
def value : List Byte → Nat
  | [] => 0
  | byte :: bytes => byte.toNat * 256 ^ bytes.length + value bytes

/-- The low `count` base-256 digits of a natural number, most significant
first. -/
def encode : Nat → Nat → List Byte
  | 0, _ => []
  | count + 1, number =>
      BitVec.ofNat 8 (number / 256 ^ count) :: encode count number

@[simp]
theorem encode_length (count number : Nat) :
    (encode count number).length = count := by
  induction count with
  | zero => rfl
  | succ count ih => simp [encode, ih]

/-- Reading back an encoding keeps exactly the digits that fit. -/
theorem value_encode (count number : Nat) :
    value (encode count number) = number % 256 ^ count := by
  induction count with
  | zero => simp [encode, value, Nat.mod_one]
  | succ count ih =>
      have split : number % 256 ^ (count + 1) =
          number % 256 ^ count + 256 ^ count * (number / 256 ^ count % 256) := by
        rw [pow_succ, Nat.mod_mul]
      rw [encode, value, encode_length, ih, split, BitVec.toNat_ofNat,
        show (2 : Nat) ^ 8 = 256 from rfl]
      ring

/-! ## Byte lanes of machine words -/

/-- The eight bits of a word that start at bit `shift`. -/
def lane {width : Nat} (word : BitVec width) (shift : Nat) : Byte :=
  word.extractLsb' shift 8

theorem getLsbD_lane {width : Nat} (word : BitVec width) (shift index : Nat) :
    (lane word shift).getLsbD index =
      (decide (index < 8) && word.getLsbD (shift + index)) := by
  simp [lane]

theorem lane_or {width : Nat} (first second : BitVec width) (shift : Nat) :
    lane (first ||| second) shift = lane first shift ||| lane second shift := by
  apply BitVec.eq_of_getLsbD_eq
  intro index low
  simp only [getLsbD_lane, BitVec.getLsbD_or, low, decide_true, Bool.true_and]

theorem lane_and {width : Nat} (first second : BitVec width) (shift : Nat) :
    lane (first &&& second) shift = lane first shift &&& lane second shift := by
  apply BitVec.eq_of_getLsbD_eq
  intro index low
  simp only [getLsbD_lane, BitVec.getLsbD_and, low, decide_true, Bool.true_and]

theorem lane_setWidth {width : Nat} (word : BitVec width) (narrow shift : Nat)
    (kept : shift + 8 ≤ narrow) :
    lane (word.setWidth narrow) shift = lane word shift := by
  apply BitVec.eq_of_getLsbD_eq
  intro index low
  rw [getLsbD_lane, getLsbD_lane, BitVec.getLsbD_setWidth]
  simp [show shift + index < narrow by omega]

theorem lane_signExtend {width : Nat} (word : BitVec width) (wide shift : Nat)
    (present : shift + 8 ≤ width) (wider : width ≤ wide) :
    lane (word.signExtend wide) shift = lane word shift := by
  apply BitVec.eq_of_getLsbD_eq
  intro index low
  rw [getLsbD_lane, getLsbD_lane, BitVec.getLsbD_signExtend]
  simp [show shift + index < width by omega, show shift + index < wide by omega]

theorem lane_shifted_byte {width : Nat} (byte : Byte) (shift : Nat)
    (fits : shift + 8 ≤ width) :
    lane (byte.setWidth width <<< shift) shift = byte := by
  apply BitVec.eq_of_getLsbD_eq
  intro index low
  rw [getLsbD_lane, BitVec.getLsbD_shiftLeft, BitVec.getLsbD_setWidth]
  simp [low, show shift + index < width by omega, show index < width by omega]

theorem lane_shifted_byte_of_disjoint {width : Nat} (byte : Byte)
    (shift other : Nat) (disjoint : other + 8 ≤ shift ∨ shift + 8 ≤ other) :
    lane (byte.setWidth width <<< shift) other = 0#8 := by
  apply BitVec.eq_of_getLsbD_eq
  intro index low
  rw [getLsbD_lane, BitVec.getLsbD_shiftLeft, BitVec.getLsbD_setWidth]
  by_cases below : other + index < shift
  · simp [below]
  · simp [BitVec.getLsbD_of_ge byte (other + index - shift) (by omega)]

theorem setWidth_eq_lane_zero {width : Nat} (word : BitVec width) :
    word.setWidth 8 = lane word 0 := by
  apply BitVec.eq_of_getLsbD_eq
  intro index low
  simp only [getLsbD_lane, BitVec.getLsbD_setWidth, Nat.zero_add]

theorem lane_sshiftRight_zero {width : Nat} (word : BitVec width) (shift : Nat)
    (fits : shift + 8 ≤ width) :
    lane (word.sshiftRight shift) 0 = lane word shift := by
  apply BitVec.eq_of_getLsbD_eq
  intro index low
  rw [getLsbD_lane, getLsbD_lane, BitVec.getLsbD_sshiftRight, Nat.zero_add]
  simp [show ¬width ≤ index by omega, show shift + index < width by omega]

theorem lane_ofNat (width number shift : Nat) (fits : shift + 8 ≤ width) :
    lane (BitVec.ofNat width number) shift = BitVec.ofNat 8 (number / 2 ^ shift) := by
  apply BitVec.eq_of_getLsbD_eq
  intro index low
  rw [getLsbD_lane, BitVec.getLsbD_ofNat, BitVec.getLsbD_ofNat, Nat.testBit_div_two_pow,
    Nat.add_comm index shift]
  simp [show shift + index < width by omega]

theorem and_255 (byte : Byte) : byte &&& 255#8 = byte :=
  BitVec.and_allOnes

theorem or_255 (byte : Byte) : 255#8 ||| byte = 255#8 :=
  BitVec.allOnes_or

theorem lane_maskedWrite_same {width : Nat} (word mask : BitVec width) (byte : Byte)
    (shift : Nat) (clear : lane mask shift = 0#8) (fits : shift + 8 ≤ width) :
    lane ((word &&& mask) ||| (byte.setWidth width <<< shift)) shift = byte := by
  rw [lane_or, lane_and, clear, lane_shifted_byte _ _ fits]
  simp

theorem lane_maskedWrite_of_disjoint {width : Nat} (word mask : BitVec width)
    (byte : Byte) (shift other : Nat) (kept : lane mask other = 255#8)
    (disjoint : other + 8 ≤ shift ∨ shift + 8 ≤ other) :
    lane ((word &&& mask) ||| (byte.setWidth width <<< shift)) other =
      lane word other := by
  rw [lane_or, lane_and, kept, lane_shifted_byte_of_disjoint _ _ _ disjoint, and_255]
  exact BitVec.or_zero

/-- A word is determined by its byte lanes. -/
theorem eq_of_lanes (count : Nat) (first second : BitVec (8 * count))
    (lanes : ∀ index < count, lane first (8 * index) = lane second (8 * index)) :
    first = second := by
  apply BitVec.eq_of_getLsbD_eq
  intro bit inside
  have byteEq := congrArg (fun byte => byte.getLsbD (bit % 8))
    (lanes (bit / 8) (by omega))
  simpa only [getLsbD_lane, show bit % 8 < 8 by omega, decide_true, Bool.true_and,
    Nat.div_add_mod] using byteEq

theorem toNat_lane {width : Nat} (word : BitVec width) (index : Nat) :
    (lane word (8 * index)).toNat = word.toNat / 256 ^ index % 256 := by
  rw [lane, BitVec.extractLsb'_toNat, Nat.shiftRight_eq_div_pow, pow_mul,
    show (2 : Nat) ^ 8 = 256 from rfl]

theorem ofNat_digit_eq_lane {width : Nat} (word : BitVec width) (index : Nat) :
    BitVec.ofNat 8 (word.toNat / 256 ^ index) = lane word (8 * index) := by
  apply BitVec.eq_of_toNat_eq
  rw [BitVec.toNat_ofNat, toNat_lane]

theorem encode_two_eq_lanes (word : BitVec 16) :
    encode 2 word.toNat = [lane word 8, lane word 0] := by
  simp only [encode, ofNat_digit_eq_lane]

theorem encode_four_eq_lanes (word : BitVec 32) :
    encode 4 word.toNat = [lane word 24, lane word 16, lane word 8, lane word 0] := by
  simp only [encode, ofNat_digit_eq_lane]

end BigEndian

end OpServer
