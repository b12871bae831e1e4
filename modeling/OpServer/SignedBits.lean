import Mathlib.Data.Int.Bitwise

/-!
# Bitwise operators and shifts on two's complement words

A signed machine word and the integer it denotes have the same bits, the
integer's being continued forever by the sign.  So the bitwise operators on
words agree with Mathlib's operators on integers, and the additive operators
and shifts agree with arithmetic as far as the word is wide enough.
-/

namespace OpServer

namespace SignedBits

theorem int_eq_of_testBit_eq {first second : Int}
    (bits : ∀ index, first.testBit index = second.testBit index) :
    first = second := by
  -- A natural number has a clear bit beyond its size, a negative one a set bit.
  have apart (positive negative : Nat)
      (same : ∀ index, positive.testBit index = !negative.testBit index) : False := by
    obtain ⟨bound, large⟩ : ∃ bound, positive < 2 ^ bound ∧ negative < 2 ^ bound :=
      ⟨positive + negative, lt_of_le_of_lt (by omega) Nat.lt_two_pow_self,
        lt_of_le_of_lt (by omega) Nat.lt_two_pow_self⟩
    have clash := same bound
    rw [Nat.testBit_eq_false_of_lt large.1, Nat.testBit_eq_false_of_lt large.2] at clash
    exact Bool.noConfusion clash
  cases first with
  | ofNat first =>
      cases second with
      | ofNat second => exact congrArg Int.ofNat (Nat.eq_of_testBit_eq bits)
      | negSucc second => exact (apart first second bits).elim
  | negSucc first =>
      cases second with
      | ofNat second =>
          exact (apart second first fun index => (bits index).symm).elim
      | negSucc second =>
          refine congrArg Int.negSucc (Nat.eq_of_testBit_eq fun index => ?_)
          simpa [Int.testBit] using bits index

/-- The bits of the integer a word denotes: the word's own, then its sign. -/
theorem testBit_toInt {width : Nat} (word : BitVec width) (index : Nat) :
    word.toInt.testBit index =
      if index < width then word.getLsbD index else word.msb := by
  rw [BitVec.toInt_eq_msb_cond]
  cases sign : word.msb with
  | false =>
      simp only [Bool.false_eq_true, if_false]
      change word.toNat.testBit index = _
      split
      · rfl
      · exact Nat.testBit_eq_false_of_lt
          (lt_of_lt_of_le word.isLt (Nat.pow_le_pow_right (by decide) (by omega)))
  | true =>
      have small := word.isLt
      have negative : (word.toNat : Int) - (2 ^ width : Nat) =
          Int.negSucc (2 ^ width - (word.toNat + 1)) := by
        rw [Int.negSucc_eq]
        omega
      simp only [if_true]
      rw [negative]
      change (!(2 ^ width - (word.toNat + 1)).testBit index) = _
      rw [Nat.testBit_two_pow_sub_succ small]
      split
      · simp [*, BitVec.getLsbD]
      · simp [*]

theorem toInt_or_eq_lor {width : Nat} (first second : BitVec width) :
    (first ||| second).toInt = Int.lor first.toInt second.toInt := by
  apply int_eq_of_testBit_eq
  intro index
  rw [Int.testBit_lor, testBit_toInt, testBit_toInt, testBit_toInt]
  split <;> simp

theorem toInt_and_eq_land {width : Nat} (first second : BitVec width) :
    (first &&& second).toInt = Int.land first.toInt second.toInt := by
  apply int_eq_of_testBit_eq
  intro index
  rw [Int.testBit_land, testBit_toInt, testBit_toInt, testBit_toInt]
  split <;> simp

theorem toInt_sshiftRight_eq_div {width : Nat} (word : BitVec width) (count : Nat) :
    (word.sshiftRight count).toInt = word.toInt / 2 ^ count := by
  rw [BitVec.toInt_sshiftRight, Int.shiftRight_eq_div_pow]
  norm_cast

theorem toInt_shiftLeft_eq_bmod {width : Nat} (word : BitVec width) (count : Nat) :
    (word <<< count).toInt = (word.toInt * 2 ^ count).bmod (2 ^ width) := by
  rw [BitVec.toInt_shiftLeft, BitVec.toInt_eq_toNat_bmod word, Int.bmod_mul_bmod,
    Nat.shiftLeft_eq]
  norm_cast

theorem bmod_eq_self_of_range {width : Nat} {number : Int}
    (lower : -2 ^ width ≤ number) (upper : number < 2 ^ width) :
    number.bmod (2 ^ (width + 1)) = number := by
  apply Int.bmod_eq_of_le
  · push_cast
    omega
  · push_cast
    omega

theorem toInt_ofInt_of_range {width : Nat} {number : Int}
    (lower : -2 ^ width ≤ number) (upper : number < 2 ^ width) :
    (BitVec.ofInt (width + 1) number).toInt = number := by
  rw [BitVec.toInt_ofInt]
  exact bmod_eq_self_of_range lower upper

theorem toInt_range {width : Nat} (word : BitVec (width + 1)) :
    -2 ^ width ≤ word.toInt ∧ word.toInt < 2 ^ width := by
  have lower := BitVec.le_toInt word
  have upper := BitVec.toInt_lt (x := word)
  simpa using And.intro lower upper

end SignedBits

end OpServer
