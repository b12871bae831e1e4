import OpServer.BigEndianWords
import OpServer.SignedBits
import Mathlib.Tactic.IntervalCases

/-!
# What the calculator is for

The six operations of the calculator as mathematics on unbounded integers.
The servers compute them on machine words or on Python integers; both are
compared with this file.
-/

namespace OpServer

inductive Operation
  | add
  | sub
  | or
  | and
  | shiftRight
  | shiftLeft
  deriving DecidableEq

namespace Operation

/-- The opcode byte of an operation. -/
def code : Operation → Byte
  | add => 0
  | sub => 1
  | or => 2
  | and => 3
  | shiftRight => 4
  | shiftLeft => 5

/-- The exact result.  Right shift is floored division by a power of two. -/
def exact : Operation → Int → Int → Int
  | add, first, second => first + second
  | sub, first, second => first - second
  | or, first, second => Int.lor first second
  | and, first, second => Int.land first second
  | shiftRight, first, second => first / 2 ^ second.toNat
  | shiftLeft, first, second => first * 2 ^ second.toNat

def IsShift (operation : Operation) : Prop :=
  operation = shiftRight ∨ operation = shiftLeft

instance (operation : Operation) : Decidable operation.IsShift :=
  inferInstanceAs (Decidable (_ ∨ _))

/-- A second operand that C defines for a 32-bit left operand. -/
def CountInRange (operation : Operation) (second : Int) : Prop :=
  operation.IsShift → 0 ≤ second ∧ second ≤ 31

instance (operation : Operation) (second : Int) :
    Decidable (operation.CountInRange second) :=
  inferInstanceAs (Decidable (_ → _))

theorem code_injective : Function.Injective code := by
  intro first second equal
  cases first <;> cases second <;> first | rfl | exact absurd equal (by decide)

theorem code_toNat_le (operation : Operation) : operation.code.toNat ≤ 5 := by
  cases operation <;> decide

theorem exists_code_of_le {opCode : Byte} (bounded : opCode.toNat ≤ 5) :
    ∃ operation : Operation, opCode = operation.code := by
  have byteEq : opCode = BitVec.ofNat 8 opCode.toNat := by simp
  generalize opCode.toNat = number at bounded byteEq
  subst byteEq
  interval_cases number
  · exact ⟨add, rfl⟩
  · exact ⟨sub, rfl⟩
  · exact ⟨or, rfl⟩
  · exact ⟨and, rfl⟩
  · exact ⟨shiftRight, rfl⟩
  · exact ⟨shiftLeft, rfl⟩

theorem isShift_iff_code (operation : Operation) :
    operation.IsShift ↔ operation.code.toNat = 4 ∨ operation.code.toNat = 5 := by
  cases operation <;> decide

theorem eq_shiftLeft_iff_code (operation : Operation) :
    operation = shiftLeft ↔ operation.code.toNat = 5 := by
  cases operation <;> decide

/-- Every result except a left shift's fits a signed 32-bit word. -/
theorem exact_range {operation : Operation} (notLeft : operation ≠ shiftLeft)
    (first second : BitVec 16) :
    -2 ^ 31 ≤ operation.exact first.toInt second.toInt ∧
      operation.exact first.toInt second.toInt < 2 ^ 31 := by
  have firstRange := SignedBits.toInt_range first
  have secondRange := SignedBits.toInt_range second
  cases operation with
  | add => simp only [exact]; omega
  | sub => simp only [exact]; omega
  | or =>
      have range := SignedBits.toInt_range (first ||| second)
      rw [SignedBits.toInt_or_eq_lor] at range
      simp only [exact]
      omega
  | and =>
      have range := SignedBits.toInt_range (first &&& second)
      rw [SignedBits.toInt_and_eq_land] at range
      simp only [exact]
      omega
  | shiftRight =>
      have range := SignedBits.toInt_range (first.sshiftRight second.toInt.toNat)
      rw [SignedBits.toInt_sshiftRight_eq_div] at range
      simp only [exact]
      omega
  | shiftLeft => exact (notLeft rfl).elim

theorem exact_bmod {operation : Operation} (notLeft : operation ≠ shiftLeft)
    (first second : BitVec 16) :
    (operation.exact first.toInt second.toInt).bmod (2 ^ 32) =
      operation.exact first.toInt second.toInt :=
  SignedBits.bmod_eq_self_of_range (exact_range notLeft first second).1
    (exact_range notLeft first second).2

/-- Which opcodes and operands have an exact result that fits a signed 32-bit
word, when shifts are restricted to counts of some kind. -/
theorem exists_fitting_iff (opCode : Byte) (counts : Prop) (first second : BitVec 16) :
    (∃ operation : Operation, opCode = operation.code ∧ (operation.IsShift → counts) ∧
      -2 ^ 31 ≤ operation.exact first.toInt second.toInt ∧
        operation.exact first.toInt second.toInt < 2 ^ 31) ↔
    opCode.toNat ≤ 5 ∧ (opCode.toNat = 4 ∨ opCode.toNat = 5 → counts) ∧
      (opCode.toNat = 5 → -2 ^ 31 ≤ first.toInt * 2 ^ second.toInt.toNat ∧
        first.toInt * 2 ^ second.toInt.toNat < 2 ^ 31) := by
  constructor
  · rintro ⟨operation, rfl, shifts, fits⟩
    refine ⟨operation.code_toNat_le, fun isShift => ?_, fun left => ?_⟩
    · exact shifts (operation.isShift_iff_code.mpr isShift)
    · obtain rfl := operation.eq_shiftLeft_iff_code.mpr left
      exact fits
  · rintro ⟨known, shifts, leftFits⟩
    obtain ⟨operation, rfl⟩ := exists_code_of_le known
    refine ⟨operation, rfl, fun isShift => ?_, ?_⟩
    · exact shifts (operation.isShift_iff_code.mp isShift)
    · by_cases left : operation = shiftLeft
      · subst left
        exact leftFits rfl
      · exact exact_range left first second

end Operation

end OpServer
