import OpServer.DecimalNumerals
import OpServer.SignedBits

/-!
# Integer parameters of the UDP programs

`getIntParam` of `ClientUDP.c`, which `ServerUDP.c` repeats, reads a port number
with `strtol`.  It rejects what `strtol` does not read to the end and numbers
above `INT_MAX`, but neither the empty string nor numbers below `INT_MIN`.
-/

namespace OpServer

open Decimal SignedBits

def INT_MAX : Int := 2 ^ 31 - 1

/-- `getIntParam`, with the `errno` that it finds and the argument `argv[loc]`.
It does not return where it prints the usage and calls `exit(1)`. -/
def getIntParam (errno : Nat) (argument : CString) : Option (BitVec 32) :=
  let ⟨conver, p, errno⟩ := strtol errno argument.bytes
  if errno ≠ 0 ∨ deref p ≠ 0 ∨ conver > INT_MAX then none
  else some (BitVec.ofInt 32 conver)

section Returns

variable {argument : CString} {number : Int}

/-- A number above `INT_MAX` is rejected by the last test, unless `strtol` has
already set `errno`. -/
theorem getIntParam_of_large (denotes : Denotes argument.bytes number)
    (large : 2 ^ 31 ≤ number) : getIntParam 0 argument = none := by
  have converted := strtol_of_denotes 0 denotes
  by_cases above : LONG_MAX < number
  · rw [if_pos above] at converted
    rw [getIntParam, converted]
    rfl
  · have inLong : ¬number < LONG_MIN := by
      rw [LONG_MIN]
      omega
    have rejected : number > INT_MAX := by
      rw [INT_MAX]
      omega
    rw [if_neg above, if_neg inLong] at converted
    rw [getIntParam, converted]
    exact if_pos (.inr (.inr rejected))

/-- Below, only the range of `long` is tested, and the conversion to `int` wraps
around. -/
theorem getIntParam_of_converted (denotes : Denotes argument.bytes number)
    (lower : -2 ^ 63 ≤ number) (upper : number < 2 ^ 31) :
    getIntParam 0 argument = some (BitVec.ofInt 32 number) := by
  have converted := strtol_of_denotes 0 denotes
  have inLong : ¬LONG_MAX < number ∧ ¬number < LONG_MIN := by
    rw [LONG_MAX, LONG_MIN]
    omega
  rw [if_neg inLong.1, if_neg inLong.2] at converted
  rw [getIntParam, converted]
  apply if_neg
  rintro (errno | terminated | large)
  · exact errno rfl
  · exact terminated rfl
  · rw [INT_MAX] at large
    omega

theorem getIntParam_of_small (denotes : Denotes argument.bytes number)
    (small : number < -2 ^ 63) : getIntParam 0 argument = none := by
  have converted := strtol_of_denotes 0 denotes
  have outside : ¬LONG_MAX < number ∧ number < LONG_MIN := by
    rw [LONG_MAX, LONG_MIN]
    omega
  rw [if_neg outside.1, if_pos outside.2] at converted
  rw [getIntParam, converted]
  rfl

theorem getIntParam_of_empty (empty : argument.bytes = []) : getIntParam 0 argument = some 0 := by
  rw [getIntParam, empty]
  rfl

theorem getIntParam_of_no_numeral (nonempty : argument.bytes ≠ [])
    (nothing : ∀ number, ¬Denotes argument.bytes number) : getIntParam 0 argument = none := by
  have inside := strtol_endptr_suffix 0 argument.bytes
  have unfinished : deref (strtol 0 argument.bytes).endptr ≠ 0 := by
    rw [Ne, argument.deref_eq_zero_iff inside, strtol_endptr_eq_nil_iff]
    rintro (empty | ⟨number, denotes⟩)
    · exact nonempty empty
    · exact nothing number denotes
  exact if_pos (.inr (.inl unfinished))

theorem getIntParam_eq_some_iff (argument : CString) (retInt : BitVec 32) :
    getIntParam 0 argument = some retInt ↔
      argument.bytes = [] ∧ retInt = 0 ∨
      ∃ number, Denotes argument.bytes number ∧ -2 ^ 63 ≤ number ∧ number < 2 ^ 31 ∧
        retInt = BitVec.ofInt 32 number := by
  by_cases numeral : ∃ number, Denotes argument.bytes number
  · obtain ⟨number, denotes⟩ := numeral
    have nonempty : argument.bytes ≠ [] := by
      intro empty
      rw [empty] at denotes
      exact not_denotes_nil number denotes
    rw [or_iff_right fun both => nonempty both.1]
    by_cases range : -2 ^ 63 ≤ number ∧ number < 2 ^ 31
    · rw [getIntParam_of_converted denotes range.1 range.2, Option.some.injEq]
      constructor
      · rintro rfl
        exact ⟨number, denotes, range.1, range.2, rfl⟩
      · rintro ⟨other, same, -, -, rfl⟩
        rw [denotes.unique same]
    · have rejected : getIntParam 0 argument = none := by
        rcases not_and_or.mp range with small | large
        · exact getIntParam_of_small denotes (not_le.mp small)
        · exact getIntParam_of_large denotes (not_lt.mp large)
      rw [rejected]
      refine iff_of_false (Option.some_ne_none retInt).symm ?_
      rintro ⟨other, same, lower, upper, -⟩
      rw [denotes.unique same] at range
      exact range ⟨lower, upper⟩
  · have nothing := not_exists.mp numeral
    by_cases empty : argument.bytes = []
    · rw [getIntParam_of_empty empty, Option.some.injEq]
      constructor
      · rintro rfl
        exact .inl ⟨empty, rfl⟩
      · rintro (⟨-, rfl⟩ | ⟨number, denotes, -⟩)
        · rfl
        · exact (nothing number denotes).elim
    · rw [getIntParam_of_no_numeral empty nothing]
      refine iff_of_false (Option.some_ne_none retInt).symm ?_
      rintro (⟨isEmpty, -⟩ | ⟨number, denotes, -⟩)
      · exact empty isEmpty
      · exact nothing number denotes

end Returns

/-! ## Which parameters are read exactly -/

/-- `getIntParam` returns the integer that its argument denotes, and nothing if
there is none among the values of `int`. -/
def ReadsExactly (argument : CString) : Prop :=
  ∀ retInt, getIntParam 0 argument = some retInt ↔ Denotes argument.bytes retInt.toInt

/-- `getIntParam` reads its argument exactly unless that is empty or a numeral
for a number of `long` below `INT_MIN`. -/
theorem getIntParam_exact_iff (argument : CString) :
    (ReadsExactly argument ↔ argument.bytes ≠ [] ∧
      ∀ number, Denotes argument.bytes number → ¬(-2 ^ 63 ≤ number ∧ number < -2 ^ 31)) ∧
    ∀ retInt, getIntParam 0 argument = some retInt ↔
      argument.bytes = [] ∧ retInt = 0 ∨
      ∃ number, Denotes argument.bytes number ∧ -2 ^ 63 ≤ number ∧ number < 2 ^ 31 ∧
        retInt = BitVec.ofInt 32 number := by
  refine ⟨?_, getIntParam_eq_some_iff argument⟩
  constructor
  · intro exactly
    constructor
    · intro empty
      have denotes := (exactly 0).mp (getIntParam_of_empty empty)
      rw [empty] at denotes
      exact not_denotes_nil _ denotes
    · rintro number denotes ⟨lower, below⟩
      have returned := getIntParam_of_converted denotes lower (by omega)
      have same := denotes.unique ((exactly _).mp returned)
      have range := @toInt_range 31 (BitVec.ofInt 32 number)
      omega
  · rintro ⟨nonempty, noneBelow⟩ retInt
    rw [getIntParam_eq_some_iff, or_iff_right fun both => nonempty both.1]
    constructor
    · rintro ⟨number, denotes, lower, upper, rfl⟩
      have notBelow := noneBelow number denotes
      rwa [toInt_ofInt_of_range (by omega) upper]
    · intro denotes
      have range := @toInt_range 31 retInt
      exact ⟨retInt.toInt, denotes, by omega, range.2, BitVec.ofInt_toInt.symm⟩

/-- The empty string is read as 0, and -2147483649 as 2147483647. -/
theorem empty_parameter_is_zero :
    (getIntParam 0 ⟨[], by decide⟩ = some 0 ∧ ¬ReadsExactly ⟨[], by decide⟩) ∧
      getIntParam 0 ⟨[45, 50, 49, 52, 55, 52, 56, 51, 54, 52, 57], by decide⟩ =
        some 2147483647 ∧
      ¬ReadsExactly ⟨[45, 50, 49, 52, 55, 52, 56, 51, 54, 52, 57], by decide⟩ := by
  have empty : getIntParam 0 ⟨[], by decide⟩ = some 0 := by decide
  have wrapped : getIntParam 0 ⟨[45, 50, 49, 52, 55, 52, 56, 51, 54, 52, 57], by decide⟩ =
      some 2147483647 := by decide
  have scanned : ∃ numeral, scan [45, 50, 49, 52, 55, 52, 56, 51, 54, 52, 57] =
      some (numeral, []) ∧ numeral.number = -2147483649 := ⟨_, rfl, by decide⟩
  refine ⟨⟨empty, fun exactly => ?_⟩, wrapped, fun exactly => ?_⟩
  · exact not_denotes_nil _ ((exactly 0).mp empty)
  · have same := (denotes_iff_scan.mpr scanned).unique ((exactly 2147483647).mp wrapped)
    exact absurd same (by decide)

end OpServer
