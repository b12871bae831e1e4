import OpServer.BigEndianWords
import OpServer.SignedBits

/-!
# Byte strings and integers of Python 2

The built-in behaviour that scripts on binary messages rely on: slices and
items of byte strings, `struct.pack` and `struct.unpack` in network order, and
the shift operators of unbounded integers, each with the exception it raises.
-/

namespace OpServer

namespace Python

open BigEndian

/-- Exceptions by their class. -/
inductive PythonError
  | indexError
  | keyError
  | valueError
  | structError
  | socketError
  deriving DecidableEq

instance decidableEqExcept {ε α : Type*} [DecidableEq ε] [DecidableEq α] :
    DecidableEq (Except ε α)
  | .error first, .error second =>
      decidable_of_iff (first = second) (Except.error.injEq first second).symm.to_iff
  | .ok first, .ok second =>
      decidable_of_iff (first = second) (Except.ok.injEq first second).symm.to_iff
  | .error _, .ok _ => .isFalse nofun
  | .ok _, .error _ => .isFalse nofun

/-- `data[start:stop]`, which never raises. -/
def slice (data : List Byte) (start stop : Nat) : List Byte :=
  (data.take stop).drop start

/-- `data[index]`, again a byte string. -/
def item (data : List Byte) (index : Nat) : Except PythonError (List Byte) :=
  match data[index]? with
  | some byte => .ok [byte]
  | none => .error .indexError

/-- A format of one number in network byte order. -/
structure Format where
  size : Nat
  signed : Bool

namespace Format

/-- `!B` -/
def B : Format := ⟨1, false⟩

/-- `!H` -/
def H : Format := ⟨2, false⟩

/-- `!h` -/
def h : Format := ⟨2, true⟩

/-- `!i` -/
def i : Format := ⟨4, true⟩

/-- The numbers a format can pack. -/
def Fits (format : Format) (number : Int) : Prop :=
  if format.signed then -(256 ^ format.size) ≤ 2 * number ∧ 2 * number < 256 ^ format.size
  else 0 ≤ number ∧ number < 256 ^ format.size

instance (format : Format) (number : Int) : Decidable (format.Fits number) := by
  unfold Fits
  split <;> infer_instance

end Format

/-- `struct.pack` of one number. -/
def pack (format : Format) (number : Int) : Except PythonError (List Byte) :=
  if format.Fits number then
    .ok (encode format.size (number % 256 ^ format.size).toNat)
  else
    .error .structError

/-- `struct.unpack` of one number. -/
def unpack (format : Format) (data : List Byte) : Except PythonError Int :=
  if data.length = format.size then
    .ok (if format.signed then (value data : Int).bmod (256 ^ format.size) else value data)
  else
    .error .structError

/-- `struct.unpack('!4B', data)` -/
def unpackFourBytes : List Byte → Except PythonError (Int × Int × Int × Int)
  | [first, second, third, fourth] =>
      .ok (first.toNat, second.toNat, third.toNat, fourth.toNat)
  | _ => .error .structError

/-- `number >> count` -/
def rightShift (number count : Int) : Except PythonError Int :=
  if count < 0 then .error .valueError else .ok (number / 2 ^ count.toNat)

/-- `number << count` -/
def leftShift (number count : Int) : Except PythonError Int :=
  if count < 0 then .error .valueError else .ok (number * 2 ^ count.toNat)

/-- An IPv4 address.  The text of a dotted quad and its four bytes determine
each other. -/
abbrev IPv4 := Vector Byte 4

/-- `inet_aton(address)` -/
def inetAton (address : IPv4) : List Byte :=
  address.toList

/-- `inet_ntoa(packed)` -/
def inetNtoa (packed : List Byte) : Except PythonError IPv4 :=
  if complete : packed.length = 4 then .ok ⟨packed.toArray, complete⟩ else .error .socketError

/-! ## Sequences of calls -/

theorem bind_eq_ok_iff {α β : Type} {first : Except PythonError α}
    {next : α → Except PythonError β} {result : β} :
    first >>= next = .ok result ↔
      ∃ returned, first = .ok returned ∧ next returned = .ok result := by
  cases first with
  | error raised => simp [bind, Except.bind]
  | ok returned => simp [bind, Except.bind]

theorem bind_eq_error_iff {α β : Type} {first : Except PythonError α}
    {next : α → Except PythonError β} {raised : PythonError} :
    first >>= next = .error raised ↔
      first = .error raised ∨ ∃ returned, first = .ok returned ∧ next returned = .error raised := by
  cases first with
  | error other => simp [bind, Except.bind]
  | ok returned => simp [bind, Except.bind]

theorem item_eq_error {data : List Byte} {index : Nat} {raised : PythonError}
    (failed : item data index = .error raised) : raised = .indexError := by
  unfold item at failed
  split at failed
  · cases failed
  · cases failed
    rfl

theorem unpack_eq_error {format : Format} {data : List Byte} {raised : PythonError}
    (failed : unpack format data = .error raised) : raised = .structError := by
  unfold unpack at failed
  split at failed
  · cases failed
  · cases failed
    rfl

/-! ## Packing and unpacking -/

@[simp]
theorem inetNtoa_inetAton (address : IPv4) : inetNtoa (inetAton address) = .ok address := by
  simp [inetNtoa, inetAton, Vector.toList]

theorem pack_eq_ok_iff {format : Format} {number : Int} {bytes : List Byte} :
    pack format number = .ok bytes ↔
      format.Fits number ∧
        bytes = encode format.size (number % 256 ^ format.size).toNat := by
  unfold pack
  split
  · rename_i fits
    rw [Except.ok.injEq]
    exact ⟨fun equal => ⟨fits, equal.symm⟩, fun both => both.2.symm⟩
  · rename_i outside
    exact ⟨fun impossible => (by cases impossible), fun both => (outside both.1).elim⟩

theorem pack_length {format : Format} {number : Int} {bytes : List Byte}
    (packed : pack format number = .ok bytes) : bytes.length = format.size := by
  rw [(pack_eq_ok_iff.mp packed).2, encode_length]

theorem unpack_of_pack {format : Format} {number : Int} {bytes : List Byte}
    (packed : pack format number = .ok bytes) : unpack format bytes = .ok number := by
  obtain ⟨fits, bytesEq⟩ := pack_eq_ok_iff.mp packed
  have size : (0 : Int) < 256 ^ format.size := Int.pow_pos (by decide)
  have digits : (value bytes : Int) = number % 256 ^ format.size := by
    rw [bytesEq, value_encode]
    push_cast
    rw [Int.toNat_of_nonneg (Int.emod_nonneg _ size.ne'), Int.emod_emod_of_dvd _ dvd_rfl]
  rw [unpack, if_pos (pack_length packed), digits]
  congr 1
  unfold Format.Fits at fits
  split at fits
  · rw [if_pos ‹_›]
    have modulus : ((256 ^ format.size : Nat) : Int) = 256 ^ format.size := by push_cast; rfl
    rw [← modulus, Int.emod_bmod]
    exact Int.bmod_eq_of_le (by rw [modulus]; omega) (by rw [modulus]; omega)
  · rw [if_neg ‹_›]
    exact Int.emod_eq_of_lt fits.1 fits.2

theorem length_of_unpack {format : Format} {data : List Byte} {number : Int}
    (unpacked : unpack format data = .ok number) : data.length = format.size := by
  unfold unpack at unpacked
  split at unpacked
  · assumption
  · cases unpacked

theorem exists_unpack_of_length {format : Format} {data : List Byte}
    (length : data.length = format.size) : ∃ number, unpack format data = .ok number :=
  ⟨_, if_pos length⟩

@[simp]
theorem slice_length (data : List Byte) (start stop : Nat) :
    (slice data start stop).length = min stop data.length - start := by
  rw [slice, List.length_drop, List.length_take]

theorem pack_toInt (size : Nat) (word : BitVec (8 * size)) :
    pack ⟨size, true⟩ word.toInt = .ok (encode size word.toNat) := by
  have modulus : (256 : Int) ^ size = 2 ^ (8 * size) := by rw [pow_mul]; rfl
  have fits : Format.Fits ⟨size, true⟩ word.toInt := by
    rw [Format.Fits, if_pos rfl, modulus]
    exact ⟨BitVec.le_two_mul_toInt, BitVec.two_mul_toInt_lt⟩
  have digits : (word.toInt % 256 ^ size).toNat = word.toNat := by
    rw [modulus, BitVec.toInt_eq_toNat_bmod]
    have cast : (2 : Int) ^ (8 * size) = ((2 ^ (8 * size) : Nat) : Int) := by push_cast; rfl
    rw [cast, Int.bmod_emod, ← Int.natCast_emod, Int.toNat_natCast,
      Nat.mod_eq_of_lt word.isLt]
  rw [pack, if_pos fits, digits]

theorem pack_toNat (size : Nat) (word : BitVec (8 * size)) :
    pack ⟨size, false⟩ word.toNat = .ok (encode size word.toNat) := by
  have below : word.toNat < 256 ^ size := by
    have isLt := word.isLt
    rwa [pow_mul] at isLt
  have fits : Format.Fits ⟨size, false⟩ word.toNat := by
    simp only [Format.Fits, Bool.false_eq_true, if_false]
    exact ⟨Int.natCast_nonneg _, by exact_mod_cast below⟩
  have digits : ((word.toNat : Int) % 256 ^ size).toNat = word.toNat := by
    rw [Int.emod_eq_of_lt (Int.natCast_nonneg _) (by exact_mod_cast below), Int.toNat_natCast]
  rw [pack, if_pos fits, digits]

/-! ## Single bytes -/

theorem pack_B_toNat (byte : Byte) : pack .B byte.toNat = .ok [byte] := by
  rw [Format.B, pack_toNat 1 byte]
  simp [encode]

theorem unpack_B (byte : Byte) : unpack .B [byte] = .ok byte.toNat :=
  unpack_of_pack (pack_B_toNat byte)

end Python

end OpServer
