import OpServer.RingSlave

/-!
# Datagrams on the ring

The checks that `master.py` and `Lab3slave.c` make on a received datagram: a
checksum over all bytes, and byte 4 against the receiver's own ring ID.
-/

namespace OpServer

open Python

/-! ## The master's checks -/

namespace Master

/-- The loop `while running_total >= 256`, which adds the carries back in. -/
def addCarries (runningTotal : Nat) : Nat :=
  if runningTotal < 256 then runningTotal
  else addCarries ((runningTotal &&& 255) + (runningTotal >>> 8))
termination_by runningTotal
decreasing_by
  have low : runningTotal &&& 255 = runningTotal % 256 :=
    Nat.and_two_pow_sub_one_eq_mod runningTotal 8
  rw [low, Nat.shiftRight_eq_div_pow]
  omega

def rawSum (retBytes : List Byte) : Nat :=
  retBytes.foldl (fun runningTotal littleByte => addCarries (runningTotal + littleByte.toNat)) 0

/-- `calculate_checksum`, whose loop is that of `raw_sum`. -/
def calculateChecksum (retBytes : List Byte) : Nat :=
  rawSum retBytes ^^^ 0xFF

def verifyChecksum (data : List Byte) : Bool :=
  rawSum data == 0xFF

def iAmRecipient (master : Master) (data : List Byte) : Except PythonError Bool := do
  let destination ← unpack .B (← item data 4)
  return destination == master.myRingID

end Master

/-! ## The slave's checks -/

namespace RingInfo

/-- The loop of `checksum`, with its running `sum`. -/
def checksumLoop (sum : Byte) : List Byte → Byte
  | [] => ~~~sum
  | byte :: message =>
      let carry : Byte := if sum.toNat + byte.toNat > 255 then 1 else 0
      checksumLoop (sum + (byte + carry)) message

def checksum (message : List Byte) : Byte :=
  checksumLoop 0 message

end RingInfo

theorem Master.iAmRecipient_eq (master : Master) {data : List Byte} {destination : Byte}
    (addressed : data[4]? = some destination) :
    master.iAmRecipient data = .ok (destination.toNat == master.myRingID) := by
  have byte : item data 4 = .ok [destination] := by rw [item, addressed]
  have cast : ((destination.toNat : Int) == (master.myRingID : Int)) =
      (destination.toNat == master.myRingID) := by
    rw [Bool.eq_iff_iff, beq_iff_eq, beq_iff_eq, Nat.cast_inj]
  simp only [iAmRecipient, byte, unpack_B, bind, Except.bind]
  exact congrArg Except.ok cast

/-! ## Both checksums are ones-complement sums -/

open OnesComplement

theorem addCarries_eq {first second : Nat} (firstLe : first ≤ 255) (secondLe : second ≤ 255) :
    Master.addCarries (first + second) = add 255 first second := by
  unfold Master.addCarries
  split
  · rw [add, if_pos (by omega)]
  · have low : (first + second) &&& 255 = (first + second) % 256 :=
      Nat.and_two_pow_sub_one_eq_mod (first + second) 8
    rw [low, Nat.shiftRight_eq_div_pow, Master.addCarries, if_pos (by omega), add,
      if_neg (by omega)]
    omega

theorem rawSum_eq (data : List Byte) :
    Master.rawSum data = sum 255 0 (data.map BitVec.toNat) := by
  suffices general : ∀ total ≤ 255,
      data.foldl (fun runningTotal littleByte =>
        Master.addCarries (runningTotal + littleByte.toNat)) total =
        sum 255 total (data.map BitVec.toNat) from general 0 (by decide)
  intro total totalLe
  induction data generalizing total with
  | nil => rfl
  | cons byte data ih =>
      have byteLe : byte.toNat ≤ 255 := Nat.le_of_lt_succ byte.isLt
      rw [List.foldl_cons, addCarries_eq totalLe byteLe, ih _ (add_le totalLe byteLe)]
      rfl

theorem toNat_add_carry (total byte : Byte) :
    (total + (byte + if total.toNat + byte.toNat > 255 then 1 else 0)).toNat =
      add 255 total.toNat byte.toNat := by
  have totalLt := total.isLt
  have byteLt := byte.isLt
  rw [BitVec.toNat_add, BitVec.toNat_add, add]
  split
  · rw [if_neg (by omega)]
    change (total.toNat + (byte.toNat + 1) % 2 ^ 8) % 2 ^ 8 = _
    omega
  · rw [if_pos (by omega)]
    change (total.toNat + (byte.toNat + 0) % 2 ^ 8) % 2 ^ 8 = _
    omega

theorem checksumLoop_eq (total : Byte) (message : List Byte) :
    RingInfo.checksumLoop total message =
      ~~~(BitVec.ofNat 8 (sum 255 total.toNat (message.map BitVec.toNat))) := by
  induction message generalizing total with
  | nil => simp [RingInfo.checksumLoop, sum]
  | cons byte message ih =>
      rw [RingInfo.checksumLoop, ih, toNat_add_carry]
      rfl

theorem bytes_le (data : List Byte) : ∀ word ∈ data.map BitVec.toNat, word ≤ 255 := by
  intro word member
  obtain ⟨byte, -, rfl⟩ := List.mem_map.mp member
  exact Nat.le_of_lt_succ byte.isLt

/-- The C slave and the Python master accept the same datagrams. -/
theorem checksum_eq_zero_iff (data : List Byte) :
    RingInfo.checksum data = 0 ↔ Master.verifyChecksum data := by
  have sumLe := sum_le (Nat.zero_le 255) (bytes_le data)
  rw [RingInfo.checksum, checksumLoop_eq, Master.verifyChecksum, rawSum_eq, beq_iff_eq,
    ← BitVec.toNat_inj, BitVec.toNat_not, BitVec.toNat_ofNat]
  change 2 ^ 8 - 1 - sum 255 0 (data.map BitVec.toNat) % 2 ^ 8 = 0 ↔ _
  omega

/-! ## The checksum byte -/

/-- The sum of the bytes as numbers. -/
def byteTotal (data : List Byte) : Nat :=
  (data.map BitVec.toNat).sum

@[simp]
theorem byteTotal_cons (byte : Byte) (data : List Byte) :
    byteTotal (byte :: data) = byte.toNat + byteTotal data :=
  rfl

@[simp]
theorem byteTotal_append (first second : List Byte) :
    byteTotal (first ++ second) = byteTotal first + byteTotal second := by
  rw [byteTotal, List.map_append, List.sum_append]
  rfl

theorem rawSum_eq_reduce (data : List Byte) : Master.rawSum data = reduce 255 (byteTotal data) := by
  have closed := sum_eq_reduce (show 0 < 255 by decide) 0 (bytes_le data)
  rwa [reduce_zero, Nat.zero_add, ← rawSum_eq] at closed

theorem rawSum_le (data : List Byte) : Master.rawSum data ≤ 255 := by
  rw [rawSum_eq_reduce]
  exact reduce_le (by decide) _

/-- A datagram is accepted if its total is a positive multiple of 255. -/
theorem verifyChecksum_iff_total (data : List Byte) :
    Master.verifyChecksum data ↔ 0 < byteTotal data ∧ byteTotal data % 255 = 0 := by
  rw [Master.verifyChecksum, beq_iff_eq, rawSum_eq_reduce]
  exact reduce_eq_limit_iff (by decide) _

theorem xor_255_eq_sub {number : Nat} (small : number ≤ 255) : number ^^^ 0xFF = 255 - number := by
  have flipped : (BitVec.ofNat 8 number ^^^ BitVec.allOnes 8).toNat =
      (~~~BitVec.ofNat 8 number).toNat := congrArg BitVec.toNat BitVec.xor_allOnes
  rw [BitVec.toNat_xor, BitVec.toNat_ofNat, BitVec.toNat_allOnes, BitVec.toNat_not,
    BitVec.toNat_ofNat, Nat.mod_eq_of_lt (by omega)] at flipped
  exact flipped

theorem calculateChecksum_eq (data : List Byte) :
    Master.calculateChecksum data = 255 - Master.rawSum data :=
  xor_255_eq_sub (rawSum_le data)

/-- The C slave computes the byte that the Python master appends. -/
theorem checksum_toNat (data : List Byte) :
    (RingInfo.checksum data).toNat = Master.calculateChecksum data := by
  have small := rawSum_le data
  rw [calculateChecksum_eq, RingInfo.checksum, checksumLoop_eq, BitVec.toNat_not,
    BitVec.toNat_ofNat]
  change 2 ^ 8 - 1 - sum 255 0 (data.map BitVec.toNat) % 2 ^ 8 = _
  rw [← rawSum_eq, Nat.mod_eq_of_lt (by omega)]

theorem verifyChecksum_append (data : List Byte) :
    Master.verifyChecksum (data ++ [RingInfo.checksum data]) := by
  have small := rawSum_le data
  rw [Master.verifyChecksum, beq_iff_eq, rawSum_eq_reduce, byteTotal_append,
    ← add_reduce (by decide), ← rawSum_eq_reduce, byteTotal_cons, checksum_toNat,
    calculateChecksum_eq, byteTotal, List.map_nil, List.sum_nil, Nat.add_zero,
    reduce_of_le (by omega), add, if_pos (by omega)]
  omega

/-- The master and the slave compute ones-complement sums: the class of the
total modulo 255, with zero for an empty total only, and its complement as the
checksum.  A checksum byte completes its datagram to the class of all ones. -/
theorem checksums_are_ones_complement (bytes : List Byte) :
    Master.rawSum bytes =
        (if byteTotal bytes = 0 then 0 else 1 + (byteTotal bytes - 1) % 255) ∧
      Master.rawSum bytes ≤ 255 ∧
      (∀ permuted, bytes.Perm permuted → Master.rawSum permuted = Master.rawSum bytes) ∧
      Master.calculateChecksum bytes = 255 - Master.rawSum bytes ∧
      (RingInfo.checksum bytes).toNat = Master.calculateChecksum bytes ∧
      Master.rawSum (bytes ++ [RingInfo.checksum bytes]) = 0xFF ∧
      RingInfo.checksum (bytes ++ [RingInfo.checksum bytes]) = 0 := by
  refine ⟨rawSum_eq_reduce bytes, rawSum_le bytes, fun permuted same => ?_,
    calculateChecksum_eq bytes, checksum_toNat bytes, ?_, ?_⟩
  · rw [rawSum_eq_reduce, rawSum_eq_reduce, byteTotal, byteTotal,
      (same.map BitVec.toNat).sum_eq]
  · exact beq_iff_eq.mp (verifyChecksum_append bytes)
  · exact (checksum_eq_zero_iff _).mpr (verifyChecksum_append bytes)

end OpServer
