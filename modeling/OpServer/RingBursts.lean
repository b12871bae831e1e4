import OpServer.BitWindows
import OpServer.RingDatagrams

/-!
# Which bursts the checksum detects

Flips of neighbouring bits of an accepted datagram, over at most eight
positions.  The checksum misses those that turn eight equal bits around, where
its two representations of zero meet.
-/

namespace OpServer

open BigEndian

/-- The bytes are digits of the value to a base that is 1 modulo 255. -/
theorem value_modEq_byteTotal (data : List Byte) : value data ≡ byteTotal data [MOD 255] := by
  induction data with
  | nil => rfl
  | cons byte data ih =>
      have unit : 256 ^ data.length ≡ 1 [MOD 255] := by
        have power := (show 256 ≡ 1 [MOD 255] from rfl).pow data.length
        rwa [one_pow] at power
      rw [value, byteTotal_cons]
      calc byte.toNat * 256 ^ data.length + value data
          ≡ byte.toNat * 1 + byteTotal data [MOD 255] := (unit.mul_left _).add ih
        _ = byte.toNat + byteTotal data := by rw [Nat.mul_one]

theorem byteTotal_pos_iff (data : List Byte) : 0 < byteTotal data ↔ ∃ byte ∈ data, byte ≠ 0 := by
  rw [byteTotal, List.sum_pos_iff_exists_pos_nat]
  simp [← BitVec.toNat_inj, Nat.pos_iff_ne_zero]

theorem verifyChecksum_iff_value (data : List Byte) :
    Master.verifyChecksum data ↔ (∃ byte ∈ data, byte ≠ 0) ∧ value data ≡ 0 [MOD 255] := by
  have total : byteTotal data % 255 = 0 ↔ value data ≡ 0 [MOD 255] :=
    ⟨fun zero => (value_modEq_byteTotal data).trans zero,
      fun zero => (value_modEq_byteTotal data).symm.trans zero⟩
  rw [verifyChecksum_iff_total, byteTotal_pos_iff, total]

section Bursts

variable {data : List Byte} {flips : Finset Nat} {start : Nat}

/-- Flips within eight neighbouring bits of an accepted datagram are missed if they
turn eight equal bits around and leave a bit that is set. -/
theorem verifyChecksum_flipBits_iff (accepted : Master.verifyChecksum data)
    (nonempty : flips.Nonempty) (within : flips ⊆ Finset.Ico start (start + 8))
    (inside : start + 8 ≤ 8 * data.length) :
    Master.verifyChecksum (flipBits flips data) ↔
      flips = Finset.Ico start (start + 8) ∧
        (∃ bit, ∀ position ∈ Finset.Ico start (start + 8), bitAt data position = bit) ∧
          ∃ byte ∈ flipBits flips data, byte ≠ 0 := by
  have zero := ((verifyChecksum_iff_value data).mp accepted).2
  have same : value (flipBits flips data) ≡ 0 [MOD 255] ↔
      value data ≡ value (flipBits flips data) [MOD 255] :=
    ⟨fun flipped => zero.trans flipped.symm, fun flipped => flipped.symm.trans zero⟩
  rw [verifyChecksum_iff_value, same, value_flipBits_modEq_iff nonempty within inside, and_comm,
    and_assoc]

theorem not_verifyChecksum_of_short_burst (accepted : Master.verifyChecksum data)
    (nonempty : flips.Nonempty) (within : flips ⊆ Finset.Ico start (start + 7))
    (inside : ∀ position ∈ flips, position < 8 * data.length) :
    ¬Master.verifyChecksum (flipBits flips data) := by
  have enough : 8 ≤ 8 * data.length := by
    obtain ⟨position, flipped⟩ := nonempty
    have bound := inside position flipped
    omega
  -- The window starts earlier where the burst is at the end of the datagram.
  have window : flips ⊆
      Finset.Ico (min start (8 * data.length - 8)) (min start (8 * data.length - 8) + 8) := by
    intro position flipped
    have bounds := Finset.mem_Ico.mp (within flipped)
    have bound := inside position flipped
    exact Finset.mem_Ico.mpr (by omega)
  rw [verifyChecksum_flipBits_iff accepted nonempty window (by omega)]
  rintro ⟨all, -⟩
  have few := Finset.card_le_card within
  rw [all, Nat.card_Ico, Nat.card_Ico] at few
  omega

end Bursts

/-- Of the bursts within eight neighbouring bits of an accepted datagram, the
checksum misses exactly those that turn eight equal bits around, unless nothing
but zeros is left.  It detects every burst within seven bits, and every flip of
a single bit. -/
theorem burst_detection {data : List Byte} (accepted : Master.verifyChecksum data) :
    (∀ (flips : Finset Nat) (start : Nat), flips.Nonempty →
      flips ⊆ Finset.Ico start (start + 8) → start + 8 ≤ 8 * data.length →
        (Master.verifyChecksum (flipBits flips data) ↔
          flips = Finset.Ico start (start + 8) ∧
            (∃ bit, ∀ position ∈ Finset.Ico start (start + 8), bitAt data position = bit) ∧
              ∃ byte ∈ flipBits flips data, byte ≠ 0)) ∧
    (∀ (flips : Finset Nat) (start : Nat), flips.Nonempty →
      flips ⊆ Finset.Ico start (start + 7) → (∀ position ∈ flips, position < 8 * data.length) →
        ¬Master.verifyChecksum (flipBits flips data)) ∧
    ∀ position < 8 * data.length, ¬Master.verifyChecksum (flipBits {position} data) := by
  refine ⟨fun flips start nonempty within inside => ?_,
    fun flips start nonempty within inside => ?_, fun position inside => ?_⟩
  · exact verifyChecksum_flipBits_iff accepted nonempty within inside
  · exact not_verifyChecksum_of_short_burst accepted nonempty within inside
  · apply not_verifyChecksum_of_short_burst accepted (Finset.singleton_nonempty position)
      (Finset.singleton_subset_iff.mpr (Finset.mem_Ico.mpr ⟨le_refl position, by omega⟩))
    exact fun other flipped => by rwa [Finset.mem_singleton.mp flipped]

theorem burst_detection_greeting :
    (∀ (flips : Finset Nat) (start : Nat), flips.Nonempty →
      flips ⊆ Finset.Ico start (start + 8) →
      start + 8 ≤ 8 * ([15, 0x12, 0x34, 255, 9, 0, 72, 105, 239] : List Byte).length →
        (Master.verifyChecksum (flipBits flips [15, 0x12, 0x34, 255, 9, 0, 72, 105, 239]) ↔
          flips = Finset.Ico start (start + 8) ∧
            (∃ bit, ∀ position ∈ Finset.Ico start (start + 8),
              bitAt [15, 0x12, 0x34, 255, 9, 0, 72, 105, 239] position = bit) ∧
              ∃ byte ∈ flipBits flips [15, 0x12, 0x34, 255, 9, 0, 72, 105, 239], byte ≠ 0)) ∧
    (∀ (flips : Finset Nat) (start : Nat), flips.Nonempty →
      flips ⊆ Finset.Ico start (start + 7) →
      (∀ position ∈ flips,
        position < 8 * ([15, 0x12, 0x34, 255, 9, 0, 72, 105, 239] : List Byte).length) →
        ¬Master.verifyChecksum (flipBits flips [15, 0x12, 0x34, 255, 9, 0, 72, 105, 239])) ∧
    ∀ position < 8 * ([15, 0x12, 0x34, 255, 9, 0, 72, 105, 239] : List Byte).length,
      ¬Master.verifyChecksum (flipBits {position} [15, 0x12, 0x34, 255, 9, 0, 72, 105, 239]) :=
  burst_detection ((verifyChecksum_iff_total _).mpr (by decide))

end OpServer
