import OpServer.RingForwarding

/-!
# What a slave reads from a join response

`unpack_reply` of `slave.py` and `makeRing` of `Lab3slave.c` and `slave.c` read
the same eight bytes.  The C files clear the first byte of the magic value
again when they add the second one, and keep the second byte only.
-/

namespace OpServer

open BigEndian Python

namespace RingInfo

/-! ## The magic value, by bytes -/

section Magic

variable (theBytes : Vector Byte 2)

/-- The second mask clears what the first line stored. -/
theorem lane_get16FromBytes_high : lane (get16FromBytes theBytes) 8 = 0#8 := by
  have cleared : lane (0x00ff#32) 8 = 0#8 := by decide
  have unshifted : theBytes[1]!.setWidth 32 = theBytes[1]!.setWidth 32 <<< 0 := by simp
  rw [get16FromBytes, lane_setWidth _ _ _ (by decide), lane_or, lane_and, cleared, unshifted,
    lane_shifted_byte_of_disjoint _ _ _ (by decide)]
  simp

theorem lane_get16FromBytes_low : lane (get16FromBytes theBytes) 0 = theBytes[1]! := by
  have unshifted : theBytes[1]!.setWidth 32 = theBytes[1]!.setWidth 32 <<< 0 := by simp
  rw [get16FromBytes, lane_setWidth _ _ _ (by decide), lane_or, unshifted,
    lane_shifted_byte _ _ (by decide), lane_and, lane_signExtend _ _ _ (by decide) (by decide),
    lane_setWidth _ _ _ (by decide), lane_or, lane_and, lane_signExtend _ _ _ (by decide) (by decide),
    lane_shifted_byte_of_disjoint _ _ _ (by decide)]
  simp [lane]

end Magic

theorem get16FromBytes_eq (high low : Byte) :
    get16FromBytes #v[high, low] = BitVec.ofNat 16 low.toNat := by
  apply eq_of_lanes 2
  intro index inside
  interval_cases index
  · rw [lane_get16FromBytes_low, lane_ofNat 16 _ 0 (by decide)]
    simp
  · rw [lane_get16FromBytes_high, lane_ofNat 16 _ 8 (by decide),
      Nat.div_eq_of_lt low.isLt]

/-- The word has the value of both bytes only if the first one is zero. -/
theorem get16FromBytes_eq_value_iff (high low : Byte) :
    get16FromBytes #v[high, low] = BitVec.ofInt 16 (value [high, low]) ↔ high = 0 := by
  have highLt := high.isLt
  have lowLt := low.isLt
  rw [get16FromBytes_eq, BitVec.ofInt_natCast, ← BitVec.toNat_inj, ← BitVec.toNat_inj,
    BitVec.toNat_ofNat, BitVec.toNat_ofNat]
  simp only [value, List.length_cons, List.length_nil]
  change _ ↔ high.toNat = 0
  omega

/-! ## The other fields -/

/-- The fields of a ring have the values that `unpack_reply` returned. -/
structure HasFields (theRing : RingInfo) (fields : Int × Int × Int × IPv4) : Prop where
  mastGID : (theRing.mastGID.toNat : Int) = fields.1
  magic : theRing.magic.theInt = BitVec.ofInt 16 fields.2.1
  rID : (theRing.rID.toNat : Int) = fields.2.2.1
  nextSlave : theRing.nextSlave = fields.2.2.2

/-- `makeRing` stores what `unpack_reply` returns. -/
def Faithful (response : Vector Byte 8) : Prop :=
  ∃ fields, unpackReply response.toList = .ok fields ∧ (makeRing response).HasFields fields

theorem unpackReply_eq (response : Vector Byte 8) :
    unpackReply response.toList =
      .ok (response[0]!.toNat, value [response[1]!, response[2]!], response[3]!.toNat,
        (makeRing response).nextSlave) := by
  obtain ⟨first, second, third, fourth, fifth, sixth, seventh, eighth, rfl⟩ :=
    exists_eight_bytes response
  change unpackReply [first, second, third, fourth, fifth, sixth, seventh, eighth] =
    .ok (first.toNat, value [second, third], fourth.toNat, #v[fifth, sixth, seventh, eighth])
  have magicBytes : slice [first, second, third, fourth, fifth, sixth, seventh, eighth] 1 3 =
    [second, third] := rfl
  have addressBytes : slice [first, second, third, fourth, fifth, sixth, seventh, eighth] 4 8 =
    [fifth, sixth, seventh, eighth] := rfl
  have magic : unpack .H [second, third] = .ok (value [second, third]) := rfl
  have address : inetNtoa [fifth, sixth, seventh, eighth] =
    .ok #v[fifth, sixth, seventh, eighth] := rfl
  simp only [unpackReply, item, magicBytes, addressBytes, magic, address, unpack_B,
    List.getElem?_cons_zero, List.getElem?_cons_succ, bind, Except.bind]
  rfl

theorem faithful_iff (response : Vector Byte 8) : Faithful response ↔ response[1]! = 0 := by
  rw [← get16FromBytes_eq_value_iff response[1]! response[2]!]
  constructor
  · rintro ⟨fields, unpacked, same⟩
    rw [unpackReply_eq, Except.ok.injEq] at unpacked
    subst unpacked
    exact same.magic
  · intro magic
    exact ⟨_, unpackReply_eq response, rfl, magic, rfl, rfl⟩

/-- Of the fields of a join response, a slave in C loses the first byte of the
magic value only. -/
theorem makeRing_packResponse {master : Master} (room : master.nextSlaveRID ≤ 255)
    {response : Vector Byte 8} (packed : master.packResponse = .ok response.toList) :
    (makeRing response).mastGID = 15 ∧ response[1]! = 0x12 ∧
      (makeRing response).magic.theInt = 0x34 ∧
      (makeRing response).rID.toNat = master.nextSlaveRID ∧
      (makeRing response).nextSlave = master.nextSlaveIP := by
  rw [Master.packResponse_eq room, Except.ok.injEq] at packed
  have fields := unpackReply_eq response
  rw [← packed, Master.unpackReply_joinResponse room] at fields
  simp only [Except.ok.injEq, Prod.mk.injEq, Nat.cast_inj, value] at fields
  obtain ⟨groupId, magicValue, ringId, nextSlaveIP⟩ := fields
  have lowLt := response[2]!.isLt
  have magicBytes : response[1]!.toNat = 0x12 ∧ response[2]!.toNat = 0x34 := by
    simp only [List.length_cons, List.length_nil] at magicValue
    omega
  refine ⟨?_, BitVec.eq_of_toNat_eq magicBytes.1, ?_, ?_, nextSlaveIP.symm⟩
  · apply BitVec.eq_of_toNat_eq
    change response[0]!.toNat = 15
    omega
  · change get16FromBytes #v[response[1]!, response[2]!] = 0x34
    rw [get16FromBytes_eq, magicBytes.2]
    rfl
  · change response[3]!.toNat = _
    omega

end RingInfo

/-- The C slave decodes a response faithfully only if byte 1 is zero, which it is
in no response of a master. -/
theorem makeRing_faithful_iff (response : Vector Byte 8) :
    (RingInfo.Faithful response ↔ response[1]! = 0) ∧
    ∀ (lanIP : IPv4) (master : Master), master.Reachable lanIP → master.nextSlaveRID ≤ 255 →
      master.packResponse = .ok response.toList →
        ¬RingInfo.Faithful response ∧
        (RingInfo.makeRing response).mastGID = 15 ∧
        (RingInfo.makeRing response).magic.theInt = 0x34 ∧
        (RingInfo.makeRing response).rID.toNat = master.nextSlaveRID ∧
        (RingInfo.makeRing response).nextSlave = master.nextSlaveIP := by
  refine ⟨RingInfo.faithful_iff response, fun lanIP master _ room packed => ?_⟩
  obtain ⟨mastGID, high, magic, rID, nextSlave⟩ := RingInfo.makeRing_packResponse room packed
  refine ⟨fun faithful => ?_, mastGID, magic, rID, nextSlave⟩
  rw [RingInfo.faithful_iff, high] at faithful
  exact absurd faithful (by decide)

/-- The response to the first join, as a slave in Python and one in C read it. -/
theorem first_response_loses_magic :
    (Master.start #v[10, 0, 0, 1]).packResponse = .ok [15, 0x12, 0x34, 0, 10, 0, 0, 1] ∧
      unpackReply [15, 0x12, 0x34, 0, 10, 0, 0, 1] = .ok (15, 0x1234, 0, #v[10, 0, 0, 1]) ∧
      (RingInfo.makeRing #v[15, 0x12, 0x34, 0, 10, 0, 0, 1]).magic.theInt = 0x34 ∧
      ¬RingInfo.Faithful #v[15, 0x12, 0x34, 0, 10, 0, 0, 1] := by
  refine ⟨by decide, by decide, by decide, ?_⟩
  rw [RingInfo.faithful_iff]
  decide

end OpServer
