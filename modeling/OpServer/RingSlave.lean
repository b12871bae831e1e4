import OpServer.BoundedCopy
import OpServer.CalcCodec
import OpServer.RingMaster

/-!
# The slaves of the ring

`slave.py` joins and prints what it is told; `Lab3slave.c` also computes the
port on which it will receive.  Both read the eight bytes of a join response.
-/

namespace OpServer

open BigEndian Buffer Python

/-- `unpack_reply` of `slave.py` -/
def unpackReply (rawResponse : List Byte) : Except PythonError (Int × Int × Int × IPv4) := do
  let groupId ← unpack .B (← item rawResponse 0)
  let magicValue ← unpack .H (slice rawResponse 1 3)
  let ringId ← unpack .B (← item rawResponse 3)
  let nextSlaveIp ← inetNtoa (slice rawResponse 4 8)
  return (groupId, magicValue, ringId, nextSlaveIp)

/-- `struct ring` of `Lab3slave.c` -/
structure RingInfo where
  mastGID : Byte
  magic : Int16Store
  rID : Byte
  nextSlave : Vector Byte 4
  deriving DecidableEq

namespace RingInfo

/-- `get16FromBytes` of the ring files.  Its second mask clears the byte that
the first line stored, unlike the calculator's function of that name. -/
def get16FromBytes (theBytes : Vector Byte 2) : BitVec 16 :=
  let retInt := 0#16
  let retInt := ((retInt.signExtend 32 &&& 0x00ff#32) |||
    (theBytes[0]!.setWidth 32 <<< 8)).setWidth 16
  ((retInt.signExtend 32 &&& 0x00ff#32) ||| theBytes[1]!.setWidth 32).setWidth 16

def makeRing (response : Vector Byte 8) : RingInfo where
  mastGID := response[0]!
  magic :=
    { theBytes := #v[response[1]!, response[2]!]
      theInt := get16FromBytes #v[response[1]!, response[2]!] }
  rID := response[3]!
  nextSlave := #v[response[4]!, response[5]!, response[6]!, response[7]!]

/-- The ring a slave builds after `recv` of a response into its array, which
is not initialised. -/
def received (uninitialised : Vector Byte 8) (response : List Byte) : RingInfo :=
  makeRing (overwrite uninitialised response)

/-- The port a slave computes in `main`. -/
def portNum (theRing : RingInfo) : Nat :=
  10010 + theRing.mastGID.toNat * 5 + theRing.rID.toNat

end RingInfo

namespace Master

theorem unpackReply_joinResponse {nextSlaveRID : Nat} (room : nextSlaveRID ≤ 255)
    (nextSlaveIP : IPv4) :
    unpackReply (joinResponse nextSlaveRID nextSlaveIP) =
      .ok (15, 0x1234, nextSlaveRID, nextSlaveIP) := by
  have groupId : item (joinResponse nextSlaveRID nextSlaveIP) 0 = .ok [15] := rfl
  have ringId : item (joinResponse nextSlaveRID nextSlaveIP) 3 =
      .ok [BitVec.ofNat 8 nextSlaveRID] := rfl
  have magicBytes : slice (joinResponse nextSlaveRID nextSlaveIP) 1 3 = [0x12, 0x34] := rfl
  have magic : unpack .H [0x12, 0x34] = .ok 0x1234 := by decide
  have address : slice (joinResponse nextSlaveRID nextSlaveIP) 4 8 = inetAton nextSlaveIP := by
    simp only [slice, joinResponse, List.cons_append, List.nil_append, List.take_succ_cons,
      List.drop_succ_cons, List.drop_zero]
    exact List.take_of_length_le (by simp)
  have small : ((BitVec.ofNat 8 nextSlaveRID).toNat : Int) = nextSlaveRID := by
    rw [BitVec.toNat_ofNat, Nat.mod_eq_of_lt (by omega)]
  simp only [unpackReply, groupId, ringId, magicBytes, magic, address, unpack_B,
    inetNtoa_inetAton, small, bind, Except.bind]
  rfl

theorem received_joinResponse (uninitialised : Vector Byte 8) (nextSlaveRID : Nat)
    (nextSlaveIP : IPv4) :
    (RingInfo.received uninitialised (joinResponse nextSlaveRID nextSlaveIP)).mastGID = 15 ∧
      (RingInfo.received uninitialised (joinResponse nextSlaveRID nextSlaveIP)).rID =
        BitVec.ofNat 8 nextSlaveRID := by
  have cell (index : Nat) (inside : index < 8) :
      (overwrite uninitialised (joinResponse nextSlaveRID nextSlaveIP))[index]! =
        (joinResponse nextSlaveRID nextSlaveIP).getD index uninitialised[index] := by
    exact (getElem!_pos (overwrite uninitialised _) index inside).trans
      (getElem_overwrite _ _ index inside)
  exact ⟨cell 0 (by decide), cell 3 (by decide)⟩

end Master

end OpServer
