import OpServer.BigEndianWords
import Mathlib.Tactic.IntervalCases

/-!
# The calculator's records and their wire formats

Requests of eight bytes and responses of seven, as `ServerUDP.c`,
`ClientUDP.c`, `TCP-server.c` and `TCP-client.c` build and read them.  The four
files carry the same text of these functions wherever they have them.  A C
`int` is a 32-bit word, and an operand of a shift or a mask is promoted to it
before the operator applies.  The third and the fifth element of the source's
`theBytes` arrays hold a string terminator that nothing reads; they are left
out.
-/

namespace OpServer

open BigEndian

/-- `int16Store`: the bytes of an operand beside the operand itself. -/
structure Int16Store where
  theBytes : Vector Byte 2
  theInt : BitVec 16
  deriving DecidableEq

/-- `int32Store`: the bytes of a result beside the result itself. -/
structure Int32Store where
  theBytes : Vector Byte 4
  theInt : BitVec 32
  deriving DecidableEq

/-- `request_t` -/
structure Request where
  TML : Byte
  requestID : Byte
  opCode : Byte
  numOperands : Byte
  operandOne : Int16Store
  operandTwo : Int16Store
  deriving DecidableEq

/-- `response_t` -/
structure Response where
  TML : Byte
  requestID : Byte
  errorCode : Byte
  result : Int32Store
  deriving DecidableEq

def get32FromBytes (theBytes : Vector Byte 4) : BitVec 32 :=
  let retInt := 0#32
  let retInt := (retInt &&& 0x00ffffff#32) ||| (theBytes[0].setWidth 32 <<< 24)
  let retInt := (retInt &&& 0xff00ffff#32) ||| (theBytes[1].setWidth 32 <<< 16)
  let retInt := (retInt &&& 0xffff00ff#32) ||| (theBytes[2].setWidth 32 <<< 8)
  (retInt &&& 0xffffff00#32) ||| theBytes[3].setWidth 32

/-- `get16FromBytes` of the calculator files; the ring files have another. -/
def get16FromBytes (theBytes : Vector Byte 2) : BitVec 16 :=
  let retInt := 0#16
  let retInt := ((retInt.signExtend 32 &&& 0x00ff#32) |||
    (theBytes[0].setWidth 32 <<< 8)).setWidth 16
  ((retInt.signExtend 32 &&& 0xff00#32) ||| theBytes[1].setWidth 32).setWidth 16

def getBytesFrom32 (unpackInt : BitVec 32) : Vector Byte 4 :=
  #v[(unpackInt.sshiftRight 24).setWidth 8,
    (unpackInt.sshiftRight 16 &&& 0x000000ff#32).setWidth 8,
    (unpackInt.sshiftRight 8 &&& 0x000000ff#32).setWidth 8,
    (unpackInt &&& 0x000000ff#32).setWidth 8]

def getBytesFrom16 (unpackInt : BitVec 16) : Vector Byte 2 :=
  #v[((unpackInt.signExtend 32).sshiftRight 8 &&& 0x00ff#32).setWidth 8,
    (unpackInt.signExtend 32 &&& 0x00ff#32).setWidth 8]

def makeRequest (tml requestID OPCode numOperands : Byte) (opOne opTwo : BitVec 16) :
    Request where
  TML := tml
  requestID := requestID
  opCode := OPCode
  numOperands := numOperands
  operandOne := { theInt := opOne, theBytes := getBytesFrom16 opOne }
  operandTwo := { theInt := opTwo, theBytes := getBytesFrom16 opTwo }

def remakeRequest (theBytes : Vector Byte 8) : Request where
  TML := theBytes[0]
  requestID := theBytes[1]
  opCode := theBytes[2]
  numOperands := theBytes[3]
  operandOne :=
    { theBytes := #v[theBytes[4], theBytes[5]]
      theInt := get16FromBytes #v[theBytes[4], theBytes[5]] }
  operandTwo :=
    { theBytes := #v[theBytes[6], theBytes[7]]
      theInt := get16FromBytes #v[theBytes[6], theBytes[7]] }

def remakeResponse (theBytes : Vector Byte 7) : Response where
  TML := theBytes[0]
  requestID := theBytes[1]
  errorCode := theBytes[2]
  result :=
    { theBytes := #v[theBytes[3], theBytes[4], theBytes[5], theBytes[6]]
      theInt := get32FromBytes #v[theBytes[3], theBytes[4], theBytes[5], theBytes[6]] }

def makeResponse (tml requestID errorCode : Byte) (result : BitVec 32) : Response where
  TML := tml
  requestID := requestID
  errorCode := errorCode
  result := { theInt := result, theBytes := getBytesFrom32 result }

def getTotalMessage (targetRequest : Request) : Vector Byte 8 :=
  #v[targetRequest.TML, targetRequest.requestID, targetRequest.opCode,
    targetRequest.numOperands,
    targetRequest.operandOne.theBytes[0], targetRequest.operandOne.theBytes[1],
    targetRequest.operandTwo.theBytes[0], targetRequest.operandTwo.theBytes[1]]

def unloadResponse (targetResponse : Response) : Vector Byte 7 :=
  #v[targetResponse.TML, targetResponse.requestID, targetResponse.errorCode,
    targetResponse.result.theBytes[0], targetResponse.result.theBytes[1],
    targetResponse.result.theBytes[2], targetResponse.result.theBytes[3]]

/-! ## The codecs in terms of byte lanes -/

theorem getBytesFrom32_eq_lanes (unpackInt : BitVec 32) :
    getBytesFrom32 unpackInt =
      #v[lane unpackInt 24, lane unpackInt 16, lane unpackInt 8, lane unpackInt 0] := by
  have shifted (shift : Nat) (fits : shift + 8 ≤ 32) :
      lane (unpackInt.sshiftRight shift) 0 = lane unpackInt shift :=
    lane_sshiftRight_zero unpackInt shift fits
  simp only [getBytesFrom32, setWidth_eq_lane_zero, lane_and, shifted 24 (by decide),
    shifted 16 (by decide), shifted 8 (by decide), lane_ofNat 32 255 0 (by decide)]
  simp [and_255]

theorem getBytesFrom16_eq_lanes (unpackInt : BitVec 16) :
    getBytesFrom16 unpackInt = #v[lane unpackInt 8, lane unpackInt 0] := by
  have high : lane ((unpackInt.signExtend 32).sshiftRight 8) 0 = lane unpackInt 8 := by
    rw [lane_sshiftRight_zero _ _ (by decide),
      lane_signExtend _ _ _ (by decide) (by decide)]
  have low : lane (unpackInt.signExtend 32) 0 = lane unpackInt 0 :=
    lane_signExtend unpackInt 32 0 (by decide) (by decide)
  simp only [getBytesFrom16, setWidth_eq_lane_zero, lane_and, high, low,
    lane_ofNat 32 255 0 (by decide)]
  simp [and_255]

theorem getBytesFrom32_injective : Function.Injective getBytesFrom32 := by
  intro first second equal
  rw [getBytesFrom32_eq_lanes, getBytesFrom32_eq_lanes] at equal
  have lanes (index : Nat) (inside : index < 4) := congrArg (fun bytes => bytes[index]) equal
  apply eq_of_lanes 4 first second
  intro index inside
  interval_cases index
  · exact lanes 3 (by decide)
  · exact lanes 2 (by decide)
  · exact lanes 1 (by decide)
  · exact lanes 0 (by decide)

theorem getBytesFrom16_injective : Function.Injective getBytesFrom16 := by
  intro first second equal
  rw [getBytesFrom16_eq_lanes, getBytesFrom16_eq_lanes] at equal
  have lanes (index : Nat) (inside : index < 2) := congrArg (fun bytes => bytes[index]) equal
  apply eq_of_lanes 2 first second
  intro index inside
  interval_cases index
  · exact lanes 1 (by decide)
  · exact lanes 0 (by decide)

@[simp]
theorem getBytesFrom32_get32FromBytes (theBytes : Vector Byte 4) :
    getBytesFrom32 (get32FromBytes theBytes) = theBytes := by
  -- The last step of the source writes lane 0, with no shift.
  have unshifted : theBytes[3].setWidth 32 = theBytes[3].setWidth 32 <<< 0 := by simp
  rw [getBytesFrom32_eq_lanes, get32FromBytes, unshifted]
  apply Vector.ext
  intro index inside
  interval_cases index <;>
    simp (disch := decide) only [lane_maskedWrite_same, lane_maskedWrite_of_disjoint] <;> rfl

@[simp]
theorem getBytesFrom16_get16FromBytes (theBytes : Vector Byte 2) :
    getBytesFrom16 (get16FromBytes theBytes) = theBytes := by
  have unshifted : theBytes[1].setWidth 32 = theBytes[1].setWidth 32 <<< 0 := by simp
  rw [getBytesFrom16_eq_lanes, get16FromBytes, unshifted]
  apply Vector.ext
  intro index inside
  interval_cases index <;>
    simp (disch := decide) only [lane_setWidth, lane_signExtend, lane_maskedWrite_same,
      lane_maskedWrite_of_disjoint] <;> rfl

@[simp]
theorem get32FromBytes_getBytesFrom32 (unpackInt : BitVec 32) :
    get32FromBytes (getBytesFrom32 unpackInt) = unpackInt :=
  getBytesFrom32_injective (getBytesFrom32_get32FromBytes _)

@[simp]
theorem get16FromBytes_getBytesFrom16 (unpackInt : BitVec 16) :
    get16FromBytes (getBytesFrom16 unpackInt) = unpackInt :=
  getBytesFrom16_injective (getBytesFrom16_get16FromBytes _)

theorem lane_get16FromBytes_high (high low : Byte) :
    lane (get16FromBytes #v[high, low]) 8 = high := by
  have bytes := getBytesFrom16_get16FromBytes #v[high, low]
  rw [getBytesFrom16_eq_lanes] at bytes
  exact congrArg (fun bytes => bytes[0]) bytes

theorem lane_get16FromBytes_low (high low : Byte) :
    lane (get16FromBytes #v[high, low]) 0 = low := by
  have bytes := getBytesFrom16_get16FromBytes #v[high, low]
  rw [getBytesFrom16_eq_lanes] at bytes
  exact congrArg (fun bytes => bytes[1]) bytes

/-! ## Records whose two representations agree -/

/-- `theBytes` is the big-endian encoding of `theInt`. -/
def Int16Store.Coherent (store : Int16Store) : Prop :=
  store.theBytes.toList = encode 2 store.theInt.toNat

def Int32Store.Coherent (store : Int32Store) : Prop :=
  store.theBytes.toList = encode 4 store.theInt.toNat

theorem int16Store_coherent_iff (store : Int16Store) :
    store.Coherent ↔ store.theBytes = getBytesFrom16 store.theInt := by
  rw [Int16Store.Coherent, encode_two_eq_lanes, getBytesFrom16_eq_lanes, ← Vector.toList_inj]
  rfl

theorem int32Store_coherent_iff (store : Int32Store) :
    store.Coherent ↔ store.theBytes = getBytesFrom32 store.theInt := by
  rw [Int32Store.Coherent, encode_four_eq_lanes, getBytesFrom32_eq_lanes, ← Vector.toList_inj]
  rfl

structure Request.Coherent (request : Request) : Prop where
  operandOne : request.operandOne.Coherent
  operandTwo : request.operandTwo.Coherent

def Response.Coherent (response : Response) : Prop :=
  response.result.Coherent

theorem makeRequest_coherent (tml requestID OPCode numOperands : Byte)
    (opOne opTwo : BitVec 16) :
    (makeRequest tml requestID OPCode numOperands opOne opTwo).Coherent where
  operandOne := (int16Store_coherent_iff _).mpr rfl
  operandTwo := (int16Store_coherent_iff _).mpr rfl

theorem remakeRequest_coherent (theBytes : Vector Byte 8) :
    (remakeRequest theBytes).Coherent where
  operandOne := (int16Store_coherent_iff _).mpr (getBytesFrom16_get16FromBytes _).symm
  operandTwo := (int16Store_coherent_iff _).mpr (getBytesFrom16_get16FromBytes _).symm

theorem remakeResponse_coherent (theBytes : Vector Byte 7) :
    (remakeResponse theBytes).Coherent :=
  (int32Store_coherent_iff _).mpr (getBytesFrom32_get32FromBytes _).symm

theorem makeResponse_coherent (tml requestID errorCode : Byte) (result : BitVec 32) :
    (makeResponse tml requestID errorCode result).Coherent :=
  (int32Store_coherent_iff _).mpr rfl

private theorem vector_two_eta (bytes : Vector Byte 2) : #v[bytes[0], bytes[1]] = bytes := by
  apply Vector.ext
  intro index inside
  interval_cases index <;> rfl

private theorem vector_four_eta (bytes : Vector Byte 4) :
    #v[bytes[0], bytes[1], bytes[2], bytes[3]] = bytes := by
  apply Vector.ext
  intro index inside
  interval_cases index <;> rfl

theorem exists_eight_bytes (message : Vector Byte 8) :
    ∃ first second third fourth fifth sixth seventh eighth,
      message = #v[first, second, third, fourth, fifth, sixth, seventh, eighth] := by
  refine ⟨message[0], message[1], message[2], message[3], message[4], message[5], message[6],
    message[7], ?_⟩
  apply Vector.ext
  intro index inside
  interval_cases index <;> rfl

theorem remakeRequest_getTotalMessage {request : Request} (coherent : request.Coherent) :
    remakeRequest (getTotalMessage request) = request := by
  rcases request with ⟨TML, requestID, opCode, numOperands, ⟨bytesOne, one⟩, ⟨bytesTwo, two⟩⟩
  have oneEq := (int16Store_coherent_iff _).mp coherent.operandOne
  have twoEq := (int16Store_coherent_iff _).mp coherent.operandTwo
  simp only at oneEq twoEq
  subst oneEq twoEq
  simp [remakeRequest, getTotalMessage, vector_two_eta]

theorem getTotalMessage_remakeRequest (theBytes : Vector Byte 8) :
    getTotalMessage (remakeRequest theBytes) = theBytes := by
  apply Vector.ext
  intro index inside
  interval_cases index <;> rfl

theorem remakeResponse_unloadResponse {response : Response} (coherent : response.Coherent) :
    remakeResponse (unloadResponse response) = response := by
  rcases response with ⟨TML, requestID, errorCode, ⟨bytes, result⟩⟩
  have resultEq := (int32Store_coherent_iff _).mp coherent
  simp only at resultEq
  subst resultEq
  simp [remakeResponse, unloadResponse, vector_four_eta]

theorem unloadResponse_remakeResponse (theBytes : Vector Byte 7) :
    unloadResponse (remakeResponse theBytes) = theBytes := by
  apply Vector.ext
  intro index inside
  interval_cases index <;> rfl

theorem unloadResponse_toList (response : Response) :
    (unloadResponse response).toList =
      response.TML :: response.requestID :: response.errorCode ::
        response.result.theBytes.toList := by
  refine List.ext_getElem (by simp) fun index inside _ => ?_
  simp only [Vector.length_toList] at inside
  interval_cases index <;> rfl

end OpServer
